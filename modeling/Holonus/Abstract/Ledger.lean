/-
This file states the purpose of the token: every unit of supply has one place.
-/

import Holonus.Machine.FiniteTable

namespace Holonus.Abstract

open Holonus.Machine

/-- The abstract ledger counts the supply and all places of its units. -/
@[ext] structure Ledger (Account : Type) where
  supply : Nat
  balance : Account → Nat
  allowance : Account → Account → Nat
  reflected : Account → Nat
  points : Account → Nat

/-- A ledger action moves, creates or removes units. -/
inductive LedgerAction (Account : Type) where
  | keep
  | issue (account : Account) (value : Nat)
  | move (source target : Account) (value : Nat)
  | spend (spender source target : Account) (value : Nat)
  | approve (owner spender : Account) (value : Nat)
  | mint (owner sender : Account) (senderPoint ownerPoint : Nat)
  | reflect (account : Account) (value : Nat)
  | handOver (source target : Account) (value : Nat)

namespace Ledger

section
variable {Account : Type} [DecidableEq Account]

/-- The source loses the value and the target gains it. -/
def move (ledger : Ledger Account) (source target : Account) (value : Nat) : Ledger Account :=
  { ledger with
    balance := Function.update
      (Function.update ledger.balance source (ledger.balance source - value))
      target (ledger.balance target + value) }

/-- Both accounts of an evaluated post gain their points. -/
def credit (amount : Account → Nat) (owner sender : Account) (senderPoint ownerPoint : Nat) :
    Account → Nat :=
  Function.update (Function.update amount sender (amount sender + senderPoint))
    owner (amount owner + ownerPoint)

def perform (ledger : Ledger Account) : LedgerAction Account → Ledger Account
  | .keep => ledger
  | .issue account value =>
      { ledger with supply := value, balance := Function.update ledger.balance account value }
  | .move source target value => ledger.move source target value
  | .spend spender source target value =>
      { ledger.move source target value with
        allowance := writePair ledger.allowance source spender
          (ledger.allowance source spender - value) }
  | .approve owner spender value =>
      { ledger with allowance := writePair ledger.allowance owner spender value }
  | .mint owner sender senderPoint ownerPoint =>
      { ledger with
        supply := ledger.supply + senderPoint + ownerPoint
        balance := credit ledger.balance owner sender senderPoint ownerPoint
        points := credit ledger.points owner sender senderPoint ownerPoint }
  | .reflect account value =>
      { ledger with
        balance := Function.update ledger.balance account (ledger.balance account - value)
        reflected := Function.update ledger.reflected account (ledger.reflected account + value) }
  | .handOver source target value =>
      { ledger.move source target value with
        reflected := Function.update ledger.reflected target (ledger.reflected target + value) }

/-- The guard of each action excludes overdrafts and self-transfers. -/
def Enabled (ledger : Ledger Account) : LedgerAction Account → Prop
  | .keep => True
  | .issue _ _ => ledger.supply = 0
  | .move source target value => target ≠ source ∧ value ≤ ledger.balance source
  | .spend spender source target value =>
      target ≠ source ∧ value ≤ ledger.balance source ∧ value ≤ ledger.allowance source spender
  | .approve _ _ _ => True
  | .mint owner sender _ _ => owner ≠ sender
  | .reflect account value => value ≤ ledger.balance account
  | .handOver source target value => target ≠ source ∧ value ≤ ledger.balance source

/-- A move keeps the balances of the other accounts. -/
theorem move_of_ne (ledger : Ledger Account) {source target account : Account} (value : Nat)
    (notSource : account ≠ source) (notTarget : account ≠ target) :
    (ledger.move source target value).balance account = ledger.balance account := by
  simp only [move]
  rw [Function.update_of_ne notTarget, Function.update_of_ne notSource]

/-- A move lowers the balance of its source. -/
theorem move_source (ledger : Ledger Account) {source target : Account} (value : Nat)
    (different : target ≠ source) :
    (ledger.move source target value).balance source = ledger.balance source - value := by
  simp only [move]
  rw [Function.update_of_ne (Ne.symm different), Function.update_self]

/-- A move raises the balance of its target. -/
theorem move_target (ledger : Ledger Account) (source target : Account) (value : Nat) :
    (ledger.move source target value).balance target = ledger.balance target + value :=
  Function.update_self _ _ _

/-- A value has moved between two accounts and nothing else has changed in the balances. -/
structure Moved (before after : Ledger Account) (source target : Account) (value : Nat) : Prop where
  lowered : after.balance source + value = before.balance source
  raised : after.balance target = before.balance target + value
  others : ∀ account, account ≠ source → account ≠ target →
    after.balance account = before.balance account
  supply : after.supply = before.supply

/-- A covered move between two accounts moves the value. -/
theorem moved_move (ledger : Ledger Account) {source target : Account} {value : Nat}
    (different : target ≠ source) (covered : value ≤ ledger.balance source) :
    ledger.Moved (ledger.move source target value) source target value where
  lowered := by
    rw [ledger.move_source value different]
    exact Nat.sub_add_cancel covered
  raised := ledger.move_target source target value
  others _ notSource notTarget := ledger.move_of_ne value notSource notTarget
  supply := rfl

/-- A credit raises the amount of the sender. -/
theorem credit_sender (amount : Account → Nat) {owner sender : Account} (senderPoint ownerPoint : Nat)
    (different : owner ≠ sender) :
    credit amount owner sender senderPoint ownerPoint sender = amount sender + senderPoint := by
  rw [credit, Function.update_of_ne (Ne.symm different), Function.update_self]

/-- A credit raises the amount of the owner. -/
theorem credit_owner (amount : Account → Nat) (owner sender : Account) (senderPoint ownerPoint : Nat) :
    credit amount owner sender senderPoint ownerPoint owner = amount owner + ownerPoint :=
  Function.update_self _ _ _

@[simp] theorem credit_zero (amount : Account → Nat) (owner sender : Account) :
    credit amount owner sender 0 0 = amount := by
  rw [credit, Nat.add_zero, Nat.add_zero, Function.update_eq_self, Function.update_eq_self]

/-- A credit keeps the amounts of the other accounts. -/
theorem credit_of_ne (amount : Account → Nat) {owner sender account : Account}
    (senderPoint ownerPoint : Nat) (notOwner : account ≠ owner) (notSender : account ≠ sender) :
    credit amount owner sender senderPoint ownerPoint account = amount account := by
  rw [credit, Function.update_of_ne notOwner, Function.update_of_ne notSender]

end

section
variable {Account : Type} [Fintype Account] [DecidableEq Account]

/-- Every unit is in a balance or reflected, and every unit was issued or earned. -/
structure Balanced (ledger : Ledger Account) (reflected handed issued : Nat) : Prop where
  balances : ledger.supply = ∑ account, ledger.balance account + reflected
  reflections : ∑ account, ledger.reflected account = reflected + handed
  earnings : ledger.supply = issued + ∑ account, ledger.points account

/-- A covered move keeps the sum of the balances. -/
theorem sum_move (ledger : Ledger Account) {source target : Account} (value : Nat)
    (different : target ≠ source) (covered : value ≤ ledger.balance source) :
    ∑ account, (ledger.move source target value).balance account =
      ∑ account, ledger.balance account :=
  sum_transfer ledger.balance value covered different

/-- A mint raises the sum by its points. -/
theorem sum_mint (amount : Account → Nat) {owner sender : Account} (senderPoint ownerPoint : Nat)
    (different : owner ≠ sender) :
    ∑ account, credit amount owner sender senderPoint ownerPoint account =
      ∑ account, amount account + senderPoint + ownerPoint := by
  have first := sum_credit amount sender senderPoint
  have second := sum_credit (Function.update amount sender (amount sender + senderPoint))
    owner ownerPoint
  rw [Function.update_of_ne different] at second
  simp only [credit]
  omega

/-- These counters record what one action adds to the history totals. -/
def reflectedBy : LedgerAction Account → Nat
  | .reflect _ value => value
  | _ => 0

def handedBy : LedgerAction Account → Nat
  | .handOver _ _ value => value
  | _ => 0

def issuedBy : LedgerAction Account → Nat
  | .issue _ value => value
  | _ => 0

/-- Each enabled action keeps the ledger balanced. -/
theorem Balanced.perform {ledger : Ledger Account} {reflected handed issued : Nat}
    (balanced : ledger.Balanced reflected handed issued) (action : LedgerAction Account)
    (enabled : ledger.Enabled action) :
    (ledger.perform action).Balanced (reflected + reflectedBy action) (handed + handedBy action)
      (issued + issuedBy action) := by
  obtain ⟨balances, reflections, earnings⟩ := balanced
  cases action with
  | keep => exact ⟨balances, reflections, earnings⟩
  | issue account value =>
      have empty : ledger.supply = 0 := enabled
      have total := sum_update ledger.balance account value
      have single : ledger.balance account ≤ ∑ other, ledger.balance other :=
        Finset.single_le_sum (fun other _ => Nat.zero_le (ledger.balance other))
          (Finset.mem_univ account)
      constructor
      · simp only [Ledger.perform, reflectedBy]
        omega
      · exact reflections
      · simp only [Ledger.perform, issuedBy]
        omega
  | move source target value =>
      have total := ledger.sum_move value enabled.1 enabled.2
      exact ⟨balances.trans (congrArg (· + reflected) total.symm), reflections, earnings⟩
  | spend spender source target value =>
      have total := ledger.sum_move value enabled.1 enabled.2.1
      exact ⟨balances.trans (congrArg (· + reflected) total.symm), reflections, earnings⟩
  | approve owner spender value => exact ⟨balances, reflections, earnings⟩
  | mint owner sender senderPoint ownerPoint =>
      have total := sum_mint ledger.balance senderPoint ownerPoint enabled
      have earned := sum_mint ledger.points senderPoint ownerPoint enabled
      constructor
      · simp only [Ledger.perform, reflectedBy]
        omega
      · exact reflections
      · simp only [Ledger.perform, issuedBy]
        omega
  | reflect account value =>
      have lowered := sum_debit ledger.balance account value enabled
      have raised := sum_credit ledger.reflected account value
      constructor
      · simp only [Ledger.perform, reflectedBy]
        omega
      · simp only [Ledger.perform, reflectedBy, handedBy]
        omega
      · exact earnings
  | handOver source target value =>
      have total := ledger.sum_move value enabled.1 enabled.2
      have raised := sum_credit ledger.reflected target value
      constructor
      · exact balances.trans (congrArg (· + reflected) total.symm)
      · simp only [Ledger.perform, reflectedBy, handedBy]
        omega
      · exact earnings

end

end Ledger

end Holonus.Abstract
