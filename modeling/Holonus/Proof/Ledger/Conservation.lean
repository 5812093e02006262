/-
This file proves that every run keeps the supply, the balances, the reflections
and the points in balance.
-/

import Holonus.Proof.Coin.Reachable

namespace Holonus.Coin

open Holonus.Machine Holonus.Abstract

/-- The amount of a `reflectToken` call leaves the balances. -/
def Call.reflectedAmount : Call → Nat
  | .reflectToken _ value => value.toNat
  | _ => 0

/-- The amount of a `transferToken` call counts again as reflected. -/
def Call.handedAmount : Call → Nat
  | .transferToken _ value => value.toNat
  | _ => 0

/-- An effective `Init` call finds an empty supply. -/
def FoundEmpty (entry : System × Transaction) : Prop :=
  entry.2.call = .init ∧ entry.1.ledger.supply = 0

/-- What a counter of calls adds up to over the accepted calls. -/
def callTotal (count : Call → Nat) (past : List (System × Transaction)) : Nat :=
  (past.map fun entry => count entry.2.call).sum

def reflectedTotal : List (System × Transaction) → Nat := callTotal Call.reflectedAmount

def handedTotal : List (System × Transaction) → Nat := callTotal Call.handedAmount

/-- An accepted call adds what it counts. -/
theorem callTotal_append (count : Call → Nat) (past : List (System × Transaction))
    (entry : System × Transaction) :
    callTotal count (past ++ [entry]) = callTotal count past + count entry.2.call := by
  simp [callTotal]

/-- The action of a call counts what the call counts. -/
theorem counted_ledgerAction (system : System) (transaction : Transaction) :
    Ledger.reflectedBy (ledgerAction system transaction) = transaction.call.reflectedAmount ∧
      Ledger.handedBy (ledgerAction system transaction) = transaction.call.handedAmount := by
  obtain ⟨msgSender, call⟩ := transaction
  cases call with
  | init =>
      simp only [ledgerAction]
      split <;> exact ⟨rfl, rfl⟩
  | callEvaluatePost owner sender workPoint =>
      simp only [ledgerAction]
      split <;> exact ⟨rfl, rfl⟩
  | _ => exact ⟨rfl, rfl⟩

/-- Only an effective `Init` call issues units. -/
theorem issuedBy_of_foundEmpty {system : System} {transaction : Transaction}
    (found : FoundEmpty (system, transaction)) :
    Ledger.issuedBy (ledgerAction system transaction) = TokenERC20.initialSupply.toNat := by
  obtain ⟨msgSender, call⟩ := transaction
  obtain ⟨isInit, empty⟩ := found
  change call = .init at isInit
  change system.ledger.supply = 0 at empty
  subst isInit
  simp only [ledgerAction, if_pos empty, Ledger.issuedBy]

/-- A transaction that does not find the supply empty issues nothing. -/
theorem issuedBy_of_not_foundEmpty {system : System} {transaction : Transaction}
    (missed : ¬ FoundEmpty (system, transaction)) :
    Ledger.issuedBy (ledgerAction system transaction) = 0 := by
  obtain ⟨msgSender, call⟩ := transaction
  cases call with
  | init =>
      have full : system.ledger.supply ≠ 0 := fun empty => missed ⟨rfl, empty⟩
      simp only [ledgerAction, if_neg full, Ledger.issuedBy]
  | callEvaluatePost owner sender workPoint =>
      simp only [ledgerAction]
      split <;> rfl
  | _ => rfl

/-- The supply starts with one issue and never issues again. -/
structure IssuedOnce (past : List (System × Transaction)) (issued : Nat) : Prop where
  amount : issued = 0 ∨ issued = TokenERC20.initialSupply.toNat
  effective : issued = TokenERC20.initialSupply.toNat ↔ ∃ entry ∈ past, FoundEmpty entry

/-- A call issues only when nothing was issued before. -/
theorem IssuedOnce.append {past : List (System × Transaction)} {issued : Nat}
    (once : IssuedOnce past issued) {system : System} (transaction : Transaction)
    (covered : issued ≤ system.ledger.supply) :
    IssuedOnce (past ++ [(system, transaction)])
      (issued + Ledger.issuedBy (ledgerAction system transaction)) := by
  have positive : TokenERC20.initialSupply.toNat ≠ 0 := by decide
  by_cases found : FoundEmpty (system, transaction)
  · have empty : system.ledger.supply = 0 := found.2
    have none : issued = 0 := by omega
    rw [issuedBy_of_foundEmpty found, none, Nat.zero_add]
    exact ⟨Or.inr rfl, fun _ => ⟨_, List.mem_append_right past List.mem_cons_self, found⟩,
      fun _ => rfl⟩
  · rw [issuedBy_of_not_foundEmpty found, Nat.add_zero]
    refine ⟨once.amount, once.effective.trans ⟨?_, ?_⟩⟩
    · intro earlier
      obtain ⟨entry, member, isEmpty⟩ := earlier
      exact ⟨entry, List.mem_append_left _ member, isEmpty⟩
    · intro some
      obtain ⟨entry, member, isEmpty⟩ := some
      rcases List.mem_append.mp member with earlier | last
      · exact ⟨entry, earlier, isEmpty⟩
      · rw [List.mem_singleton.mp last] at isEmpty
        exact absurd isEmpty found

/-- A deployment is balanced with nothing issued. -/
theorem Deployment.balanced (deployment : Deployment) :
    deployment.system.ledger.Balanced 0 0 0 where
  balances := by
    have zero : ∀ account, deployment.system.ledger.balance account = 0 := fun _ => rfl
    simp only [zero, Finset.sum_const_zero]
    rfl
  reflections := by
    have zero : ∀ account, deployment.system.ledger.reflected account = 0 := fun _ => rfl
    simp only [zero, Finset.sum_const_zero, Nat.add_zero]
  earnings := by
    have zero : ∀ account, deployment.system.ledger.points account = 0 := fun _ => rfl
    simp only [zero, Finset.sum_const_zero]
    rfl

/-- Every run balances the ledger against the accepted calls. -/
theorem Deployment.after_balanced (deployment : Deployment) (transactions : List Transaction) :
    ∃ issued, IssuedOnce (deployment.accepted transactions) issued ∧
      (deployment.after transactions).ledger.Balanced
        (reflectedTotal (deployment.accepted transactions))
        (handedTotal (deployment.accepted transactions)) issued := by
  refine (run_refines (fun past current => ∃ issued, IssuedOnce past issued ∧
    current.ledger.Balanced (reflectedTotal past) (handedTotal past) issued) deployment.sound
      ⟨0, ⟨Or.inl rfl, ?_⟩, deployment.balanced⟩ ?_ transactions).1
  · have positive : 0 ≠ TokenERC20.initialSupply.toNat := by decide
    simp [positive]
  · intro past current transaction next _ earlier _ refines
    obtain ⟨issued, once, balanced⟩ := earlier
    have covered : issued ≤ current.ledger.supply := by
      rw [balanced.earnings]
      exact Nat.le_add_right _ _
    refine ⟨_, once.append transaction covered, ?_⟩
    obtain ⟨reflects, hands⟩ := counted_ledgerAction current transaction
    rw [reflectedTotal, handedTotal, callTotal_append, callTotal_append, refines.ledger,
      ← reflects, ← hands]
    exact balanced.perform _ refines.enabled

/-- No call lowers the supply. -/
theorem System.Refines.supply_le {system next : System} {transaction : Transaction}
    (refines : system.Refines transaction next) : system.ledger.supply ≤ next.ledger.supply := by
  have enabled := refines.enabled
  rw [refines.ledger]
  cases action : ledgerAction system transaction with
  | issue account value =>
      rw [action] at enabled
      have empty : system.ledger.supply = 0 := enabled
      rw [empty]
      exact Nat.zero_le _
  | mint owner sender senderPoint ownerPoint =>
      change system.ledger.supply ≤ system.ledger.supply + senderPoint + ownerPoint
      omega
  | _ => exact le_rfl

/-- The supply never falls. -/
theorem run_supply_le {system : System} (sound : system.Sound) (transactions : List Transaction) :
    system.ledger.supply ≤ (run execute system transactions).ledger.supply := by
  apply run_admitted (fun _ => True)
    (fun current => system.ledger.supply ≤ current.ledger.supply) sound le_rfl _ fun _ _ => trivial
  intro current transaction next _ _ earlier refines
  exact earlier.trans refines.supply_le

/-- Every run keeps the supply equal to its balances and reflections and to its issue and points. -/
theorem ledger_conserved (deployment : Deployment) (transactions : List Transaction) :
    (deployment.after transactions).ShowsLedger ∧
      (deployment.after transactions).ledger.supply =
        ∑ account, (deployment.after transactions).ledger.balance account +
          reflectedTotal (deployment.accepted transactions) ∧
      ∑ account, (deployment.after transactions).ledger.reflected account =
        reflectedTotal (deployment.accepted transactions) +
          handedTotal (deployment.accepted transactions) ∧
      (∃ issued, (issued = 0 ∨ issued = TokenERC20.initialSupply.toNat) ∧
        (issued = TokenERC20.initialSupply.toNat ↔
          ∃ entry ∈ deployment.accepted transactions, FoundEmpty entry) ∧
        (deployment.after transactions).ledger.supply =
          issued + ∑ account, (deployment.after transactions).ledger.points account) ∧
      ∑ account, (deployment.after transactions).ledger.balance account ≤
        (deployment.after transactions).ledger.supply ∧
      ∀ more, (deployment.after transactions).ledger.supply ≤
        (deployment.after (transactions ++ more)).ledger.supply := by
  obtain ⟨issued, once, balanced⟩ := deployment.after_balanced transactions
  have sound := deployment.after_sound transactions
  refine ⟨sound.wired.showsLedger, balanced.balances, balanced.reflections,
    ⟨issued, once.amount, once.effective, balanced.earnings⟩, ?_, ?_⟩
  · rw [balanced.balances]
    exact Nat.le_add_right _ _
  · intro more
    rw [deployment.after_append]
    exact run_supply_le sound more

end Holonus.Coin
