/-
This file compares the balance changes of a ledger action with the flow that it logs.
-/

import Holonus.Abstract.Ledger

namespace Holonus.Abstract.Ledger

section
variable {Account : Type} [DecidableEq Account]

/-- A value flows into the target and out of the source. -/
def flow (source target : Account) (value : Nat) (account : Account) : Int :=
  (if target = account then (value : Int) else 0) - (if source = account then (value : Int) else 0)

/-- The logged flow of an evaluated post consists of the new balances. -/
def loggedFlow (ledger : Ledger Account) (account : Account) : LedgerAction Account → Int
  | .move source target value => flow source target value account
  | .spend _ source target value => flow source target value account
  | .handOver source target value => flow source target value account
  | .mint owner sender senderPoint ownerPoint =>
      (if sender = account then ((ledger.balance sender + senderPoint : Nat) : Int) else 0) +
        (if owner = account then ((ledger.balance owner + ownerPoint : Nat) : Int) else 0)
  | .keep => 0
  | .issue _ _ => 0
  | .approve _ _ _ => 0
  | .reflect _ _ => 0

variable [Zero Account]

/-- The logged flow of every account except zero equals its balance change. -/
def Explains (ledger : Ledger Account) (action : LedgerAction Account) : Prop :=
  ∀ account, account ≠ 0 → ((ledger.perform action).balance account : Int) =
    ledger.balance account + ledger.loggedFlow account action

/-- A faithful log needs posts between empty balances and reflections of nothing. -/
def Faithful (ledger : Ledger Account) : LedgerAction Account → Prop
  | .mint owner sender _ _ =>
      (owner ≠ 0 → ledger.balance owner = 0) ∧ (sender ≠ 0 → ledger.balance sender = 0)
  | .reflect holder value => holder ≠ 0 → value = 0
  | _ => True

omit [Zero Account] in
/-- A move changes every balance by its flow. -/
theorem move_balance (ledger : Ledger Account) {source target : Account} {value : Nat}
    (different : target ≠ source) (covered : value ≤ ledger.balance source) (account : Account) :
    ((ledger.move source target value).balance account : Int) =
      ledger.balance account + flow source target value account := by
  unfold flow
  by_cases isTarget : target = account
  · subst isTarget
    rw [move_target, if_pos rfl, if_neg (Ne.symm different)]
    omega
  · by_cases isSource : source = account
    · subst isSource
      rw [move_source _ _ different, if_neg isTarget, if_pos rfl]
      omega
    · rw [move_of_ne _ _ (Ne.symm isSource) (Ne.symm isTarget), if_neg isTarget, if_neg isSource]
      omega

/-- The log explains a mint exactly when it is faithful. -/
theorem explains_mint_iff (ledger : Ledger Account) {owner sender : Account}
    (senderPoint ownerPoint : Nat) (different : owner ≠ sender) :
    ledger.Explains (.mint owner sender senderPoint ownerPoint) ↔
      ledger.Faithful (.mint owner sender senderPoint ownerPoint) := by
  have ownerBalance : (ledger.perform (.mint owner sender senderPoint ownerPoint)).balance owner =
      ledger.balance owner + ownerPoint := credit_owner _ _ _ _ _
  have senderBalance : (ledger.perform (.mint owner sender senderPoint ownerPoint)).balance sender =
      ledger.balance sender + senderPoint := credit_sender _ _ _ different
  constructor
  · intro explains
    refine ⟨?_, ?_⟩
    · intro nonzero
      have change := explains owner nonzero
      rw [ownerBalance, loggedFlow, if_neg (Ne.symm different), if_pos rfl] at change
      omega
    · intro nonzero
      have change := explains sender nonzero
      rw [senderBalance, loggedFlow, if_pos rfl, if_neg different] at change
      omega
  · intro faithful account nonzero
    by_cases isOwner : owner = account
    · subst isOwner
      have empty := faithful.1 nonzero
      rw [ownerBalance, loggedFlow, if_neg (Ne.symm different), if_pos rfl]
      omega
    · by_cases isSender : sender = account
      · subst isSender
        have empty := faithful.2 nonzero
        rw [senderBalance, loggedFlow, if_pos rfl, if_neg different]
        omega
      · have kept : (ledger.perform (.mint owner sender senderPoint ownerPoint)).balance account =
            ledger.balance account := credit_of_ne _ _ _ (Ne.symm isOwner) (Ne.symm isSender)
        rw [kept, loggedFlow, if_neg isSender, if_neg isOwner]
        omega

/-- The log explains a covered reflection exactly when it is faithful. -/
theorem explains_reflect_iff (ledger : Ledger Account) {holder : Account} {value : Nat}
    (covered : value ≤ ledger.balance holder) :
    ledger.Explains (.reflect holder value) ↔ ledger.Faithful (.reflect holder value) := by
  have lowered : (ledger.perform (.reflect holder value)).balance holder =
      ledger.balance holder - value := Function.update_self _ _ _
  constructor
  · intro explains nonzero
    have change := explains holder nonzero
    rw [lowered, loggedFlow] at change
    omega
  · intro faithful account nonzero
    by_cases same : account = holder
    · subst same
      have none := faithful nonzero
      rw [lowered, loggedFlow]
      omega
    · have kept : (ledger.perform (.reflect holder value)).balance account =
          ledger.balance account := Function.update_of_ne same _ _
      rw [kept, loggedFlow, add_zero]

/-- After the issue the log explains an action exactly when the action is logged faithfully. -/
theorem explains_iff (ledger : Ledger Account) {action : LedgerAction Account}
    (enabled : ledger.Enabled action) (started : ledger.supply ≠ 0) :
    ledger.Explains action ↔ ledger.Faithful action := by
  cases action with
  | keep => exact iff_of_true (fun account _ => (add_zero _).symm) trivial
  | issue account value => exact absurd enabled started
  | move source target value =>
      exact iff_of_true (fun account _ => ledger.move_balance enabled.1 enabled.2 account) trivial
  | spend spender source target value =>
      exact iff_of_true (fun account _ => ledger.move_balance enabled.1 enabled.2.1 account) trivial
  | approve owner spender value => exact iff_of_true (fun account _ => (add_zero _).symm) trivial
  | mint owner sender senderPoint ownerPoint =>
      exact ledger.explains_mint_iff senderPoint ownerPoint enabled
  | reflect holder value => exact ledger.explains_reflect_iff enabled
  | handOver source target value =>
      exact iff_of_true (fun account _ => ledger.move_balance enabled.1 enabled.2 account) trivial

end

end Holonus.Abstract.Ledger
