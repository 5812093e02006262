/-
This file compares what an account loses with what others spend from its allowances.
-/

import Holonus.Abstract.Ledger

namespace Holonus.Abstract

open Holonus.Machine

namespace Ledger

section
variable {Account : Type} [DecidableEq Account]

/-- The action does not act for the account. -/
def Spares (account : Account) : LedgerAction Account → Prop
  | .keep => True
  | .issue receiver _ => receiver ≠ account
  | .move source _ _ => source ≠ account
  | .spend _ _ _ _ => True
  | .approve owner _ _ => owner ≠ account
  | .mint _ _ _ _ => True
  | .reflect holder _ => holder ≠ account
  | .handOver source _ _ => source ≠ account

/-- A move from another account takes nothing. -/
theorem balance_le_move (ledger : Ledger Account) {source account : Account} (target : Account)
    (value : Nat) (other : source ≠ account) :
    ledger.balance account ≤ (ledger.move source target value).balance account := by
  by_cases same : account = target
  · subst same
    rw [move_target]
    exact Nat.le_add_right _ _
  · rw [move_of_ne _ _ (Ne.symm other) same]

/-- A credit takes nothing. -/
theorem le_credit (amount : Account → Nat) {owner sender : Account} (senderPoint ownerPoint : Nat)
    (different : owner ≠ sender) (account : Account) :
    amount account ≤ credit amount owner sender senderPoint ownerPoint account := by
  by_cases isOwner : account = owner
  · rw [isOwner, credit_owner]
    exact Nat.le_add_right _ _
  · by_cases isSender : account = sender
    · rw [isSender, credit_sender _ _ _ different]
      exact Nat.le_add_right _ _
    · rw [credit_of_ne _ _ _ isOwner isSender]

variable [Fintype Account]

/-- The account keeps its allowances and balance up to the value that others spend. -/
structure LosesAtMost (account : Account) (ledger next : Ledger Account) : Prop where
  allowances : ∀ spender, next.allowance account spender ≤ ledger.allowance account spender
  balance : ledger.balance account + ∑ spender, next.allowance account spender ≤
    next.balance account + ∑ spender, ledger.allowance account spender

omit [DecidableEq Account] in
theorem LosesAtMost.refl (account : Account) (ledger : Ledger Account) :
    LosesAtMost account ledger ledger :=
  ⟨fun _ => le_rfl, le_rfl⟩

omit [DecidableEq Account] in
/-- Losses within the allowances add up. -/
theorem LosesAtMost.trans {account : Account} {first second third : Ledger Account}
    (left : LosesAtMost account first second) (right : LosesAtMost account second third) :
    LosesAtMost account first third where
  allowances spender := (right.allowances spender).trans (left.allowances spender)
  balance := by
    have before := left.balance
    have after := right.balance
    omega

omit [DecidableEq Account] in
/-- An account that keeps its allowances and its balance loses nothing. -/
theorem losesAtMost_of_same_allowance {account : Account} {ledger next : Ledger Account}
    (allowances : next.allowance account = ledger.allowance account)
    (balance : ledger.balance account ≤ next.balance account) : LosesAtMost account ledger next where
  allowances spender := by rw [allowances]
  balance := by
    rw [allowances]
    omega

/-- A spend takes equal amounts from the balance and from the allowance. -/
theorem losesAtMost_spend (account spender : Account) {ledger : Ledger Account}
    {source target : Account} {value : Nat}
    (enabled : ledger.Enabled (.spend spender source target value)) :
    LosesAtMost account ledger (ledger.perform (.spend spender source target value)) := by
  obtain ⟨different, covered, allowed⟩ := enabled
  by_cases same : account = source
  · subst same
    have row : (ledger.perform (.spend spender account target value)).allowance account =
        Function.update (ledger.allowance account) spender
          (ledger.allowance account spender - value) := writePair_row _ _ _ _
    have lowered : (ledger.perform (.spend spender account target value)).balance account =
        ledger.balance account - value := ledger.move_source value different
    have total := sum_debit (ledger.allowance account) spender value allowed
    refine ⟨?_, ?_⟩
    · intro other
      rw [row]
      by_cases this : other = spender
      · rw [this, Function.update_self]
        exact Nat.sub_le _ _
      · rw [Function.update_of_ne this]
    · rw [row, lowered]
      omega
  · exact losesAtMost_of_same_allowance (writePair_of_row_ne _ _ _ same)
      (ledger.balance_le_move target value (Ne.symm same))

/-- An action that spares the account takes at most what it spends from the allowances. -/
theorem losesAtMost_perform {account : Account} {ledger : Ledger Account}
    {action : LedgerAction Account} (enabled : ledger.Enabled action)
    (spares : Spares account action) : LosesAtMost account ledger (ledger.perform action) := by
  cases action with
  | keep => exact LosesAtMost.refl account ledger
  | issue receiver value =>
      have kept : (ledger.perform (.issue receiver value)).balance account = ledger.balance account :=
        Function.update_of_ne (Ne.symm spares) _ _
      exact losesAtMost_of_same_allowance rfl kept.ge
  | move source target value =>
      exact losesAtMost_of_same_allowance rfl (ledger.balance_le_move target value spares)
  | spend spender source target value => exact losesAtMost_spend account spender enabled
  | approve owner spender value =>
      exact losesAtMost_of_same_allowance (writePair_of_row_ne _ _ _ (Ne.symm spares)) le_rfl
  | mint owner sender senderPoint ownerPoint =>
      exact losesAtMost_of_same_allowance rfl
        (le_credit ledger.balance senderPoint ownerPoint enabled account)
  | reflect holder value =>
      have kept : (ledger.perform (.reflect holder value)).balance account = ledger.balance account :=
        Function.update_of_ne (Ne.symm spares) _ _
      exact losesAtMost_of_same_allowance rfl kept.ge
  | handOver source target value =>
      exact losesAtMost_of_same_allowance rfl (ledger.balance_le_move target value spares)

end

end Ledger

end Holonus.Abstract
