/-
This file measures what the other accounts can take from one account.
-/

import Holonus.Abstract.Approval

namespace Holonus.Abstract

open Holonus.Machine

namespace Ledger

section
variable {Account : Type} [DecidableEq Account]

/-- Another account than this one starts the action. -/
def Foreign (account : Account) : LedgerAction Account → Prop
  | .keep => True
  | .issue receiver _ => receiver ≠ account
  | .move source _ _ => source ≠ account
  | .spend spender _ _ _ => spender ≠ account
  | .approve owner _ _ => owner ≠ account
  | .mint _ _ _ _ => True
  | .reflect _ _ => True
  | .handOver source _ _ => source ≠ account

/-- The action reflects this many units of the account. -/
def reflectedFrom (account : Account) : LedgerAction Account → Nat
  | .reflect holder value => if holder = account then value else 0
  | _ => 0

/-- A foreign action keeps what an account allows itself. -/
theorem allowance_self_perform (ledger : Ledger Account) {account : Account}
    {action : LedgerAction Account} (foreign : Foreign account action) :
    (ledger.perform action).allowance account account = ledger.allowance account account := by
  cases action with
  | spend spender source target value =>
      exact writePair_of_column_ne _ _ _ _ (Ne.symm foreign)
  | approve owner spender value =>
      show writePair _ _ _ _ account account = _
      rw [writePair_of_row_ne _ _ _ (Ne.symm foreign)]
  | _ => rfl

variable [Fintype Account]

/-- The other accounts may spend this amount. -/
def exposure (ledger : Ledger Account) (account : Account) : Nat :=
  ∑ spender ∈ Finset.univ.erase account, ledger.allowance account spender

/-- The allowance to itself and the exposure are all that an account allows. -/
theorem allowance_self_add_exposure (ledger : Ledger Account) (account : Account) :
    ledger.allowance account account + ledger.exposure account =
      ∑ spender, ledger.allowance account spender :=
  Finset.add_sum_erase Finset.univ (ledger.allowance account) (Finset.mem_univ account)

/-- What the account loses is spent from its allowances or reflected. -/
structure Takes (account : Account) (ledger next : Ledger Account) (shift : Nat) : Prop where
  balance : ledger.balance account + next.exposure account ≤
    next.balance account + ledger.exposure account + shift
  reflected : ledger.reflected account + shift ≤ next.reflected account

theorem Takes.refl (account : Account) (ledger : Ledger Account) : Takes account ledger ledger 0 :=
  ⟨le_rfl, le_rfl⟩

/-- Takings add up. -/
theorem Takes.trans {account : Account} {first second third : Ledger Account} {before after : Nat}
    (left : Takes account first second before) (right : Takes account second third after) :
    Takes account first third (before + after) := by
  obtain ⟨leftBalance, leftReflected⟩ := left
  obtain ⟨rightBalance, rightReflected⟩ := right
  constructor
  · omega
  · omega

/-- Losses within the allowances take nothing by reflection. -/
theorem LosesAtMost.takes {account : Account} {ledger next : Ledger Account}
    (loses : LosesAtMost account ledger next)
    (self : next.allowance account account = ledger.allowance account account)
    (reflected : ledger.reflected account ≤ next.reflected account) :
    Takes account ledger next 0 := by
  have before := ledger.allowance_self_add_exposure account
  have after := next.allowance_self_add_exposure account
  have balance := loses.balance
  constructor
  · omega
  · omega

/-- A foreign action takes only from the allowances and by reflection. -/
theorem takes_perform {account : Account} {ledger : Ledger Account} {action : LedgerAction Account}
    (enabled : ledger.Enabled action) (foreign : Foreign account action) :
    Takes account ledger (ledger.perform action) (reflectedFrom account action) := by
  have self := ledger.allowance_self_perform foreign
  have spared (spares : Spares account action) (none : reflectedFrom account action = 0)
      (reflected : ledger.reflected account ≤ (ledger.perform action).reflected account) :
      Takes account ledger (ledger.perform action) (reflectedFrom account action) := by
    rw [none]
    exact (losesAtMost_perform enabled spares).takes self reflected
  cases action with
  | keep => exact spared trivial rfl le_rfl
  | issue receiver value => exact spared foreign rfl le_rfl
  | move source target value => exact spared foreign rfl le_rfl
  | spend spender source target value => exact spared trivial rfl le_rfl
  | approve owner spender value => exact spared foreign rfl le_rfl
  | mint owner sender senderPoint ownerPoint => exact spared trivial rfl le_rfl
  | reflect holder value =>
      by_cases same : holder = account
      · subst same
        have covered : value ≤ ledger.balance holder := enabled
        have lowered : (ledger.perform (.reflect holder value)).balance holder =
            ledger.balance holder - value := Function.update_self _ _ _
        have raised : (ledger.perform (.reflect holder value)).reflected holder =
            ledger.reflected holder + value := Function.update_self _ _ _
        have kept : (ledger.perform (.reflect holder value)).exposure holder =
            ledger.exposure holder := rfl
        have shift : reflectedFrom holder (.reflect holder value) = value := if_pos rfl
        rw [shift]
        constructor
        · omega
        · exact raised.ge
      · have kept : (ledger.perform (.reflect holder value)).reflected account =
            ledger.reflected account := Function.update_of_ne (Ne.symm same) _ _
        exact spared same (if_neg same) kept.ge
  | handOver source target value =>
      apply spared foreign rfl
      show _ ≤ Function.update ledger.reflected target (ledger.reflected target + value) account
      by_cases same : account = target
      · rw [same, Function.update_self]
        exact Nat.le_add_right _ _
      · rw [Function.update_of_ne same]

/-- A spend lowers the exposure by its value. -/
theorem exposure_spend (ledger : Ledger Account) {account spender : Account} (target : Account)
    (other : spender ≠ account) {value : Nat} (enough : value ≤ ledger.allowance account spender) :
    (ledger.perform (.spend spender account target value)).exposure account + value =
      ledger.exposure account := by
  have before := ledger.allowance_self_add_exposure account
  have after := (ledger.perform (.spend spender account target value)).allowance_self_add_exposure
    account
  have self := ledger.allowance_self_perform
    (show Foreign account (.spend spender account target value) from other)
  have row : (ledger.perform (.spend spender account target value)).allowance account =
      Function.update (ledger.allowance account) spender
        (ledger.allowance account spender - value) := writePair_row _ _ _ _
  have total := sum_debit (ledger.allowance account) spender value enough
  rw [row] at after self
  omega

end

end Ledger

end Holonus.Abstract
