/-
This file computes what the other accounts can take from one account of a reachable state.
-/

import Holonus.Abstract.Taking
import Holonus.Proof.Ledger.Transfer

namespace Holonus.Coin

open Holonus.Machine Holonus.Abstract

/-- Calls of other accounts can lower the balance of the account by this loss. -/
def System.CanTake (system : System) (account : Address) (loss : Nat) : Prop :=
  ∃ transactions : List Transaction,
    (∀ transaction ∈ transactions, transaction.msgSender ≠ account) ∧
      (run execute system transactions).ledger.balance account + loss ≤
        system.ledger.balance account

/-- The service owner can reflect this many units of another account. -/
def System.room (system : System) (account : Address) : Nat :=
  if system.service.owner = account then 0 else 2 ^ 256 - 1 - system.ledger.reflected account

/-- A transaction of another sender is foreign to the account. -/
theorem foreign_ledgerAction (system : System) {transaction : Transaction} {account : Address}
    (other : transaction.msgSender ≠ account) :
    Ledger.Foreign account (ledgerAction system transaction) := by
  obtain ⟨msgSender, call⟩ := transaction
  cases call with
  | init =>
      simp only [ledgerAction]
      split
      · exact other
      · trivial
  | transfer target value => exact other
  | transferFrom source target value => exact other
  | approve spender value => exact other
  | transferToken target value => exact other
  | callEvaluatePost owner sender workPoint =>
      simp only [ledgerAction]
      split <;> trivial
  | _ => trivial

/-- Only a hand-over of the service changes its owner. -/
theorem execute_service_owner {system next : System} {transaction : Transaction}
    (represented : system.Represented) (executed : execute system transaction = .ok next) :
    next.service.owner =
      match transaction.call with
      | .transferServiceOwnership newOwner => newOwner
      | _ => system.service.owner := by
  obtain ⟨msgSender, call⟩ := transaction
  cases executed_of_execute executed with
  | callEvaluateReliability succeeds =>
      obtain ⟨-, -, -, kept⟩ :=
        HolonusCoinService.callEvaluateReliability_refines represented succeeds
      exact congrArg Contract.owner kept.service
  | _ => rfl

/-- Only the service owner reflects units or hands the service over. -/
theorem execute_by_other {system next : System} {transaction : Transaction}
    (represented : system.Represented) (other : transaction.msgSender ≠ system.service.owner)
    (executed : execute system transaction = .ok next) (account : Address) :
    next.service.owner = system.service.owner ∧
      Ledger.reflectedFrom account (ledgerAction system transaction) = 0 := by
  have owner := execute_service_owner represented executed
  obtain ⟨msgSender, call⟩ := transaction
  cases call with
  | init =>
      refine ⟨owner, ?_⟩
      simp only [ledgerAction]
      split <;> rfl
  | callEvaluatePost owner sender workPoint =>
      refine ⟨owner, ?_⟩
      simp only [ledgerAction]
      split <;> rfl
  | reflectToken sender value =>
      cases executed_of_execute executed with
      | reflectToken owned => exact absurd owned other
  | transferServiceOwnership newOwner =>
      cases executed_of_execute executed with
      | transferServiceOwnership owned => exact absurd owned other
  | _ => exact ⟨owner, rfl⟩

/-- A run of other accounts takes from the allowances, and an account that owns the service loses
nothing by reflection. -/
theorem run_takes {system : System} (sound : system.Sound) {account : Address}
    (transactions : List Transaction)
    (others : ∀ transaction ∈ transactions, transaction.msgSender ≠ account) :
    ∃ shift, Ledger.Takes account system.ledger (run execute system transactions).ledger shift ∧
      (system.service.owner = account → shift = 0) := by
  have taken : ∃ shift,
      Ledger.Takes account system.ledger (run execute system transactions).ledger shift ∧
        (system.service.owner = account →
          shift = 0 ∧ (run execute system transactions).service.owner = account) := by
    induction transactions using List.reverseRecOn with
    | nil => exact ⟨0, Ledger.Takes.refl account system.ledger, fun owns => ⟨rfl, owns⟩⟩
    | append_singleton transactions transaction ih =>
        obtain ⟨shift, takes, owned⟩ :=
          ih fun earlier member => others earlier (List.mem_append_left _ member)
        have other := others transaction (List.mem_append_right transactions List.mem_cons_self)
        have reached := run_sound sound transactions
        rw [run_append, run_cons, run_nil]
        cases outcome : execute (run execute system transactions) transaction with
        | ok next =>
            have refines := execute_refines reached.represented outcome
            have step := Ledger.takes_perform refines.enabled (foreign_ledgerAction _ other)
            rw [settle_ok outcome]
            rw [← refines.ledger] at step
            refine ⟨_, takes.trans step, ?_⟩
            intro owns
            obtain ⟨none, owner⟩ := owned owns
            rw [← owner] at other
            have kept := execute_by_other reached.represented other outcome account
            rw [none, kept.2, kept.1]
            exact ⟨rfl, owner⟩
        | error failure =>
            rw [settle_error outcome]
            exact ⟨shift, takes, owned⟩
  obtain ⟨shift, takes, owned⟩ := taken
  exact ⟨shift, takes, fun owns => (owned owns).1⟩

/-- No loss exceeds the allowances of the others and the room for reflection. -/
theorem System.CanTake.bounded {system : System} (sound : system.Sound) {account : Address}
    {loss : Nat} (can : system.CanTake account loss) :
    loss ≤ system.ledger.balance account ∧
      loss ≤ system.room account + system.ledger.exposure account := by
  obtain ⟨transactions, others, lost⟩ := can
  obtain ⟨shift, ⟨balance, reflected⟩, owned⟩ := run_takes sound transactions others
  have bounded : (run execute system transactions).ledger.reflected account < 2 ^ 256 :=
    ((run execute system transactions).eternalStorage.addrUIntStorage .reflectTocken account).bounded
  constructor
  · omega
  · rw [System.room]
    split
    · rename_i owns
      have none := owned owns
      omega
    · omega

/-- One call of another account takes a unit and leaves the rest to be taken. -/
theorem System.CanTake.unit {system next : System} {account : Address} {transaction : Transaction}
    {loss : Nat} (other : transaction.msgSender ≠ account)
    (executed : execute system transaction = .ok next)
    (lost : next.ledger.balance account + 1 = system.ledger.balance account)
    (can : next.CanTake account loss) : system.CanTake account (loss + 1) := by
  obtain ⟨transactions, others, rest⟩ := can
  refine ⟨transaction :: transactions, List.forall_mem_cons.mpr ⟨other, others⟩, ?_⟩
  rw [run_cons, settle_ok executed]
  omega

theorem exists_target (account : Address) : ∃ target : Address, target ≠ 0 ∧ target ≠ account := by
  by_cases same : account = 1
  · exact ⟨2, by decide, by rw [same]; decide⟩
  · exact ⟨1, by decide, Ne.symm same⟩

/-- The service owner can reflect a unit of another account. -/
theorem exists_reflection {system : System} (sound : system.Sound) {account : Address}
    (positive : 0 < system.ledger.balance account) (room : 0 < system.room account) :
    ∃ transaction next, transaction.msgSender ≠ account ∧
      execute system transaction = .ok next ∧
      next.ledger.balance account + 1 = system.ledger.balance account ∧
      next.room account + 1 = system.room account ∧
      next.ledger.exposure account = system.ledger.exposure account := by
  by_cases owns : system.service.owner = account
  · rw [System.room, if_pos owns] at room
    exact absurd room (Nat.lt_irrefl 0)
  · have spare : system.room account = 2 ^ 256 - 1 - system.ledger.reflected account := if_neg owns
    have bounded : system.ledger.balance account < 2 ^ 256 :=
      (system.eternalStorage.addrUIntStorage .tocken account).bounded
    obtain ⟨raised, high⟩ : ∃ raised : Uint256,
        raised.toNat = system.ledger.reflected account + (1 : Uint256).toNat :=
      ⟨⟨system.ledger.reflected account + 1, by omega⟩, rfl⟩
    obtain ⟨lowered, low⟩ : ∃ lowered : Uint256,
        lowered.toNat = system.ledger.balance account - (1 : Uint256).toNat :=
      ⟨⟨system.ledger.balance account - 1, by omega⟩, rfl⟩
    have executed : execute system ⟨system.service.owner, .reflectToken account 1⟩ =
        .ok (HolonusCoinService.reflected system account 1 raised lowered) :=
      (HolonusCoinService.reflectToken_eq_ok _ _ _ _ _).mpr ⟨rfl, sound.wired.service,
        Nat.pos_iff_ne_zero.mp positive, positive, raised, high, lowered, low, rfl⟩
    have ledger := HolonusCoinService.reflected_ledger high low
    have balance : (HolonusCoinService.reflected system account 1 raised lowered).ledger.balance
        account = system.ledger.balance account - 1 := by
      rw [ledger]
      exact Function.update_self _ _ _
    have reflected : (HolonusCoinService.reflected system account 1 raised lowered).ledger.reflected
        account = system.ledger.reflected account + 1 := by
      rw [ledger]
      exact Function.update_self _ _ _
    refine ⟨_, _, owns, executed, ?_, ?_, ?_⟩
    · omega
    · have left : (HolonusCoinService.reflected system account 1 raised lowered).room account =
          2 ^ 256 - 1 - (HolonusCoinService.reflected system account 1 raised lowered).ledger.reflected
            account := if_neg owns
      omega
    · rw [ledger]
      rfl

/-- A spender with an allowance can take a unit. -/
theorem Deployment.exists_spend (deployment : Deployment) (transactions : List Transaction)
    {account : Address} (positive : 0 < (deployment.after transactions).ledger.balance account)
    (exposed : 0 < (deployment.after transactions).ledger.exposure account) :
    ∃ transaction next, transaction.msgSender ≠ account ∧
      execute (deployment.after transactions) transaction = .ok next ∧
      next.ledger.balance account + 1 = (deployment.after transactions).ledger.balance account ∧
      next.room account = (deployment.after transactions).room account ∧
      next.ledger.exposure account + 1 =
        (deployment.after transactions).ledger.exposure account := by
  have sound := deployment.after_sound transactions
  obtain ⟨spender, member, allowed⟩ :=
    Finset.exists_ne_zero_of_sum_ne_zero (Nat.pos_iff_ne_zero.mp exposed)
  have other : spender ≠ account := Finset.ne_of_mem_erase member
  have enough : (1 : Uint256).toNat ≤
      (deployment.after transactions).ledger.allowance account spender :=
    Nat.pos_of_ne_zero allowed
  obtain ⟨target, nonzero, different⟩ := exists_target account
  obtain ⟨⟨next, success⟩, succeeds⟩ := (TokenERC20.transferFrom_outcome sound.wired.token
    (fun apart => deployment.balances_fit transactions (Ne.symm apart)) spender 1).exists_ok_iff.mpr
      ⟨⟨nonzero, different, by decide, positive⟩, enough⟩
  have executed : execute (deployment.after transactions)
      ⟨spender, .transferFrom account target 1⟩ = .ok next :=
    (map_eq_ok _ _ _).mpr ⟨(next, success), succeeds, rfl⟩
  have refines := execute_refines sound.represented executed
  have owner := execute_service_owner sound.represented executed
  have ledger : next.ledger =
      (deployment.after transactions).ledger.perform (.spend spender account target 1) :=
    refines.ledger
  have balance : next.ledger.balance account =
      (deployment.after transactions).ledger.balance account - 1 := by
    rw [ledger]
    exact Ledger.move_source _ _ different
  refine ⟨_, next, other, executed, ?_, ?_, ?_⟩
  · omega
  · rw [System.room, System.room, owner, ledger]
    rfl
  · rw [ledger]
    exact Ledger.exposure_spend _ target other enough

/-- The other accounts can take every loss within these bounds unit by unit. -/
theorem Deployment.canTake (deployment : Deployment) (account : Address) (loss : Nat)
    (transactions : List Transaction)
    (covered : loss ≤ (deployment.after transactions).ledger.balance account)
    (within : loss ≤ (deployment.after transactions).room account +
      (deployment.after transactions).ledger.exposure account) :
    (deployment.after transactions).CanTake account loss := by
  induction loss generalizing transactions with
  | zero => exact ⟨[], fun _ member => absurd member List.not_mem_nil, le_rfl⟩
  | succ loss ih =>
      have positive : 0 < (deployment.after transactions).ledger.balance account := by omega
      have reached {transaction : Transaction} {next : System}
          (executed : execute (deployment.after transactions) transaction = .ok next) :
          deployment.after (transactions ++ [transaction]) = next := by
        rw [deployment.after_append, run_cons, run_nil, settle_ok executed]
      by_cases room : 0 < (deployment.after transactions).room account
      · obtain ⟨transaction, next, other, executed, balance, less, exposed⟩ :=
          exists_reflection (deployment.after_sound transactions) positive room
        apply System.CanTake.unit other executed balance
        rw [← reached executed] at balance less exposed ⊢
        apply ih
        · omega
        · omega
      · obtain ⟨transaction, next, other, executed, balance, same, exposed⟩ :=
          deployment.exists_spend transactions positive (by omega)
        apply System.CanTake.unit other executed balance
        rw [← reached executed] at balance same exposed ⊢
        apply ih
        · omega
        · omega

/-- A loss can be taken exactly when the balance and the exposed amounts with their room cover it.
-/
theorem Deployment.canTake_iff (deployment : Deployment) (transactions : List Transaction)
    (account : Address) (loss : Nat) :
    (deployment.after transactions).CanTake account loss ↔
      loss ≤ (deployment.after transactions).ledger.balance account ∧
        loss ≤ (deployment.after transactions).room account +
          (deployment.after transactions).ledger.exposure account := by
  constructor
  · intro can
    exact can.bounded (deployment.after_sound transactions)
  · intro bounds
    exact deployment.canTake account loss transactions bounds.1 bounds.2

end Holonus.Coin
