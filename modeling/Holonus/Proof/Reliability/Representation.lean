/-
This file proves that the records and both account lists hold the same evaluations.
-/

import Holonus.Abstract.Contribution
import Holonus.Proof.Coin.Reachable

namespace Holonus.Coin

open Holonus.Machine Holonus.Abstract

/-- These accounts have evaluated the subject in the accepted calls. -/
def evaluatorsOf (past : List (System × Transaction)) (subject : Address) : Set Address :=
  {evaluator | ∃ entry ∈ past, ∃ trustworthy,
    entry.2.call = .callEvaluateReliability evaluator subject trustworthy}

theorem mem_evaluatorsOf_append (past : List (System × Transaction)) (entry : System × Transaction)
    (subject evaluator : Address) :
    evaluator ∈ evaluatorsOf (past ++ [entry]) subject ↔
      evaluator ∈ evaluatorsOf past subject ∨
        ∃ trustworthy, entry.2.call = .callEvaluateReliability evaluator subject trustworthy := by
  simp only [evaluatorsOf, Set.mem_ofPred_eq, List.mem_append, List.mem_singleton, or_and_right,
    exists_or, exists_eq_left]

/-- One call lists exactly the evaluation that it makes. -/
theorem System.Refines.mem_evaluators {system next : System} {transaction : Transaction}
    (refines : system.Refines transaction next) (formed : system.graph.WellFormed)
    (subject evaluator : Address) :
    evaluator ∈ next.graph.evaluators subject ↔ evaluator ∈ system.graph.evaluators subject ∨
      ∃ trustworthy,
        transaction.call = .callEvaluateReliability evaluator subject trustworthy := by
  obtain ⟨msgSender, call⟩ := transaction
  have effect := refines.graph
  cases call with
  | callEvaluateReliability owner sender trustworthy =>
      rw [formed.mem_evaluate_evaluators effect.1 effect.2]
      apply or_congr_right
      constructor
      · intro same
        rw [same.1, same.2]
        exact ⟨trustworthy, rfl⟩
      · intro named
        obtain ⟨_, same⟩ := named
        cases same
        exact ⟨rfl, rfl⟩
  | _ =>
      change next.graph = _ at effect
      rw [effect]
      simp

/-- The evaluator lists name exactly the accounts that evaluated. -/
theorem Deployment.mem_evaluators_iff (deployment : Deployment) (transactions : List Transaction)
    (subject evaluator : Address) :
    evaluator ∈ (deployment.after transactions).graph.evaluators subject ↔
      evaluator ∈ evaluatorsOf (deployment.accepted transactions) subject := by
  refine (run_refines (fun past current => evaluator ∈ current.graph.evaluators subject ↔
    evaluator ∈ evaluatorsOf past subject) deployment.sound ?_ ?_ transactions).1
  · rw [deployment.graph_evaluators]
    simp [evaluatorsOf]
  · intro past current transaction next sound earlier _ refines
    rw [refines.mem_evaluators sound.represented.formed, mem_evaluatorsOf_append, earlier]

/-- The number of listed evaluators counts the accounts that evaluated. -/
theorem Deployment.evaluators_length (deployment : Deployment) (transactions : List Transaction)
    (subject : Address) :
    ((deployment.after transactions).graph.evaluators subject).length =
      (evaluatorsOf (deployment.accepted transactions) subject).ncard := by
  have distinct := (deployment.after_sound transactions).represented.formed.evaluators_distinct subject
  have same : evaluatorsOf (deployment.accepted transactions) subject =
      ↑((deployment.after transactions).graph.evaluators subject).toFinset := by
    ext evaluator
    rw [← deployment.mem_evaluators_iff, Finset.mem_coe, List.mem_toFinset]
  rw [same, Set.ncard_coe_finset, List.toFinset_card_of_nodup distinct]

/-- Every reachable state stores each evaluation once in each of its three places. -/
theorem evaluations_represented (deployment : Deployment) (transactions : List Transaction)
    (subject evaluator : Address) :
    (evaluator ∈ (deployment.after transactions).manageStorage.accounts .evaAccount subject ↔
        subject ∈ (deployment.after transactions).manageStorage.accounts .accountEvaList evaluator) ∧
      (subject ∈ (deployment.after transactions).manageStorage.accounts .accountEvaList evaluator ↔
        ((deployment.after transactions).eternalStorage.addrGrpUserInfoStorage .evaAccount
          subject evaluator).intValue ≠ 0) ∧
      ((deployment.after transactions).manageStorage.accounts .evaAccount subject).Nodup ∧
      ((deployment.after transactions).manageStorage.accounts .accountEvaList evaluator).Nodup ∧
      (∀ stored, (deployment.after transactions).eternalStorage.addrGrpUserInfoStorage .evaAccount
          subject evaluator = stored →
        (stored.intValue ≠ 0 → stored.intValue ∈ ({-1, 1, 2, 3, 4, 5} : Set Int)) ∧
        ∃ level : Nat, level ≤ 10 ∧
          (stored.uintValue.toNat : Int) = level * max stored.intValue 0 * 10 ^ 16) ∧
      (HolonusCoinService.getEvaAccountCnt (deployment.after transactions) subject).map Word.toNat =
        .ok (evaluatorsOf (deployment.accepted transactions) subject).ncard := by
  have sound := deployment.after_sound transactions
  have formed := sound.represented.formed
  refine ⟨(formed.evaluator_iff subject evaluator).trans (formed.evaluatee_iff subject evaluator).symm,
    formed.evaluatee_iff subject evaluator, formed.evaluators_distinct subject,
    formed.evaluatees_distinct evaluator, ?_, ?_⟩
  · intro stored same
    have trust : (deployment.after transactions).graph.trust subject evaluator = stored.intValue :=
      congrArg UserInfo.intValue same
    have contribution : (deployment.after transactions).graph.contribution subject evaluator =
        stored.uintValue.toNat := congrArg (fun info : UserInfo => info.uintValue.toNat) same
    refine ⟨?_, ?_⟩
    · intro present
      have valid := formed.trust_valid subject evaluator (by rw [trust]; exact present)
      rw [trust, ValidTrust] at valid
      simp only [Set.mem_insert_iff, Set.mem_singleton_iff]
      omega
    · obtain ⟨level, low, form⟩ := formed.contribution_form subject evaluator
      refine ⟨level, low, ?_⟩
      rw [contribution, trust, weight] at form
      rw [form]
      push_cast
      rw [Int.toNat_eq_max]
      ring
  · rw [sound.wired.showsGraph.getEvaAccountCnt, deployment.evaluators_length]

end Holonus.Coin
