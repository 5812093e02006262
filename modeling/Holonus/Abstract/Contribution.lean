/-
This file compares the reliability of an account with the contributions of its evaluators.
-/

import Holonus.Abstract.Evaluation

namespace Holonus.Abstract.TrustGraph

open Holonus.Machine

section
variable {Account : Type} [DecidableEq Account] [Zero Account]

/-- The listed evaluators contribute this sum. -/
def contributed (graph : TrustGraph Account) (subject : Account) : Nat :=
  ((graph.evaluators subject).map (graph.contribution subject)).sum

/-- The discrepancy is the reliability that no listed evaluator contributed. -/
def discrepancy (graph : TrustGraph Account) (subject : Account) : Int :=
  (graph.reliability subject : Int) - graph.contributed subject

omit [DecidableEq Account] [Zero Account] in
/-- A subject with the same data has the same discrepancy. -/
theorem discrepancy_of_same {graph next : TrustGraph Account} {subject : Account}
    (reliability : next.reliability subject = graph.reliability subject)
    (contribution : next.contribution subject = graph.contribution subject)
    (evaluators : next.evaluators subject = graph.evaluators subject) :
    next.discrepancy subject = graph.discrepancy subject := by
  rw [discrepancy, discrepancy, contributed, contributed, reliability, contribution, evaluators]

omit [DecidableEq Account] [Zero Account] in
/-- Each listed evaluator contributes at most half of a level. -/
theorem WellFormed.contributed_le {graph : TrustGraph Account} (formed : graph.WellFormed)
    (subject : Account) :
    graph.contributed subject ≤ 5 * 10 ^ 17 * (graph.evaluators subject).length := by
  have bound := List.sum_le_card_nsmul ((graph.evaluators subject).map (graph.contribution subject))
    (5 * 10 ^ 17) (by
      intro term member
      obtain ⟨evaluator, -, same⟩ := List.mem_map.mp member
      rw [← same]
      exact formed.contribution_le subject evaluator)
  rw [List.length_map, smul_eq_mul] at bound
  rw [contributed, Nat.mul_comm]
  exact bound

omit [DecidableEq Account] [Zero Account] in
/-- The sum covers every stored contribution. -/
theorem WellFormed.contribution_le_contributed {graph : TrustGraph Account}
    (formed : graph.WellFormed) (subject evaluator : Account) :
    graph.contribution subject evaluator ≤ graph.contributed subject := by
  by_cases absent : graph.trust subject evaluator = 0
  · rw [formed.contribution_of_absent absent]
    exact Nat.zero_le _
  · have listed := (formed.evaluator_iff subject evaluator).mpr absent
    exact List.single_le_sum (fun _ _ => Nat.zero_le _) _ (List.mem_map_of_mem listed)

/-- A rating replaces one term of the sum. -/
theorem WellFormed.rated_contributed {graph : TrustGraph Account} (formed : graph.WellFormed)
    (evaluator subject : Account) (trust : Int) :
    (graph.rated evaluator subject trust).contributed subject + graph.contribution subject evaluator =
      graph.contributed subject + weight (graph.level evaluator) trust := by
  have terms : (graph.rated evaluator subject trust).contribution subject =
      Function.update (graph.contribution subject) evaluator (weight (graph.level evaluator) trust) :=
    writePair_row _ _ _ _
  have elements : (graph.rated evaluator subject trust).evaluators subject =
      addOnce (graph.evaluators subject) evaluator := Function.update_self _ _ _
  rw [contributed, terms, elements]
  apply sum_map_addOnce (formed.evaluators_distinct subject)
  intro absent
  apply formed.contribution_of_absent
  by_contra stored
  exact absent ((formed.evaluator_iff subject evaluator).mpr stored)

/-- A rating adds to the discrepancy what it replaces and does not withdraw. -/
theorem WellFormed.rated_discrepancy {graph : TrustGraph Account} (formed : graph.WellFormed)
    {evaluator subject : Account} (trust : Int)
    (covered : graph.retracted evaluator subject ≤ graph.reliability subject) :
    (graph.rated evaluator subject trust).discrepancy subject = graph.discrepancy subject +
      graph.contribution subject evaluator - graph.retracted evaluator subject := by
  have sum := formed.rated_contributed evaluator subject trust
  have total := graph.rated_reliability_self evaluator subject trust
  unfold discrepancy
  omega

/-- A rating keeps the discrepancy of the other accounts. -/
theorem rated_discrepancy_of_ne (graph : TrustGraph Account) (evaluator : Account)
    {subject account : Account} (trust : Int) (different : account ≠ subject) :
    (graph.rated evaluator subject trust).discrepancy account = graph.discrepancy account :=
  discrepancy_of_same (graph.rated_reliability_of_ne evaluator trust different)
    (writePair_of_row_ne _ _ _ different) (Function.update_of_ne different _ _)

/-- A rating that withdraws what it replaces keeps every discrepancy. -/
theorem WellFormed.rated_keeps_discrepancy {graph : TrustGraph Account} (formed : graph.WellFormed)
    {evaluator subject : Account} (trust : Int)
    (covered : graph.retracted evaluator subject ≤ graph.reliability subject)
    (withdrawn : graph.contribution subject evaluator = graph.retracted evaluator subject)
    (account : Account) :
    (graph.rated evaluator subject trust).discrepancy account = graph.discrepancy account := by
  by_cases same : account = subject
  · subst same
    rw [formed.rated_discrepancy trust covered, withdrawn]
    omega
  · exact graph.rated_discrepancy_of_ne evaluator trust same

/-- Every rating of the evaluation withdraws the contribution that it replaces. -/
structure Withdraws (graph : TrustGraph Account) (evaluator subject : Account) (trust : Int) :
    Prop where
  first : graph.contribution subject evaluator = graph.retracted evaluator subject
  again : graph.level subject ≠ (graph.rated evaluator subject trust).level subject →
    ∀ account, (graph.rated evaluator subject trust).contribution account subject =
      (graph.rated evaluator subject trust).retracted subject account

/-- A rating by any account but zero retracts its contribution. -/
theorem retracted_of_ne (graph : TrustGraph Account) {evaluator : Account} (subject : Account)
    (nonzero : evaluator ≠ 0) :
    graph.retracted evaluator subject = graph.contribution subject evaluator := if_neg nonzero

/-- Only account zero keeps an old contribution. -/
theorem withdraws_of_ne (graph : TrustGraph Account) {evaluator subject : Account} (trust : Int)
    (evaluatorNonzero : evaluator ≠ 0) (subjectNonzero : subject ≠ 0) :
    graph.Withdraws evaluator subject trust where
  first := (graph.retracted_of_ne subject evaluatorNonzero).symm
  again _ account := (retracted_of_ne _ account subjectNonzero).symm

/-- An evaluation that withdraws what it replaces keeps every discrepancy. -/
theorem WellFormed.evaluate_keeps_discrepancy {graph final : TrustGraph Account}
    (formed : graph.WellFormed) {evaluator subject : Account} {trust : Int} (valid : ValidTrust trust)
    (withdraws : graph.Withdraws evaluator subject trust)
    (finished : graph.evaluate evaluator subject trust = some final) (account : Account) :
    final.discrepancy account = graph.discrepancy account := by
  obtain ⟨covered, outcome⟩ := evaluate_eq_some.mp finished
  have middle := formed.rated_keeps_discrepancy trust covered withdraws.first
  split at outcome
  · rw [← outcome]
    exact middle account
  · rename_i changed
    have shape := formed.rated evaluator subject valid
    have kept := shape.cascade_rule (fun done current =>
      (∀ other, current.discrepancy other = graph.discrepancy other) ∧
      ∀ other, other ∉ done → current.contribution other subject = current.retracted subject other)
      (shape.evaluatees_distinct subject) (fun _ member => member)
      ⟨middle, fun other _ => withdraws.again changed other⟩ ?_ outcome
    · exact kept.2.2.1 account
    · intro done next current shaped _ fresh _ holds enough
      obtain ⟨same, left⟩ := holds
      refine ⟨?_, ?_⟩
      · intro other
        rw [shaped.rated_keeps_discrepancy _ enough (left next fresh), same]
      · intro other absent
        have different : other ≠ next := by
          intro equal
          exact absent (by simp [equal])
        have before := left other fun member => absent (List.mem_append_left _ member)
        have record := (current.rated_record_of_subject_ne subject subject
          ((graph.rated evaluator subject trust).trust next subject) different).2
        rw [retracted, record]
        exact before

/-- An evaluation leaves the lists and the trust values of its first rating. -/
theorem WellFormed.evaluate_evaluations {graph final : TrustGraph Account}
    (formed : graph.WellFormed) {evaluator subject : Account} {trust : Int} (valid : ValidTrust trust)
    (finished : graph.evaluate evaluator subject trust = some final) :
    (graph.rated evaluator subject trust).SameEvaluations final := by
  obtain ⟨-, outcome⟩ := evaluate_eq_some.mp finished
  split at outcome
  · rw [← outcome]
    exact ⟨rfl, rfl, rfl⟩
  · have shape := formed.rated evaluator subject valid
    exact (shape.cascade_rule (fun _ _ => True) (shape.evaluatees_distinct subject)
      (fun _ member => member) trivial (fun _ _ _ _ _ _ _ _ _ => trivial) outcome).2.1

/-- An evaluation adds its evaluator to the list of its subject and changes no other list. -/
theorem WellFormed.mem_evaluate_evaluators {graph final : TrustGraph Account}
    (formed : graph.WellFormed) {evaluator subject : Account} {trust : Int} (valid : ValidTrust trust)
    (finished : graph.evaluate evaluator subject trust = some final) (account other : Account) :
    other ∈ final.evaluators account ↔
      other ∈ graph.evaluators account ∨ (account = subject ∧ other = evaluator) := by
  rw [(formed.evaluate_evaluations valid finished).evaluators, mem_rated_evaluators]

end

end Holonus.Abstract.TrustGraph
