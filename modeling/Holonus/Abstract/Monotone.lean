/-
This file proves that a better rating lowers no reliability.
-/

import Holonus.Abstract.Currency

namespace Holonus.Abstract

/-- A higher reliability has no lower level. -/
theorem levelOf_mono {low high : Nat} (ordered : low ≤ high) : levelOf low ≤ levelOf high := by
  unfold levelOf
  exact min_le_min_right 10 (Nat.div_le_div_right ordered)

/-- A higher level and a higher trust value weigh at least as much. -/
theorem weight_mono {low high : Nat} {worse better : Int} (levels : low ≤ high)
    (trusts : worse ≤ better) : weight low worse ≤ weight high better := by
  have scaled : worse.toNat * 10 ^ 16 ≤ better.toNat * 10 ^ 16 :=
    Nat.mul_le_mul_right _ (Int.toNat_le_toNat trusts)
  exact Nat.mul_le_mul levels scaled

namespace TrustGraph

section
variable {Account : Type} [DecidableEq Account] [Zero Account]

/-- The cascade rewrites the contributions of the evaluated account only. -/
theorem evaluate_contribution_of_ne {graph final : TrustGraph Account} {evaluator subject : Account}
    {trust : Int} (finished : graph.evaluate evaluator subject trust = some final)
    {other : Account} (different : other ≠ subject) (holder : Account) :
    final.contribution holder other = (graph.rated evaluator subject trust).contribution holder other := by
  apply evaluate_rule (fun next => next.contribution holder other =
    (graph.rated evaluator subject trust).contribution holder other) (fun _ => rfl) _ finished
  intro current account same _ _
  rw [(current.rated_record_of_evaluator_ne account holder _ different).2]
  exact same

/-- A better trust value raises the level of the rated account. -/
theorem rated_level_mono (graph : TrustGraph Account) (evaluator subject : Account)
    {worse better : Int} (ordered : worse ≤ better) :
    (graph.rated evaluator subject worse).level subject ≤
      (graph.rated evaluator subject better).level subject := by
  apply levelOf_mono
  rw [rated_reliability_self, rated_reliability_self]
  exact Nat.add_le_add_left (weight_mono le_rfl ordered) _

/-- A better rating gives no lower trust. -/
theorem rated_trust_mono (graph : TrustGraph Account) (evaluator subject holder other : Account)
    {worse better : Int} (ordered : worse ≤ better) :
    (graph.rated evaluator subject worse).trust holder other ≤
      (graph.rated evaluator subject better).trust holder other := by
  rw [rated_trust, rated_trust]
  split
  · exact ordered
  · exact le_rfl

/-- A better trust value lowers no stored contribution. -/
theorem Current.evaluate_contribution_mono {graph low high : TrustGraph Account}
    (formed : graph.WellFormed) {evaluator subject : Account} (nonzero : subject ≠ 0)
    (current : graph.Current subject) {worse better : Int} (worseValid : ValidTrust worse)
    (betterValid : ValidTrust better) (ordered : worse ≤ better)
    (lower : graph.evaluate evaluator subject worse = some low)
    (higher : graph.evaluate evaluator subject better = some high) (holder other : Account) :
    low.contribution holder other ≤ high.contribution holder other := by
  by_cases own : other = subject
  · subst own
    rw [current.evaluate_self formed nonzero worseValid lower holder,
      current.evaluate_self formed nonzero betterValid higher holder,
      current.evaluate_level formed nonzero worseValid lower,
      current.evaluate_level formed nonzero betterValid higher,
      (formed.evaluate_evaluations worseValid lower).trust,
      (formed.evaluate_evaluations betterValid higher).trust]
    exact weight_mono (graph.rated_level_mono evaluator other ordered)
      (graph.rated_trust_mono evaluator other holder other ordered)
  · rw [evaluate_contribution_of_ne lower own, evaluate_contribution_of_ne higher own,
      rated_contribution, rated_contribution]
    split
    · exact weight_mono le_rfl ordered
    · exact le_rfl

/-- A better trust value lowers no reliability. -/
theorem Current.evaluate_reliability_mono {graph low high : TrustGraph Account}
    (formed : graph.WellFormed) {evaluator subject : Account} (evaluatorNonzero : evaluator ≠ 0)
    (subjectNonzero : subject ≠ 0) (current : graph.Current subject) {worse better : Int}
    (worseValid : ValidTrust worse) (betterValid : ValidTrust better) (ordered : worse ≤ better)
    (lower : graph.evaluate evaluator subject worse = some low)
    (higher : graph.evaluate evaluator subject better = some high) (account : Account) :
    low.reliability account ≤ high.reliability account := by
  have contributions := current.evaluate_contribution_mono formed subjectNonzero worseValid
    betterValid ordered lower higher account
  have lists : high.evaluators account = low.evaluators account := by
    rw [(formed.evaluate_evaluations worseValid lower).evaluators,
      (formed.evaluate_evaluations betterValid higher).evaluators]
    rfl
  have sums : low.contributed account ≤ high.contributed account := by
    rw [contributed, contributed, lists]
    exact List.sum_le_sum fun other _ => contributions other
  have lowKept := formed.evaluate_keeps_discrepancy worseValid
    (graph.withdraws_of_ne worse evaluatorNonzero subjectNonzero) lower account
  have highKept := formed.evaluate_keeps_discrepancy betterValid
    (graph.withdraws_of_ne better evaluatorNonzero subjectNonzero) higher account
  unfold discrepancy at lowKept highKept
  omega

end

end TrustGraph

end Holonus.Abstract
