/-
This file proves which values one evaluation can change and which evaluations repeat themselves.
-/

import Holonus.Abstract.Currency

namespace Holonus.Abstract.TrustGraph

open Holonus.Machine

section
variable {Account : Type} [DecidableEq Account] [Zero Account]

/-- The cascade visits the subject and the accounts that it had evaluated before. -/
theorem evaluate_visits (Holds : TrustGraph Account → Prop) {graph final : TrustGraph Account}
    {evaluator subject : Account} {trust : Int}
    (first : Holds (graph.rated evaluator subject trust))
    (again : ∀ current account, Holds current →
      account ∈ graph.evaluatees subject ∨ (account = subject ∧ subject = evaluator) →
      Holds (current.rated subject account (current.trust account subject)))
    (finished : graph.evaluate evaluator subject trust = some final) : Holds final := by
  have kept := evaluate_rule (fun current => Holds current ∧
    ∀ account ∈ current.evaluatees subject,
      account ∈ graph.evaluatees subject ∨ (account = subject ∧ subject = evaluator))
    (fun _ => ⟨first, fun account member =>
      (graph.mem_rated_evaluatees evaluator subject account subject trust).mp member⟩) ?_ finished
  · exact kept.1
  · intro current account holds listed _
    refine ⟨again current account holds.1 (holds.2 account listed), ?_⟩
    intro other member
    rcases (current.mem_rated_evaluatees subject account other subject _).mp member with old | same
    · exact holds.2 other old
    · rw [same.1]
      exact holds.2 account listed

/-- An evaluation changes the reliability of its subject and of the subject's list only. -/
theorem evaluate_reliability_of_not_mem {graph final : TrustGraph Account}
    {evaluator subject account : Account} {trust : Int}
    (finished : graph.evaluate evaluator subject trust = some final) (other : account ≠ subject)
    (absent : account ∉ graph.evaluatees subject) :
    final.reliability account = graph.reliability account := by
  apply evaluate_visits (fun current => current.reliability account = graph.reliability account)
    (graph.rated_reliability_of_ne evaluator trust other) _ finished
  intro current visited same listed
  have different : account ≠ visited := by
    intro equal
    rcases listed with member | self
    · exact absent (equal ▸ member)
    · exact other (equal.trans self.1)
  rw [current.rated_reliability_of_ne subject _ different]
  exact same

/-- An evaluation changes its own contribution and those that its subject gave only. -/
theorem evaluate_contribution_of_not_mem {graph final : TrustGraph Account}
    {evaluator subject holder giver : Account} {trust : Int}
    (finished : graph.evaluate evaluator subject trust = some final)
    (other : ¬ (holder = subject ∧ giver = evaluator))
    (absent : ¬ (giver = subject ∧ holder ∈ graph.evaluatees subject)) :
    final.contribution holder giver = graph.contribution holder giver := by
  apply evaluate_visits (fun current =>
    current.contribution holder giver = graph.contribution holder giver) _ _ finished
  · rw [rated_contribution, if_neg other]
  · intro current visited same listed
    rw [rated_contribution, if_neg]
    · exact same
    · intro equal
      rcases listed with member | self
      · exact absent ⟨equal.2, equal.1 ▸ member⟩
      · exact other ⟨equal.1.trans self.1, equal.2.trans self.2⟩

/-- A change of level needs half of a level beyond the replaced contribution. -/
theorem WellFormed.half_level_of_changed {graph : TrustGraph Account} (formed : graph.WellFormed)
    {evaluator subject : Account} {trust : Int} (valid : ValidTrust trust)
    (changed : graph.level subject ≠ (graph.rated evaluator subject trust).level subject) :
    5 * 10 ^ 17 ≤ graph.reliability subject - graph.retracted evaluator subject := by
  have added : weight (graph.level evaluator) trust ≤ 5 * 10 ^ 17 :=
    weight_le (levelOf_le _) valid.toNat_le
  have removed := formed.retracted_le evaluator subject
  by_contra short
  apply changed
  rw [level, level, rated_reliability_self]
  unfold levelOf unit
  omega

/-- The cascade does not take back the contribution of another evaluator. -/
theorem WellFormed.evaluate_covered_of_ne {graph final : TrustGraph Account}
    (formed : graph.WellFormed) {evaluator subject : Account} (different : evaluator ≠ subject)
    {trust : Int} (valid : ValidTrust trust)
    (finished : graph.evaluate evaluator subject trust = some final) :
    final.contribution subject evaluator = weight (graph.level evaluator) trust ∧
      weight (graph.level evaluator) trust ≤ final.reliability subject := by
  have shape := formed.rated evaluator subject valid
  have total := graph.rated_reliability_self evaluator subject trust
  refine ⟨?_, ?_⟩
  · apply evaluate_visits (fun current => current.contribution subject evaluator =
      weight (graph.level evaluator) trust) (graph.rated_contribution_self evaluator subject trust) _
      finished
    intro current visited same _
    rw [(current.rated_record_of_evaluator_ne visited subject _ different).2]
    exact same
  · obtain ⟨-, outcome⟩ := evaluate_eq_some.mp finished
    split at outcome
    · rw [← outcome, total]
      exact Nat.le_add_left _ _
    · rename_i changed
      have spare := formed.half_level_of_changed valid changed
      have cascaded := shape.cascade_rule (fun done current =>
        (subject ∉ done → current.reliability subject =
          (graph.rated evaluator subject trust).reliability subject) ∧
        weight (graph.level evaluator) trust ≤ current.reliability subject)
        (shape.evaluatees_distinct subject) (fun _ member => member)
        ⟨fun _ => rfl, by rw [total]; exact Nat.le_add_left _ _⟩ ?_ outcome
      · exact cascaded.2.2.2
      · intro done account current shaped _ fresh _ holds _
        by_cases self : account = subject
        · subst self
          have taken := shaped.retracted_le account account
          have before := holds.1 fresh
          refine ⟨fun absent => absurd (List.mem_append_right done List.mem_cons_self) absent, ?_⟩
          rw [rated_reliability_self, before, total]
          omega
        · rw [rated_reliability_of_ne _ _ _ (Ne.symm self)]
          exact ⟨fun absent => holds.1 fun member => absent (List.mem_append_left _ member), holds.2⟩

/-- An account that evaluates itself ends with a contribution of its final level. -/
theorem WellFormed.evaluate_covered_self {graph final : TrustGraph Account}
    (formed : graph.WellFormed) {subject : Account} (nonzero : subject ≠ 0) {trust : Int}
    (valid : ValidTrust trust) (finished : graph.evaluate subject subject trust = some final) :
    final.contribution subject subject = weight (final.level subject) trust ∧
      weight (final.level subject) trust ≤ final.reliability subject := by
  have shape := formed.rated subject subject valid
  have total := graph.rated_reliability_self subject subject trust
  obtain ⟨covered, outcome⟩ := evaluate_eq_some.mp finished
  split at outcome
  · rename_i same
    rw [← outcome, ← same, rated_contribution_self, total]
    exact ⟨rfl, Nat.le_add_left _ _⟩
  · rename_i changed
    have near := formed.rated_near valid covered
    have listed : subject ∈ (graph.rated subject subject trust).evaluatees subject :=
      (graph.mem_rated_evaluatees subject subject subject subject trust).mpr (Or.inr ⟨rfl, rfl⟩)
    have cascaded := shape.cascade_rule (fun done current =>
      (subject ∉ done → current.reliability subject =
          (graph.rated subject subject trust).reliability subject ∧
        current.contribution subject subject = weight (graph.level subject) trust) ∧
      (subject ∈ done →
        current.contribution subject subject = weight (current.level subject) trust ∧
          weight (current.level subject) trust ≤ current.reliability subject))
      (shape.evaluatees_distinct subject) (fun _ member => member)
      ⟨fun _ => ⟨rfl, graph.rated_contribution_self subject subject trust⟩,
        fun member => absurd member List.not_mem_nil⟩ ?_ outcome
    · exact cascaded.2.2.2 listed
    · intro done account current shaped _ fresh _ holds enough
      by_cases self : account = subject
      · subst self
        obtain ⟨before, stored⟩ := holds.1 fresh
        rw [retracted_of_ne _ _ nonzero, stored, before] at enough
        rw [rated_trust_self, rated_contribution_self]
        have level : (current.rated account account trust).level account = current.level account := by
          have here : current.level account = (graph.rated account account trust).level account :=
            congrArg levelOf before
          rw [here, TrustGraph.level, rated_reliability_self, retracted_of_ne _ _ nonzero, stored,
            here, before]
          exact levelOf_refresh near.1 near.2 changed valid.toNat_le enough
        refine ⟨fun absent => absurd (List.mem_append_right done List.mem_cons_self) absent, ?_⟩
        intro _
        rw [level, rated_reliability_self]
        exact ⟨rfl, Nat.le_add_left _ _⟩
      · have other := Ne.symm self
        rw [rated_level_of_ne _ _ _ other, rated_reliability_of_ne _ _ _ other,
          (current.rated_record_of_subject_ne subject subject _ other).2]
        refine ⟨fun absent => holds.1 fun member => absent (List.mem_append_left _ member), ?_⟩
        intro member
        rcases List.mem_append.mp member with earlier | last
        · exact holds.2 earlier
        · exact absurd (List.mem_singleton.mp last) other

/-- The stored contribution follows the evaluator's final level unless the cascade changed it. -/
theorem WellFormed.evaluate_stored_iff {graph final : TrustGraph Account} (formed : graph.WellFormed)
    {evaluator subject : Account} (nonzero : subject ≠ 0) {trust : Int} (valid : ValidTrust trust)
    (finished : graph.evaluate evaluator subject trust = some final) :
    final.contribution subject evaluator = weight (final.level evaluator) trust ↔
      evaluator = subject ∨ trust = -1 ∨ final.level evaluator = graph.level evaluator := by
  by_cases self : evaluator = subject
  · subst self
    simp only [true_or, iff_true]
    exact (formed.evaluate_covered_self nonzero valid finished).1
  · have negative : trust ≤ 0 ↔ trust = -1 := by
      unfold ValidTrust at valid
      omega
    rw [(formed.evaluate_covered_of_ne self valid finished).1, weight_eq_iff, negative]
    simp only [self, false_or]
    rw [or_comm, eq_comm (a := graph.level evaluator)]

/-- After an evaluation the subject can lose the stored contribution again. -/
theorem WellFormed.evaluate_covered {graph final : TrustGraph Account} (formed : graph.WellFormed)
    {evaluator subject : Account} (nonzero : subject ≠ 0) {trust : Int} (valid : ValidTrust trust)
    (finished : graph.evaluate evaluator subject trust = some final) :
    final.contribution subject evaluator ≤ final.reliability subject := by
  by_cases self : evaluator = subject
  · subst self
    obtain ⟨stored, enough⟩ := formed.evaluate_covered_self nonzero valid finished
    rw [stored]
    exact enough
  · obtain ⟨stored, enough⟩ := formed.evaluate_covered_of_ne self valid finished
    rw [stored]
    exact enough

end

end Holonus.Abstract.TrustGraph
