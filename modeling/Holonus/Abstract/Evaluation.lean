/-
This file proves the rules for whole evaluations and the shape of every evaluated graph.
-/

import Holonus.Abstract.TrustGraph

namespace Holonus.Abstract.TrustGraph

open Holonus.Machine

section
variable {Account : Type}

/-- The two lists and the records describe the same evaluations. -/
structure WellFormed (graph : TrustGraph Account) : Prop where
  evaluator_iff : ∀ subject evaluator,
    evaluator ∈ graph.evaluators subject ↔ graph.trust subject evaluator ≠ 0
  evaluatee_iff : ∀ subject evaluator,
    subject ∈ graph.evaluatees evaluator ↔ graph.trust subject evaluator ≠ 0
  evaluators_distinct : ∀ subject, (graph.evaluators subject).Nodup
  evaluatees_distinct : ∀ evaluator, (graph.evaluatees evaluator).Nodup
  trust_valid : ∀ subject evaluator, graph.trust subject evaluator ≠ 0 →
    ValidTrust (graph.trust subject evaluator)
  contribution_form : ∀ subject evaluator, ∃ level ≤ 10,
    graph.contribution subject evaluator = weight level (graph.trust subject evaluator)

/-- An absent evaluation contributes nothing. -/
theorem WellFormed.contribution_of_absent {graph : TrustGraph Account} (formed : graph.WellFormed)
    {subject evaluator : Account} (absent : graph.trust subject evaluator = 0) :
    graph.contribution subject evaluator = 0 := by
  obtain ⟨level, -, form⟩ := formed.contribution_form subject evaluator
  rw [form, absent, weight_zero_trust]

/-- No trust is above five. -/
theorem WellFormed.trust_toNat_le {graph : TrustGraph Account} (formed : graph.WellFormed)
    (subject evaluator : Account) : (graph.trust subject evaluator).toNat ≤ 5 := by
  by_cases absent : graph.trust subject evaluator = 0
  · rw [absent]
    decide
  · exact (formed.trust_valid subject evaluator absent).toNat_le

/-- No contribution is above half a unit. -/
theorem WellFormed.contribution_le {graph : TrustGraph Account} (formed : graph.WellFormed)
    (subject evaluator : Account) : graph.contribution subject evaluator ≤ 5 * 10 ^ 17 := by
  obtain ⟨level, low, form⟩ := formed.contribution_form subject evaluator
  rw [form]
  exact weight_le low (formed.trust_toNat_le subject evaluator)

/-- A listed account has an accepted stored trust value. -/
theorem WellFormed.valid_of_listed {graph : TrustGraph Account} (formed : graph.WellFormed)
    {subject evaluator : Account} (listed : subject ∈ graph.evaluatees evaluator) :
    ValidTrust (graph.trust subject evaluator) :=
  formed.trust_valid _ _ ((formed.evaluatee_iff _ _).mp listed)

end

section
variable {Account : Type} [DecidableEq Account] [Zero Account]

/-- A property that each refresh step extends by one account holds for the whole list. -/
theorem refresh_rule (Holds : List Account → TrustGraph Account → Prop)
    {graph final : TrustGraph Account} {evaluator : Account} {subjects : List Account}
    (start : Holds [] graph)
    (extend : ∀ done subject rest current, done ++ subject :: rest = subjects →
      Holds done current →
      current.retracted evaluator subject ≤ current.reliability subject →
      Holds (done ++ [subject])
        (current.rated evaluator subject (current.trust subject evaluator)))
    (finished : graph.refresh evaluator subjects = some final) : Holds subjects final := by
  have tail (rest : List Account) : ∀ done current, done ++ rest = subjects → Holds done current →
      current.refresh evaluator rest = some final → Holds subjects final := by
    induction rest with
    | nil =>
        intro done current split holds finished
        rw [List.append_nil] at split
        rw [refresh, Option.some.injEq] at finished
        rw [← split, ← finished]
        exact holds
    | cons subject rest ih =>
        intro done current split holds finished
        rw [refresh, Option.bind_eq_some_iff] at finished
        obtain ⟨next, rated, finished⟩ := finished
        obtain ⟨covered, same⟩ := rate_eq_some.mp rated
        subst same
        apply ih (done ++ [subject]) _ _ _ finished
        · rw [List.append_assoc, List.singleton_append]
          exact split
        · exact extend done subject rest current split holds covered
  exact tail subjects [] graph rfl start finished

/-- An evaluation is a rating, followed by a cascade when the level of the subject changes. -/
theorem evaluate_eq_some {graph final : TrustGraph Account} {evaluator subject : Account}
    {trust : Int} :
    graph.evaluate evaluator subject trust = some final ↔
      graph.retracted evaluator subject ≤ graph.reliability subject ∧
        if graph.level subject = (graph.rated evaluator subject trust).level subject then
          graph.rated evaluator subject trust = final
        else (graph.rated evaluator subject trust).refresh subject
          ((graph.rated evaluator subject trust).evaluatees subject) = some final := by
  unfold evaluate
  rw [Option.bind_eq_some_iff]
  constructor
  · intro succeeded
    obtain ⟨next, rated, finished⟩ := succeeded
    obtain ⟨covered, same⟩ := rate_eq_some.mp rated
    subst same
    refine ⟨covered, ?_⟩
    split at finished <;> simp_all
  · intro facts
    refine ⟨graph.rated evaluator subject trust, rate_eq_some.mpr ⟨facts.1, rfl⟩, ?_⟩
    split <;> simp_all

/-- A property that each rating keeps holds after the whole evaluation. -/
theorem evaluate_rule (Holds : TrustGraph Account → Prop) {graph final : TrustGraph Account}
    {evaluator subject : Account} {trust : Int}
    (first : graph.retracted evaluator subject ≤ graph.reliability subject →
      Holds (graph.rated evaluator subject trust))
    (again : ∀ current account, Holds current → account ∈ current.evaluatees subject →
      current.retracted subject account ≤ current.reliability account →
      Holds (current.rated subject account (current.trust account subject)))
    (finished : graph.evaluate evaluator subject trust = some final) : Holds final := by
  obtain ⟨covered, outcome⟩ := evaluate_eq_some.mp finished
  split at outcome
  · rw [← outcome]
    exact first covered
  · have kept : Holds final ∧ ∀ account ∈ (graph.rated evaluator subject trust).evaluatees subject,
        account ∈ final.evaluatees subject := by
      refine refresh_rule (fun _ current => Holds current ∧
        ∀ account ∈ (graph.rated evaluator subject trust).evaluatees subject,
          account ∈ current.evaluatees subject) ⟨first covered, fun _ member => member⟩ ?_ outcome
      intro done account rest current split holds enough
      have listed : account ∈ (graph.rated evaluator subject trust).evaluatees subject := by
        rw [← split]
        simp
      refine ⟨again current account holds.1 (holds.2 account listed) enough, ?_⟩
      intro other member
      exact (current.mem_rated_evaluatees subject account other subject _).mpr
        (Or.inl (holds.2 other member))
    exact kept.1

/-- A rating with an accepted trust value keeps the three copies equal. -/
theorem WellFormed.rated {graph : TrustGraph Account} (formed : graph.WellFormed)
    (evaluator subject : Account) {trust : Int} (valid : ValidTrust trust) :
    (graph.rated evaluator subject trust).WellFormed where
  evaluator_iff account other := by
    rw [mem_rated_evaluators, rated_trust, formed.evaluator_iff]
    split
    · rename_i same
      simp [same, valid.ne_zero]
    · rename_i different
      simp [different]
  evaluatee_iff account other := by
    rw [mem_rated_evaluatees, rated_trust, formed.evaluatee_iff]
    split
    · rename_i same
      simp [same, valid.ne_zero]
    · rename_i different
      simp [different]
  evaluators_distinct account := by
    by_cases same : account = subject
    · subst same
      simpa [TrustGraph.rated] using nodup_addOnce (formed.evaluators_distinct account) evaluator
    · simpa [TrustGraph.rated, same] using formed.evaluators_distinct account
  evaluatees_distinct other := by
    by_cases same : other = evaluator
    · subst same
      simpa [TrustGraph.rated] using nodup_addOnce (formed.evaluatees_distinct other) subject
    · simpa [TrustGraph.rated, same] using formed.evaluatees_distinct other
  trust_valid account other := by
    rw [rated_trust]
    split
    · exact fun _ => valid
    · exact formed.trust_valid account other
  contribution_form account other := by
    rw [rated_trust, rated_contribution]
    split
    · exact ⟨graph.level evaluator, levelOf_le _, rfl⟩
    · exact formed.contribution_form account other

/-- An evaluation keeps the graph well formed. -/
theorem WellFormed.evaluate {graph final : TrustGraph Account} (formed : graph.WellFormed)
    {evaluator subject : Account} {trust : Int} (valid : ValidTrust trust)
    (finished : graph.evaluate evaluator subject trust = some final) : final.WellFormed := by
  refine evaluate_rule WellFormed (fun _ => formed.rated evaluator subject valid) ?_ finished
  intro current account kept listed _
  exact kept.rated subject account (kept.valid_of_listed listed)

/-- Both graphs list the same evaluations with the same trust values. -/
structure SameEvaluations (graph next : TrustGraph Account) : Prop where
  trust : next.trust = graph.trust
  evaluators : next.evaluators = graph.evaluators
  evaluatees : next.evaluatees = graph.evaluatees

/-- A repeated rating with the stored trust value changes no evaluation. -/
theorem WellFormed.rated_stored {graph : TrustGraph Account} (formed : graph.WellFormed)
    {evaluator subject : Account} (listed : subject ∈ graph.evaluatees evaluator) :
    graph.SameEvaluations (graph.rated evaluator subject (graph.trust subject evaluator)) where
  trust := by
    funext account other
    rw [rated_trust]
    split
    · rename_i same
      rw [same.1, same.2]
    · rfl
  evaluators := by
    have member : evaluator ∈ graph.evaluators subject :=
      (formed.evaluator_iff _ _).mpr ((formed.evaluatee_iff _ _).mp listed)
    simp only [TrustGraph.rated, addOnce_of_mem member, Function.update_eq_self]
  evaluatees := by
    simp only [TrustGraph.rated, addOnce_of_mem listed, Function.update_eq_self]

/-- A property that each repeated rating extends by a new account holds after the ratings. -/
theorem WellFormed.cascade_rule {graph final : TrustGraph Account} (formed : graph.WellFormed)
    (Holds : List Account → TrustGraph Account → Prop) {evaluator : Account}
    {subjects : List Account} (distinct : subjects.Nodup)
    (within : ∀ subject ∈ subjects, subject ∈ graph.evaluatees evaluator)
    (start : Holds [] graph)
    (extend : ∀ done subject current, current.WellFormed → graph.SameEvaluations current →
      subject ∉ done → subject ∈ graph.evaluatees evaluator → Holds done current →
      current.retracted evaluator subject ≤ current.reliability subject →
      Holds (done ++ [subject])
        (current.rated evaluator subject (graph.trust subject evaluator)))
    (finished : graph.refresh evaluator subjects = some final) :
    final.WellFormed ∧ graph.SameEvaluations final ∧ Holds subjects final := by
  refine refresh_rule (fun done current => current.WellFormed ∧ graph.SameEvaluations current ∧
    Holds done current) ⟨formed, ⟨rfl, rfl, rfl⟩, start⟩ ?_ finished
  intro done subject rest current split holds covered
  obtain ⟨shaped, same, holds⟩ := holds
  have listed : subject ∈ graph.evaluatees evaluator := by
    apply within
    rw [← split]
    simp
  rw [← split, List.nodup_append] at distinct
  have fresh : subject ∉ done := by
    intro member
    exact distinct.2.2 subject member subject List.mem_cons_self rfl
  have still : subject ∈ current.evaluatees evaluator := by
    rw [same.evaluatees]
    exact listed
  have next := shaped.rated_stored still
  refine ⟨shaped.rated evaluator subject (shaped.valid_of_listed still),
    ⟨next.trust.trans same.trust, next.evaluators.trans same.evaluators,
      next.evaluatees.trans same.evaluatees⟩, ?_⟩
  rw [same.trust]
  exact extend done subject current shaped same fresh listed holds covered

end

end Holonus.Abstract.TrustGraph
