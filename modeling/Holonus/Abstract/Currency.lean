/-
This file proves which evaluations keep the contributions of an account up to date.
-/

import Holonus.Abstract.Contribution

namespace Holonus.Abstract

/-- One replaced contribution moves a reliability by less than one level. -/
theorem levelOf_step {before after : Nat} (up : after ≤ before + 5 * 10 ^ 17)
    (down : before ≤ after + 5 * 10 ^ 17) :
    levelOf after ≤ levelOf before + 1 ∧ levelOf before ≤ levelOf after + 1 := by
  unfold levelOf unit
  omega

/-- The refresh of an account's own evaluation stays within the new level. -/
theorem levelOf_refresh {before after : Nat} {trust : Int} (up : after ≤ before + 5 * 10 ^ 17)
    (down : before ≤ after + 5 * 10 ^ 17) (changed : levelOf before ≠ levelOf after)
    (small : trust.toNat ≤ 5) (covered : weight (levelOf before) trust ≤ after) :
    levelOf (after - weight (levelOf before) trust + weight (levelOf after) trust) =
      levelOf after := by
  obtain ⟨above, below⟩ := levelOf_step up down
  rcases Nat.lt_or_gt_of_ne changed with raised | lowered
  · have next : levelOf after = levelOf before + 1 := by omega
    have more := weight_succ (levelOf before) trust
    rw [← next] at more
    rw [more]
    unfold levelOf unit at *
    omega
  · have next : levelOf before = levelOf after + 1 := by omega
    have more := weight_succ (levelOf after) trust
    rw [← next] at more
    rw [more] at covered ⊢
    unfold levelOf unit at *
    omega

namespace TrustGraph

section
variable {Account : Type} [DecidableEq Account] [Zero Account]

/-- The stored contributions of an evaluator follow its present level. -/
def Current (graph : TrustGraph Account) (evaluator : Account) : Prop :=
  ∀ subject, graph.contribution subject evaluator =
    weight (graph.level evaluator) (graph.trust subject evaluator)

/-- A rating leaves the contributions of an account at its old level. -/
theorem Current.rated {graph : TrustGraph Account} {account : Account}
    (current : graph.Current account) (evaluator subject : Account) (trust : Int)
    (holder : Account) :
    (graph.rated evaluator subject trust).contribution holder account =
      weight (graph.level account) ((graph.rated evaluator subject trust).trust holder account) := by
  rw [rated_contribution, rated_trust]
  split
  · rename_i same
    rw [same.2]
  · exact current holder

/-- An evaluation of another account leaves the contributions at the old level. -/
theorem Current.evaluate_other {graph final : TrustGraph Account} {account : Account}
    (current : graph.Current account) {evaluator subject : Account} {trust : Int}
    (other : subject ≠ account) (finished : graph.evaluate evaluator subject trust = some final)
    (holder : Account) :
    final.contribution holder account =
      weight (graph.level account) (final.trust holder account) := by
  revert holder
  refine evaluate_rule (fun next => ∀ holder, next.contribution holder account =
    weight (graph.level account) (next.trust holder account))
    (fun _ => current.rated evaluator subject trust) ?_ finished
  intro next listed holds _ _ holder
  have record := next.rated_record_of_evaluator_ne listed holder (next.trust listed subject)
    (Ne.symm other)
  rw [record.1, record.2]
  exact holds holder

/-- A rating retracts at most half a unit. -/
theorem WellFormed.retracted_le {graph : TrustGraph Account} (formed : graph.WellFormed)
    (evaluator subject : Account) : graph.retracted evaluator subject ≤ 5 * 10 ^ 17 := by
  rw [retracted]
  split
  · exact Nat.zero_le _
  · exact formed.contribution_le subject evaluator

/-- A first rating moves the reliability of its subject by at most half of a level. -/
theorem WellFormed.rated_near {graph : TrustGraph Account} (formed : graph.WellFormed)
    {evaluator subject : Account} {trust : Int} (valid : ValidTrust trust)
    (covered : graph.retracted evaluator subject ≤ graph.reliability subject) :
    (graph.rated evaluator subject trust).reliability subject ≤
        graph.reliability subject + 5 * 10 ^ 17 ∧
      graph.reliability subject ≤
        (graph.rated evaluator subject trust).reliability subject + 5 * 10 ^ 17 := by
  have added := weight_le (levelOf_le (graph.reliability evaluator)) valid.toNat_le
  have removed := formed.retracted_le evaluator subject
  rw [rated_reliability_self, level]
  omega

/-- The cascade keeps the new level and brings each finished contribution to it. -/
structure Refreshed (graph middle : TrustGraph Account) (account : Account) (done : List Account)
    (next : TrustGraph Account) : Prop where
  level : next.level account = middle.level account
  ready : ∀ holder ∈ done, next.contribution holder account =
    weight (middle.level account) (middle.trust holder account)
  waiting : ∀ holder, holder ∉ done → next.contribution holder account =
    weight (graph.level account) (middle.trust holder account)
  untouched : account ∉ done → next.reliability account = middle.reliability account

/-- One more rating of the cascade does not change the level again. -/
theorem Refreshed.rated {graph middle next : TrustGraph Account} {account : Account}
    {done : List Account} (refreshed : Refreshed graph middle account done next)
    (nonzero : account ≠ 0) (shaped : middle.WellFormed)
    (up : middle.reliability account ≤ graph.reliability account + 5 * 10 ^ 17)
    (down : graph.reliability account ≤ middle.reliability account + 5 * 10 ^ 17)
    (changed : graph.level account ≠ middle.level account) {subject : Account}
    (fresh : subject ∉ done)
    (covered : next.retracted account subject ≤ next.reliability subject) :
    Refreshed graph middle account (done ++ [subject])
      (next.rated account subject (middle.trust subject account)) where
  level := by
    by_cases self : subject = account
    · subst self
      have reliability := refreshed.untouched fresh
      have stored := refreshed.waiting subject fresh
      rw [retracted_of_ne _ _ nonzero, stored, reliability] at covered
      rw [TrustGraph.level, rated_reliability_self, retracted_of_ne _ _ nonzero, stored,
        refreshed.level, reliability]
      exact levelOf_refresh up down changed (shaped.trust_toNat_le subject subject) covered
    · rw [rated_level_of_ne _ _ _ (Ne.symm self)]
      exact refreshed.level
  ready := by
    intro holder member
    rw [rated_contribution]
    split
    · rename_i here
      rw [here.1, refreshed.level]
    · rename_i elsewhere
      rcases List.mem_append.mp member with before | last
      · exact refreshed.ready holder before
      · exact absurd ⟨List.mem_singleton.mp last, rfl⟩ elsewhere
  waiting := by
    intro holder absent
    have different : holder ≠ subject := by
      intro equal
      exact absent (by simp [equal])
    rw [(next.rated_record_of_subject_ne account account _ different).2]
    exact refreshed.waiting holder fun member => absent (List.mem_append_left _ member)
  untouched := by
    intro absent
    have different : account ≠ subject := by
      intro equal
      exact absent (by simp [equal])
    rw [rated_reliability_of_ne _ _ _ different]
    exact refreshed.untouched fun member => absent (List.mem_append_left _ member)

/-- Every part of the cascade keeps the level that the first rating reached. -/
theorem Current.refresh_rated {graph final : TrustGraph Account} (formed : graph.WellFormed)
    {account : Account} (nonzero : account ≠ 0) (current : graph.Current account)
    {evaluator : Account} {trust : Int} (valid : ValidTrust trust)
    (covered : graph.retracted evaluator account ≤ graph.reliability account)
    (changed : graph.level account ≠ (graph.rated evaluator account trust).level account)
    {subjects : List Account} (distinct : subjects.Nodup)
    (within : ∀ subject ∈ subjects,
      subject ∈ (graph.rated evaluator account trust).evaluatees account)
    (finished : (graph.rated evaluator account trust).refresh account subjects = some final) :
    (graph.rated evaluator account trust).SameEvaluations final ∧
      Refreshed graph (graph.rated evaluator account trust) account subjects final := by
  have shaped := formed.rated evaluator account valid
  have near := formed.rated_near valid covered
  have start : Refreshed graph (graph.rated evaluator account trust) account []
      (graph.rated evaluator account trust) :=
    ⟨rfl, fun holder member => absurd member List.not_mem_nil,
      fun holder _ => current.rated evaluator account trust holder, fun _ => rfl⟩
  have cascaded := shaped.cascade_rule
    (Refreshed graph (graph.rated evaluator account trust) account) distinct within start ?_ finished
  · exact cascaded.2
  · intro done subject next _ _ fresh _ refreshed enough
    exact refreshed.rated nonzero shaped near.1 near.2 changed fresh enough

/-- The whole evaluation keeps the level that the first rating reached. -/
theorem Current.evaluate_level {graph final : TrustGraph Account} (formed : graph.WellFormed)
    {account : Account} (nonzero : account ≠ 0) (current : graph.Current account)
    {evaluator : Account} {trust : Int} (valid : ValidTrust trust)
    (finished : graph.evaluate evaluator account trust = some final) :
    final.level account = (graph.rated evaluator account trust).level account := by
  obtain ⟨covered, outcome⟩ := evaluate_eq_some.mp finished
  split at outcome
  · rw [← outcome]
  · rename_i changed
    have shaped := formed.rated evaluator account valid
    exact (current.refresh_rated formed nonzero valid covered changed
      (shaped.evaluatees_distinct account) (fun _ member => member) outcome).2.level

/-- An evaluation of the account itself brings all its contributions to the new level. -/
theorem Current.evaluate_self {graph final : TrustGraph Account} (formed : graph.WellFormed)
    {account : Account} (nonzero : account ≠ 0) (current : graph.Current account)
    {evaluator : Account} {trust : Int} (valid : ValidTrust trust)
    (finished : graph.evaluate evaluator account trust = some final) : final.Current account := by
  obtain ⟨covered, outcome⟩ := evaluate_eq_some.mp finished
  have shaped := formed.rated evaluator account valid
  intro holder
  split at outcome
  · rename_i same
    rw [← outcome, current.rated, same]
  · rename_i changed
    obtain ⟨same, refreshed⟩ := current.refresh_rated formed nonzero valid covered changed
      (shaped.evaluatees_distinct account) (fun _ member => member) outcome
    rw [refreshed.level, same.trust]
    by_cases listed : holder ∈ (graph.rated evaluator account trust).evaluatees account
    · exact refreshed.ready holder listed
    · have absent : (graph.rated evaluator account trust).trust holder account = 0 := by
        by_contra stored
        exact listed ((shaped.evaluatee_iff holder account).mpr stored)
      rw [refreshed.waiting holder listed, absent, weight_zero_trust, weight_zero_trust]

end

end TrustGraph

end Holonus.Abstract
