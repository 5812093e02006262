/-
This file proves that accounts without a whole level cannot raise each other.
-/

import Holonus.Abstract.Evaluation

namespace Holonus.Abstract

/-- A reliability below the unit has level zero. -/
theorem levelOf_eq_zero {reliability : Nat} (low : reliability < unit) : levelOf reliability = 0 := by
  rw [levelOf, Nat.div_eq_of_lt low]
  rfl

namespace TrustGraph

section
variable {Account : Type} [DecidableEq Account] [Zero Account]

/-- Only members evaluate members, and no member contributes to any account. -/
structure Isolated (graph : TrustGraph Account) (members : Set Account) (seeds : Account → Nat) :
    Prop where
  reliability : ∀ account ∈ members, graph.reliability account = seeds account
  closed : ∀ subject ∈ members, ∀ evaluator, graph.trust subject evaluator ≠ 0 → evaluator ∈ members
  silent : ∀ evaluator ∈ members, ∀ subject, graph.contribution subject evaluator = 0

variable {members : Set Account} {seeds : Account → Nat}

omit [DecidableEq Account] [Zero Account] in
/-- Isolated accounts with low seeds have level zero. -/
theorem Isolated.level_eq_zero {graph : TrustGraph Account} (isolated : graph.Isolated members seeds)
    (low : ∀ account ∈ members, seeds account < unit) {account : Account}
    (member : account ∈ members) : graph.level account = 0 := by
  rw [level, isolated.reliability account member]
  exact levelOf_eq_zero (low account member)

/-- A rating that does not enter from outside keeps the members isolated. -/
theorem Isolated.rated {graph : TrustGraph Account} (isolated : graph.Isolated members seeds)
    (low : ∀ account ∈ members, seeds account < unit) {evaluator subject : Account} (trust : Int)
    (inside : subject ∈ members → evaluator ∈ members) :
    (graph.rated evaluator subject trust).Isolated members seeds where
  reliability account member := by
    by_cases same : account = subject
    · subst same
      have silent := isolated.silent evaluator (inside member) account
      have level := isolated.level_eq_zero low (inside member)
      rw [rated_reliability_self, retracted, silent, ite_self, level, weight_zero_level,
        Nat.sub_zero, Nat.add_zero]
      exact isolated.reliability account member
    · rw [rated_reliability_of_ne _ _ _ same]
      exact isolated.reliability account member
  closed account member other stored := by
    rw [rated_trust] at stored
    split at stored
    · rename_i here
      rw [here.2]
      exact inside (here.1 ▸ member)
    · exact isolated.closed account member other stored
  silent other member account := by
    rw [rated_contribution]
    split
    · rename_i here
      rw [← here.2, isolated.level_eq_zero low member, weight_zero_level]
    · exact isolated.silent other member account

/-- An evaluation that does not enter from outside keeps the members isolated. -/
theorem Isolated.evaluate {graph final : TrustGraph Account} (isolated : graph.Isolated members seeds)
    (formed : graph.WellFormed) (low : ∀ account ∈ members, seeds account < unit)
    {evaluator subject : Account} {trust : Int} (valid : ValidTrust trust)
    (inside : subject ∈ members → evaluator ∈ members)
    (finished : graph.evaluate evaluator subject trust = some final) :
    final.Isolated members seeds := by
  have kept := evaluate_rule (fun current => current.WellFormed ∧ current.Isolated members seeds)
    (fun _ => ⟨formed.rated evaluator subject valid, isolated.rated low trust inside⟩) ?_ finished
  · exact kept.2
  · intro current account holds listed _
    obtain ⟨shaped, apart⟩ := holds
    refine ⟨shaped.rated subject account (shaped.valid_of_listed listed), apart.rated low _ ?_⟩
    intro member
    exact apart.closed account member subject ((shaped.evaluatee_iff account subject).mp listed)

end

end TrustGraph

end Holonus.Abstract
