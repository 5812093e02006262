/-
This file states the purpose of the reliability ledger.
Each evaluator contributes once to each account that it evaluates.
-/

import Holonus.Machine.FiniteTable
import Holonus.Machine.OrderedSet

namespace Holonus.Abstract

open Holonus.Machine

/-- One whole reliability level has eighteen decimals. -/
def unit : Nat := 10 ^ 18

/-- The whole-number level of a reliability stops at ten. -/
def levelOf (reliability : Nat) : Nat := min (reliability / unit) 10

/-- An evaluation weighs the evaluator's level by a positive trust value. -/
def weight (level : Nat) (trust : Int) : Nat := level * (trust.toNat * 10 ^ 16)

/-- The contract accepts these trust values. -/
def ValidTrust (trust : Int) : Prop := trust = -1 ∨ (1 ≤ trust ∧ trust ≤ 5)

instance (trust : Int) : Decidable (ValidTrust trust) :=
  inferInstanceAs (Decidable (_ ∨ _))

/-- No level is above ten. -/
theorem levelOf_le (reliability : Nat) : levelOf reliability ≤ 10 := Nat.min_le_right _ _

theorem ValidTrust.ne_zero {trust : Int} (valid : ValidTrust trust) : trust ≠ 0 := by
  unfold ValidTrust at valid
  omega

theorem ValidTrust.toNat_le {trust : Int} (valid : ValidTrust trust) : trust.toNat ≤ 5 := by
  unfold ValidTrust at valid
  omega

@[simp] theorem weight_zero_level (trust : Int) : weight 0 trust = 0 := Nat.zero_mul _

@[simp] theorem weight_zero_trust (level : Nat) : weight level 0 = 0 := by
  simp [weight]

/-- Distrust has no weight. -/
theorem weight_negative (level : Nat) : weight level (-1) = 0 := by
  simp [weight]

/-- One more level adds the weight of the trust. -/
theorem weight_succ (level : Nat) (trust : Int) :
    weight (level + 1) trust = weight level trust + trust.toNat * 10 ^ 16 := by
  rw [weight, weight, Nat.succ_mul]

/-- Different levels weigh equal only without positive trust. -/
theorem weight_eq_iff (left right : Nat) (trust : Int) :
    weight left trust = weight right trust ↔ left = right ∨ trust ≤ 0 := by
  have scale : trust.toNat * 10 ^ 16 = 0 ↔ trust ≤ 0 := by omega
  rw [weight, weight, mul_eq_mul_right_iff, scale]

/-- One evaluation contributes at most half of a level. -/
theorem weight_le {level : Nat} {trust : Int} (low : level ≤ 10) (small : trust.toNat ≤ 5) :
    weight level trust ≤ 5 * 10 ^ 17 := by
  have product := Nat.mul_le_mul low (Nat.mul_le_mul_right (10 ^ 16) small)
  unfold weight
  omega

/-- The graph stores each evaluation as a record and in two account lists. -/
@[ext] structure TrustGraph (Account : Type) where
  reliability : Account → Nat
  trust : Account → Account → Int
  contribution : Account → Account → Nat
  evaluators : Account → List Account
  evaluatees : Account → List Account

namespace TrustGraph

section
variable {Account : Type} [DecidableEq Account] [Zero Account]

def level (graph : TrustGraph Account) (account : Account) : Nat :=
  levelOf (graph.reliability account)

/-- The update withdraws the old contribution of every evaluator except account zero. -/
def retracted (graph : TrustGraph Account) (evaluator subject : Account) : Nat :=
  if evaluator = 0 then 0 else graph.contribution subject evaluator

/-- The rated graph replaces one contribution. -/
def rated (graph : TrustGraph Account) (evaluator subject : Account) (trust : Int) :
    TrustGraph Account where
  reliability := Function.update graph.reliability subject
    (graph.reliability subject - graph.retracted evaluator subject +
      weight (graph.level evaluator) trust)
  trust := writePair graph.trust subject evaluator trust
  contribution := writePair graph.contribution subject evaluator
    (weight (graph.level evaluator) trust)
  evaluators := Function.update graph.evaluators subject
    (addOnce (graph.evaluators subject) evaluator)
  evaluatees := Function.update graph.evaluatees evaluator
    (addOnce (graph.evaluatees evaluator) subject)

/-- A rating needs enough reliability to withdraw the old contribution. -/
def rate (graph : TrustGraph Account) (evaluator subject : Account) (trust : Int) :
    Option (TrustGraph Account) :=
  if graph.retracted evaluator subject ≤ graph.reliability subject then
    some (graph.rated evaluator subject trust)
  else none

/-- A refresh rates the listed accounts again with their stored trust values. -/
def refresh (graph : TrustGraph Account) (evaluator : Account) :
    List Account → Option (TrustGraph Account)
  | [] => some graph
  | subject :: rest =>
      (graph.rate evaluator subject (graph.trust subject evaluator)).bind fun next =>
        next.refresh evaluator rest

/-- An evaluation refreshes the subject's own evaluations when its level changes. -/
def evaluate (graph : TrustGraph Account) (evaluator subject : Account) (trust : Int) :
    Option (TrustGraph Account) :=
  (graph.rate evaluator subject trust).bind fun next =>
    if graph.level subject = next.level subject then some next
    else next.refresh subject (next.evaluatees subject)

/-- A rating succeeds exactly when the reliability covers what it retracts. -/
theorem rate_eq_some {graph next : TrustGraph Account} {evaluator subject : Account} {trust : Int} :
    graph.rate evaluator subject trust = some next ↔
      graph.retracted evaluator subject ≤ graph.reliability subject ∧
        next = graph.rated evaluator subject trust := by
  unfold rate
  split
  · rename_i covered
    simp [covered, eq_comm]
  · rename_i short
    simp [short]

/-- The subject of a rating loses what is retracted and gains the new weight. -/
theorem rated_reliability_self (graph : TrustGraph Account) (evaluator subject : Account)
    (trust : Int) :
    (graph.rated evaluator subject trust).reliability subject =
      graph.reliability subject - graph.retracted evaluator subject +
        weight (graph.level evaluator) trust := Function.update_self _ _ _

/-- A rating keeps the reliability of the other accounts. -/
theorem rated_reliability_of_ne (graph : TrustGraph Account) (evaluator : Account)
    {subject account : Account} (trust : Int) (different : account ≠ subject) :
    (graph.rated evaluator subject trust).reliability account = graph.reliability account :=
  Function.update_of_ne different _ _

/-- A rating keeps the level of the other accounts. -/
theorem rated_level_of_ne (graph : TrustGraph Account) (evaluator : Account)
    {subject account : Account} (trust : Int) (different : account ≠ subject) :
    (graph.rated evaluator subject trust).level account = graph.level account :=
  congrArg levelOf (graph.rated_reliability_of_ne evaluator trust different)

@[simp] theorem rated_trust_self (graph : TrustGraph Account) (evaluator subject : Account)
    (trust : Int) : (graph.rated evaluator subject trust).trust subject evaluator = trust :=
  writePair_self _ _ _ _

@[simp] theorem rated_contribution_self (graph : TrustGraph Account) (evaluator subject : Account)
    (trust : Int) :
    (graph.rated evaluator subject trust).contribution subject evaluator =
      weight (graph.level evaluator) trust := writePair_self _ _ _ _

/-- A rating changes the records of its evaluator only. -/
theorem rated_record_of_evaluator_ne (graph : TrustGraph Account) {evaluator other : Account}
    (subject account : Account) (trust : Int) (different : other ≠ evaluator) :
    (graph.rated evaluator subject trust).trust account other = graph.trust account other ∧
      (graph.rated evaluator subject trust).contribution account other =
        graph.contribution account other :=
  ⟨writePair_of_column_ne _ _ _ _ different, writePair_of_column_ne _ _ _ _ different⟩

/-- A rating changes the records about its subject only. -/
theorem rated_record_of_subject_ne (graph : TrustGraph Account) {subject account : Account}
    (evaluator other : Account) (trust : Int) (different : account ≠ subject) :
    (graph.rated evaluator subject trust).trust account other = graph.trust account other ∧
      (graph.rated evaluator subject trust).contribution account other =
        graph.contribution account other :=
  ⟨congrFun (writePair_of_row_ne _ _ _ different) other,
    congrFun (writePair_of_row_ne _ _ _ different) other⟩

/-- A rating changes the trust of its own pair alone. -/
theorem rated_trust (graph : TrustGraph Account) (evaluator subject account other : Account)
    (trust : Int) :
    (graph.rated evaluator subject trust).trust account other =
      if account = subject ∧ other = evaluator then trust else graph.trust account other := by
  split
  · rename_i same
    rw [same.1, same.2, rated_trust_self]
  · rename_i different
    by_cases column : other = evaluator
    · exact (graph.rated_record_of_subject_ne evaluator other trust
        fun row => different ⟨row, column⟩).1
    · exact (graph.rated_record_of_evaluator_ne subject account trust column).1

/-- A rating changes the contribution of its own pair alone. -/
theorem rated_contribution (graph : TrustGraph Account) (evaluator subject account other : Account)
    (trust : Int) :
    (graph.rated evaluator subject trust).contribution account other =
      if account = subject ∧ other = evaluator then weight (graph.level evaluator) trust
      else graph.contribution account other := by
  split
  · rename_i same
    rw [same.1, same.2, rated_contribution_self]
  · rename_i different
    by_cases column : other = evaluator
    · exact (graph.rated_record_of_subject_ne evaluator other trust
        fun row => different ⟨row, column⟩).2
    · exact (graph.rated_record_of_evaluator_ne subject account trust column).2

/-- A rating adds its evaluator to the evaluators of its subject. -/
theorem mem_rated_evaluators (graph : TrustGraph Account) (evaluator subject account other : Account)
    (trust : Int) :
    other ∈ (graph.rated evaluator subject trust).evaluators account ↔
      other ∈ graph.evaluators account ∨ (account = subject ∧ other = evaluator) := by
  by_cases same : account = subject
  · subst same
    simp [rated]
  · simp [rated, same]

/-- A rating adds its subject to the evaluatees of its evaluator. -/
theorem mem_rated_evaluatees (graph : TrustGraph Account) (evaluator subject account other : Account)
    (trust : Int) :
    account ∈ (graph.rated evaluator subject trust).evaluatees other ↔
      account ∈ graph.evaluatees other ∨ (account = subject ∧ other = evaluator) := by
  by_cases same : other = evaluator
  · subst same
    simp [rated]
  · simp [rated, same]

end

end TrustGraph

end Holonus.Abstract
