/-
This file proves that reliability consists of a seed and of the evaluators' contributions.
-/

import Holonus.Abstract.Contribution
import Holonus.Proof.Coin.Reachable

namespace Holonus.Coin

open Holonus.Machine Holonus.Abstract

def Call.isEvaluation : Call → Bool
  | .callEvaluateReliability _ _ _ => true
  | _ => false

def Call.isSetting : Call → Bool
  | .setReliability _ _ => true
  | _ => false

/-- The call evaluates the subject. -/
def Call.evaluates (subject : Address) : Call → Bool
  | .callEvaluateReliability _ sender _ => sender = subject
  | _ => false

/-- The call sets the reliability of the subject. -/
def Call.seeds (subject : Address) : Call → Bool
  | .setReliability owner _ => owner = subject
  | _ => false

/-- An evaluation names two accounts other than account zero. -/
def Call.namesNonzero : Call → Bool
  | .callEvaluateReliability owner sender _ => owner ≠ 0 ∧ sender ≠ 0
  | _ => true

/-- The last accepted setting of an account is its seed. -/
def Call.reseed (subject : Address) (seed : Nat) : Call → Nat
  | .setReliability owner reliability => if owner = subject then reliability.toNat else seed
  | _ => seed

def seed (subject : Address) (past : List (System × Transaction)) : Nat :=
  past.foldl (fun value entry => entry.2.call.reseed subject value) 0

/-- No setting of the subject follows an evaluation of the subject. -/
def SeededFirst (subject : Address) (past : List (System × Transaction)) : Prop :=
  past.Pairwise fun earlier later => earlier.2.call.evaluates subject → ¬ later.2.call.seeds subject

instance (subject : Address) (past : List (System × Transaction)) :
    Decidable (SeededFirst subject past) := inferInstanceAs (Decidable (List.Pairwise _ _))

/-- All settings precede the first evaluation. -/
def SettingsFirst (past : List (System × Transaction)) : Prop :=
  past.Pairwise fun earlier later => earlier.2.call.isEvaluation → ¬ later.2.call.isSetting

instance (past : List (System × Transaction)) : Decidable (SettingsFirst past) :=
  inferInstanceAs (Decidable (List.Pairwise _ _))

/-- A call that evaluates a subject is an evaluation. -/
theorem Call.isEvaluation_of_evaluates {subject : Address} {call : Call}
    (evaluates : call.evaluates subject) : call.isEvaluation := by
  cases call with
  | callEvaluateReliability owner sender trustworthy => rfl
  | _ => exact absurd evaluates Bool.false_ne_true

/-- A call that seeds a subject is a setting. -/
theorem Call.isSetting_of_seeds {subject : Address} {call : Call} (seeds : call.seeds subject) :
    call.isSetting := by
  cases call with
  | setReliability owner reliability => rfl
  | _ => exact absurd seeds Bool.false_ne_true

/-- Where all settings come first, every subject is seeded first. -/
theorem SettingsFirst.seededFirst {past : List (System × Transaction)} (ordered : SettingsFirst past)
    (subject : Address) : SeededFirst subject past := by
  refine List.Pairwise.imp ?_ ordered
  intro earlier later apart evaluated sets
  exact apart (Call.isEvaluation_of_evaluates evaluated) (Call.isSetting_of_seeds sets)

/-- An accepted evaluation withdraws every contribution that it replaces. -/
def Withdrawing (entry : System × Transaction) : Prop :=
  match entry.2.call with
  | .callEvaluateReliability owner sender trustworthy =>
      entry.1.graph.Withdraws owner sender trustworthy
  | _ => True

/-- A call that names no zero address withdraws. -/
theorem withdrawing_of_nonzero {entry : System × Transaction}
    (nonzero : entry.2.call.namesNonzero) : Withdrawing entry := by
  obtain ⟨system, msgSender, call⟩ := entry
  cases call with
  | callEvaluateReliability owner sender trustworthy =>
      have names : owner ≠ 0 ∧ sender ≠ 0 := of_decide_eq_true nonzero
      exact system.graph.withdraws_of_ne trustworthy names.1 names.2
  | _ => trivial

/-- A call that does not seed the subject keeps its seed. -/
theorem reseed_of_not_seeds {subject : Address} {call : Call} (other : ¬ call.seeds subject)
    (value : Nat) : call.reseed subject value = value := by
  cases call with
  | setReliability owner reliability =>
      have different : owner ≠ subject := fun same => other (decide_eq_true same)
      exact if_neg different
  | _ => rfl

/-- The last entry reseeds what the earlier ones seeded. -/
theorem seed_append (subject : Address) (past : List (System × Transaction))
    (entry : System × Transaction) :
    seed subject (past ++ [entry]) = entry.2.call.reseed subject (seed subject past) := by
  simp only [seed, List.foldl_append, List.foldl_cons, List.foldl_nil]

/-- Only a setting of the subject changes its discrepancy. -/
theorem System.Refines.keeps_discrepancy {system next : System} {transaction : Transaction}
    (refines : system.Refines transaction next) (formed : system.graph.WellFormed)
    (withdrawing : Withdrawing (system, transaction)) {subject : Address}
    (other : ¬ transaction.call.seeds subject) :
    next.graph.discrepancy subject = system.graph.discrepancy subject := by
  obtain ⟨msgSender, call⟩ := transaction
  have effect := refines.graph
  cases call with
  | setReliability owner reliability =>
      have different : subject ≠ owner := fun same => other (decide_eq_true same.symm)
      change next.graph = _ at effect
      rw [effect]
      exact TrustGraph.discrepancy_of_same (Function.update_of_ne different _ _) rfl rfl
  | callEvaluateReliability owner sender trustworthy =>
      exact formed.evaluate_keeps_discrepancy effect.1 withdrawing effect.2 subject
  | _ =>
      change next.graph = _ at effect
      rw [effect]

/-- A call that does not evaluate the subject keeps its list of evaluators. -/
theorem System.Refines.keeps_evaluators {system next : System} {transaction : Transaction}
    (refines : system.Refines transaction next) (formed : system.graph.WellFormed)
    {subject : Address} (other : ¬ transaction.call.evaluates subject) :
    next.graph.evaluators subject = system.graph.evaluators subject := by
  obtain ⟨msgSender, call⟩ := transaction
  have effect := refines.graph
  cases call with
  | callEvaluateReliability owner sender trustworthy =>
      have different : subject ≠ sender := fun same => other (decide_eq_true same.symm)
      rw [(formed.evaluate_evaluations effect.1 effect.2).evaluators]
      exact Function.update_of_ne different _ _
  | _ =>
      change next.graph = _ at effect
      rw [effect]

/-- A setting of an unevaluated subject makes the seed its discrepancy. -/
theorem System.Refines.discrepancy_of_seeds {system next : System} {transaction : Transaction}
    (refines : system.Refines transaction next) {subject : Address}
    (sets : transaction.call.seeds subject) (unevaluated : system.graph.evaluators subject = [])
    (value : Nat) :
    next.graph.discrepancy subject = transaction.call.reseed subject value := by
  obtain ⟨msgSender, call⟩ := transaction
  cases call with
  | setReliability owner reliability =>
      have this : owner = subject := of_decide_eq_true sets
      subst this
      have effect : next.graph = { system.graph with
        reliability := Function.update system.graph.reliability owner reliability.toNat } :=
          refines.graph
      rw [TrustGraph.discrepancy, TrustGraph.contributed, effect]
      simp only [unevaluated, List.map_nil, List.sum_nil, Function.update_self, Call.reseed,
        if_true, Nat.cast_zero, sub_zero]
  | _ => exact absurd sets Bool.false_ne_true

/-- An account that is set before its first evaluation keeps its seed as discrepancy. -/
theorem Deployment.discrepancy_eq_seed (deployment : Deployment) (transactions : List Transaction)
    {subject : Address} (ordered : SeededFirst subject (deployment.accepted transactions))
    (withdrawing : ∀ entry ∈ deployment.accepted transactions, Withdrawing entry) :
    (deployment.after transactions).graph.discrepancy subject =
      seed subject (deployment.accepted transactions) := by
  have tracked := (run_refines (fun past current =>
    SeededFirst subject past → (∀ entry ∈ past, Withdrawing entry) →
      current.graph.discrepancy subject = seed subject past ∧
        ((∀ entry ∈ past, ¬ entry.2.call.evaluates subject) →
          current.graph.evaluators subject = []))
    deployment.sound (fun _ _ => ⟨rfl, fun _ => rfl⟩) ?_ transactions).1
  · exact (tracked ordered withdrawing).1
  · intro past current transaction next sound earlier _ refines ordered withdrawing
    have formed := sound.represented.formed
    obtain ⟨orderedPast, -, last⟩ := List.pairwise_append.mp ordered
    obtain ⟨same, empty⟩ := earlier orderedPast fun entry member =>
      withdrawing entry (List.mem_append_left _ member)
    refine ⟨?_, ?_⟩
    · rw [seed_append]
      by_cases sets : transaction.call.seeds subject
      · apply refines.discrepancy_of_seeds sets
        apply empty
        intro entry member evaluated
        exact last entry member _ List.mem_cons_self evaluated sets
      · rw [reseed_of_not_seeds sets, ← same]
        exact refines.keeps_discrepancy formed
          (withdrawing _ (List.mem_append_right past List.mem_cons_self)) sets
    · intro unevaluated
      rw [refines.keeps_evaluators formed
        (unevaluated _ (List.mem_append_right past List.mem_cons_self))]
      exact empty fun entry member => unevaluated entry (List.mem_append_left _ member)

/-- Only a setting changes a discrepancy, so reliability is its seed and its contributions. -/
theorem reliability_conserved (deployment : Deployment) (transactions : List Transaction)
    (nonzero : ∀ entry ∈ deployment.accepted transactions, entry.2.call.namesNonzero)
    (subject : Address) :
    (deployment.after transactions).ShowsGraph ∧
      (∀ transaction next, transaction.call.namesNonzero → ¬ transaction.call.seeds subject →
        execute (deployment.after transactions) transaction = .ok next →
        next.graph.discrepancy subject =
          (deployment.after transactions).graph.discrepancy subject) ∧
      (SeededFirst subject (deployment.accepted transactions) →
        (deployment.after transactions).graph.reliability subject =
          seed subject (deployment.accepted transactions) +
            (((deployment.after transactions).graph.evaluators subject).map
              ((deployment.after transactions).graph.contribution subject)).sum ∧
        ((deployment.after transactions).graph.evaluators subject).Nodup) := by
  have sound := deployment.after_sound transactions
  have formed := sound.represented.formed
  refine ⟨sound.wired.showsGraph, ?_, ?_⟩
  · intro transaction next names other executed
    exact (execute_refines sound.represented executed).keeps_discrepancy formed
      (withdrawing_of_nonzero names) other
  · intro ordered
    have seeded := deployment.discrepancy_eq_seed transactions ordered fun entry member =>
      withdrawing_of_nonzero (nonzero entry member)
    refine ⟨?_, formed.evaluators_distinct subject⟩
    rw [TrustGraph.discrepancy, TrustGraph.contributed] at seeded
    omega

/-- Two seeded accounts evaluate each other and themselves. -/
def mutualRun : List Transaction :=
  [⟨1, .setReliability 10 3000000000000000000⟩, ⟨1, .setReliability 11 1900000000000000000⟩,
    ⟨7, .callEvaluateReliability 10 11 4⟩, ⟨7, .callEvaluateReliability 11 10 5⟩,
    ⟨7, .callEvaluateReliability 11 11 2⟩, ⟨7, .callEvaluateReliability 10 11 (-1)⟩]

/-- After mutual evaluations the reliability is the seed and the recorded contributions. -/
theorem mutualRun_conserved :
    (∀ entry ∈ Deployment.sample.accepted mutualRun, entry.2.call.namesNonzero) ∧
      SeededFirst 11 (Deployment.sample.accepted mutualRun) ∧
      (Deployment.sample.after mutualRun).graph.reliability 11 =
        seed 11 (Deployment.sample.accepted mutualRun) +
          (((Deployment.sample.after mutualRun).graph.evaluators 11).map
            ((Deployment.sample.after mutualRun).graph.contribution 11)).sum := by
  have nonzero : ∀ entry ∈ Deployment.sample.accepted mutualRun, entry.2.call.namesNonzero := by
    decide +kernel
  have ordered : SeededFirst 11 (Deployment.sample.accepted mutualRun) := by decide +kernel
  exact ⟨nonzero, ordered,
    ((reliability_conserved Deployment.sample mutualRun nonzero 11).2.2 ordered).1⟩

end Holonus.Coin
