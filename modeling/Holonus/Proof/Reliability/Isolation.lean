/-
This file proves that accounts without a whole level gain nothing from evaluating each other.
-/

import Holonus.Abstract.Isolation
import Holonus.Proof.Reliability.Seed

namespace Holonus.Coin

open Holonus.Machine Holonus.Abstract

/-- An outside account evaluates a member. -/
def Call.enters (members : Finset Address) : Call → Bool
  | .callEvaluateReliability owner sender _ => owner ∉ members ∧ sender ∈ members
  | _ => false

/-- A run without evaluations leaves every account at its seed and without evaluators. -/
theorem Deployment.seeded_of_unevaluated (deployment : Deployment) {setup : List Transaction}
    (unevaluated : ∀ entry ∈ deployment.accepted setup, ¬ entry.2.call.isEvaluation)
    (account : Address) :
    (deployment.after setup).graph.reliability account = seed account (deployment.accepted setup) ∧
      (deployment.after setup).graph.evaluators account = [] := by
  have tracked := (run_refines (fun past current =>
    (∀ entry ∈ past, ¬ entry.2.call.isEvaluation) →
      current.graph.reliability account = seed account past ∧
        current.graph.evaluators account = []) deployment.sound (fun _ => ⟨rfl, rfl⟩) ?_ setup).1
  · exact tracked unevaluated
  · intro past current transaction next sound earlier _ refines unevaluated
    obtain ⟨same, empty⟩ := earlier fun entry member =>
      unevaluated entry (List.mem_append_left _ member)
    have here := unevaluated _ (List.mem_append_right past List.mem_cons_self)
    rw [seed_append, ← same]
    refine ⟨?_, ?_⟩
    · obtain ⟨msgSender, call⟩ := transaction
      have effect := refines.graph
      cases call with
      | setReliability owner reliability =>
          change next.graph = _ at effect
          rw [effect]
          simp only [Call.reseed, Function.update_apply, eq_comm]
      | callEvaluateReliability owner sender trustworthy => exact absurd rfl here
      | _ =>
          change next.graph = _ at effect
          rw [effect]
          rfl
    · rw [refines.keeps_evaluators sound.represented.formed, empty]
      exact fun evaluates => here (Call.isEvaluation_of_evaluates evaluates)

/-- Members that nobody has evaluated are isolated with their seeds. -/
theorem Deployment.isolated_of_unevaluated (deployment : Deployment) {setup : List Transaction}
    (unevaluated : ∀ entry ∈ deployment.accepted setup, ¬ entry.2.call.isEvaluation)
    (members : Set Address) :
    (deployment.after setup).graph.Isolated members
      fun account => seed account (deployment.accepted setup) := by
  have formed := (deployment.after_sound setup).represented.formed
  have absent (subject evaluator : Address) :
      (deployment.after setup).graph.trust subject evaluator = 0 := by
    by_contra stored
    have listed := (formed.evaluator_iff subject evaluator).mpr stored
    rw [(deployment.seeded_of_unevaluated unevaluated subject).2] at listed
    exact List.not_mem_nil listed
  refine ⟨?_, ?_, ?_⟩
  · intro account _
    exact (deployment.seeded_of_unevaluated unevaluated account).1
  · intro subject _ evaluator stored
    exact absurd (absent subject evaluator) stored
  · intro evaluator _ subject
    exact formed.contribution_of_absent (absent subject evaluator)

/-- One call keeps the members isolated unless it sets a reliability or enters from outside. -/
theorem System.Refines.isolated {system next : System} {transaction : Transaction}
    (refines : system.Refines transaction next) (formed : system.graph.WellFormed)
    {members : Finset Address} {seeds : Address → Nat}
    (low : ∀ account ∈ members, seeds account < unit)
    (isolated : system.graph.Isolated members seeds) (unset : ¬ transaction.call.isSetting)
    (outside : ¬ transaction.call.enters members) : next.graph.Isolated members seeds := by
  obtain ⟨msgSender, call⟩ := transaction
  have effect := refines.graph
  cases call with
  | setReliability owner reliability => exact absurd rfl unset
  | callEvaluateReliability owner sender trustworthy =>
      apply isolated.evaluate formed low effect.1 _ effect.2
      intro member
      by_contra foreign
      exact outside (decide_eq_true ⟨foreign, member⟩)
  | _ =>
      change next.graph = _ at effect
      rw [effect]
      exact isolated

/-- A run that never enters the members keeps them isolated. -/
theorem run_isolated {system : System} (sound : system.Sound) {transactions : List Transaction}
    {members : Finset Address} {seeds : Address → Nat}
    (low : ∀ account ∈ members, seeds account < unit)
    (isolated : system.graph.Isolated members seeds)
    (apart : ∀ entry ∈ history execute system transactions,
      ¬ entry.2.call.isSetting ∧ ¬ entry.2.call.enters members) :
    (run execute system transactions).graph.Isolated members seeds := by
  apply run_admitted (fun entry => ¬ entry.2.call.isSetting ∧ ¬ entry.2.call.enters members)
    (fun current => current.graph.Isolated members seeds) sound isolated _ apart
  intro current transaction next reached here earlier refines
  exact refines.isolated reached.represented.formed low earlier here.1 here.2

/-- An evaluator without a whole level mints nothing. -/
theorem ledger_of_level_zero {system next : System} {msgSender owner sender : Address}
    {workPoint : Uint8}
    (refines : system.Refines ⟨msgSender, .callEvaluatePost owner sender workPoint⟩ next)
    (level : system.graph.level owner = 0) : next.ledger = system.ledger := by
  rw [refines.ledger]
  simp only [ledgerAction]
  split
  · rename_i senderPoint ownerPoint consensus
    obtain ⟨-, -, -, senderAmount, ownerAmount⟩ :=
      (HolonusCoinService.evaluationConsensus_eq_ok _ _ _ _ _).mp consensus
    have factor : HolonusCoinService.postFactor 0 = 0 := rfl
    rw [level, HolonusCoinService.postPoint, factor, Nat.mul_zero, Nat.zero_div, Nat.zero_mul]
      at senderAmount
    rw [senderAmount, Nat.zero_div] at ownerAmount
    simp only [senderAmount, ownerAmount, Ledger.perform, Ledger.credit_zero, Nat.add_zero]
  · rfl

/-- Members that no outside account evaluates keep their seeds and mint nothing. -/
theorem members_isolated (deployment : Deployment) (setup transactions : List Transaction)
    (members : Finset Address)
    (unevaluated : ∀ entry ∈ deployment.accepted setup, ¬ entry.2.call.isEvaluation)
    (low : ∀ account ∈ members, seed account (deployment.accepted setup) < 10 ^ 18)
    (apart : ∀ entry ∈ history execute (deployment.after setup) transactions,
      ¬ entry.2.call.isSetting ∧ ¬ entry.2.call.enters members) :
    (deployment.after (setup ++ transactions)).ShowsGraph ∧
      (∀ account ∈ members, (deployment.after (setup ++ transactions)).graph.reliability account =
        seed account (deployment.accepted setup)) ∧
      ∀ entry ∈ history execute (deployment.after setup) transactions,
        ∀ owner ∈ members, ∀ sender workPoint,
          entry.2.call = .callEvaluatePost owner sender workPoint →
          (settle execute entry.1 entry.2).ledger = entry.1.ledger := by
  have sound := deployment.after_sound setup
  have start := deployment.isolated_of_unevaluated unevaluated members
  refine ⟨(deployment.after_sound (setup ++ transactions)).wired.showsGraph, ?_, ?_⟩
  · rw [deployment.after_append]
    exact (run_isolated sound low start apart).reliability
  · intro entry member owner inside sender workPoint isPost
    obtain ⟨first, rest, next, parts, reached, executed, whole⟩ := split_of_history member
    have before : ∀ earlier ∈ history execute (deployment.after setup) first,
        ¬ earlier.2.call.isSetting ∧ ¬ earlier.2.call.enters members := by
      intro earlier present
      apply apart
      rw [whole]
      exact List.mem_append_left _ present
    have isolated := run_isolated sound low start before
    have reachedSound := run_sound sound first
    rw [reached] at isolated reachedSound
    rw [settle_ok executed]
    have refines := execute_refines reachedSound.represented executed
    obtain ⟨system, msgSender, call⟩ := entry
    change call = _ at isPost
    subst isPost
    exact ledger_of_level_zero refines (isolated.level_eq_zero low inside)

/-- Two members of one ring evaluate everybody and outsiders evaluate each other. -/
def ringSetup : List Transaction :=
  [⟨1, .setReliability 20 900000000000000000⟩, ⟨1, .setReliability 10 10000000000000000000⟩]

def ringRun : List Transaction :=
  [⟨7, .callEvaluateReliability 20 21 5⟩, ⟨7, .callEvaluateReliability 21 20 5⟩,
    ⟨7, .callEvaluateReliability 20 20 5⟩, ⟨7, .callEvaluateReliability 20 10 5⟩,
    ⟨7, .callEvaluateReliability 10 11 5⟩, ⟨7, .callEvaluatePost 20 22 9⟩]

theorem ringRun_isolated :
    (∀ entry ∈ history execute (Deployment.sample.after ringSetup) ringRun,
        ¬ entry.2.call.isSetting ∧ ¬ entry.2.call.enters {20, 21}) ∧
      ∀ account ∈ ({20, 21} : Finset Address),
        (Deployment.sample.after (ringSetup ++ ringRun)).graph.reliability account =
          seed account (Deployment.sample.accepted ringSetup) := by
  have apart : ∀ entry ∈ history execute (Deployment.sample.after ringSetup) ringRun,
      ¬ entry.2.call.isSetting ∧ ¬ entry.2.call.enters {20, 21} := by decide +kernel
  have low : ∀ account ∈ ({20, 21} : Finset Address),
      seed account (Deployment.sample.accepted ringSetup) < 10 ^ 18 := by
    rw [Finset.forall_mem_insert]
    simp only [Finset.mem_singleton, forall_eq]
    exact ⟨by decide +kernel, by decide +kernel⟩
  exact ⟨apart, (members_isolated Deployment.sample ringSetup ringRun {20, 21} (by decide +kernel)
    low apart).2.1⟩

end Holonus.Coin
