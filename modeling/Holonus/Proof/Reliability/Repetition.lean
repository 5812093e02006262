/-
This file bounds the reliability that repeated evaluations can give.
-/

import Holonus.Proof.Reliability.Seed

namespace Holonus.Coin

open Holonus.Machine Holonus.Abstract

/-- The evaluation replaces no stored contribution of account zero. -/
structure SparesZero (graph : TrustGraph Address) (owner sender : Address) (trustworthy : Int) :
    Prop where
  rating : owner = 0 → graph.contribution sender 0 = 0
  cascade : sender = 0 → graph.level 0 ≠ (graph.rated owner 0 trustworthy).level 0 →
    owner ≠ 0 ∧ ∀ account, graph.contribution account 0 = 0

/-- An accepted evaluation replaces no stored contribution of account zero. -/
def ZeroSpared (entry : System × Transaction) : Prop :=
  match entry.2.call with
  | .callEvaluateReliability owner sender trustworthy =>
      SparesZero entry.1.graph owner sender trustworthy
  | _ => True

/-- An evaluation that spares account zero withdraws everything that it replaces. -/
theorem SparesZero.withdraws {graph : TrustGraph Address} {owner sender : Address}
    {trustworthy : Int} (spares : SparesZero graph owner sender trustworthy) :
    graph.Withdraws owner sender trustworthy where
  first := by
    by_cases zero : owner = 0
    · rw [TrustGraph.retracted, if_pos zero, zero]
      exact spares.rating zero
    · exact (graph.retracted_of_ne sender zero).symm
  again := by
    intro changed account
    by_cases zero : sender = 0
    · subst zero
      obtain ⟨nonzero, none⟩ := spares.cascade rfl changed
      rw [TrustGraph.retracted, if_pos rfl,
        (graph.rated_record_of_evaluator_ne 0 account trustworthy (Ne.symm nonzero)).2]
      exact none account
    · exact (TrustGraph.retracted_of_ne _ account zero).symm

/-- An entry that spares the zero address withdraws. -/
theorem withdrawing_of_zeroSpared {entry : System × Transaction} (spared : ZeroSpared entry) :
    Withdrawing entry := by
  obtain ⟨system, msgSender, call⟩ := entry
  cases call with
  | callEvaluateReliability owner sender trustworthy => exact SparesZero.withdraws spared
  | _ => trivial

/-- Repeated evaluations give at most half of a level for each distinct evaluator. -/
theorem reliability_bounded (deployment : Deployment) (transactions : List Transaction)
    (ordered : SettingsFirst (deployment.accepted transactions))
    (spared : ∀ entry ∈ deployment.accepted transactions, ZeroSpared entry) (subject : Address) :
    (deployment.after transactions).ShowsGraph ∧
      (deployment.after transactions).graph.reliability subject ≤
        seed subject (deployment.accepted transactions) +
          5 * 10 ^ 17 * ((deployment.after transactions).graph.evaluators subject).length := by
  have sound := deployment.after_sound transactions
  have seeded := deployment.discrepancy_eq_seed transactions (ordered.seededFirst subject)
    fun entry member => withdrawing_of_zeroSpared (spared entry member)
  have bound := sound.represented.formed.contributed_le subject
  refine ⟨sound.wired.showsGraph, ?_⟩
  rw [TrustGraph.discrepancy] at seeded
  omega

/-- An entry that names no zero address spares it. -/
theorem zeroSpared_of_nonzero {entry : System × Transaction} (nonzero : entry.2.call.namesNonzero) :
    ZeroSpared entry := by
  obtain ⟨system, msgSender, call⟩ := entry
  cases call with
  | callEvaluateReliability owner sender trustworthy =>
      have names : owner ≠ 0 ∧ sender ≠ 0 := of_decide_eq_true nonzero
      exact ⟨fun zero => absurd zero names.1, fun zero => absurd zero names.2⟩
  | _ => trivial

/-- After mutual evaluations the reliability is within its bound. -/
theorem mutualRun_bounded :
    SettingsFirst (Deployment.sample.accepted mutualRun) ∧
      (∀ entry ∈ Deployment.sample.accepted mutualRun, ZeroSpared entry) ∧
      (Deployment.sample.after mutualRun).graph.reliability 11 ≤
        seed 11 (Deployment.sample.accepted mutualRun) +
          5 * 10 ^ 17 * ((Deployment.sample.after mutualRun).graph.evaluators 11).length := by
  have ordered : SettingsFirst (Deployment.sample.accepted mutualRun) := by decide +kernel
  have nonzero : ∀ entry ∈ Deployment.sample.accepted mutualRun, entry.2.call.namesNonzero := by
    decide +kernel
  have spared : ∀ entry ∈ Deployment.sample.accepted mutualRun, ZeroSpared entry :=
    fun entry member => zeroSpared_of_nonzero (nonzero entry member)
  exact ⟨ordered, spared, (reliability_bounded Deployment.sample mutualRun ordered spared 11).2⟩

/-- Account zero inflates an account by repeating one evaluation. -/
theorem repetition_inflates :
    ∃ deployment transactions subject, SettingsFirst (Deployment.accepted deployment transactions) ∧
      seed subject (deployment.accepted transactions) +
          5 * 10 ^ 17 * ((deployment.after transactions).graph.evaluators subject).length <
        (deployment.after transactions).graph.reliability subject :=
  ⟨Deployment.sample, [⟨1, .setReliability 0 10000000000000000000⟩,
    ⟨9, .callEvaluateReliability 0 5 5⟩, ⟨9, .callEvaluateReliability 0 5 5⟩], 5,
    by decide +kernel⟩

end Holonus.Coin
