/-
This file proves that one evaluation refreshes the evaluated account consistently
and that a better trust value lowers no reliability.
-/

import Holonus.Abstract.Monotone
import Holonus.Proof.Reliability.Currency

namespace Holonus.Coin

open Holonus.Machine Holonus.Abstract HolonusCoinService

/-- Every listed contribution of the evaluator equals its present consensus. -/
def System.ListCurrent (system : System) (evaluator : Address) : Prop :=
  ∀ subject ∈ system.graph.evaluatees evaluator,
    (reliabilityConsensus system evaluator (system.graph.trust subject evaluator)).map Word.toNat =
      .ok (system.graph.contribution subject evaluator)

/-- The list of an evaluator is current exactly when the graph is. -/
theorem System.Sound.listCurrent_iff {system : System} (sound : system.Sound) (evaluator : Address) :
    system.ListCurrent evaluator ↔ system.graph.Current evaluator := by
  rw [← sound.current_iff evaluator]
  apply forall_congr'
  intro subject
  rw [sound.represented.formed.evaluatee_iff]

/-- Whole reliabilities agree exactly when the levels do. -/
theorem wholeReliability_eq_iff {left right : System} (leftSound : left.Sound)
    (rightSound : right.Sound) {account : Address} :
    wholeReliability left account = wholeReliability right account ↔
      left.graph.level account = right.graph.level account := by
  have small : right.graph.level account < 2 ^ 256 :=
    lt_of_le_of_lt (levelOf_le _) (by decide)
  have whole : wholeReliability right account = .ok ⟨_, small⟩ :=
    (wholeReliability_eq_ok _ _ _).mpr ⟨rightSound.wired.service, rfl⟩
  rw [whole, wholeReliability_eq_ok]
  constructor
  · intro same
    exact same.2.symm
  · intro levels
    exact ⟨leftSound.wired.service, levels.symm⟩

/-- A transaction that keeps the token and stays represented keeps the contracts sound. -/
theorem System.KeepsToken.sound {system next : System} (kept : system.KeepsToken next)
    (sound : system.Sound) (represented : next.Represented) : next.Sound :=
  ⟨represented, kept.sameWiring.wired sound.wired⟩

/-- A successful evaluation starts with one successful update. -/
theorem exists_first_update {system next : System} {owner sender : Address} {trustworthy : Int}
    (succeeds : callEvaluateReliability system owner sender trustworthy = .ok next) :
    ∃ middle, fcUpdateReliability system owner sender trustworthy = .ok middle := by
  obtain ⟨-, -, middle, once, -⟩ := (callEvaluateReliability_eq_ok _ _ _ _ _).mp succeeds
  exact ⟨middle, once⟩

/-- Every part of the loop keeps the level that the first update reached. -/
theorem refreshEvaluations_level {system middle reached : System} (sound : system.Sound)
    {owner sender : Address} (nonzero : sender ≠ 0) {trustworthy : Int}
    (valid : ValidTrust trustworthy) (current : system.graph.Current sender)
    (once : fcUpdateReliability system owner sender trustworthy = .ok middle)
    (changed : system.graph.level sender ≠ middle.graph.level sender) {count : Nat}
    (within : count ≤ (middle.graph.evaluatees sender).length)
    (refreshed : refreshEvaluations sender (List.range count) middle = .ok reached) :
    reached.Sound ∧ reached.graph.level sender = middle.graph.level sender := by
  obtain ⟨rated, kept, token⟩ := fcUpdateReliability_refines sound.represented
    (if_neg valid.ne_zero) valid once
  have middleSound := token.sound sound kept
  obtain ⟨covered, graph⟩ := TrustGraph.rate_eq_some.mp rated
  have counted : (middle.graph.evaluatees sender).length =
      (middle.manageStorage.accountCount .accountEvaList sender).toNat := slots_length _ _
  obtain ⟨refresh, represents, tail, -⟩ := refreshEvaluations_refines sender (List.range count) kept
    (fun index member => lt_of_lt_of_le (List.mem_range.mp member) (counted ▸ within)) refreshed
  have listed : (List.range count).map (middle.manageStorage.accountIndex .accountEvaList sender) <+:
      middle.graph.evaluatees sender := by
    apply List.IsPrefix.map
    rw [List.prefix_iff_eq_take, List.length_range, List.take_range, ← counted, min_eq_left within]
  have distinct := listed.sublist.nodup (kept.formed.evaluatees_distinct sender)
  rw [graph] at changed refresh listed
  obtain ⟨-, settled⟩ := current.refresh_rated sound.represented.formed nonzero valid covered changed
    distinct (fun subject member => listed.subset member) refresh
  rw [graph]
  exact ⟨tail.sound middleSound represents, settled.level⟩

/-- One evaluation leaves every listed contribution of the evaluated account current. -/
theorem cascade_consistent (deployment : Deployment) (transactions : List Transaction)
    (owner sender : Address) (senderNonzero : sender ≠ 0) (trustworthy : Int) (next : System)
    (current : (deployment.after transactions).ListCurrent sender)
    (succeeds : callEvaluateReliability (deployment.after transactions) owner sender trustworthy =
      .ok next) :
    next.ListCurrent sender ∧ ∃ middle,
      fcUpdateReliability (deployment.after transactions) owner sender trustworthy = .ok middle ∧
        wholeReliability next sender = wholeReliability middle sender ∧
        (wholeReliability (deployment.after transactions) sender ≠ wholeReliability middle sender →
          ∀ count ≤ (middle.graph.evaluatees sender).length, ∀ reached,
            refreshEvaluations sender (List.range count) middle = .ok reached →
              wholeReliability reached sender = wholeReliability middle sender) := by
  have sound := deployment.after_sound transactions
  obtain ⟨valid, evaluated, represents, token⟩ :=
    callEvaluateReliability_refines sound.represented succeeds
  obtain ⟨middle, once⟩ := exists_first_update succeeds
  obtain ⟨rated, kept, first⟩ := fcUpdateReliability_refines sound.represented
    (if_neg valid.ne_zero) valid once
  have nextSound := token.sound sound represents
  have middleSound := first.sound sound kept
  have following := (sound.listCurrent_iff sender).mp current
  have level := following.evaluate_level sound.represented.formed senderNonzero valid evaluated
  rw [← (TrustGraph.rate_eq_some.mp rated).2] at level
  refine ⟨?_, middle, once, (wholeReliability_eq_iff nextSound middleSound).mpr level, ?_⟩
  · exact (nextSound.listCurrent_iff sender).mpr
      (following.evaluate_self sound.represented.formed senderNonzero valid evaluated)
  · intro changed count within reached refreshed
    have apart : (deployment.after transactions).graph.level sender ≠ middle.graph.level sender :=
      fun same => changed ((wholeReliability_eq_iff sound middleSound).mpr same)
    obtain ⟨reachedSound, same⟩ := refreshEvaluations_level sound senderNonzero valid following once
      apart within refreshed
    exact (wholeReliability_eq_iff reachedSound middleSound).mpr same

/-- Account eleven has evaluated account ten and itself. -/
theorem selfEvaluation_listed :
    (Deployment.sample.after (mutualRun.take 5)).graph.evaluatees 11 = [10, 11] := by
  decide +kernel

/-- The list of an account that evaluated itself is current. -/
theorem selfEvaluation_listCurrent :
    (Deployment.sample.after (mutualRun.take 5)).ListCurrent 11 := by
  intro subject member
  rw [selfEvaluation_listed, List.mem_pair] at member
  rcases member with ten | eleven
  · subst ten
    decide +kernel
  · subst eleven
    decide +kernel

theorem selfEvaluation_consistent :
    (Deployment.sample.after (mutualRun.take 5)).graph.evaluatees 11 = [10, 11] ∧
      (Deployment.sample.after (mutualRun.take 5)).ListCurrent 11 ∧ ∃ next,
        callEvaluateReliability (Deployment.sample.after (mutualRun.take 5)) 10 11 (-1) = .ok next ∧
          next.ListCurrent 11 := by
  have accepted : (callEvaluateReliability (Deployment.sample.after (mutualRun.take 5)) 10 11
      (-1)).isOk = true := by decide +kernel
  obtain ⟨next, succeeds⟩ := exists_of_isOk accepted
  exact ⟨selfEvaluation_listed, selfEvaluation_listCurrent, next, succeeds,
    (cascade_consistent Deployment.sample (mutualRun.take 5) 10 11 (by decide) (-1) next
      selfEvaluation_listCurrent succeeds).1⟩

/-- A better trust value lowers the full reliability of no account. -/
theorem better_rating_harmless (deployment : Deployment) (transactions : List Transaction)
    (owner sender : Address) (ownerNonzero : owner ≠ 0) (senderNonzero : sender ≠ 0)
    (worse better : Int) (ordered : worse ≤ better) (low high : System)
    (current : (deployment.after transactions).Current sender)
    (lower : callEvaluateReliability (deployment.after transactions) owner sender worse = .ok low)
    (higher : callEvaluateReliability (deployment.after transactions) owner sender better = .ok high)
    (account : Address) :
    ∃ lowFull highFull, getFullReliability low account = .ok lowFull ∧
      getFullReliability high account = .ok highFull ∧ lowFull ≤ highFull := by
  have sound := deployment.after_sound transactions
  have following := (sound.current_iff sender).mp current
  obtain ⟨worseValid, lowEvaluated, lowRepresents, lowToken⟩ :=
    callEvaluateReliability_refines sound.represented lower
  obtain ⟨betterValid, highEvaluated, highRepresents, highToken⟩ :=
    callEvaluateReliability_refines sound.represented higher
  have full := following.evaluate_reliability_mono sound.represented.formed ownerNonzero
    senderNonzero worseValid betterValid ordered lowEvaluated highEvaluated account
  exact ⟨low.eternalStorage.addrUIntStorage .reliability account,
    high.eternalStorage.addrUIntStorage .reliability account,
    (getFullReliability_eq_ok _ _ _).mpr ⟨(lowToken.sound sound lowRepresents).wired.service, rfl⟩,
    (getFullReliability_eq_ok _ _ _).mpr ⟨(highToken.sound sound highRepresents).wired.service, rfl⟩,
    full⟩

/-- A better evaluation of itself leaves the other account no less reliable. -/
theorem selfEvaluation_harmless :
    (Deployment.sample.after (mutualRun.take 5)).Current 11 ∧ ∃ low high lowFull highFull,
      callEvaluateReliability (Deployment.sample.after (mutualRun.take 5)) 11 11 (-1) = .ok low ∧
        callEvaluateReliability (Deployment.sample.after (mutualRun.take 5)) 11 11 5 = .ok high ∧
        getFullReliability low 10 = .ok lowFull ∧ getFullReliability high 10 = .ok highFull ∧
        lowFull ≤ highFull := by
  have sound := Deployment.sample.after_sound (mutualRun.take 5)
  have current : (Deployment.sample.after (mutualRun.take 5)).Current 11 :=
    (sound.current_iff 11).mpr ((sound.listCurrent_iff 11).mp selfEvaluation_listCurrent)
  have lowAccepted : (callEvaluateReliability (Deployment.sample.after (mutualRun.take 5)) 11 11
      (-1)).isOk = true := by decide +kernel
  have highAccepted : (callEvaluateReliability (Deployment.sample.after (mutualRun.take 5)) 11 11
      5).isOk = true := by decide +kernel
  obtain ⟨low, lower⟩ := exists_of_isOk lowAccepted
  obtain ⟨high, higher⟩ := exists_of_isOk highAccepted
  obtain ⟨lowFull, highFull, lowRead, highRead, ordered⟩ := better_rating_harmless Deployment.sample
    (mutualRun.take 5) 11 11 (by decide) (by decide) (-1) 5 (by decide) low high current lower
    higher 10
  exact ⟨current, low, high, lowFull, highFull, lower, higher, lowRead, highRead, ordered⟩

end Holonus.Coin
