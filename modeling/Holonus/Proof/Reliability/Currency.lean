/-
This file proves when the stored contributions of an account follow its reliability.
The cascade of an evaluation reaches the accounts that its sender evaluated and stops there.
-/

import Holonus.Abstract.Currency
import Holonus.Proof.Reliability.Seed

namespace Holonus.Coin

open Holonus.Machine Holonus.Abstract

/-- The account takes part in the evaluation. -/
def Call.involves (account : Address) : Call → Bool
  | .callEvaluateReliability owner sender _ => owner = account ∨ sender = account
  | _ => false

/-- No setting of the account follows an evaluation with the account. -/
def SettledFirst (account : Address) (past : List (System × Transaction)) : Prop :=
  past.Pairwise fun earlier later => earlier.2.call.involves account → ¬ later.2.call.seeds account

instance (account : Address) (past : List (System × Transaction)) :
    Decidable (SettledFirst account past) := inferInstanceAs (Decidable (List.Pairwise _ _))

/-- A call that involves an account is an evaluation. -/
theorem Call.isEvaluation_of_involves {account : Address} {call : Call}
    (involves : call.involves account) : call.isEvaluation := by
  cases call with
  | callEvaluateReliability owner sender trustworthy => rfl
  | _ => exact absurd involves Bool.false_ne_true

/-- Where all settings come first, every account is settled first. -/
theorem SettingsFirst.settledFirst {past : List (System × Transaction)} (ordered : SettingsFirst past)
    (account : Address) : SettledFirst account past := by
  refine List.Pairwise.imp ?_ ordered
  intro earlier later apart involved sets
  exact apart (Call.isEvaluation_of_involves involved) (Call.isSetting_of_seeds sets)

/-- Every stored contribution of the evaluator equals its present consensus. -/
def System.Current (system : System) (evaluator : Address) : Prop :=
  ∀ subject, system.graph.trust subject evaluator ≠ 0 →
    (HolonusCoinService.reliabilityConsensus system evaluator
      (system.graph.trust subject evaluator)).map Word.toNat =
        .ok (system.graph.contribution subject evaluator)

/-- An evaluation of another account keeps the level of an account that gave positive trust. -/
def Undisturbed (evaluator : Address) (entry : System × Transaction) : Prop :=
  entry.2.call.isEvaluation → ¬ entry.2.call.evaluates evaluator →
    (settle execute entry.1 entry.2).graph.level evaluator = entry.1.graph.level evaluator ∨
      ∀ subject, (settle execute entry.1 entry.2).graph.trust subject evaluator ≤ 0

/-- The contracts are current for an evaluator exactly when the graph is. -/
theorem System.Sound.current_iff {system : System} (sound : system.Sound) (evaluator : Address) :
    system.Current evaluator ↔ system.graph.Current evaluator := by
  have formed := sound.represented.formed
  have consensus (subject : Address) :
      (HolonusCoinService.reliabilityConsensus system evaluator
        (system.graph.trust subject evaluator)).map Word.toNat =
          .ok (system.graph.contribution subject evaluator) ↔
        system.graph.contribution subject evaluator =
          weight (system.graph.level evaluator) (system.graph.trust subject evaluator) := by
    rw [map_eq_ok]
    simp only [HolonusCoinService.reliabilityConsensus_eq_ok system evaluator sound.wired.service
      (formed.trust_toNat_le subject evaluator)]
    constructor
    · intro computed
      obtain ⟨value, isWeight, same⟩ := computed
      rw [← same, isWeight]
    · intro same
      exact ⟨_, same, rfl⟩
  constructor
  · intro current subject
    by_cases absent : system.graph.trust subject evaluator = 0
    · rw [absent, weight_zero_trust]
      exact formed.contribution_of_absent absent
    · exact (consensus subject).mp (current subject absent)
  · intro current subject _
    exact (consensus subject).mpr (current subject)

/-- A call without the account adds no trust value of the account. -/
theorem System.Refines.keeps_trust {system next : System} {transaction : Transaction}
    (refines : system.Refines transaction next) (formed : system.graph.WellFormed)
    {account : Address} (apart : ¬ transaction.call.involves account) (subject : Address) :
    next.graph.trust subject account = system.graph.trust subject account := by
  obtain ⟨msgSender, call⟩ := transaction
  have effect := refines.graph
  cases call with
  | callEvaluateReliability owner sender trustworthy =>
      have different : owner ≠ account := fun same => apart (decide_eq_true (Or.inl same))
      rw [(formed.evaluate_evaluations effect.1 effect.2).trust, TrustGraph.rated_trust, if_neg]
      exact fun same => different same.2.symm
  | _ =>
      change next.graph = _ at effect
      rw [effect]

/-- An account outside all evaluations has evaluated nobody. -/
theorem Deployment.trust_of_uninvolved (deployment : Deployment) (transactions : List Transaction)
    {account : Address}
    (apart : ∀ entry ∈ deployment.accepted transactions, ¬ entry.2.call.involves account)
    (subject : Address) : (deployment.after transactions).graph.trust subject account = 0 := by
  apply run_admitted (fun entry => ¬ entry.2.call.involves account)
    (fun current => current.graph.trust subject account = 0) deployment.sound rfl _ apart
  intro current transaction next sound outside absent refines
  rw [refines.keeps_trust sound.represented.formed outside]
  exact absent

/-- One call keeps the contributions current exactly when it does not disturb the evaluator. -/
theorem System.Refines.current_iff {system next : System} {transaction : Transaction}
    (refines : system.Refines transaction next) (formed : system.graph.WellFormed)
    (executed : execute system transaction = .ok next) {evaluator : Address}
    (nonzero : transaction.call.namesNonzero)
    (settled : transaction.call.seeds evaluator →
      ∀ subject, system.graph.trust subject evaluator = 0)
    (current : system.graph.Current evaluator) :
    next.graph.Current evaluator ↔ Undisturbed evaluator (system, transaction) := by
  have reached : settle execute system transaction = next := settle_ok executed
  obtain ⟨msgSender, call⟩ := transaction
  have effect := refines.graph
  cases call with
  | setReliability owner reliability =>
      refine iff_of_true ?_ fun evaluation => absurd evaluation Bool.false_ne_true
      change next.graph = _ at effect
      rw [effect]
      intro subject
      have stored := current subject
      by_cases same : evaluator = owner
      · have absent := settled (decide_eq_true same.symm) subject
        rw [absent, weight_zero_trust] at stored
        change system.graph.contribution subject evaluator = weight _ (system.graph.trust _ _)
        rw [stored, absent, weight_zero_trust]
      · have level : levelOf (Function.update system.graph.reliability owner reliability.toNat
            evaluator) = system.graph.level evaluator :=
          congrArg levelOf (Function.update_of_ne same _ _)
        rw [← level] at stored
        exact stored
  | callEvaluateReliability owner sender trustworthy =>
      have names : owner ≠ 0 ∧ sender ≠ 0 := of_decide_eq_true nonzero
      by_cases self : sender = evaluator
      · subst self
        refine iff_of_true ?_ fun _ other => absurd (decide_eq_true rfl) other
        exact TrustGraph.Current.evaluate_self formed names.2 current effect.1 effect.2
      · have old := current.evaluate_other self effect.2
        have other : ¬ (Call.callEvaluateReliability owner sender trustworthy).evaluates evaluator :=
          fun evaluates => self (of_decide_eq_true evaluates)
        have levels : next.graph.Current evaluator ↔ ∀ subject,
            system.graph.level evaluator = next.graph.level evaluator ∨
              next.graph.trust subject evaluator ≤ 0 :=
          forall_congr' fun subject => by rw [old, weight_eq_iff]
        rw [levels]
        constructor
        · intro equal _ _
          rw [reached]
          by_cases same : next.graph.level evaluator = system.graph.level evaluator
          · exact Or.inl same
          · exact Or.inr fun subject => (equal subject).resolve_left fun back => same back.symm
        · intro undisturbed subject
          have either := undisturbed rfl other
          rw [reached] at either
          rcases either with same | nonpositive
          · exact Or.inl same.symm
          · exact Or.inr (nonpositive subject)
  | _ =>
      refine iff_of_true ?_ fun evaluation => absurd evaluation Bool.false_ne_true
      change next.graph = _ at effect
      rw [effect]
      exact current

/-- The contributions of an account stay current exactly while no other evaluation disturbs it. -/
theorem contributions_current (deployment : Deployment) (transactions : List Transaction)
    (evaluator : Address) (ordered : SettledFirst evaluator (deployment.accepted transactions))
    (nonzero : ∀ entry ∈ deployment.accepted transactions, entry.2.call.namesNonzero) :
    (∀ first, first <+: transactions → (deployment.after first).Current evaluator) ↔
      ∀ entry ∈ deployment.accepted transactions, Undisturbed evaluator entry := by
  refine run_prefixes_iff (fun system => system.Current evaluator) (Undisturbed evaluator) ?_ ?_
  · exact (deployment.sound.current_iff evaluator).mpr fun subject => (weight_zero_trust _).symm
  · intro entry member next executed current
    obtain ⟨first, rest, last, -, reached, -, whole⟩ := split_of_history member
    have sound : entry.1.Sound := by
      rw [← reached]
      exact deployment.after_sound first
    have refines := execute_refines sound.represented executed
    rw [(execute_sound sound executed).current_iff evaluator]
    refine refines.current_iff sound.represented.formed executed (nonzero entry member) ?_
      ((sound.current_iff evaluator).mp current)
    intro sets subject
    rw [← reached]
    refine deployment.trust_of_uninvolved first ?_ subject
    intro earlier before involved
    rw [Deployment.accepted, whole] at ordered
    exact (List.pairwise_append.mp ordered).2.2 earlier before entry List.mem_cons_self involved sets

/-- Mutual evaluations keep an account current at every moment. -/
theorem mutualRun_current :
    SettledFirst 11 (Deployment.sample.accepted mutualRun) ∧
      (∀ entry ∈ Deployment.sample.accepted mutualRun, entry.2.call.namesNonzero) ∧
      ∀ first, first <+: mutualRun → (Deployment.sample.after first).Current 11 := by
  have ordered : SettledFirst 11 (Deployment.sample.accepted mutualRun) := by decide +kernel
  have nonzero : ∀ entry ∈ Deployment.sample.accepted mutualRun, entry.2.call.namesNonzero := by
    decide +kernel
  have levels : ∀ entry ∈ Deployment.sample.accepted mutualRun, entry.2.call.isEvaluation →
      ¬ entry.2.call.evaluates 11 →
      (settle execute entry.1 entry.2).graph.level 11 = entry.1.graph.level 11 := by
    decide +kernel
  exact ⟨ordered, nonzero,
    (contributions_current Deployment.sample mutualRun 11 ordered nonzero).mpr
      fun entry member evaluation other => Or.inl (levels entry member evaluation other)⟩

/-- The level of account eleven changes in a cascade that does not reach account twelve. -/
theorem cascade_stops :
    ∃ deployment transactions evaluator,
      (∀ account, SettledFirst account (Deployment.accepted deployment transactions)) ∧
        (∀ entry ∈ deployment.accepted transactions, entry.2.call.namesNonzero) ∧
        ¬ (deployment.after transactions).Current evaluator := by
  refine ⟨Deployment.sample,
    [⟨1, .setReliability 10 1900000000000000000⟩, ⟨1, .setReliability 11 900000000000000000⟩,
      ⟨1, .setReliability 13 10000000000000000000⟩, ⟨7, .callEvaluateReliability 10 11 5⟩,
      ⟨7, .callEvaluateReliability 11 12 5⟩, ⟨7, .callEvaluateReliability 13 10 5⟩], 11,
    ?_, by decide +kernel, ?_⟩
  · have ordered : SettingsFirst (Deployment.sample.accepted
        [⟨1, .setReliability 10 1900000000000000000⟩, ⟨1, .setReliability 11 900000000000000000⟩,
          ⟨1, .setReliability 13 10000000000000000000⟩, ⟨7, .callEvaluateReliability 10 11 5⟩,
          ⟨7, .callEvaluateReliability 11 12 5⟩, ⟨7, .callEvaluateReliability 13 10 5⟩]) := by
      decide +kernel
    exact ordered.settledFirst
  · intro current
    exact absurd (current 12 (by decide +kernel)) (by decide +kernel)

end Holonus.Coin
