/-
This file proves when the stored evaluations belong to the accounts that sent them.
The evaluation calls take the evaluator as an argument, and the reader takes it from the caller.
-/

import Holonus.Proof.Reliability.Representation

namespace Holonus.Coin

open Holonus.Machine Holonus.Abstract

/-- The call evaluates an account or a post. -/
def Call.judges : Call → Bool
  | .callEvaluateReliability _ _ _ => true
  | .callEvaluatePost _ _ _ => true
  | _ => false

/-- The call evaluates in the name of the account. -/
def Call.judgesAs (account : Address) : Call → Bool
  | .callEvaluateReliability owner _ _ => owner = account
  | .callEvaluatePost owner _ _ => owner = account
  | _ => false

/-- The call evaluates a post in the name of the account. -/
def Call.postsAs (account : Address) : Call → Bool
  | .callEvaluatePost owner _ _ => owner = account
  | _ => false

/-- A call that judges as an account judges. -/
theorem Call.judges_of_judgesAs {account : Address} {call : Call} (named : call.judgesAs account) :
    call.judges := by
  cases call with
  | callEvaluateReliability owner sender trustworthy => rfl
  | callEvaluatePost owner sender workPoint => rfl
  | _ => exact absurd named Bool.false_ne_true

/-- A call that posts as an account judges as it. -/
theorem Call.judgesAs_of_postsAs {account : Address} {call : Call} (posts : call.postsAs account) :
    call.judgesAs account := by
  cases call with
  | callEvaluatePost owner sender workPoint => exact posts
  | _ => exact absurd posts Bool.false_ne_true

/-- An account reads the empty record exactly where it has no stored trust value. -/
theorem System.Sound.getTrustworthy_empty_iff {system : System} (sound : system.Sound)
    (account subject : Address) :
    HolonusCoinService.getTrustworthy system account subject = .ok ⟨0, 0, 0⟩ ↔
      system.graph.trust subject account = 0 := by
  rw [HolonusCoinService.getTrustworthy, EternalStorage.getAddrUserInfo_eq_ok]
  constructor
  · intro reads
    exact congrArg UserInfo.intValue reads.2
  · intro absent
    refine ⟨sound.wired.service, UserInfo.ext ?_ absent (Word.ext ?_)⟩
    · rw [sound.represented.named, if_pos absent]
    · exact sound.represented.formed.contribution_of_absent absent

/-- No trust value is stored in the name of an account that no accepted evaluation names. -/
theorem Deployment.trust_eq_zero_iff (deployment : Deployment) (transactions : List Transaction)
    (account subject : Address) :
    (deployment.after transactions).graph.trust subject account = 0 ↔
      account ∉ evaluatorsOf (deployment.accepted transactions) subject := by
  have formed := (deployment.after_sound transactions).represented.formed
  rw [← deployment.mem_evaluators_iff, formed.evaluator_iff, not_not]

/-- A silent account stays unattributed exactly when nobody else evaluates in its name. -/
theorem attributed_iff (deployment : Deployment) (transactions : List Transaction)
    (account : Address)
    (silent : ∀ entry ∈ deployment.accepted transactions, entry.2.call.judges →
      entry.2.msgSender ≠ account) :
    ((∀ subject, HolonusCoinService.getTrustworthy (deployment.after transactions) account subject =
        .ok ⟨0, 0, 0⟩) ∧
      ∀ entry ∈ deployment.accepted transactions, ¬ entry.2.call.postsAs account) ↔
      ∀ entry ∈ deployment.accepted transactions, entry.2.call.judgesAs account →
        entry.2.msgSender = account := by
  have sound := deployment.after_sound transactions
  simp only [sound.getTrustworthy_empty_iff, deployment.trust_eq_zero_iff]
  constructor
  · intro unattributed entry member named
    obtain ⟨unevaluated, unposted⟩ := unattributed
    obtain ⟨system, msgSender, call⟩ := entry
    cases call with
    | callEvaluateReliability owner sender trustworthy =>
        have same : owner = account := of_decide_eq_true named
        subst same
        exact absurd ⟨_, member, trustworthy, rfl⟩ (unevaluated sender)
    | callEvaluatePost owner sender workPoint => exact absurd named (unposted _ member)
    | _ => exact absurd named Bool.false_ne_true
  · intro owned
    have unnamed : ∀ entry ∈ deployment.accepted transactions, ¬ entry.2.call.judgesAs account := by
      intro entry member named
      exact silent entry member (Call.judges_of_judgesAs named) (owned entry member named)
    refine ⟨?_, ?_⟩
    · intro subject evaluated
      obtain ⟨entry, member, trustworthy, same⟩ := evaluated
      apply unnamed entry member
      rw [same]
      exact decide_eq_true rfl
    · intro entry member posts
      exact unnamed entry member (Call.judgesAs_of_postsAs posts)

theorem attributed_self_sent :
    (∀ entry ∈ Deployment.sample.accepted [⟨7, .callEvaluateReliability 7 9 5⟩],
        entry.2.call.judges → entry.2.msgSender ≠ 8) ∧
      ∀ subject, HolonusCoinService.getTrustworthy
        (Deployment.sample.after [⟨7, .callEvaluateReliability 7 9 5⟩]) 8 subject = .ok ⟨0, 0, 0⟩ := by
  have silent : ∀ entry ∈ Deployment.sample.accepted [⟨7, .callEvaluateReliability 7 9 5⟩],
      entry.2.call.judges → entry.2.msgSender ≠ 8 := by decide +kernel
  exact ⟨silent, ((attributed_iff Deployment.sample [⟨7, .callEvaluateReliability 7 9 5⟩] 8
    silent).mpr (by decide +kernel)).1⟩

/-- Account seven evaluates an account and a post in the name of account eight. -/
theorem foreign_evaluation_attributed :
    ∃ deployment transactions account,
      account ≠ (Deployment.after deployment transactions).service.owner ∧
        (∀ entry ∈ deployment.accepted transactions, entry.2.msgSender ≠ account) ∧
        HolonusCoinService.getTrustworthy (deployment.after transactions) account 9 ≠
          .ok ⟨0, 0, 0⟩ ∧
        ∃ entry ∈ deployment.accepted transactions, entry.2.call.postsAs account :=
  ⟨Deployment.sample, [⟨7, .callEvaluateReliability 8 9 5⟩, ⟨7, .callEvaluatePost 8 9 5⟩], 8,
    by decide +kernel⟩

end Holonus.Coin
