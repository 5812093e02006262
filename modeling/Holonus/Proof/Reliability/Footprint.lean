/-
This file proves which stored values one evaluation can change
and when a repeated evaluation changes nothing.
-/

import Holonus.Abstract.Footprint
import Holonus.Proof.Reliability.Cascade

namespace Holonus.Coin

open Holonus.Machine Holonus.Abstract HolonusCoinService

/-- The storages change at most where one evaluation may write. -/
structure System.EvaluatesWithin (system : System) (owner sender : Address) (next : System) :
    Prop where
  reliability : ∀ account, account ≠ sender →
    account ∉ system.manageStorage.accounts .accountEvaList sender →
    next.eternalStorage.addrUIntStorage .reliability account =
      system.eternalStorage.addrUIntStorage .reliability account
  trustworthy : ∀ subject evaluator, ¬ (subject = sender ∧ evaluator = owner) →
    (next.eternalStorage.addrGrpUserInfoStorage .evaAccount subject evaluator).intValue =
      (system.eternalStorage.addrGrpUserInfoStorage .evaAccount subject evaluator).intValue
  contribution : ∀ subject evaluator, ¬ (subject = sender ∧ evaluator = owner) →
    ¬ (evaluator = sender ∧ subject ∈ system.manageStorage.accounts .accountEvaList sender) →
    (next.eternalStorage.addrGrpUserInfoStorage .evaAccount subject evaluator).uintValue =
      (system.eternalStorage.addrGrpUserInfoStorage .evaAccount subject evaluator).uintValue
  lists : ∀ record holder, next.manageStorage.accounts record holder =
    if record = .evaAccount ∧ holder = sender then
      addOnce (system.manageStorage.accounts .evaAccount sender) owner
    else if record = .accountEvaList ∧ holder = owner then
      addOnce (system.manageStorage.accounts .accountEvaList owner) sender
    else system.manageStorage.accounts record holder
  ledger : next.ledger = system.ledger

/-- One update adds both accounts once to the list of the other one. -/
theorem accounts_of_fcUpdateReliability {system next : System} {owner sender : Address}
    {trustworthy : Int} (succeeds : fcUpdateReliability system owner sender trustworthy = .ok next)
    (record : Record) (holder : Address) :
    next.manageStorage.accounts record holder =
      if record = .evaAccount ∧ holder = sender then
        addOnce (system.manageStorage.accounts .evaAccount sender) owner
      else if record = .accountEvaList ∧ holder = owner then
        addOnce (system.manageStorage.accounts .accountEvaList owner) sender
      else system.manageStorage.accounts record holder := by
  obtain ⟨-, _, -, _, -, _, -, first, firstAdded, second, secondAdded, same⟩ :=
    (fcUpdateReliability_iff system next owner sender trustworthy _ rfl).mp succeeds
  have kept : first.accounts .accountEvaList owner =
      system.manageStorage.accounts .accountEvaList owner := by
    rw [ManageStorage.accounts_of_addManageAccount firstAdded, if_neg (by simp)]
  rw [← same]
  change second.accounts record holder = _
  rw [ManageStorage.accounts_of_addManageAccount secondAdded, kept,
    ManageStorage.accounts_of_addManageAccount firstAdded]
  by_cases key : record = .evaAccount
  · subst key
    simp
  · simp [key]

/-- The loop leaves both account lists alone. -/
theorem manageStorage_of_refreshEvaluations {middle reached : System} (represented : middle.Represented)
    {sender : Address} {count : Nat}
    (within : count ≤ (middle.manageStorage.accounts .accountEvaList sender).length)
    (refreshed : refreshEvaluations sender (List.range count) middle = .ok reached) :
    reached.manageStorage = middle.manageStorage := by
  rw [ManageStorage.accounts, slots_length] at within
  exact (refreshEvaluations_refines sender (List.range count) represented
    (fun index member => lt_of_lt_of_le (List.mem_range.mp member) within) refreshed).2.2.2

/-- One evaluation stays within its footprint, and its loop iterates over a fixed list. -/
theorem evaluation_confined (deployment : Deployment) (transactions : List Transaction)
    (msgSender owner sender : Address) (trustworthy : Int) (next : System)
    (executed : execute (deployment.after transactions)
      ⟨msgSender, .callEvaluateReliability owner sender trustworthy⟩ = .ok next) :
    (deployment.after transactions).EvaluatesWithin owner sender next ∧
      ∃ middle, fcUpdateReliability (deployment.after transactions) owner sender trustworthy =
          .ok middle ∧ next.manageStorage = middle.manageStorage ∧
        ∀ count ≤ (middle.manageStorage.accounts .accountEvaList sender).length, ∀ reached,
          refreshEvaluations sender (List.range count) middle = .ok reached →
            reached.manageStorage = middle.manageStorage := by
  have sound := deployment.after_sound transactions
  have succeeds : callEvaluateReliability (deployment.after transactions) owner sender trustworthy =
    .ok next := executed
  obtain ⟨valid, evaluated, -, token⟩ := callEvaluateReliability_refines sound.represented succeeds
  obtain ⟨middle, once, represented, lists⟩ :=
    manageStorage_of_callEvaluateReliability sound.represented succeeds
  have evaluations := sound.represented.formed.evaluate_evaluations valid evaluated
  refine ⟨⟨?_, ?_, ?_, ?_, token.ledger⟩, middle, once, lists, ?_⟩
  · intro account other absent
    exact Word.ext (TrustGraph.evaluate_reliability_of_not_mem evaluated other absent)
  · intro subject evaluator other
    have trust := congrFun (congrFun evaluations.trust subject) evaluator
    rw [TrustGraph.rated_trust, if_neg other] at trust
    exact trust
  · intro subject evaluator other absent
    exact Word.ext (TrustGraph.evaluate_contribution_of_not_mem evaluated other absent)
  · intro record holder
    rw [lists]
    exact accounts_of_fcUpdateReliability once record holder
  · intro count within reached refreshed
    exact manageStorage_of_refreshEvaluations represented within refreshed

/-- Account eleven has evaluated account ten, and both are close to the next whole number. -/
def echoRun : List Transaction :=
  [⟨1, .setReliability 10 1980000000000000000⟩, ⟨1, .setReliability 11 1990000000000000000⟩,
    ⟨11, .callEvaluateReliability 11 10 1⟩]

/-- The evaluation of account eleven reaches account ten and leaves account twelve alone. -/
theorem echoRun_confined :
    ∃ next, execute (Deployment.sample.after echoRun) ⟨10, .callEvaluateReliability 10 11 1⟩ =
        .ok next ∧
      next.eternalStorage.addrUIntStorage .reliability 12 =
        (Deployment.sample.after echoRun).eternalStorage.addrUIntStorage .reliability 12 := by
  have accepted : (execute (Deployment.sample.after echoRun)
      ⟨10, .callEvaluateReliability 10 11 1⟩).isOk = true := by decide +kernel
  obtain ⟨next, executed⟩ := exists_of_isOk accepted
  exact ⟨next, executed, (evaluation_confined Deployment.sample echoRun 10 10 11 1 next
    executed).1.reliability 12 (by decide) (by decide +kernel)⟩

section
variable {system : System} {owner sender : Address} {trustworthy : Int}

/-- An update that finds its own result writes nothing new. -/
theorem fcUpdateReliability_of_stored (sound : system.Sound) (nonzero : owner ≠ 0)
    (valid : ValidTrust trustworthy) (trusted : system.graph.trust sender owner = trustworthy)
    (stored : system.graph.contribution sender owner =
      weight (system.graph.level owner) trustworthy)
    (covered : system.graph.contribution sender owner ≤ system.graph.reliability sender) :
    fcUpdateReliability system owner sender trustworthy = .ok system := by
  have formed := sound.represented.formed
  have present : system.graph.trust sender owner ≠ 0 := by
    rw [trusted]
    exact valid.ne_zero
  have retracted := system.graph.retracted_of_ne sender nonzero
  have first : system.manageStorage.addManageAccount system.service.address .evaAccount sender owner =
      .ok system.manageStorage :=
    ManageStorage.addManageAccount_of_mem sound.wired.manage
      ((formed.evaluator_iff sender owner).mpr present)
  have second : system.manageStorage.addManageAccount system.service.address .accountEvaList owner
      sender = .ok system.manageStorage :=
    ManageStorage.addManageAccount_of_mem sound.wired.manage
      ((formed.evaluatee_iff sender owner).mpr present)
  have info : system.eternalStorage.addrGrpUserInfoStorage .evaAccount sender owner =
      ⟨owner, trustworthy,
        (system.eternalStorage.addrGrpUserInfoStorage .evaAccount sender owner).uintValue⟩ := by
    apply UserInfo.ext
    · rw [sound.represented.named, if_neg present]
    · exact trusted
    · rfl
  apply (fcUpdateReliability_eq_ok sound.represented owner sender trustworthy (if_neg valid.ne_zero)
    valid.toNat_le system).mpr
  refine ⟨sound.wired.service, by rw [retracted]; exact covered, _, stored,
    system.eternalStorage.addrUIntStorage .reliability sender, ?_, _, first, _, second, ?_⟩
  · rw [retracted, ← stored, Nat.sub_add_cancel covered]
    rfl
  · rw [updated, ← info, EternalStorage.putAddrUInt_eq_self]
    exact congrArg (fun storage => { system with eternalStorage := storage })
      (EternalStorage.putAddrGrpUserInfo_eq_self _ _ _ _)

/-- A call that finds its own result leaves the whole state alone. -/
theorem callEvaluateReliability_of_stored (sound : system.Sound) (nonzero : owner ≠ 0)
    (valid : ValidTrust trustworthy) (trusted : system.graph.trust sender owner = trustworthy)
    (stored : system.graph.contribution sender owner =
      weight (system.graph.level owner) trustworthy)
    (covered : system.graph.contribution sender owner ≤ system.graph.reliability sender) :
    callEvaluateReliability system owner sender trustworthy = .ok system := by
  have once := fcUpdateReliability_of_stored sound nonzero valid trusted stored covered
  apply (callEvaluateReliability_eq_ok _ _ _ _ _).mpr
  refine ⟨valid, sound.wired.service, system, once, sound.wired.service, ?_⟩
  rw [if_pos rfl]

end

/-- The full reliability, the records and the lists are the same in both states. -/
structure System.SameGraph (system next : System) : Prop where
  reliability : ∀ account, getFullReliability next account = getFullReliability system account
  records : next.eternalStorage.addrGrpUserInfoStorage = system.eternalStorage.addrGrpUserInfoStorage
  lists : ∀ record holder,
    next.manageStorage.accounts record holder = system.manageStorage.accounts record holder

/-- A repeated evaluation changes nothing exactly when the first one kept the evaluator's level. -/
theorem repetition_harmless_iff (deployment : Deployment) (transactions : List Transaction)
    (msgSender owner sender : Address) (ownerNonzero : owner ≠ 0) (senderNonzero : sender ≠ 0)
    (trustworthy : Int) (next : System)
    (executed : execute (deployment.after transactions)
      ⟨msgSender, .callEvaluateReliability owner sender trustworthy⟩ = .ok next) :
    (∃ again, execute next ⟨msgSender, .callEvaluateReliability owner sender trustworthy⟩ = .ok again ∧
        next.SameGraph again) ↔
      owner = sender ∨ trustworthy = -1 ∨
        wholeReliability next owner = wholeReliability (deployment.after transactions) owner := by
  have sound := deployment.after_sound transactions
  have formed := sound.represented.formed
  have nextSound := execute_sound sound executed
  obtain ⟨valid, evaluated, -, -⟩ := callEvaluateReliability_refines sound.represented executed
  have stored := formed.evaluate_stored_iff senderNonzero valid evaluated
  rw [wholeReliability_eq_iff nextSound sound, ← stored]
  constructor
  · intro repeated
    obtain ⟨again, repeats, same⟩ := repeated
    obtain ⟨-, reevaluated, -, -⟩ := callEvaluateReliability_refines nextSound.represented repeats
    have kept : again.graph.contribution sender owner = next.graph.contribution sender owner :=
      congrArg (fun records => (records Record.evaAccount sender owner).uintValue.toNat) same.records
    by_cases self : owner = sender
    · exact stored.mpr (Or.inl self)
    · rw [← kept]
      exact (nextSound.represented.formed.evaluate_covered_of_ne self valid reevaluated).1
  · intro current
    have trusted : next.graph.trust sender owner = trustworthy := by
      rw [(formed.evaluate_evaluations valid evaluated).trust, TrustGraph.rated_trust_self]
    refine ⟨next, callEvaluateReliability_of_stored nextSound ownerNonzero valid trusted current
      (formed.evaluate_covered senderNonzero valid evaluated), ?_⟩
    exact ⟨fun _ => rfl, rfl, fun _ _ => rfl⟩

/-- An account that evaluates itself twice in a row changes nothing with the second call. -/
theorem selfEvaluation_repeated :
    ∃ next again, execute (Deployment.sample.after (mutualRun.take 5))
        ⟨11, .callEvaluateReliability 11 11 5⟩ = .ok next ∧
      execute next ⟨11, .callEvaluateReliability 11 11 5⟩ = .ok again ∧ next.SameGraph again := by
  have accepted : (execute (Deployment.sample.after (mutualRun.take 5))
      ⟨11, .callEvaluateReliability 11 11 5⟩).isOk = true := by decide +kernel
  obtain ⟨next, executed⟩ := exists_of_isOk accepted
  obtain ⟨again, repeats, same⟩ := (repetition_harmless_iff Deployment.sample (mutualRun.take 5) 11 11
    11 (by decide) (by decide) 5 next executed).mpr (Or.inl rfl)
  exact ⟨next, again, executed, repeats, same⟩

/-- The cascade of account eleven raises account ten, which then contributes more. -/
theorem repetition_raises :
    ∃ deployment transactions msgSender owner sender trustworthy next, owner ≠ 0 ∧ sender ≠ 0 ∧
      execute (Deployment.after deployment transactions)
        ⟨msgSender, .callEvaluateReliability owner sender trustworthy⟩ = .ok next ∧
      ¬ ∃ again, execute next ⟨msgSender, .callEvaluateReliability owner sender trustworthy⟩ =
        .ok again ∧ next.SameGraph again := by
  have raised : ((execute (Deployment.sample.after echoRun)
      ⟨10, .callEvaluateReliability 10 11 1⟩).bind fun next =>
        (execute next ⟨10, .callEvaluateReliability 10 11 1⟩).map fun again =>
          (again.eternalStorage.addrGrpUserInfoStorage .evaAccount 11 10,
            next.eternalStorage.addrGrpUserInfoStorage .evaAccount 11 10)) =
      .ok (⟨10, 1, 20000000000000000⟩, ⟨10, 1, 10000000000000000⟩) := by decide +kernel
  have accepted : (execute (Deployment.sample.after echoRun)
      ⟨10, .callEvaluateReliability 10 11 1⟩).isOk = true := by decide +kernel
  obtain ⟨next, executed⟩ := exists_of_isOk accepted
  refine ⟨Deployment.sample, echoRun, 10, 10, 11, 1, next, by decide, by decide, executed, ?_⟩
  intro repeated
  obtain ⟨again, repeats, same⟩ := repeated
  rw [executed] at raised
  simp only [Except.bind, repeats, Except.map, same.records, Except.ok.injEq, Prod.mk.injEq] at raised
  exact absurd (raised.1.symm.trans raised.2) (by decide)

end Holonus.Coin
