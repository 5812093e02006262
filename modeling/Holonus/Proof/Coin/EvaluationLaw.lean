/-
This file proves that the service evaluation refines the abstract evaluation.
-/

import Holonus.Proof.Coin.ServiceLaw

namespace Holonus.Coin

open Holonus.Machine Holonus.Abstract

/-- The stored records represent a well-formed graph and name their evaluators. -/
structure System.Represented (system : System) : Prop where
  formed : system.graph.WellFormed
  named : ∀ subject evaluator,
    (system.eternalStorage.addrGrpUserInfoStorage .evaAccount subject evaluator).sender =
      if system.graph.trust subject evaluator = 0 then 0 else evaluator

/-- An evaluation leaves the ledger, the log, the contracts and the allow lists alone. -/
structure System.KeepsToken (system next : System) : Prop where
  ledger : next.ledger = system.ledger
  events : next.events = system.events
  token : next.token = system.token
  service : next.service = system.service
  allowed : next.eternalStorage.allowAccount = system.eternalStorage.allowAccount
  manageAllowed : next.manageStorage.allowAccount = system.manageStorage.allowAccount

theorem System.KeepsToken.refl (system : System) : system.KeepsToken system :=
  ⟨rfl, rfl, rfl, rfl, rfl, rfl⟩

theorem System.KeepsToken.trans {first second third : System} (left : first.KeepsToken second)
    (right : second.KeepsToken third) : first.KeepsToken third :=
  ⟨right.ledger.trans left.ledger, right.events.trans left.events, right.token.trans left.token,
    right.service.trans left.service, right.allowed.trans left.allowed,
    right.manageAllowed.trans left.manageAllowed⟩

namespace HolonusCoinService

/-- The update writes the total, the user record and both account lists. -/
def updated (system : System) (evaluator subject : Address) (trust : Int)
    (contribution total : Uint256) (manage : ManageStorage Record) : System :=
  { system with
    eternalStorage := (system.eternalStorage.putAddrUInt .reliability subject total).putAddrGrpUserInfo
      .evaAccount subject evaluator ⟨evaluator, trust, contribution⟩
    manageStorage := manage }

/-- The sentinel test withdraws exactly the retracted contribution. -/
theorem withdrawContribution_eq_ok {system : System} (represented : system.Represented)
    (evaluator subject : Address) (total : Uint256) :
    withdrawContribution (system.eternalStorage.addrGrpUserInfoStorage .evaAccount subject evaluator)
        (system.eternalStorage.addrUIntStorage .reliability subject) = .ok total ↔
      system.graph.retracted evaluator subject ≤ system.graph.reliability subject ∧
        total.toNat = system.graph.reliability subject - system.graph.retracted evaluator subject := by
  have stored : system.graph.reliability subject =
    (system.eternalStorage.addrUIntStorage .reliability subject).toNat := rfl
  have recorded : system.graph.contribution subject evaluator =
    (system.eternalStorage.addrGrpUserInfoStorage .evaAccount subject evaluator).uintValue.toNat := rfl
  have unchanged : system.graph.retracted evaluator subject = 0 →
      ((pure (system.eternalStorage.addrUIntStorage .reliability subject) : Except Fault Uint256) =
        .ok total ↔ system.graph.retracted evaluator subject ≤ system.graph.reliability subject ∧
          total.toNat =
            system.graph.reliability subject - system.graph.retracted evaluator subject) := by
    intro none
    rw [pure_eq_ok, Word.eq_iff, none, ← stored]
    omega
  rw [withdrawContribution, represented.named subject evaluator]
  by_cases absent : system.graph.trust subject evaluator = 0
  · have none : system.graph.retracted evaluator subject = 0 := by
      rw [TrustGraph.retracted, represented.formed.contribution_of_absent absent, ite_self]
    rw [if_pos absent, if_neg (by simp)]
    exact unchanged none
  · rw [if_neg absent]
    by_cases zero : evaluator = 0
    · rw [if_neg (by simp [zero])]
      exact unchanged (by rw [TrustGraph.retracted, if_pos zero])
    · rw [if_pos zero, SafeMath.sub_eq_ok, TrustGraph.retracted, if_neg zero, recorded, stored]

/-- The update computes the contribution and the total before it writes. -/
theorem fcUpdateReliability_iff (system next : System) (owner sender : Address) (trustworthy : Int)
    (info : UserInfo)
    (stored : system.eternalStorage.addrGrpUserInfoStorage .evaAccount sender owner = info) :
    fcUpdateReliability system owner sender trustworthy = .ok next ↔
      system.eternalStorage.allowAccount system.service.address = true ∧
        ∃ contribution, reliabilityConsensus system owner
          (if trustworthy = 0 then info.intValue else trustworthy) = .ok contribution ∧
        ∃ lowered, withdrawContribution info
          (system.eternalStorage.addrUIntStorage .reliability sender) = .ok lowered ∧
        ∃ total : Uint256, total.toNat = lowered.toNat + contribution.toNat ∧
        ∃ first, system.manageStorage.addManageAccount system.service.address .evaAccount
          sender owner = .ok first ∧
        ∃ second, first.addManageAccount system.service.address .accountEvaList owner sender =
          .ok second ∧
        updated system owner sender (if trustworthy = 0 then info.intValue else trustworthy)
          contribution total second = next := by
  by_cases allowed : system.eternalStorage.allowAccount system.service.address = true
  · simp only [fcUpdateReliability, bind_eq_ok, pure_eq_ok, require_eq_ok, getFullReliability_eq_ok,
      EternalStorage.getAddrUserInfo_eq_ok, EternalStorage.setAddrUIntValue_eq_ok,
      EternalStorage.setAddrUserInfo_eq_ok, EternalStorage.putAddrUInt_allowAccount,
      EternalStorage.putAddrUInt_self, Function.update_self, SafeMath.add_eq_ok, stored, allowed,
      true_and, exists_const, exists_eq_left', updated]
  · simp only [fcUpdateReliability, bind_eq_ok, EternalStorage.getAddrUserInfo_eq_ok, allowed,
      Bool.false_eq_true, false_and, exists_false]

/-- The update succeeds exactly when the total and both counters stay in range. -/
theorem fcUpdateReliability_eq_ok {system : System} (represented : system.Represented)
    (evaluator subject : Address) (given : Int) {trust : Int}
    (effective : (if given = 0 then system.graph.trust subject evaluator else given) = trust)
    (small : trust.toNat ≤ 5) (next : System) :
    fcUpdateReliability system evaluator subject given = .ok next ↔
      system.eternalStorage.allowAccount system.service.address = true ∧
        system.graph.retracted evaluator subject ≤ system.graph.reliability subject ∧
        ∃ contribution : Uint256,
          contribution.toNat = weight (system.graph.level evaluator) trust ∧
        ∃ total : Uint256,
          total.toNat = system.graph.reliability subject -
            system.graph.retracted evaluator subject + weight (system.graph.level evaluator) trust ∧
        ∃ first, system.manageStorage.addManageAccount system.service.address .evaAccount
            subject evaluator = .ok first ∧
        ∃ second, first.addManageAccount system.service.address .accountEvaList
            evaluator subject = .ok second ∧
          updated system evaluator subject trust contribution total second = next := by
  rw [fcUpdateReliability_iff system next evaluator subject given _ rfl]
  change (if given = 0 then (system.eternalStorage.addrGrpUserInfoStorage .evaAccount subject
    evaluator).intValue else given) = trust at effective
  rw [effective]
  apply and_congr_right
  intro allowed
  simp only [reliabilityConsensus_eq_ok system evaluator allowed small,
    withdrawContribution_eq_ok represented evaluator subject]
  constructor
  · intro succeeded
    obtain ⟨contribution, isWeight, lowered, ⟨covered, low⟩, total, sum, rest⟩ := succeeded
    exact ⟨covered, contribution, isWeight, total, by rw [sum, low, isWeight], rest⟩
  · intro facts
    obtain ⟨covered, contribution, isWeight, total, sum, rest⟩ := facts
    have bounded := (system.eternalStorage.addrUIntStorage .reliability subject).bounded
    refine ⟨contribution, isWeight, ⟨_, lt_of_le_of_lt (Nat.sub_le _ _) bounded⟩, ⟨covered, rfl⟩, total,
      ?_, rest⟩
    rw [sum, isWeight]
    rfl

/-- The written storages represent the rated graph. -/
theorem updated_graph {system : System} {evaluator subject : Address} {trust : Int}
    {contribution total : Uint256} {first second : ManageStorage Record}
    (isWeight : contribution.toNat = weight (system.graph.level evaluator) trust)
    (sum : total.toNat = system.graph.reliability subject -
      system.graph.retracted evaluator subject + weight (system.graph.level evaluator) trust)
    (firstAdded : system.manageStorage.addManageAccount system.service.address .evaAccount
      subject evaluator = .ok first)
    (secondAdded : first.addManageAccount system.service.address .accountEvaList
      evaluator subject = .ok second) :
    (updated system evaluator subject trust contribution total second).graph =
      system.graph.rated evaluator subject trust := by
  apply TrustGraph.ext
  · change (fun account => ((system.eternalStorage.putAddrUInt .reliability subject
      total).addrUIntStorage .reliability account).toNat) = _
    rw [EternalStorage.putAddrUInt_self, toNat_update, sum]
    rfl
  · change (fun account other => (((system.eternalStorage.putAddrUInt .reliability subject
      total).putAddrGrpUserInfo .evaAccount subject evaluator
        ⟨evaluator, trust, contribution⟩).addrGrpUserInfoStorage .evaAccount account other).intValue) = _
    rw [putAddrGrpUserInfo_apply, map_writePair UserInfo.intValue]
    rfl
  · change (fun account other => (((system.eternalStorage.putAddrUInt .reliability subject
      total).putAddrGrpUserInfo .evaAccount subject evaluator
        ⟨evaluator, trust, contribution⟩).addrGrpUserInfoStorage .evaAccount account
          other).uintValue.toNat) = _
    rw [putAddrGrpUserInfo_apply, map_writePair (fun info : UserInfo => info.uintValue.toNat), isWeight]
    rfl
  · funext account
    change second.accounts .evaAccount account = _
    rw [ManageStorage.accounts_of_addManageAccount secondAdded, if_neg (by simp),
      ManageStorage.accounts_of_addManageAccount firstAdded]
    simp only [true_and, TrustGraph.rated, Function.update_apply]
    rfl
  · funext account
    change second.accounts .accountEvaList account = _
    have kept (holder : Address) : first.accounts .accountEvaList holder =
        system.manageStorage.accounts .accountEvaList holder := by
      rw [ManageStorage.accounts_of_addManageAccount firstAdded, if_neg (by simp)]
    rw [ManageStorage.accounts_of_addManageAccount secondAdded, kept, kept]
    simp only [true_and, TrustGraph.rated, Function.update_apply]
    rfl

/-- Each update refines one rating. -/
theorem fcUpdateReliability_refines {system next : System} (represented : system.Represented)
    {evaluator subject : Address} {given trust : Int}
    (effective : (if given = 0 then system.graph.trust subject evaluator else given) = trust)
    (valid : ValidTrust trust)
    (succeeds : fcUpdateReliability system evaluator subject given = .ok next) :
    system.graph.rate evaluator subject trust = some next.graph ∧ next.Represented ∧
      system.KeepsToken next := by
  obtain ⟨-, covered, contribution, isWeight, total, sum, first, firstAdded, second, secondAdded,
    same⟩ := (fcUpdateReliability_eq_ok represented evaluator subject given effective
      valid.toNat_le next).mp succeeds
  have graph : next.graph = system.graph.rated evaluator subject trust := by
    rw [← same]
    exact updated_graph isWeight sum firstAdded secondAdded
  refine ⟨TrustGraph.rate_eq_some.mpr ⟨covered, graph⟩, ⟨?_, ?_⟩, ?_⟩
  · rw [graph]
    exact represented.formed.rated evaluator subject valid
  · intro account other
    rw [graph, TrustGraph.rated_trust, ← same]
    simp only [updated, putAddrGrpUserInfo_apply]
    split
    · rename_i written
      rw [written.1, written.2, writePair_self, if_neg valid.ne_zero]
    · rename_i kept
      rw [← represented.named account other]
      by_cases column : other = evaluator
      · rw [writePair_of_row_ne _ _ _ fun row => kept ⟨row, column⟩]
        rfl
      · rw [writePair_of_column_ne _ _ _ _ column]
        rfl
  · rw [← same]
    exact ⟨rfl, rfl, rfl, rfl, rfl,
      (ManageStorage.allowAccount_of_addManageAccount secondAdded).trans
        (ManageStorage.allowAccount_of_addManageAccount firstAdded)⟩

/-- An update of a listed evaluation leaves both account lists alone. -/
theorem manageStorage_of_listed {system next : System} (represented : system.Represented)
    {evaluator subject : Address} (listed : subject ∈ system.graph.evaluatees evaluator)
    (succeeds : fcUpdateReliability system evaluator subject 0 = .ok next) :
    next.manageStorage = system.manageStorage := by
  have valid := represented.formed.valid_of_listed listed
  obtain ⟨-, -, contribution, -, total, -, first, firstAdded, second, secondAdded, same⟩ :=
    (fcUpdateReliability_eq_ok represented evaluator subject 0 (if_pos rfl) valid.toNat_le next).mp
      succeeds
  have member : evaluator ∈ system.graph.evaluators subject :=
    (represented.formed.evaluator_iff _ _).mpr valid.ne_zero
  have firstSame := ManageStorage.eq_of_addManageAccount firstAdded member
  subst firstSame
  have secondSame := ManageStorage.eq_of_addManageAccount secondAdded listed
  rw [← same]
  exact secondSame

/-- The loop refines the refresh of the indexed accounts. -/
theorem refreshEvaluations_refines (sender : Address) (indices : List Nat) {system next : System}
    (represented : system.Represented)
    (within : ∀ index ∈ indices, index <
      (system.manageStorage.accountCount .accountEvaList sender).toNat)
    (succeeds : refreshEvaluations sender indices system = .ok next) :
    system.graph.refresh sender
        (indices.map (system.manageStorage.accountIndex .accountEvaList sender)) = some next.graph ∧
      next.Represented ∧ system.KeepsToken next ∧ next.manageStorage = system.manageStorage := by
  induction indices generalizing system with
  | nil =>
      rw [refreshEvaluations, pure_eq_ok] at succeeds
      subst succeeds
      exact ⟨rfl, represented, System.KeepsToken.refl system, rfl⟩
  | cons index rest ih =>
      simp only [refreshEvaluations, bind_eq_ok, ManageStorage.getAccountIndex_eq_ok, and_assoc,
        exists_and_left, exists_eq_left'] at succeeds
      obtain ⟨-, middle, once, later⟩ := succeeds
      have listed : system.manageStorage.accountIndex .accountEvaList sender index ∈
          system.graph.evaluatees sender :=
        List.mem_map_of_mem (List.mem_range.mpr (within index List.mem_cons_self))
      have same := manageStorage_of_listed represented listed once
      obtain ⟨rated, kept, token⟩ := fcUpdateReliability_refines represented (if_pos rfl)
        (represented.formed.valid_of_listed listed) once
      have tail := ih kept (fun other member => by
        rw [same]
        exact within other (List.mem_cons_of_mem _ member)) later
      rw [same] at tail
      refine ⟨?_, tail.2.1, token.trans tail.2.2.1, tail.2.2.2⟩
      rw [List.map_cons, TrustGraph.refresh, rated]
      exact tail.1

/-- The call updates once and runs the loop exactly when the whole-number reliability changes. -/
theorem callEvaluateReliability_eq_ok (system next : System) (owner sender : Address)
    (trustworthy : Int) :
    callEvaluateReliability system owner sender trustworthy = .ok next ↔
      ValidTrust trustworthy ∧
        system.eternalStorage.allowAccount system.service.address = true ∧
        ∃ middle, fcUpdateReliability system owner sender trustworthy = .ok middle ∧
          middle.eternalStorage.allowAccount middle.service.address = true ∧
          if system.graph.level sender = middle.graph.level sender then middle = next
          else middle.manageStorage.allowAccount middle.service.address = true ∧
            refreshEvaluations sender
              (List.range (middle.manageStorage.accountCount .accountEvaList sender).toNat) middle =
                .ok next := by
  have word (current : System) : current.graph.level sender < 2 ^ 256 :=
    lt_of_le_of_lt (levelOf_le _) (by decide)
  have branch (middle : System) {old now : Uint256} (oldLevel : old.toNat = system.graph.level sender)
      (nowLevel : now.toNat = middle.graph.level sender) :
      old = now ↔ system.graph.level sender = middle.graph.level sender := by
    rw [Word.eq_iff, oldLevel, nowLevel]
  simp only [callEvaluateReliability, bind_eq_ok, require_eq_ok, wholeReliability_eq_ok,
    exists_const, and_assoc, exists_and_left]
  apply and_congr_right
  intro _
  apply and_congr_right
  intro _
  constructor
  · intro succeeds
    obtain ⟨old, oldLevel, middle, once, allowed, now, nowLevel, rest⟩ := succeeds
    refine ⟨middle, once, allowed, ?_⟩
    by_cases same : old = now
    · rw [if_neg (not_not_intro same), pure_eq_ok] at rest
      rw [if_pos ((branch middle oldLevel nowLevel).mp same)]
      exact rest
    · simp only [if_pos same, bind_eq_ok, ManageStorage.getAccountCount_eq_ok, and_assoc,
        exists_and_left, exists_eq_left'] at rest
      rw [if_neg fun level => same ((branch middle oldLevel nowLevel).mpr level)]
      exact rest
  · intro facts
    obtain ⟨middle, once, allowed, rest⟩ := facts
    refine ⟨⟨_, word system⟩, rfl, middle, once, allowed, ⟨_, word middle⟩, rfl, ?_⟩
    by_cases level : system.graph.level sender = middle.graph.level sender
    · rw [if_pos level] at rest
      rw [if_neg (not_not_intro ((branch middle rfl rfl).mpr level)), pure_eq_ok]
      exact rest
    · rw [if_neg level] at rest
      rw [if_pos fun same => level ((branch middle rfl rfl).mp same)]
      simp only [bind_eq_ok, ManageStorage.getAccountCount_eq_ok, and_assoc, exists_and_left,
        exists_eq_left']
      exact rest

/-- A successful service evaluation refines one abstract evaluation. -/
theorem callEvaluateReliability_refines {system next : System} (represented : system.Represented)
    {owner sender : Address} {trustworthy : Int}
    (succeeds : callEvaluateReliability system owner sender trustworthy = .ok next) :
    ValidTrust trustworthy ∧ system.graph.evaluate owner sender trustworthy = some next.graph ∧
      next.Represented ∧ system.KeepsToken next := by
  obtain ⟨valid, -, middle, once, -, rest⟩ :=
    (callEvaluateReliability_eq_ok system next owner sender trustworthy).mp succeeds
  obtain ⟨rated, kept, token⟩ := fcUpdateReliability_refines represented
    (if_neg (ValidTrust.ne_zero valid)) valid once
  refine ⟨valid, ?_⟩
  simp only [TrustGraph.evaluate, rated, Option.bind_some]
  split at rest
  · rename_i level
    subst rest
    exact ⟨by rw [if_pos level], kept, token⟩
  · rename_i level
    obtain ⟨refreshed, represents, tail, -⟩ := refreshEvaluations_refines sender _ kept
      (fun index member => List.mem_range.mp member) rest.2
    exact ⟨by rw [if_neg level]; exact refreshed, represents, token.trans tail⟩

/-- The loop of an evaluation leaves the account lists of its first update alone. -/
theorem manageStorage_of_callEvaluateReliability {system next : System}
    (represented : system.Represented) {owner sender : Address} {trustworthy : Int}
    (succeeds : callEvaluateReliability system owner sender trustworthy = .ok next) :
    ∃ middle, fcUpdateReliability system owner sender trustworthy = .ok middle ∧
      middle.Represented ∧ next.manageStorage = middle.manageStorage := by
  obtain ⟨valid, -, middle, once, -, rest⟩ :=
    (callEvaluateReliability_eq_ok system next owner sender trustworthy).mp succeeds
  obtain ⟨-, kept, -⟩ := fcUpdateReliability_refines represented
    (if_neg (ValidTrust.ne_zero valid)) valid once
  refine ⟨middle, once, kept, ?_⟩
  split at rest
  · rw [rest]
  · exact (refreshEvaluations_refines sender _ kept
      (fun index member => List.mem_range.mp member) rest.2).2.2.2

end HolonusCoinService

end Holonus.Coin
