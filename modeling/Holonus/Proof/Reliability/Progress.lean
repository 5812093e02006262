/-
This file proves when every evaluation succeeds.
-/

import Holonus.Proof.Reliability.Seed

namespace Holonus.Coin

open Holonus.Machine Holonus.Abstract

/-- Every reliability covers its contributions and exceeds them by at most ten levels. -/
def System.Funded (system : System) : Prop :=
  ∀ account, 0 ≤ system.graph.discrepancy account ∧
    system.graph.discrepancy account ≤ 10 * 10 ^ 18

theorem System.Funded.covers {system : System} (funded : system.Funded) (account : Address) :
    system.graph.contributed account ≤ system.graph.reliability account := by
  have nonnegative := (funded account).1
  unfold TrustGraph.discrepancy at nonnegative
  omega

/-- A funded reliability leaves room for one more contribution. -/
theorem System.Funded.room {system : System} (funded : system.Funded)
    (formed : system.graph.WellFormed) (account : Address) {added : Nat}
    (small : added ≤ 5 * 10 ^ 17) : system.graph.reliability account + added < 2 ^ 256 := by
  have excess := (funded account).2
  have sum := formed.contributed_le account
  have few := length_le_of_nodup (formed.evaluators_distinct account)
  unfold TrustGraph.discrepancy at excess
  omega

namespace HolonusCoinService

/-- An update of a funded state succeeds and leaves it funded. -/
theorem fcUpdateReliability_succeeds {system : System} (sound : system.Sound)
    (funded : system.Funded) {evaluator subject : Address} (nonzero : evaluator ≠ 0)
    {given trust : Int}
    (effective : (if given = 0 then system.graph.trust subject evaluator else given) = trust)
    (valid : ValidTrust trust) :
    ∃ next, fcUpdateReliability system evaluator subject given = .ok next ∧ next.Sound ∧
      next.Funded := by
  have formed := sound.represented.formed
  have withdrawn := system.graph.retracted_of_ne subject nonzero
  have covered : system.graph.retracted evaluator subject ≤ system.graph.reliability subject := by
    rw [withdrawn]
    exact (formed.contribution_le_contributed subject evaluator).trans (funded.covers subject)
  have small : weight (system.graph.level evaluator) trust ≤ 5 * 10 ^ 17 :=
    weight_le (levelOf_le _) valid.toNat_le
  have room := funded.room formed subject small
  have firstExists : ∃ first, system.manageStorage.addManageAccount system.service.address
      .evaAccount subject evaluator = .ok first :=
    ManageStorage.exists_addManageAccount_of_nodup sound.wired.manage
      (formed.evaluators_distinct subject)
  obtain ⟨first, firstAdded⟩ := firstExists
  have firstAllowed : first.allowAccount system.service.address = true := by
    rw [ManageStorage.allowAccount_of_addManageAccount firstAdded]
    exact sound.wired.manage
  have firstAccounts : first.accounts .accountEvaList evaluator =
      system.graph.evaluatees evaluator := by
    rw [ManageStorage.accounts_of_addManageAccount firstAdded, if_neg (by simp)]
    rfl
  have secondExists : ∃ second, first.addManageAccount system.service.address .accountEvaList
      evaluator subject = .ok second := by
    apply ManageStorage.exists_addManageAccount_of_nodup firstAllowed
    rw [firstAccounts]
    exact formed.evaluatees_distinct evaluator
  obtain ⟨second, secondAdded⟩ := secondExists
  have succeeds := (fcUpdateReliability_eq_ok sound.represented evaluator subject given effective
    valid.toNat_le _).mpr ⟨sound.wired.service, covered, ⟨_, lt_of_le_of_lt small (by decide)⟩, rfl,
      ⟨_, lt_of_le_of_lt (Nat.add_le_add_right (Nat.sub_le _ _) _) room⟩, rfl, first, firstAdded,
      second, secondAdded, rfl⟩
  obtain ⟨rated, represented, kept⟩ := fcUpdateReliability_refines sound.represented effective valid
    succeeds
  refine ⟨_, succeeds, ⟨represented, kept.sameWiring.wired sound.wired⟩, ?_⟩
  intro account
  rw [(TrustGraph.rate_eq_some.mp rated).2,
    formed.rated_keeps_discrepancy trust covered withdrawn.symm]
  exact funded account

/-- The loop over listed indices succeeds in a funded state. -/
theorem refreshEvaluations_succeeds {sender : Address} (nonzero : sender ≠ 0) (indices : List Nat)
    {system : System} (sound : system.Sound) (funded : system.Funded)
    (within : ∀ index ∈ indices, index <
      (system.manageStorage.accountCount .accountEvaList sender).toNat) :
    ∃ next, refreshEvaluations sender indices system = .ok next := by
  induction indices generalizing system with
  | nil => exact ⟨system, rfl⟩
  | cons index rest ih =>
      have listed : system.manageStorage.accountIndex .accountEvaList sender index ∈
          system.graph.evaluatees sender :=
        List.mem_map_of_mem (List.mem_range.mpr (within index List.mem_cons_self))
      obtain ⟨middle, once, middleSound, middleFunded⟩ := fcUpdateReliability_succeeds sound funded
        nonzero (if_pos rfl) (sound.represented.formed.valid_of_listed listed)
      have same := manageStorage_of_listed sound.represented listed once
      obtain ⟨next, later⟩ := ih middleSound middleFunded (fun other member => by
        rw [same]
        exact within other (List.mem_cons_of_mem _ member))
      refine ⟨next, ?_⟩
      simp only [refreshEvaluations, bind_eq_ok, ManageStorage.getAccountIndex_eq_ok, and_assoc,
        exists_and_left, exists_eq_left']
      exact ⟨sound.wired.manage, middle, once, later⟩

/-- Every accepted trust value evaluates successfully in a funded state. -/
theorem callEvaluateReliability_succeeds {system : System} (sound : system.Sound)
    (funded : system.Funded) {owner sender : Address} (ownerNonzero : owner ≠ 0)
    (senderNonzero : sender ≠ 0) {trustworthy : Int} (valid : ValidTrust trustworthy) :
    ∃ next, callEvaluateReliability system owner sender trustworthy = .ok next := by
  obtain ⟨middle, once, middleSound, middleFunded⟩ := fcUpdateReliability_succeeds sound funded
    ownerNonzero (if_neg valid.ne_zero) valid
  obtain ⟨final, refreshed⟩ := refreshEvaluations_succeeds senderNonzero
    (List.range (middle.manageStorage.accountCount .accountEvaList sender).toNat) middleSound
    middleFunded (fun index member => List.mem_range.mp member)
  simp only [callEvaluateReliability_eq_ok]
  by_cases same : system.graph.level sender = middle.graph.level sender
  · refine ⟨middle, valid, sound.wired.service, middle, once, middleSound.wired.service, ?_⟩
    rw [if_pos same]
  · refine ⟨final, valid, sound.wired.service, middle, once, middleSound.wired.service, ?_⟩
    rw [if_neg same]
    exact ⟨middleSound.wired.manage, refreshed⟩

end HolonusCoinService

/-- A setting writes at least the contributions that the account already has. -/
def coversRecords (entry : System × Transaction) : Bool :=
  match entry.2.call with
  | .setReliability owner reliability => entry.1.graph.contributed owner ≤ reliability.toNat
  | _ => true

/-- A setting writes at most ten levels. -/
def Call.setsAtMostTen : Call → Bool
  | .setReliability _ reliability => reliability.toNat ≤ 10 * 10 ^ 18
  | _ => true

/-- A covering setting or a withdrawing evaluation keeps the state funded. -/
theorem System.Refines.funded {system next : System} {transaction : Transaction}
    (refines : system.Refines transaction next) (formed : system.graph.WellFormed)
    (funded : system.Funded) (nonzero : transaction.call.namesNonzero)
    (covers : coversRecords (system, transaction)) (small : transaction.call.setsAtMostTen) :
    next.Funded := by
  intro account
  by_cases sets : transaction.call.seeds account
  · obtain ⟨msgSender, call⟩ := transaction
    cases call with
    | setReliability owner reliability =>
        have this : owner = account := of_decide_eq_true sets
        subst this
        have covered : system.graph.contributed owner ≤ reliability.toNat := of_decide_eq_true covers
        have low : reliability.toNat ≤ 10 * 10 ^ 18 := of_decide_eq_true small
        have effect : next.graph = { system.graph with
          reliability := Function.update system.graph.reliability owner reliability.toNat } :=
            refines.graph
        have total : next.graph.reliability owner = reliability.toNat := by
          rw [effect]
          exact Function.update_self _ _ _
        have sum : next.graph.contributed owner = system.graph.contributed owner := by
          rw [effect]
          rfl
        unfold TrustGraph.discrepancy
        omega
    | _ => exact absurd sets Bool.false_ne_true
  · rw [refines.keeps_discrepancy formed (withdrawing_of_nonzero nonzero) sets]
    exact funded account

/-- A deployment is funded. -/
theorem Deployment.funded (deployment : Deployment) : deployment.system.Funded := by
  intro account
  have zero : deployment.system.graph.discrepancy account = 0 := rfl
  rw [zero]
  decide

/-- The evaluator withdraws its evaluation of the subject. -/
def withdrawal (msgSender subject owner : Address) : Transaction :=
  ⟨msgSender, .callEvaluateReliability owner subject (-1)⟩

/-- Accounts that evaluated an underfunded subject cannot all withdraw their evaluations. -/
theorem underfunded_locks_out {system : System} (sound : system.Sound) {subject : Address}
    (short : system.graph.discrepancy subject < 0) (nonzero : subject ≠ 0)
    (named : ∀ evaluator ∈ system.graph.evaluators subject, evaluator ≠ 0) (msgSender : Address) :
    ∃ done owner rest fault, system.graph.evaluators subject = done ++ owner :: rest ∧
      execute (run execute system (done.map (withdrawal msgSender subject)))
        (withdrawal msgSender subject owner) = .error fault := by
  have search (rest : List Address) : ∀ done, system.graph.evaluators subject = done ++ rest →
      ∀ current, run execute system (done.map (withdrawal msgSender subject)) = current →
      current.Sound → current.graph.discrepancy subject = system.graph.discrepancy subject →
      current.graph.evaluators subject = system.graph.evaluators subject →
      (∀ evaluator ∈ done, current.graph.trust subject evaluator = -1) →
      ∃ done owner rest fault, system.graph.evaluators subject = done ++ owner :: rest ∧
        execute (run execute system (done.map (withdrawal msgSender subject)))
          (withdrawal msgSender subject owner) = .error fault := by
    induction rest with
    | nil =>
        intro done parts current _ currentSound same lists withdrawn
        rw [List.append_nil] at parts
        have none : current.graph.contributed subject = 0 := by
          apply List.sum_eq_zero
          intro term member
          obtain ⟨evaluator, listed, isTerm⟩ := List.mem_map.mp member
          rw [lists, parts] at listed
          obtain ⟨level, -, form⟩ :=
            currentSound.represented.formed.contribution_form subject evaluator
          rw [← isTerm, form, withdrawn evaluator listed, weight_negative]
        rw [TrustGraph.discrepancy, none] at same
        omega
    | cons owner rest ih =>
        intro done parts current reached currentSound same lists withdrawn
        have formed := currentSound.represented.formed
        have listed : owner ∈ system.graph.evaluators subject := by
          rw [parts]
          simp
        cases outcome : execute current (withdrawal msgSender subject owner) with
        | error fault => exact ⟨done, owner, rest, fault, parts, by rw [reached, outcome]⟩
        | ok next =>
            have refines := execute_refines currentSound.represented outcome
            have effect : ValidTrust (-1) ∧
              current.graph.evaluate owner subject (-1) = some next.graph := refines.graph
            have evaluations := formed.evaluate_evaluations effect.1 effect.2
            apply ih (done ++ [owner]) (by simp [parts]) next _ (execute_sound currentSound outcome)
            · rw [← same]
              exact refines.keeps_discrepancy formed
                (current.graph.withdraws_of_ne (-1) (named owner listed) nonzero)
                Bool.false_ne_true
            · rw [evaluations.evaluators, ← lists]
              rw [← lists] at listed
              exact (Function.update_self _ _ _).trans (addOnce_of_mem listed)
            · intro evaluator member
              rw [evaluations.trust, TrustGraph.rated_trust]
              split
              · rfl
              · rename_i elsewhere
                apply withdrawn
                rcases List.mem_append.mp member with earlier | last
                · exact earlier
                · exact absurd ⟨rfl, List.mem_singleton.mp last⟩ elsewhere
            · rw [List.map_append, run_append, reached]
              exact settle_ok outcome
  exact search _ [] rfl system rfl sound rfl rfl fun evaluator member =>
    absurd member List.not_mem_nil

/-- Covering settings never lock anybody out of evaluating. -/
theorem evaluation_succeeds (deployment : Deployment) (transactions : List Transaction)
    (nonzero : ∀ entry ∈ deployment.accepted transactions, entry.2.call.namesNonzero)
    (small : ∀ entry ∈ deployment.accepted transactions, entry.2.call.setsAtMostTen)
    (covers : ∀ entry ∈ deployment.accepted transactions, coversRecords entry)
    (msgSender owner sender : Address) (trustworthy : Int) (ownerNonzero : owner ≠ 0)
    (senderNonzero : sender ≠ 0) (valid : trustworthy ∈ ({-1, 1, 2, 3, 4, 5} : Set Int)) :
    ∃ next, execute (deployment.after transactions)
      ⟨msgSender, .callEvaluateReliability owner sender trustworthy⟩ = .ok next := by
  have funded : (deployment.after transactions).Funded := by
    apply run_admitted (fun entry => entry.2.call.namesNonzero ∧ entry.2.call.setsAtMostTen ∧
      coversRecords entry) System.Funded deployment.sound deployment.funded
    · intro current transaction next sound admits earlier refines
      exact refines.funded sound.represented.formed earlier admits.1 admits.2.2 admits.2.1
    · intro entry member
      exact ⟨nonzero entry member, small entry member, covers entry member⟩
  apply HolonusCoinService.callEvaluateReliability_succeeds (deployment.after_sound transactions)
    funded ownerNonzero senderNonzero
  simp only [Set.mem_insert_iff, Set.mem_singleton_iff] at valid
  unfold ValidTrust
  omega

/-- The deployer raises an evaluated account above its contributions. -/
def coveringRun : List Transaction :=
  [⟨1, .setReliability 10 10000000000000000000⟩, ⟨7, .callEvaluateReliability 10 11 5⟩,
    ⟨1, .setReliability 11 1000000000000000000⟩, ⟨7, .callEvaluateReliability 11 10 3⟩]

/-- After a covering run a further evaluation succeeds. -/
theorem coveringRun_succeeds :
    (∀ entry ∈ Deployment.sample.accepted coveringRun, coversRecords entry) ∧
      ∃ next, execute (Deployment.sample.after coveringRun)
        ⟨7, .callEvaluateReliability 10 11 (-1)⟩ = .ok next := by
  have covers : ∀ entry ∈ Deployment.sample.accepted coveringRun, coversRecords entry := by
    decide +kernel
  exact ⟨covers, evaluation_succeeds Deployment.sample coveringRun (by decide +kernel)
    (by decide +kernel) covers 7 10 11 (-1) (by decide) (by decide) (by simp)⟩

/-- The deployer resets an evaluated account, and its evaluator cannot evaluate it again. -/
theorem setting_locks_out :
    ∃ deployment transactions owner sender trustworthy,
      (∀ entry ∈ Deployment.accepted deployment transactions, entry.2.call.namesNonzero) ∧
        (∀ entry ∈ deployment.accepted transactions, entry.2.call.setsAtMostTen) ∧
        owner ≠ 0 ∧ sender ≠ 0 ∧ trustworthy ∈ ({-1, 1, 2, 3, 4, 5} : Set Int) ∧
        ¬ ∃ next, execute (deployment.after transactions)
          ⟨owner, .callEvaluateReliability owner sender trustworthy⟩ = .ok next := by
  refine ⟨Deployment.sample, [⟨1, .setReliability 10 1000000000000000000⟩,
    ⟨10, .callEvaluateReliability 10 11 1⟩, ⟨1, .setReliability 11 0⟩], 10, 11, 1,
    by decide +kernel, by decide +kernel, by decide, by decide, by simp, ?_⟩
  intro succeeds
  obtain ⟨next, succeeds⟩ := succeeds
  have reverts : (execute (Deployment.sample.after [⟨1, .setReliability 10 1000000000000000000⟩,
      ⟨10, .callEvaluateReliability 10 11 1⟩, ⟨1, .setReliability 11 0⟩])
      ⟨10, .callEvaluateReliability 10 11 1⟩).isOk = false := by decide +kernel
  rw [succeeds] at reverts
  exact absurd reverts Bool.noConfusion

end Holonus.Coin
