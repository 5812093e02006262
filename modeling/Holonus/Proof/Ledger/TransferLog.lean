/-
This file proves when the transfer log determines the balances.
-/

import Holonus.Abstract.TransferLog
import Holonus.Proof.Ledger.Conservation

namespace Holonus.Coin

open Holonus.Machine Holonus.Abstract

/-- A transfer event flows into its target and out of its source. -/
def Event.flow (account : Address) : Event → Int
  | .transfer source target value =>
      (if target = account then (value.toNat : Int) else 0) -
        (if source = account then (value.toNat : Int) else 0)
  | .approval _ _ _ => 0

/-- The net flow of a log adds the flows of its events. -/
def netFlow (account : Address) (log : List Event) : Int :=
  (log.map (Event.flow account)).sum

/-- The flow of two logs is the sum of their flows. -/
theorem netFlow_append (account : Address) (first second : List Event) :
    netFlow account (first ++ second) = netFlow account first + netFlow account second := by
  rw [netFlow, List.map_append, List.sum_append]
  rfl

/-- The events that a later state logged after this one. -/
def System.logSince (start final : System) : List Event :=
  final.events.drop start.events.length

/-- The log since the start explains the change of every balance except that of account zero. -/
def System.Explained (start final : System) : Prop :=
  ∀ account, account ≠ 0 →
    (final.ledger.balance account : Int) - start.ledger.balance account =
      netFlow account (start.logSince final)

/-- A post finds empty balances, and a reflection takes nothing. -/
def logsFaithfully (entry : System × Transaction) : Bool :=
  match entry.2.call with
  | .callEvaluatePost owner sender _ =>
      (owner ≠ 0 → entry.1.ledger.balance owner = 0) ∧
        (sender ≠ 0 → entry.1.ledger.balance sender = 0)
  | .reflectToken sender value => sender ≠ 0 → value.toNat = 0
  | _ => true

/-- The call appends events with the flow of its ledger action. -/
def System.Logs (system : System) (transaction : Transaction) (next : System) : Prop :=
  ∃ logged, next.events = system.events ++ logged ∧ ∀ account, account ≠ 0 →
    netFlow account logged =
      system.ledger.loggedFlow account (ledgerAction system transaction)

/-- A transaction that moves nothing may log nothing. -/
theorem System.logs_nothing {system next : System} {transaction : Transaction}
    (same : next.events = system.events)
    (still : ∀ account, system.ledger.loggedFlow account (ledgerAction system transaction) = 0) :
    system.Logs transaction next :=
  ⟨[], by rw [same, List.append_nil], fun account _ => (still account).symm⟩

/-- A transaction that moves what one event says logs that event. -/
theorem System.logs_one {system next : System} {transaction : Transaction} {event : Event}
    (emitted : next.events = system.events ++ [event])
    (flows : ∀ account, event.flow account =
      system.ledger.loggedFlow account (ledgerAction system transaction)) :
    system.Logs transaction next := by
  refine ⟨[event], emitted, ?_⟩
  intro account _
  rw [netFlow, List.map_singleton, List.sum_singleton]
  exact flows account

/-- Every successful call logs the flow of its ledger action. -/
theorem execute_logs {system next : System} {transaction : Transaction}
    (represented : system.Represented) (executed : execute system transaction = .ok next) :
    system.Logs transaction next := by
  obtain ⟨msgSender, call⟩ := transaction
  cases executed_of_execute executed with
  | issued empty =>
      apply System.logs_nothing
      · rfl
      · intro account
        simp only [ledgerAction, if_pos empty]
        rfl
  | alreadyIssued nonempty =>
      apply System.logs_nothing
      · rfl
      · intro account
        simp only [ledgerAction, if_neg nonempty]
        rfl
  | transfer => exact System.logs_one rfl fun _ => rfl
  | transferFrom => exact System.logs_one rfl fun _ => rfl
  | approve => exact System.logs_one rfl fun _ => rfl
  | transferTokenOwnership => exact System.logs_nothing rfl fun _ => rfl
  | setReliability => exact System.logs_nothing rfl fun _ => rfl
  | callEvaluateReliability succeeds =>
      obtain ⟨-, -, -, kept⟩ :=
        HolonusCoinService.callEvaluateReliability_refines represented succeeds
      exact System.logs_nothing kept.events fun _ => rfl
  | setAdjustParameter => exact System.logs_nothing rfl fun _ => rfl
  | @callEvaluatePost owner sender _ _ _ senderToken ownerToken _ minted _ _ _ consensus senderSum
      ownerSum _ mintedSum =>
      refine ⟨[.transfer 0 system.service.address minted,
        .transfer system.service.address sender senderToken,
        .transfer system.service.address owner ownerToken], ?_, ?_⟩
      · simp only [HolonusCoinService.posted, List.append_assoc, List.cons_append, List.nil_append]
      · intro account nonzero
        simp only [netFlow, List.map_cons, List.map_nil, List.sum_cons, List.sum_nil, Event.flow,
          ledgerAction, consensus, Ledger.loggedFlow, ← senderSum, ← ownerSum, mintedSum,
          if_neg (Ne.symm nonzero)]
        split_ifs <;> omega
  | reflectToken => exact System.logs_one rfl fun account => sub_self _
  | transferToken => exact System.logs_one rfl fun _ => rfl
  | transferServiceOwnership => exact System.logs_nothing rfl fun _ => rfl

/-- The call and its ledger action log faithfully under the same condition. -/
theorem faithful_iff {system next : System} {transaction : Transaction}
    (executed : execute system transaction = .ok next) :
    system.ledger.Faithful (ledgerAction system transaction) ↔
      logsFaithfully (system, transaction) := by
  obtain ⟨msgSender, call⟩ := transaction
  cases call with
  | init =>
      refine iff_of_true ?_ rfl
      simp only [ledgerAction]
      split <;> trivial
  | callEvaluatePost owner sender workPoint =>
      obtain ⟨-, senderPoint, ownerPoint, consensus, -⟩ :=
        (HolonusCoinService.callEvaluatePost_eq_ok _ _ _ _ _).mp executed
      simp only [ledgerAction, consensus]
      exact ⟨fun faithful => decide_eq_true faithful, of_decide_eq_true⟩
  | reflectToken sender value =>
      exact ⟨fun faithful => decide_eq_true faithful, of_decide_eq_true⟩
  | _ => exact iff_of_true trivial rfl

/-- A run only appends to the log. -/
theorem run_events {system : System} (sound : system.Sound) (transactions : List Transaction) :
    system.events <+: (run execute system transactions).events := by
  refine (run_refines (fun _ current => system.events <+: current.events) sound
    (List.prefix_refl _) ?_ transactions).1
  intro past current transaction next reached earlier executed _
  obtain ⟨logged, appended, -⟩ := execute_logs reached.represented executed
  rw [appended]
  exact earlier.trans (List.prefix_append _ _)

/-- Events that are appended are added to the log since the start. -/
theorem System.logSince_append {start final next : System} {logged : List Event}
    (earlier : start.events <+: final.events) (appended : next.events = final.events ++ logged) :
    start.logSince next = start.logSince final ++ logged := by
  rw [System.logSince, System.logSince, appended, List.drop_append_of_le_length earlier.length_le]

/-- One call keeps the balances explained exactly when it logs faithfully. -/
theorem System.Refines.explained_iff {start system next : System} {transaction : Transaction}
    (refines : system.Refines transaction next) (logs : system.Logs transaction next)
    (executed : execute system transaction = .ok next) (earlier : start.events <+: system.events)
    (started : system.ledger.supply ≠ 0) (explained : start.Explained system) :
    start.Explained next ↔ logsFaithfully (system, transaction) := by
  obtain ⟨logged, appended, flows⟩ := logs
  have stepwise : start.Explained next ↔
      system.ledger.Explains (ledgerAction system transaction) := by
    apply forall_congr'
    intro account
    apply imp_congr_right
    intro nonzero
    have before := explained account nonzero
    rw [System.logSince_append earlier appended, netFlow_append, flows account nonzero,
      refines.ledger]
    omega
  rw [stepwise, system.ledger.explains_iff refines.enabled started, faithful_iff executed]

/-- After an accepted `Init` call the supply is positive. -/
theorem Deployment.supply_ne_zero (deployment : Deployment) {setup : List Transaction}
    (initialized : ∃ entry ∈ deployment.accepted setup, entry.2.call = .init) :
    (deployment.after setup).ledger.supply ≠ 0 := by
  obtain ⟨⟨system, msgSender, call⟩, member, isInit⟩ := initialized
  obtain ⟨first, rest, next, parts, reached, executed, -⟩ := split_of_history member
  change call = .init at isInit
  change run execute deployment.system first = system at reached
  subst isInit reached
  have sound := deployment.after_sound first
  have refines := execute_refines sound.represented executed
  have positive : next.ledger.supply ≠ 0 := by
    rw [refines.ledger]
    simp only [ledgerAction]
    split
    · show TokenERC20.initialSupply.toNat ≠ 0
      decide
    · rename_i full
      exact full
  have final : deployment.after setup = run execute next rest := by
    rw [parts, deployment.after_append, run_cons]
    exact congrArg (run execute · rest) (settle_ok executed)
  have grows := run_supply_le (execute_sound sound executed) rest
  rw [final]
  omega

/-- The transfer log determines the balances exactly along runs that log faithfully. -/
theorem transfer_log_iff (deployment : Deployment) (setup transactions : List Transaction)
    (initialized : ∃ entry ∈ deployment.accepted setup, entry.2.call = .init) :
    (∀ first, first <+: transactions →
        (deployment.after setup).Explained (deployment.after (setup ++ first))) ↔
      ∀ entry ∈ history execute (deployment.after setup) transactions, logsFaithfully entry := by
  have sound := deployment.after_sound setup
  have started := deployment.supply_ne_zero initialized
  simp only [deployment.after_append]
  refine run_prefixes_iff (fun system => (deployment.after setup).Explained system)
    (fun entry => logsFaithfully entry) ?_ ?_
  · intro account _
    rw [System.logSince, List.drop_length, sub_self]
    rfl
  · intro entry member next executed explained
    obtain ⟨first, rest, last, -, reached, -, -⟩ := split_of_history member
    have entrySound := run_sound sound first
    have earlier := run_events sound first
    have grows := run_supply_le sound first
    rw [reached] at entrySound earlier grows
    exact (execute_refines entrySound.represented executed).explained_iff
      (execute_logs entrySound.represented executed) executed earlier (by omega) explained

/-- Fresh accounts receive posts and transfers. -/
def loggedRun : List Transaction :=
  [⟨1, .transfer 5 700⟩, ⟨5, .approve 6 50⟩, ⟨6, .transferFrom 5 7 20⟩, ⟨1, .transferToken 8 40⟩,
    ⟨9, .callEvaluatePost 10 11 9⟩]

theorem loggedRun_explained :
    (∃ entry ∈ Deployment.sample.accepted [⟨1, .init⟩], entry.2.call = .init) ∧
      (Deployment.sample.after [⟨1, .init⟩]).Explained
        (Deployment.sample.after ([⟨1, .init⟩] ++ loggedRun)) := by
  have initialized : ∃ entry ∈ Deployment.sample.accepted [⟨1, .init⟩], entry.2.call = .init := by
    decide +kernel
  exact ⟨initialized, (transfer_log_iff Deployment.sample [⟨1, .init⟩] loggedRun initialized).mpr
    (by decide +kernel) loggedRun (List.prefix_refl _)⟩

/-- A post of an account with a balance logs the whole balance as new. -/
theorem log_repeats_balance :
    ∃ deployment setup transactions,
      (∃ entry ∈ Deployment.accepted deployment setup, entry.2.call = .init) ∧
        ¬ (deployment.after setup).Explained (deployment.after (setup ++ transactions)) := by
  refine ⟨Deployment.sample, [⟨1, .init⟩], [⟨7, .callEvaluatePost 1 9 5⟩], by decide +kernel, ?_⟩
  intro explained
  exact absurd (explained 1 (by decide)) (by decide +kernel)

end Holonus.Coin
