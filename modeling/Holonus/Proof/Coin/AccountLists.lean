/-
This file proves that each account list keeps its senders once, in the order of first addition.
-/

import Holonus.Proof.Coin.Reachable

namespace Holonus.Coin

open Holonus.Machine

/-- These arguments make one call that adds an account. -/
structure Addition (Key : Type) where
  msgSender : Address
  record : Key
  owner : Address
  sender : Address

section
variable {Key : Type} [DecidableEq Key]

def Addition.perform (storage : ManageStorage Key) (addition : Addition Key) :
    Except Fault (ManageStorage Key) :=
  storage.addManageAccount addition.msgSender addition.record addition.owner addition.sender

def Addition.transaction (addition : Addition Key) : ManageTransaction Key :=
  ⟨addition.msgSender, .addManageAccount addition.record addition.owner addition.sender⟩

/-- These senders were added under the record and the owner. -/
def sendersOf (record : Key) (owner : Address) (additions : List (Addition Key)) : List Address :=
  (additions.filter fun addition => addition.record = record ∧ addition.owner = owner).map
    Addition.sender

/-- The other calls add no account. -/
def ManageTransaction.addition (transaction : ManageTransaction Key) : Option (Addition Key) :=
  match transaction.call with
  | .addManageAccount record owner sender => some ⟨transaction.msgSender, record, owner, sender⟩
  | _ => none

/-- An addition at the end adds its sender to its own list. -/
theorem sendersOf_append_singleton (record : Key) (owner : Address)
    (additions : List (Addition Key)) (addition : Addition Key) :
    sendersOf record owner (additions ++ [addition]) =
      if record = addition.record ∧ owner = addition.owner then
        sendersOf record owner additions ++ [addition.sender]
      else sendersOf record owner additions := by
  split
  · rename_i here
    simp [sendersOf, here]
  · rename_i elsewhere
    have outside : ¬ (addition.record = record ∧ addition.owner = owner) :=
      fun same => elsewhere ⟨same.1.symm, same.2.symm⟩
    simp [sendersOf, List.filter_append, outside]

namespace ManageStorage

/-- No account has been added, and every slot holds the zero address. -/
structure Empty (storage : ManageStorage Key) : Prop where
  count : ∀ record owner, storage.accountCount record owner = 0
  index : ∀ record owner index, storage.accountIndex record owner index = 0

/-- The lists hold the first additions, and the slots above them hold the zero address. -/
structure Lists (storage : ManageStorage Key) (additions : List (Addition Key)) : Prop where
  accounts : ∀ record owner,
    storage.accounts record owner = firsts (sendersOf record owner additions)
  unset : ∀ record owner index, (storage.accountCount record owner).toNat ≤ index →
    storage.accountIndex record owner index = 0

/-- Empty lists are those of no additions. -/
theorem Empty.lists {storage : ManageStorage Key} (empty : storage.Empty) : storage.Lists [] where
  accounts record owner := by
    rw [ManageStorage.accounts, empty.count]
    rfl
  unset record owner index _ := empty.index record owner index

omit [DecidableEq Key] in
theorem empty_deployed (deployer : Address) : (deployed deployer : ManageStorage Key).Empty :=
  ⟨fun _ _ => rfl, fun _ _ _ => rfl⟩

namespace Lists

variable {storage next : ManageStorage Key} {additions : List (Addition Key)}
  (lists : storage.Lists additions)
include lists

theorem enumerates (record : Key) (owner : Address) :
    Enumerates (sendersOf record owner additions) (storage.accountCount record owner).toNat
      (storage.accountIndex record owner) :=
  enumerates_of_slots (lists.accounts record owner)

/-- One addition extends the list of its record and owner. -/
theorem perform {addition : Addition Key} (performed : addition.perform storage = .ok next) :
    next.Lists (additions ++ [addition]) where
  accounts record owner := by
    rw [accounts_of_addManageAccount performed, sendersOf_append_singleton]
    split
    · rename_i here
      obtain ⟨key, row⟩ := here
      subst key row
      rw [lists.accounts, firsts_append_singleton]
    · exact lists.accounts record owner
  unset record owner index above := by
    by_cases here : record = addition.record ∧ owner = addition.owner
    · obtain ⟨key, row⟩ := here
      subst key row
      obtain ⟨within, kept⟩ := above_of_addManageAccount performed above
      rw [kept]
      exact lists.unset _ _ index within
    · obtain ⟨counts, slots⟩ := others_of_addManageAccount performed here
      rw [counts] at above
      rw [slots]
      exact lists.unset record owner index above

/-- Every addition of an allowed account succeeds. -/
theorem succeeds {addition : Addition Key}
    (allowed : storage.allowAccount addition.msgSender = true) :
    ∃ next, addition.perform storage = .ok next := by
  apply exists_addManageAccount_of_nodup allowed
  rw [lists.accounts]
  exact nodup_firsts _

/-- Additions in sequence list their senders in sequence. -/
theorem performAll {later : List (Addition Key)}
    (performed : later.foldlM Addition.perform storage = .ok next) :
    next.Lists (additions ++ later) := by
  induction later generalizing storage additions with
  | nil =>
      rw [List.foldlM_nil, pure_eq_ok] at performed
      rw [← performed, List.append_nil]
      exact lists
  | cons addition rest ih =>
      rw [List.foldlM_cons, bind_eq_ok] at performed
      obtain ⟨middle, once, remaining⟩ := performed
      have reached := ih (lists.perform once) remaining
      rw [List.append_assoc] at reached
      exact reached

/-- Additions by allowed callers all succeed. -/
theorem exists_performAll (later : List (Addition Key))
    (allowed : ∀ addition ∈ later, storage.allowAccount addition.msgSender = true) :
    ∃ final, later.foldlM Addition.perform storage = .ok final := by
  induction later generalizing storage additions with
  | nil => exact ⟨storage, rfl⟩
  | cons addition rest ih =>
      obtain ⟨middle, once⟩ := lists.succeeds (allowed addition List.mem_cons_self)
      have kept : ∀ other ∈ rest, middle.allowAccount other.msgSender = true := by
        intro other member
        rw [allowAccount_of_addManageAccount once]
        exact allowed other (List.mem_cons_of_mem _ member)
      obtain ⟨final, remaining⟩ := ih (lists.perform once) kept
      refine ⟨final, ?_⟩
      rw [List.foldlM_cons, bind_of_ok _ once]
      exact remaining

end Lists

/-- Additions by allowed callers to an empty storage keep an ordered set for each list. -/
theorem additions_enumerated (storage : ManageStorage Key) (empty : storage.Empty)
    (additions : List (Addition Key))
    (allowed : ∀ addition ∈ additions, storage.allowAccount addition.msgSender = true) :
    ∃ final, additions.foldlM Addition.perform storage = .ok final ∧
      (∀ record owner,
        Enumerates (sendersOf record owner additions) (final.accountCount record owner).toNat
          (final.accountIndex record owner) ∧
        ∀ index, (final.accountCount record owner).toNat ≤ index →
          final.accountIndex record owner index = 0) ∧
      ∀ before addition after, additions = before ++ addition :: after →
        ∃ state next, before.foldlM Addition.perform storage = .ok state ∧
          addition.perform state = .ok next ∧
          ∀ record owner, ¬ (record = addition.record ∧ owner = addition.owner) →
            next.accountCount record owner = state.accountCount record owner ∧
              next.accountIndex record owner = state.accountIndex record owner := by
  obtain ⟨final, ran⟩ := empty.lists.exists_performAll additions allowed
  have lists := empty.lists.performAll ran
  refine ⟨final, ran, fun record owner => ⟨lists.enumerates record owner, lists.unset record owner⟩,
    ?_⟩
  intro before addition after parts
  rw [parts, List.foldlM_append, bind_eq_ok] at ran
  obtain ⟨state, earlier, later⟩ := ran
  rw [List.foldlM_cons, bind_eq_ok] at later
  obtain ⟨next, performed, -⟩ := later
  exact ⟨state, next, earlier, performed, fun _ _ => others_of_addManageAccount performed⟩

/-- One list gets an account, the zero address and the account again. -/
def repeatedAdditions : List (Addition (BitVec 256)) :=
  [⟨1, 7, 5, 8⟩, ⟨1, 7, 5, 0⟩, ⟨1, 7, 5, 8⟩, ⟨1, 9, 5, 3⟩]

/-- The repeated account counts once, and the zero address is listed like any other. -/
theorem repeatedAdditions_enumerated :
    (deployed 1 : ManageStorage (BitVec 256)).Empty ∧
      (∀ addition ∈ repeatedAdditions,
        (deployed 1 : ManageStorage (BitVec 256)).allowAccount addition.msgSender = true) ∧
      ∃ final, repeatedAdditions.foldlM Addition.perform (deployed 1) = .ok final ∧
        (final.accountCount 7 5).toNat = 2 ∧
        (∃ index, index < (final.accountCount 7 5).toNat ∧ final.accountIndex 7 5 index = 0) ∧
        final.accountIndex 7 5 2 = 0 := by
  have empty : (deployed 1 : ManageStorage (BitVec 256)).Empty := empty_deployed 1
  have allowed : ∀ addition ∈ repeatedAdditions,
      (deployed 1 : ManageStorage (BitVec 256)).allowAccount addition.msgSender = true := by decide
  obtain ⟨final, ran, lists, -⟩ := additions_enumerated _ empty repeatedAdditions allowed
  obtain ⟨enumerates, unset⟩ := lists 7 5
  have count : (final.accountCount 7 5).toNat = 2 := enumerates.counted.trans (by decide)
  exact ⟨empty, allowed, final, ran, count, (enumerates.listed 0).mpr (by decide),
    unset 2 (by omega)⟩

/-- The lists depend on the counters and the slots only. -/
theorem Lists.of_same {storage next : ManageStorage Key} {additions : List (Addition Key)}
    (lists : storage.Lists additions) (counts : next.accountCount = storage.accountCount)
    (slots : next.accountIndex = storage.accountIndex) : next.Lists additions where
  accounts record owner := by
    rw [ManageStorage.accounts, counts, slots]
    exact lists.accounts record owner
  unset := by
    rw [counts, slots]
    exact lists.unset

/-- Only an addition changes the lists. -/
theorem Lists.execute {storage next : ManageStorage Key} {additions : List (Addition Key)}
    (lists : storage.Lists additions) {transaction : ManageTransaction Key}
    (executed : storage.execute transaction = .ok next) :
    next.Lists (additions ++ transaction.addition.toList) := by
  obtain ⟨msgSender, call⟩ := transaction
  cases call with
  | enableAllowAccount account enable =>
      obtain ⟨-, same⟩ := (enableAllowAccount_eq_ok _ _ _ _ _).mp executed
      rw [← same]
      show Lists _ (additions ++ [])
      rw [List.append_nil]
      exact lists.of_same rfl rfl
  | transferOwnership newOwner =>
      obtain ⟨-, same⟩ := (transferOwnership_eq_ok _ _ _ _).mp executed
      rw [← same]
      show Lists _ (additions ++ [])
      rw [List.append_nil]
      exact lists.of_same rfl rfl
  | addManageAccount record owner sender => exact lists.perform executed

/-- After any calls each list holds the senders of the accepted additions. -/
theorem lists_of_run {storage : ManageStorage Key} (empty : storage.Empty)
    (transactions : List (ManageTransaction Key)) :
    (run ManageStorage.execute storage transactions).Lists
      ((history ManageStorage.execute storage transactions).flatMap fun entry =>
        entry.2.addition.toList) := by
  refine run_history (fun past (current : ManageStorage Key) => current.Lists
    (past.flatMap fun entry => entry.2.addition.toList)) empty.lists ?_ transactions
  intro past current transaction next lists executed
  rw [List.flatMap_append, List.flatMap_singleton]
  exact lists.execute executed

/-- In every state that the deployed contract reaches, exactly the allowed callers can add. -/
theorem perform_succeeds_iff (deployer : Address) (transactions : List (ManageTransaction Key))
    (addition : Addition Key) :
    (∃ next, addition.perform (run ManageStorage.execute (deployed deployer) transactions) =
      .ok next) ↔
      (run ManageStorage.execute (deployed deployer : ManageStorage Key)
        transactions).allowAccount addition.msgSender = true := by
  constructor
  · intro succeeds
    obtain ⟨next, performed⟩ := succeeds
    exact ((addManageAccount_eq_ok _ _ _ _ _ _).mp performed).1
  · exact (lists_of_run (empty_deployed deployer) transactions).succeeds

end ManageStorage

end

/-- An accepted evaluation adds both accounts once to the list of the other one. -/
def Transaction.additions (service : Address) (transaction : Transaction) :
    List (Addition Record) :=
  match transaction.call with
  | .callEvaluateReliability owner sender _ =>
      [⟨service, .evaAccount, sender, owner⟩, ⟨service, .accountEvaList, owner, sender⟩]
  | _ => []

/-- Every accepted call of the coin contracts performs its additions on the storage contract. -/
theorem performs_additions {system next : System} {transaction : Transaction}
    (represented : system.Represented) (executed : execute system transaction = .ok next) :
    (transaction.additions system.service.address).foldlM Addition.perform system.manageStorage =
      .ok next.manageStorage := by
  obtain ⟨msgSender, call⟩ := transaction
  have kept (same : next.manageStorage = system.manageStorage) :
      ([] : List (Addition Record)).foldlM Addition.perform system.manageStorage =
        .ok next.manageStorage := by
    rw [same]
    rfl
  cases executed_of_execute executed with
  | @callEvaluateReliability owner sender trustworthy _ succeeds =>
      obtain ⟨middle, once, -, lists⟩ :=
        HolonusCoinService.manageStorage_of_callEvaluateReliability represented succeeds
      obtain ⟨-, _, -, _, -, _, -, first, firstAdded, second, secondAdded, same⟩ :=
        (HolonusCoinService.fcUpdateReliability_iff system middle owner sender trustworthy _
          rfl).mp once
      have stored : next.manageStorage = second := by
        rw [lists, ← same]
        rfl
      have firstPerformed : Addition.perform system.manageStorage
        ⟨system.service.address, .evaAccount, sender, owner⟩ = .ok first := firstAdded
      have secondPerformed : Addition.perform first
        ⟨system.service.address, .accountEvaList, owner, sender⟩ = .ok second := secondAdded
      rw [stored, Transaction.additions, List.foldlM_cons, bind_of_ok _ firstPerformed,
        List.foldlM_cons, bind_of_ok _ secondPerformed, List.foldlM_nil]
      rfl
  | issued => exact kept rfl
  | alreadyIssued => exact kept rfl
  | transfer => exact kept rfl
  | transferFrom => exact kept rfl
  | approve => exact kept rfl
  | transferTokenOwnership => exact kept rfl
  | setReliability => exact kept rfl
  | setAdjustParameter => exact kept rfl
  | callEvaluatePost =>
      apply kept
      simp only [HolonusCoinService.posted]
  | reflectToken => exact kept rfl
  | transferToken => exact kept rfl
  | transferServiceOwnership => exact kept rfl

/-- The migrations deploy the storage contract and allow the service on it. -/
theorem Deployment.manageStorage_eq (deployment : Deployment) :
    (ManageStorage.deployed deployment.deployer).enableAllowAccount deployment.deployer
      deployment.service true = .ok deployment.system.manageStorage := by
  apply (ManageStorage.enableAllowAccount_eq_ok _ _ _ _ _).mpr
  refine ⟨rfl, ?_⟩
  simp only [ManageStorage.deployed, Deployment.system, ManageStorage.mk.injEq, and_true, true_and]
  funext account
  by_cases same : account = deployment.service
  · simp [same]
  · simp [same]

/-- These additions were made by the accepted calls. -/
def Deployment.additions (deployment : Deployment) (transactions : List Transaction) :
    List (Addition Record) :=
  (deployment.accepted transactions).flatMap fun entry => entry.2.additions deployment.service

/-- What successful additions keep holds of the storage contract of every reachable system. -/
theorem Deployment.manageStorage_rule (deployment : Deployment)
    (Relates : List (Addition Record) → ManageStorage Record → Prop)
    (start : Relates [] deployment.system.manageStorage)
    (advance : ∀ additions storage later next, Relates additions storage →
      later.foldlM Addition.perform storage = .ok next → Relates (additions ++ later) next)
    (transactions : List Transaction) :
    Relates (deployment.additions transactions) (deployment.after transactions).manageStorage := by
  have kept := run_refines (fun past current =>
    current.service.address = deployment.service ∧ Relates
      (past.flatMap fun entry => entry.2.additions deployment.service) current.manageStorage)
    deployment.sound ⟨rfl, start⟩ ?_ transactions
  · exact kept.1.2
  · intro past current transaction next sound holds executed refines
    obtain ⟨service, relates⟩ := holds
    have performed := performs_additions sound.represented executed
    rw [service] at performed
    refine ⟨refines.wiring.service.trans service, ?_⟩
    rw [List.flatMap_append, List.flatMap_singleton]
    exact advance _ _ _ _ relates performed

/-- The storage contract of a reachable system has run the additions of the accepted calls. -/
theorem Deployment.manageStorage_after (deployment : Deployment) (transactions : List Transaction) :
    (deployment.after transactions).manageStorage =
      run ManageStorage.execute (.deployed deployment.deployer)
        (⟨deployment.deployer, .enableAllowAccount deployment.service true⟩ ::
          (deployment.additions transactions).map Addition.transaction) := by
  rw [run_cons, settle_ok deployment.manageStorage_eq]
  apply deployment.manageStorage_rule (fun additions storage => storage =
    run ManageStorage.execute deployment.system.manageStorage (additions.map Addition.transaction))
    rfl
  intro additions storage later next reached performed
  have ran : (later.map Addition.transaction).foldlM ManageStorage.execute storage = .ok next := by
    rw [List.foldlM_map]
    exact performed
  rw [List.map_append, run_append, ← reached]
  exact (run_of_foldlM ran).symm

/-- In every reachable system the account lists hold the accounts of the accepted evaluations. -/
theorem Deployment.after_lists (deployment : Deployment) (transactions : List Transaction) :
    (deployment.after transactions).manageStorage.Lists (deployment.additions transactions) := by
  have empty : deployment.system.manageStorage.Empty := ⟨fun _ _ => rfl, fun _ _ _ => rfl⟩
  apply deployment.manageStorage_rule (fun additions storage => storage.Lists additions) empty.lists
  intro additions storage later next lists performed
  exact lists.performAll performed

/-- An account's evaluators and evaluatees stand in the order of their first accepted evaluation. -/
theorem Deployment.after_enumerated (deployment : Deployment) (transactions : List Transaction)
    (record : Record) (owner : Address) :
    Enumerates (sendersOf record owner (deployment.additions transactions))
      ((deployment.after transactions).manageStorage.accountCount record owner).toNat
      ((deployment.after transactions).manageStorage.accountIndex record owner) :=
  (deployment.after_lists transactions).enumerates record owner

end Holonus.Coin
