/-
This file proves that the file contracts refine two independent maps under access control.
-/

import Holonus.Abstract.Registry
import Holonus.Construction.File.Service
import Holonus.Machine.AtomicRun

namespace Holonus.File

open Holonus.Machine Holonus.Coin Holonus.Abstract

/-- A caller passes the checks of a guarded contract. -/
def Guard.Admits (guard : Guard) (account : Address) : Prop :=
  guard.allowAccount account = true ∧ guard.isLocked = false

/-- The owner's calls change one field of the guard. -/
def Guard.administered (guard : Guard) : Administration → Guard
  | .transferOwnership newOwner => { guard with owner := newOwner }
  | .enableAllowAccount account enable =>
      { guard with allowAccount := Function.update guard.allowAccount account enable }
  | .setLocked => { guard with isLocked := true }
  | .setUnlocked => { guard with isLocked := false }

/-- The owner of a guard, and nobody else, administers it. -/
theorem Guard.administer_eq_ok (guard next : Guard) (msgSender : Address)
    (administration : Administration) :
    guard.administer msgSender administration = .ok next ↔
      msgSender = guard.owner ∧ guard.administered administration = next := by
  cases administration <;>
    simp only [Guard.administer, Guard.transferOwnership, Guard.enableAllowAccount,
      Guard.setLocked, Guard.setUnlocked, Guard.onlyOwner, Guard.administered, bind_eq_ok,
      pure_eq_ok, require_eq_ok, exists_const]

/-- An admitted account, and no other, writes a text. -/
theorem TextStorage.set_eq_ok (storage next : TextStorage) (msgSender : Address)
    (id value : String) :
    storage.set msgSender id value = .ok next ↔
      storage.guard.Admits msgSender ∧ storage.put id value = next := by
  simp only [TextStorage.set, Guard.isAllow, Guard.isUnlocked, Guard.Admits, bind_eq_ok, pure_eq_ok,
    require_eq_ok, exists_const, and_assoc]

/-- An admitted account, and no other, reads a text. -/
theorem TextStorage.get_eq_ok (storage : TextStorage) (msgSender : Address) (id : String)
    (stored : StoredText) :
    storage.get msgSender id = .ok stored ↔
      storage.guard.Admits msgSender ∧ storage.entries id = stored := by
  simp only [TextStorage.get, Guard.isAllow, Guard.isUnlocked, Guard.Admits, bind_eq_ok, pure_eq_ok,
    require_eq_ok, exists_const, and_assoc]

/-- The checks that a transaction has to pass. -/
def System.Permits (system : System) (transaction : Transaction) : Prop :=
  match transaction.call with
  | .administer party _ => transaction.msgSender = (system.guard party).owner
  | .setFile _ _ => system.service.Admits transaction.msgSender ∧
      system.fileStorage.guard.Admits system.address
  | .setKey _ _ => system.service.Admits transaction.msgSender ∧
      system.keyStorage.guard.Admits system.address
  | .storeFile _ _ => system.fileStorage.guard.Admits transaction.msgSender
  | .storeKey _ _ => system.keyStorage.guard.Admits transaction.msgSender

/-- The effect of a permitted call. -/
def System.applied (system : System) : Call → System
  | .administer party administration =>
      system.withGuard party ((system.guard party).administered administration)
  | .setFile fileId hash | .storeFile fileId hash =>
      { system with fileStorage := system.fileStorage.put fileId hash }
  | .setKey publickeyId publicKey | .storeKey publickeyId publicKey =>
      { system with keyStorage := system.keyStorage.put publickeyId publicKey }

/-- A call succeeds exactly if its checks pass. -/
theorem execute_eq_ok (system next : System) (transaction : Transaction) :
    execute system transaction = .ok next ↔
      system.Permits transaction ∧ system.applied transaction.call = next := by
  obtain ⟨msgSender, call⟩ := transaction
  cases call <;>
    simp only [execute, HolonusFileService.setFile, HolonusFileService.setKey, FileStorage.set,
      KeyStorage.set, Guard.isAllow, Guard.isUnlocked, System.Permits, System.applied, Guard.Admits,
      Guard.administer_eq_ok, TextStorage.set_eq_ok, bind_eq_ok, pure_eq_ok, require_eq_ok,
      exists_const, and_assoc, exists_and_left, exists_eq_left']

/-- A transaction succeeds exactly when it is permitted. -/
theorem exists_ok_iff (system : System) (transaction : Transaction) :
    (∃ next, execute system transaction = .ok next) ↔ system.Permits transaction := by
  simp only [execute_eq_ok, exists_and_left, exists_eq', and_true]

/-- The call writes to one of the two maps. -/
def Call.writing : Call → Option (Writing String)
  | .administer _ _ => none
  | .setFile fileId hash | .storeFile fileId hash => some ⟨.files, fileId, hash⟩
  | .setKey publickeyId publicKey | .storeKey publickeyId publicKey =>
      some ⟨.keys, publickeyId, publicKey⟩

def writings (past : List (System × Transaction)) : List (Writing String) :=
  past.filterMap fun entry => entry.2.call.writing

/-- The last entry adds what it writes. -/
theorem writings_append (past : List (System × Transaction)) (entry : System × Transaction) :
    writings (past ++ [entry]) = writings past ++ entry.2.call.writing.toList := by
  rw [writings, List.filterMap_append]
  cases writes : entry.2.call.writing <;> simp [writings, writes]

/-- A present value is returned with its identifier. -/
def StoredText.render (id : String) : Option String → StoredText
  | none => StoredText.empty
  | some value => ⟨id, value⟩

def System.storage (system : System) : Shelf → TextStorage
  | .files => system.fileStorage
  | .keys => system.keyStorage

/-- The storages hold the values of the registry. -/
def System.Holds (system : System) (registry : Registry String) : Prop :=
  ∀ shelf id, (system.storage shelf).entries id = StoredText.render id (registry shelf id)

/-- Administering a guard keeps the texts. -/
theorem System.storage_withGuard (system : System) (party : Party) (guard : Guard) (shelf : Shelf) :
    ((system.withGuard party guard).storage shelf).entries = (system.storage shelf).entries := by
  cases party <;> cases shelf <;> rfl

/-- A put changes the storage like a write changes the registry. -/
theorem put_entries {storage : TextStorage} {registry : String → Option String}
    (holds : ∀ id, storage.entries id = StoredText.render id (registry id)) (id value key : String) :
    (storage.put id value).entries key =
      StoredText.render key (Function.update registry id (some value) key) := by
  show Function.update storage.entries id ⟨id, value⟩ key = _
  by_cases same : key = id
  · rw [same, Function.update_self, Function.update_self]
    rfl
  · rw [Function.update_of_ne same, Function.update_of_ne same]
    exact holds key

/-- Each call performs its writing and an administration performs none. -/
theorem System.Holds.applied {system : System} {registry : Registry String}
    (holds : system.Holds registry) (call : Call) :
    (system.applied call).Holds (call.writing.elim registry registry.write) := by
  intro shelf id
  cases call with
  | administer party administration =>
      show ((system.withGuard party _).storage shelf).entries id = _
      rw [system.storage_withGuard]
      exact holds shelf id
  | setFile fileId hash | storeFile fileId hash =>
      cases shelf with
      | files => exact put_entries (holds .files) fileId hash id
      | keys => exact holds .keys id
  | setKey publickeyId publicKey | storeKey publickeyId publicKey =>
      cases shelf with
      | files => exact holds .files id
      | keys => exact put_entries (holds .keys) publickeyId publicKey id

namespace Deployment

def after (deployment : Deployment) (transactions : List Transaction) : System :=
  run execute deployment.system transactions

def accepted (deployment : Deployment) (transactions : List Transaction) :
    List (System × Transaction) :=
  history execute deployment.system transactions

/-- A deployment holds nothing. -/
theorem holds (deployment : Deployment) : deployment.system.Holds (latest []) := by
  intro shelf id
  cases shelf <;> rfl

/-- The storages hold the latest accepted writings. -/
theorem after_holds (deployment : Deployment) (transactions : List Transaction) :
    (deployment.after transactions).Holds
      (latest (writings (deployment.accepted transactions))) := by
  refine run_history (fun (past : List (System × Transaction)) (current : System) =>
    current.Holds (latest (writings past))) deployment.holds ?_ transactions
  intro past current transaction next earlier executed
  have applied := ((execute_eq_ok _ _ _).mp executed).2
  have step := earlier.applied transaction.call
  rw [applied] at step
  rw [writings_append]
  cases writes : transaction.call.writing with
  | none =>
      rw [writes] at step
      rw [Option.toList_none, List.append_nil]
      exact step
  | some writing =>
      rw [writes] at step
      rw [Option.toList_some, latest_append]
      exact step

end Deployment

/-- A call changes only the guard that its sender owns. -/
theorem guard_of_execute {system next : System} {transaction : Transaction}
    (executed : execute system transaction = .ok next) {party : Party}
    (changed : next.guard party ≠ system.guard party) :
    transaction.msgSender = (system.guard party).owner := by
  obtain ⟨permits, applied⟩ := (execute_eq_ok _ _ _).mp executed
  obtain ⟨msgSender, call⟩ := transaction
  subst applied
  cases call with
  | administer target administration =>
      by_cases same : party = target
      · rw [same]
        exact permits
      · apply absurd _ changed
        cases party <;> cases target <;> first | rfl | exact absurd rfl same
  | _ => cases party <;> exact absurd rfl changed

/-- The contracts control every write, keep their administration to their owners and return the
values of the registry. -/
structure System.Serves (system : System) (registry : Registry String) : Prop where
  setFile_iff : ∀ msgSender fileId hash,
    (∃ next, HolonusFileService.setFile system msgSender fileId hash = .ok next) ↔
      system.service.Admits msgSender ∧ system.fileStorage.guard.Admits system.address
  setKey_iff : ∀ msgSender publickeyId publicKey,
    (∃ next, HolonusFileService.setKey system msgSender publickeyId publicKey = .ok next) ↔
      system.service.Admits msgSender ∧ system.keyStorage.guard.Admits system.address
  storeFile_iff : ∀ msgSender fileId hash,
    (∃ next, FileStorage.set system.fileStorage msgSender fileId hash = .ok next) ↔
      system.fileStorage.guard.Admits msgSender
  storeKey_iff : ∀ msgSender publickeyId publicKey,
    (∃ next, KeyStorage.set system.keyStorage msgSender publickeyId publicKey = .ok next) ↔
      system.keyStorage.guard.Admits msgSender
  administered : ∀ transaction next, execute system transaction = .ok next → ∀ party,
    next.guard party ≠ system.guard party → transaction.msgSender = (system.guard party).owner
  getFile : ∀ msgSender fileId, system.service.Admits msgSender →
    system.fileStorage.guard.Admits system.address →
      HolonusFileService.getFile system msgSender fileId =
        .ok (StoredText.render fileId (registry .files fileId))
  getKey : ∀ msgSender publickeyId, system.service.Admits msgSender →
    system.keyStorage.guard.Admits system.address →
      HolonusFileService.getKey system msgSender publickeyId =
        .ok (StoredText.render publickeyId (registry .keys publickeyId))
  independent : ∀ transaction next writing, execute system transaction = .ok next →
    transaction.call.writing = some writing → ∀ shelf, shelf ≠ writing.shelf →
      next.storage shelf = system.storage shelf

theorem service_get_eq_ok {system : System} {storage : TextStorage} {msgSender : Address}
    {id : String} (admitted : system.service.Admits msgSender)
    (passed : storage.guard.Admits system.address) :
    (do
      system.service.isAllow msgSender
      system.service.isUnlocked
      storage.get system.address id) = .ok (storage.entries id) := by
  simp only [Guard.isAllow, Guard.isUnlocked, bind_eq_ok, require_eq_ok, exists_const,
    TextStorage.get_eq_ok]
  exact ⟨admitted.1, admitted.2, passed, trivial⟩

/-- After every run the contracts serve the latest accepted writings. -/
theorem fileService_refines (deployment : Deployment) (transactions : List Transaction) :
    (deployment.after transactions).Serves
      (latest (writings (deployment.accepted transactions))) := by
  have holds := deployment.after_holds transactions
  constructor
  · intro msgSender fileId hash
    exact exists_ok_iff _ ⟨msgSender, .setFile fileId hash⟩
  · intro msgSender publickeyId publicKey
    exact exists_ok_iff _ ⟨msgSender, .setKey publickeyId publicKey⟩
  · intro msgSender fileId hash
    simp only [FileStorage.set, TextStorage.set_eq_ok, exists_and_left, exists_eq', and_true]
  · intro msgSender publickeyId publicKey
    simp only [KeyStorage.set, TextStorage.set_eq_ok, exists_and_left, exists_eq', and_true]
  · intro transaction next executed party changed
    exact guard_of_execute executed changed
  · intro msgSender fileId admitted passed
    rw [← holds .files fileId]
    exact service_get_eq_ok admitted passed
  · intro msgSender publickeyId admitted passed
    rw [← holds .keys publickeyId]
    exact service_get_eq_ok admitted passed
  · intro transaction next writing executed writes shelf other
    have applied := ((execute_eq_ok _ _ _).mp executed).2
    obtain ⟨msgSender, call⟩ := transaction
    subst applied
    cases call with
    | administer party administration => exact absurd writes (by simp [Call.writing])
    | setFile fileId hash | storeFile fileId hash =>
        cases writes
        cases shelf with
        | files => exact absurd rfl other
        | keys => rfl
    | setKey publickeyId publicKey | storeKey publickeyId publicKey =>
        cases writes
        cases shelf with
        | files => rfl
        | keys => exact absurd rfl other

/-- The owner enables the service, writes through it, locks it and denies the writer. -/
def lockedRun : List Transaction :=
  [⟨1, .administer .fileStorage (.enableAllowAccount 2 true)⟩, ⟨1, .setFile "a" "x"⟩,
    ⟨1, .storeFile "a" "y"⟩, ⟨1, .administer .fileStorage .setLocked⟩, ⟨1, .setFile "a" "z"⟩,
    ⟨7, .administer .fileStorage .setUnlocked⟩, ⟨1, .administer .fileStorage .setUnlocked⟩]

example : (HolonusFileService.getFile ((⟨1, 2⟩ : Deployment).after lockedRun) 1 "a").toOption =
    some ⟨"a", "y"⟩ := by decide +kernel

end Holonus.File
