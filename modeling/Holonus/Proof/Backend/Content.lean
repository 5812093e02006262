/-
This file proves that every recorded hash leads to content of the network.
-/

import Holonus.Proof.Backend.Evidence
import Holonus.Proof.Backend.Hashes
import Holonus.Proof.Backend.Isolation

namespace Holonus.Backend

open Holonus.Machine Holonus.File Holonus.Abstract

section
variable {Id PublicKey : Type}

/-- Every hash that the database or the chain records leads to content. -/
structure Available (platform : Platform Id PublicKey) (store : Store Id) : Prop where
  rows : ∀ row ∈ store.database.files, store.Resolves platform row.hash
  entries : ∀ text, ((store.chain.storage .files).entries text).id ≠ "" →
    store.Resolves platform ((store.chain.storage .files).entries text).value

variable [DecidableEq Id] {platform : Platform Id PublicKey}

/-- The recorded and the pending hashes are among these. -/
structure Traced (Hash : String → Prop) (world : World Id PublicKey) : Prop where
  rows : ∀ entry ∈ world.store.database.hashes, Hash entry.2
  entries : ∀ text, ((world.store.chain.storage .files).entries text).id ≠ "" →
    Hash ((world.store.chain.storage .files).entries text).value
  sessions : ∀ index task, world.locals index = some task →
    Inserts (fun entry => Hash entry.2) task.session

section
variable {Hash : String → Prop} {store next : Store Id} {session after : Option (Session Id)}
  {op : Op Id} {choice : Choice Id PublicKey} {reply : Except Failure (Reply PublicKey op)}

/-- Every hash of a row was stored, since a commit inserts only stored ones. -/
theorem hashes_traced (change : Change platform store session op next after)
    (rows : ∀ entry ∈ store.database.hashes, Hash entry.2)
    (pending : Inserts (fun entry => Hash entry.2) session) :
    ∀ entry ∈ next.database.hashes, Hash entry.2 := by
  cases change with
  | kept | closed | began | staged | drew | sentFile | sentKey | added => exact rows
  | committed writes isOpen free =>
      intro entry member
      rcases hashes_applyAll member with old | new
      · exact rows entry old
      · obtain ⟨write, present, inserted⟩ := new
        exact pending writes isOpen write present entry inserted
  | deleted fileId userId row found =>
      intro entry member
      rcases hashes_applyAll member with old | new
      · exact rows entry old
      · obtain ⟨write, present, inserted⟩ := new
        rw [List.mem_singleton.mp present] at inserted
        cases inserted

/-- Every hash on the chain was stored, since a request writes only stored ones. -/
theorem entries_traced (change : Change platform store session op next after) {body : Body Id}
    (permits : body.Permits platform Hash op)
    (entries : ∀ text, ((store.chain.storage .files).entries text).id ≠ "" →
      Hash ((store.chain.storage .files).entries text).value) :
    ∀ text, ((next.chain.storage .files).entries text).id ≠ "" →
      Hash ((next.chain.storage .files).entries text).value := by
  intro text
  rcases change.entry_cases .files text with kept | ⟨hash, rfl, written⟩
  · rw [kept]
    exact entries text
  · rw [written]
    exact fun _ => permits.1

/-- A session inserts only hashes that its request may record. -/
theorem inserts_traced (responded : respond platform store session op choice = some (reply, next, after))
    {body : Body Id} (permits : body.Permits platform Hash op)
    (held : Inserts (fun entry => Hash entry.2) session) :
    Inserts (fun entry => Hash entry.2) after := by
  have advances := respond_advances responded
  generalize replying : reply.toBool = replied at advances
  cases advances with
  | kept => exact held
  | closed => exact fun _ same => nomatch same
  | began =>
      intro pending same write member
      cases same
      cases member
  | staged pending plan isOpen stages =>
      subst isOpen
      apply held.stage
      intro database write entry planned inserted
      rw [insertedHash_of_inserts (stages database write planned).inserts_none] at inserted
      cases inserted
  | drew pending shelf id userId write creates isOpen fresh inserts =>
      subst isOpen
      cases op with
      | ask query => cases creates
      | act command =>
          cases command with
          | filesCreate owner fileName mimeType hash =>
              cases reply with
              | error failure => cases replying
              | ok value =>
                  obtain ⟨-, -, opened, isOpen, staged⟩ := filesCreate_ok responded
                  rw [staged]
                  cases isOpen
                  apply held.stage
                  intro database planned entry same inserted
                  cases same
                  cases inserted
                  exact permits.1
          | keysCreate owner =>
              cases creates
              apply held.stage
              intro database planned entry same inserted
              cases same
              cases write with
              | insertFile row => cases inserts
              | _ => cases inserted
          | _ => cases creates

end

/-- A permitted step keeps the hashes traced. -/
theorem Traced.performed {Hash : String → Prop} {world next : World Id PublicKey} {index : Nat}
    {op : Op Id} {choice : Choice Id PublicKey} {reply : Except Failure (Reply PublicKey op)}
    {body : Body Id} (permits : body.Permits platform Hash op)
    (performed : world.perform platform index op choice = some (reply, next))
    (traced : Traced Hash world) : Traced Hash next := by
  obtain ⟨task, session, found, responded, locals⟩ := perform_inv performed
  have change := respond_change responded
  have pending := traced.sessions index task found
  refine ⟨hashes_traced change traced.rows pending, entries_traced change permits traced.entries, ?_⟩
  rw [locals]
  apply forall_update_some
  · rw [Local.session_after]
    exact inserts_traced responded permits pending
  · exact fun other current _ present => traced.sessions other current present

/-- A started request has recorded nothing. -/
theorem Traced.enrolled {Hash : String → Prop} {world : World Id PublicKey}
    (traced : Traced Hash world) (platform : Platform Id PublicKey) (index : Nat)
    (request : Request Id) : Traced Hash ((runtime platform).enroll index request world) := by
  refine ⟨traced.rows, traced.entries, forall_update_some ?_ ?_⟩
  · intro pending same
    cases same
  · exact fun other current _ present => traced.sessions other current present

/-- Every run keeps the recorded hashes available. -/
theorem reached_available {store : Store Id} (available : Available platform store)
    (moves : List (Move (Choice Id PublicKey) (Request Id))) :
    Available platform (reached platform store moves).world.store := by
  have resolves {hash : String} (resolved : store.Resolves platform hash) :
      (reached platform store moves).world.store.Resolves platform hash := by
    obtain ⟨data, member, same⟩ := resolved
    exact ⟨data, run_ipfs platform store moves member, same⟩
  have traced : Traced ((reached platform store moves).world.store.Resolves platform)
      (reached platform store moves).world := by
    apply reached_keeps
    · refine ⟨?_, fun text recorded => resolves (available.entries text recorded), ?_⟩
      · intro entry member
        obtain ⟨row, present, same⟩ := List.mem_map.mp member
        rw [← same]
        exact resolves (available.rows row present)
      · intro index task found
        cases found
    · exact fun index request world _ traced => traced.enrolled platform index request
    · intro first index op resume choice reply next request _ _ _ permits performed traced
      have resolving : request.body.Permits platform
          ((reached platform store moves).world.store.Resolves platform) op :=
        Body.Permits.mono permits fun _ stored => stored.1
      exact traced.performed resolving performed
  refine ⟨?_, traced.entries⟩
  intro row member
  exact traced.rows _ (List.mem_map.mpr ⟨row, member, rfl⟩)

/-- Content of a resolved hash is returned by the network. -/
theorem Store.Resolves.cat {store : Store Id} {hash : String}
    (resolves : store.Resolves platform hash) :
    ∃ data, answer platform store (.ipfsCat hash) = .ok data ∧ platform.address data = hash := by
  obtain ⟨data, member, same⟩ := resolves
  cases search : store.ipfs.find? fun data => platform.address data = hash with
  | none =>
      have missing := List.find?_eq_none.mp search data member
      exact absurd (decide_eq_true same) missing
  | some found =>
      have matched := List.find?_some search
      refine ⟨found, ?_, of_decide_eq_true matched⟩
      simp only [answer, search]

/-- Over every run, the network has the content of every hash that a row or an entry of the chain
records. -/
theorem recorded_hashes_readable {store : Store Id} (available : Available platform store)
    (moves : List (Move (Choice Id PublicKey) (Request Id))) :
    let last := (reached platform store moves).world.store
    (∀ row ∈ last.database.files, ∃ data,
      answer platform last (.ipfsCat row.hash) = .ok data ∧ platform.address data = row.hash) ∧
    ∀ fileId, (last.chain.fileStorage.entries fileId).id ≠ "" → ∃ data,
      answer platform last (.ipfsCat (last.chain.fileStorage.entries fileId).value) = .ok data ∧
        platform.address data = (last.chain.fileStorage.entries fileId).value := by
  intro last
  have kept := reached_available available moves
  exact ⟨fun row member => (kept.rows row member).cat,
    fun fileId recorded => (kept.entries fileId recorded).cat⟩

end

theorem recorded_hashes_readable_postedFile :
    ∃ data, answer plain (reached plain plainStore postedFile).world.store
      (.ipfsCat (plainAddress [3, 7])) = .ok data ∧ plainAddress data = plainAddress [3, 7] := by
  have available : Available plain plainStore :=
    ⟨fun row member => (List.not_mem_nil member).elim, fun text recorded => absurd rfl recorded⟩
  exact (recorded_hashes_readable available postedFile).1
    ⟨plainFile, "u", "name", "mime", plainAddress [3, 7], false⟩ (by decide +kernel)

end Holonus.Backend
