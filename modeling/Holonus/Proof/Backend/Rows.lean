/-
This file follows the rows of the database through the writes of the sessions.
It says which rows a list of writes adds, keeps and removes and what a step adds to a session.
-/

import Holonus.Proof.Backend.Integrity

namespace Holonus.Backend

open Holonus.Machine Holonus.File Holonus.Abstract

section
variable {Id PublicKey : Type}

def Write.deletes : Write Id → Option (Shelf × Id)
  | .deleteFile id => some (.files, id)
  | .deleteKey id => some (.keys, id)
  | _ => none

/-- The identifiers of the rows that the session inserts. -/
def Session.newIds (session : Session Id) : List Id :=
  session.writes.filterMap fun write => write.inserts.map fun new => new.2.id

/-- The new identifiers of a session are those that its writes insert. -/
theorem Session.mem_newIds {session : Session Id} {id : Id} :
    id ∈ session.newIds ↔
      ∃ write ∈ session.writes, ∃ shelf owner, write.inserts = some (shelf, owner) ∧ owner.id = id := by
  simp only [Session.newIds, List.mem_filterMap, Option.map_eq_some_iff, Prod.exists]

/-- A file row has its owner. -/
theorem Database.file_owner {database : Database Id} {row : FileRow Id}
    (member : row ∈ database.files) : ⟨row.id, row.userId, false⟩ ∈ database.owners .files :=
  List.mem_map.mpr ⟨row, member, rfl⟩

/-- A key row has its owner. -/
theorem Database.key_owner {database : Database Id} {row : KeyRow Id}
    (member : row ∈ database.keys) :
    ⟨row.id, row.userId, row.forRecovery⟩ ∈ database.owners .keys :=
  List.mem_map.mpr ⟨row, member, rfl⟩

variable [DecidableEq Id] {platform : Platform Id PublicKey}

/-- A write keeps every row that it does not delete. -/
theorem owners_kept {database : Database Id} {write : Write Id} {shelf : Shelf} {owner : Owner Id}
    (member : owner ∈ database.owners shelf) :
    owner ∈ (database.apply write).owners shelf ∨ write.deletes = some (shelf, owner.id) := by
  cases shelf with
  | files =>
      obtain ⟨row, present, same⟩ := List.mem_map.mp member
      subst same
      cases write with
      | insertFile new =>
          exact .inl (List.mem_map.mpr ⟨row, List.mem_append_left _ present, rfl⟩)
      | updateFile id fileName mimeType =>
          refine .inl (List.mem_map.mpr ⟨_, List.mem_map.mpr ⟨row, present, rfl⟩, ?_⟩)
          split <;> rfl
      | deleteFile id =>
          by_cases same : row.id = id
          · right
            rw [same]
            rfl
          · left
            exact List.mem_map.mpr ⟨row, List.mem_filter.mpr ⟨present, decide_eq_true same⟩, rfl⟩
      | insertKey new | deleteKey id | updateUser userId keysId => exact .inl member
  | keys =>
      obtain ⟨row, present, same⟩ := List.mem_map.mp member
      subst same
      cases write with
      | insertKey new =>
          exact .inl (List.mem_map.mpr ⟨row, List.mem_append_left _ present, rfl⟩)
      | deleteKey id =>
          by_cases same : row.id = id
          · right
            rw [same]
            rfl
          · left
            exact List.mem_map.mpr ⟨row, List.mem_filter.mpr ⟨present, decide_eq_true same⟩, rfl⟩
      | insertFile new | updateFile id fileName mimeType | deleteFile id
      | updateUser userId keysId => exact .inl member

/-- The writes of a commit are applied before, at and after one of them. -/
theorem applyAll_split (database : Database Id) (before rest : List (Write Id))
    (write : Write Id) :
    database.applyAll (before ++ write :: rest) =
      ((database.applyAll before).apply write).applyAll rest := by
  simp only [Database.applyAll, List.foldl_append, List.foldl_cons]

/-- A list of writes keeps every row that none of them deletes. -/
theorem owners_applyAll_kept {writes : List (Write Id)} {database : Database Id} {shelf : Shelf}
    {owner : Owner Id} (member : owner ∈ database.owners shelf) :
    owner ∈ (database.applyAll writes).owners shelf ∨
      ∃ write ∈ writes, write.deletes = some (shelf, owner.id) := by
  induction writes generalizing database with
  | nil => exact .inl member
  | cons write rest ih =>
      rcases owners_kept member with kept | deleted
      · rcases ih kept with last | later
        · exact .inl last
        · obtain ⟨other, present, deletes⟩ := later
          exact .inr ⟨other, List.mem_cons_of_mem _ present, deletes⟩
      · exact .inr ⟨write, List.mem_cons_self, deleted⟩

/-- An inserted row is there after its write. -/
theorem owners_of_insert {database : Database Id} {write : Write Id} {shelf : Shelf}
    {owner : Owner Id} (inserts : write.inserts = some (shelf, owner)) :
    owner ∈ (database.apply write).owners shelf := by
  cases write with
  | insertFile row | insertKey row =>
      cases inserts
      exact List.mem_map.mpr ⟨row, List.mem_append_right _ List.mem_cons_self, rfl⟩
  | updateFile id fileName mimeType | deleteFile id | deleteKey id | updateUser userId keysId =>
      cases inserts

/-- An inserted row is there unless another write deletes it. -/
theorem owners_applyAll_inserted {writes : List (Write Id)} {database : Database Id}
    {write : Write Id} (member : write ∈ writes) {shelf : Shelf} {owner : Owner Id}
    (inserts : write.inserts = some (shelf, owner)) :
    owner ∈ (database.applyAll writes).owners shelf ∨
      ∃ other ∈ writes, other.deletes = some (shelf, owner.id) := by
  obtain ⟨before, rest, same⟩ := List.append_of_mem member
  subst same
  rw [applyAll_split]
  rcases owners_applyAll_kept (owners_of_insert inserts) with kept | deleted
  · exact .inl kept
  · obtain ⟨other, present, deletes⟩ := deleted
    exact .inr ⟨other, List.mem_append_right _ (List.mem_cons_of_mem _ present), deletes⟩

/-- A deleted row is not there after its write. -/
theorem owners_of_delete {database : Database Id} {write : Write Id} {shelf : Shelf} {id : Id}
    (deletes : write.deletes = some (shelf, id)) :
    ∀ owner ∈ (database.apply write).owners shelf, owner.id ≠ id := by
  intro owner member
  cases write with
  | deleteFile other | deleteKey other =>
      cases deletes
      obtain ⟨row, present, same⟩ := List.mem_map.mp member
      subst same
      exact of_decide_eq_true (List.mem_filter.mp present).2
  | insertFile row | updateFile other fileName mimeType | insertKey row
  | updateUser userId keysId => cases deletes

/-- A deleted row is not there unless another write inserts it. -/
theorem owners_applyAll_deleted {writes : List (Write Id)} {database : Database Id}
    {write : Write Id} (member : write ∈ writes) {shelf : Shelf} {id : Id}
    (deletes : write.deletes = some (shelf, id))
    (inserts : ∀ other ∈ writes, ∀ owner, other.inserts = some (shelf, owner) → owner.id ≠ id) :
    ∀ owner ∈ (database.applyAll writes).owners shelf, owner.id ≠ id := by
  intro owner present
  obtain ⟨before, rest, same⟩ := List.append_of_mem member
  subst same
  rw [applyAll_split] at present
  rcases owners_applyAll present with old | new
  · exact owners_of_delete deletes owner old
  · obtain ⟨other, later, inserted⟩ := new
    exact inserts other (List.mem_append_right _ (List.mem_cons_of_mem _ later)) owner inserted

/-- The operation stages this write when it sees the database. -/
inductive Stages (platform : Platform Id PublicKey) (database : Database Id) :
    Op Id → Write Id → Prop where
  | updateUser (userId : String) (keysId : Option String) (user : User) :
      database.findUser userId = some user →
        Stages platform database (.act (.usersUpdateOne userId keysId))
          (.updateUser user.userId keysId)
  | updateFile (fileId userId fileName mimeType : String) (row : FileRow Id) :
      database.findFile platform fileId (some userId) = .ok (some row) →
        Stages platform database (.act (.filesUpdateOne fileId userId fileName mimeType))
          (.updateFile row.id fileName mimeType)
  | deleteKey (condition : KeyCondition Id) (row : KeyRow Id) :
      database.findKey platform condition = .ok (some row) →
        Stages platform database (.act (.keysDeleteOne condition)) (.deleteKey row.id)

/-- A session is kept, closed or opened, or an operation that replies adds a write to it. -/
inductive Advances (platform : Platform Id PublicKey) (store : Store Id)
    (session : Option (Session Id)) (op : Op Id) :
    Bool → Store Id → Option (Session Id) → Prop where
  | kept (replied : Bool) (next : Store Id) : Advances platform store session op replied next session
  | closed (replied : Bool) (next : Store Id) : Advances platform store session op replied next none
  | began (replied : Bool) (next : Store Id) :
      Advances platform store session op replied next (some Session.empty)
  | staged (pending : Session Id) (plan : Database Id → Option (Write Id)) :
      session = some pending →
      (∀ database write, plan database = some write → Stages platform database op write) →
        Advances platform store session op true store (some (pending.stage store plan))
  | drew (pending : Session Id) (shelf : Shelf) (id : Id) (userId : String) (write : Write Id) :
      op.creates = some (shelf, userId) → session = some pending → store.isFresh id = true →
      write.inserts = some (shelf, ⟨id, userId, false⟩) →
        Advances platform store session op true
          { store with drawn := (id, userId) :: store.drawn }
          (some (pending.stage store fun _ => some write))

section
variable {store next : Store Id} {session after : Option (Session Id)} {op : Op Id}

/-- Staging a write advances the session by it. -/
theorem staged_advances {Value : Type} {value : Value} {plan : Database Id → Option (Write Id)}
    {reply : Except Failure Value}
    (stages : ∀ database write, plan database = some write → Stages platform database op write)
    (staging : staged store session value plan = (reply, next, after)) :
    Advances platform store session op reply.toBool next after := by
  cases session with
  | none =>
      cases staging
      exact .kept _ _
  | some pending =>
      cases staging
      exact .staged pending plan rfl stages

/-- Staging a write to a found row advances the session by it. -/
theorem stagedFound_advances {Row : Type} {find : Database Id → Except Failure (Option Row)}
    {write : Row → Write Id} {reply : Except Failure Bool}
    (stages : ∀ database row, find database = .ok (some row) →
      Stages platform database op (write row))
    (staging : stagedFound store session find write = (reply, next, after)) :
    Advances platform store session op reply.toBool next after := by
  simp only [stagedFound] at staging
  split at staging
  · cases staging
    exact .kept _ _
  · apply staged_advances _ staging
    intro database planned found
    obtain ⟨row, sought, same⟩ := Option.map_eq_some_iff.mp found
    rw [← same]
    apply stages
    cases searched : find database with
    | error failure =>
        rw [searched] at sought
        cases sought
    | ok result =>
        rw [searched] at sought
        exact congrArg Except.ok sought

/-- Creating a row advances the session by the row. -/
theorem drawnInto_advances {shelf : Shelf} {id : Id} {userId : String} {write : Write Id}
    {reply : Except Failure Id} (creates : op.creates = some (shelf, userId))
    (inserts : write.inserts = some (shelf, ⟨id, userId, false⟩))
    (drawing : drawnInto store session id userId write = some (reply, next, after)) :
    Advances platform store session op reply.toBool next after := by
  cases session with
  | none =>
      cases drawing
      exact .kept _ _
  | some pending =>
      simp only [drawnInto] at drawing
      split at drawing
      · rename_i fresh
        cases drawing
        exact .drew pending shelf id userId write creates rfl fresh inserts
      · cases drawing

/-- Every command advances the rows in one of the listed ways. -/
theorem act_advances {command : Command Id} {choice : Choice Id PublicKey}
    {reply : Except Failure (Result PublicKey command)}
    (acted : act platform store session command choice = some (reply, next, after)) :
    Advances platform store session (.act command) reply.toBool next after := by
  cases command with
  | startSession | logsCreate | ipfsAdd data =>
      cases proceeding_eq_some acted
      exact .kept _ _
  | startTransaction =>
      cases proceeding_eq_some acted
      exact .began _ _
  | abortTransaction | endSession =>
      cases proceeding_eq_some acted
      exact .closed _ _
  | commitTransaction =>
      have committed := proceeding_eq_some acted
      cases session with
      | none =>
          cases committed
          exact .closed _ _
      | some pending =>
          simp only [committing] at committed
          split at committed <;> cases committed <;> exact .closed _ _
  | usersUpdateOne userId keysId =>
      apply staged_advances _ (proceeding_eq_some acted)
      intro database planned found
      obtain ⟨user, sought, same⟩ := Option.map_eq_some_iff.mp found
      rw [← same]
      exact .updateUser userId keysId user sought
  | filesCreate userId fileName mimeType hash =>
      obtain ⟨id, drawn⟩ := drawing_eq_some acted
      exact drawnInto_advances rfl rfl drawn
  | filesUpdateOne fileId userId fileName mimeType =>
      apply stagedFound_advances _ (proceeding_eq_some acted)
      exact fun _ row found => .updateFile fileId userId fileName mimeType row found
  | filesDeleteOne fileId userId =>
      have deleted := proceeding_eq_some acted
      cases searched : store.database.findFile platform fileId (some userId) with
      | error failure =>
          rw [searched] at deleted
          cases deleted
          exact .kept _ _
      | ok found =>
          rw [searched] at deleted
          cases found with
          | none =>
              cases deleted
              exact .kept _ _
          | some row =>
              cases deleted
              exact .kept _ _
  | keysCreate userId =>
      obtain ⟨id, drawn⟩ := drawing_eq_some acted
      exact drawnInto_advances rfl rfl drawn
  | keysDeleteOne condition =>
      apply stagedFound_advances _ (proceeding_eq_some acted)
      exact fun _ row found => .deleteKey condition row found
  | chainSetFile fileId hash | chainSetKey publicKeyId publicKey =>
      have sent := proceeding_eq_some acted
      simp only [sentToChain] at sent
      split at sent <;> cases sent <;> exact .kept _ _
  | generateKey =>
      cases choice <;> cases acted
      exact .kept _ _

/-- Every operation advances the rows in one of the listed ways. -/
theorem respond_advances {choice : Choice Id PublicKey}
    {reply : Except Failure (Reply PublicKey op)}
    (responded : respond platform store session op choice = some (reply, next, after)) :
    Advances platform store session op reply.toBool next after := by
  cases op with
  | ask query =>
      rw [(respond_ask responded).2.2]
      exact .kept _ _
  | act command =>
      rcases respond_act responded with fails | acts
      · obtain ⟨failure, -, -, -, -, kept⟩ := fails
        rw [kept]
        split
        · exact .closed _ _
        · exact .kept _ _
      · exact act_advances acts

end

end

end Holonus.Backend
