/-
This file accounts for every row and every identifier over all sessions.
A row stays until its user deletes it, and a deleted row never comes back.
-/

import Holonus.Proof.Backend.CrossStore
import Holonus.Proof.Backend.Obedience
import Holonus.Proof.Backend.Rows

namespace Holonus.Backend

open Holonus.Machine Holonus.File Holonus.Abstract

section
variable {Id PublicKey : Type}

def deleteBody : Shelf → String → String → Body Id
  | .files, userId, text => .deleteFile userId text
  | .keys, userId, text => .deleteKey userId text

/-- The operation leaves no open transaction. -/
def Op.ends : Op Id → Bool
  | .act command => command.isEnding
  | _ => false

def deleteOp : Shelf → String → String → Op Id
  | .files, userId, text => .act (.filesDeleteOne text userId)
  | .keys, userId, text => .act (.keysDeleteOne (KeysCore.condition userId (.text text)))

/-- The operation was performed, and the transaction has not ended since; the latest event is the
first one. -/
def InTransaction (op : Op Id) (trail : List (Event Id PublicKey)) : Prop :=
  ∃ later event earlier, trail = later ++ event :: earlier ∧ event.op = op ∧
    ∀ other ∈ later, other.op.ends = false

/-- The operation was performed in a transaction that was committed. -/
def InCommitted (op : Op Id) (trail : List (Event Id PublicKey)) : Prop :=
  ∃ later event earlier, trail = later ++ event :: earlier ∧ event.op = .act .commitTransaction ∧
    InTransaction op earlier

/-- A file is deleted at once, and a key is deleted when its transaction commits. -/
def Removes (trail : List (Event Id PublicKey)) (userId text : String) : Shelf → Prop
  | .files => ∃ event ∈ trail, event.op = deleteOp .files userId text
  | .keys => InCommitted (deleteOp .keys userId text) trail

/-- The request deletes the key with the identifier for its user, and its open transaction has
performed the deletion. -/
def Local.Deletes (platform : Platform Id PublicKey) (task : Local Id PublicKey) (id : Id)
    (userId : String) : Prop :=
  ∃ text, platform.castId text = some id ∧ task.request.body = deleteBody .keys userId text ∧
    InTransaction (deleteOp .keys userId text) task.trail

/-- The request deletes the row with the identifier for its user and has removed it. -/
def Local.Discards (platform : Platform Id PublicKey) (task : Local Id PublicKey) (shelf : Shelf)
    (id : Id) (userId : String) : Prop :=
  ∃ text, platform.castId text = some id ∧ task.request.body = deleteBody shelf userId text ∧
    Removes task.trail userId text shelf

def Discarded (platform : Platform Id PublicKey) (world : World Id PublicKey) (shelf : Shelf)
    (id : Id) (userId : String) : Prop :=
  ∃ index task, world.locals index = some task ∧ task.Discards platform shelf id userId

/-- The session of the request inserts a row with the identifier. -/
def Waits (world : World Id PublicKey) (index : Nat) (id : Id) : Prop :=
  ∃ task pending, world.locals index = some task ∧ task.session = some pending ∧
    id ∈ pending.newIds

/-- The identifier was drawn for the user, and no session inserts its row. -/
structure Settled (world : World Id PublicKey) (id : Id) (userId : String) : Prop where
  drawn : (id, userId) ∈ world.store.drawn
  unstaged : ∀ index, ¬ Waits world index id

/-- No row of the shelf has the identifier or will have it, other than one for recovery. -/
structure Gone (world : World Id PublicKey) (shelf : Shelf) (id : Id) (userId : String) : Prop
    extends Settled world id userId where
  absent : ∀ owner ∈ world.store.database.owners shelf, owner.id = id → owner.forRecovery = true

/-- The row is committed, or it is gone and a request of its user has deleted it. -/
def Held (platform : Platform Id PublicKey) (world : World Id PublicKey) (shelf : Shelf)
    (id : Id) (userId : String) : Prop :=
  ⟨id, userId, false⟩ ∈ world.store.database.owners shelf ∨
    Gone world shelf id userId ∧ Discarded platform world shelf id userId

/-- An operation of the transaction stays one while the transaction runs. -/
theorem InTransaction.cons {op : Op Id} {trail : List (Event Id PublicKey)}
    {event : Event Id PublicKey} (running : event.op.ends = false)
    (performed : InTransaction op trail) : InTransaction op (event :: trail) := by
  obtain ⟨later, mine, earlier, rfl, isOp, unended⟩ := performed
  exact ⟨event :: later, mine, earlier, rfl, isOp, List.forall_mem_cons.mpr ⟨running, unended⟩⟩

/-- What was removed stays removed. -/
theorem Removes.cons {trail : List (Event Id PublicKey)} {userId text : String} {shelf : Shelf}
    (event : Event Id PublicKey) (removes : Removes trail userId text shelf) :
    Removes (event :: trail) userId text shelf := by
  cases shelf with
  | files =>
      obtain ⟨deletion, member, isDelete⟩ := removes
      exact ⟨deletion, List.mem_cons_of_mem _ member, isDelete⟩
  | keys =>
      obtain ⟨later, commit, earlier, rfl, isCommit, performed⟩ := removes
      exact ⟨event :: later, commit, earlier, rfl, isCommit, performed⟩

/-- The write touches documents of the user only. -/
def Write.ActsFor (store : Store Id) (userId : String) : Write Id → Prop
  | .insertFile row => row.userId = userId ∧ (row.id, userId) ∈ store.drawn
  | .updateFile id _ _ => (id, userId) ∈ store.drawn
  | .deleteFile _ => False
  | .insertKey row => row.userId = userId ∧ (row.id, userId) ∈ store.drawn
  | .deleteKey id => (id, userId) ∈ store.drawn
  | .updateUser other _ => other = userId

/-- A write acts for its user also when more identifiers are drawn. -/
theorem Write.ActsFor.mono {store next : Store Id} {userId : String} {write : Write Id}
    (acts : write.ActsFor store userId) (drawn : ∀ entry ∈ store.drawn, entry ∈ next.drawn) :
    write.ActsFor next userId := by
  cases write with
  | insertFile row | insertKey row => exact ⟨acts.1, drawn _ acts.2⟩
  | updateFile id fileName mimeType | deleteKey id => exact drawn _ acts
  | deleteFile id => exact acts
  | updateUser other keysId => exact acts

/-- A write that acts for a user inserts only rows of the user, with drawn identifiers. -/
theorem Write.ActsFor.inserted {store : Store Id} {userId : String} {write : Write Id}
    (acts : write.ActsFor store userId) {shelf : Shelf} {owner : Owner Id}
    (inserts : write.inserts = some (shelf, owner)) :
    owner.userId = userId ∧ (owner.id, owner.userId) ∈ store.drawn := by
  cases write with
  | insertFile row | insertKey row =>
      cases inserts
      refine ⟨acts.1, ?_⟩
      rw [acts.1]
      exact acts.2
  | updateFile id fileName mimeType | deleteFile id | deleteKey id | updateUser other keysId =>
      cases inserts

/-- A session deletes keys only. -/
theorem Write.ActsFor.deleted {store : Store Id} {userId : String} {write : Write Id}
    (acts : write.ActsFor store userId) {shelf : Shelf} {id : Id}
    (deletes : write.deletes = some (shelf, id)) :
    shelf = .keys ∧ write = .deleteKey id ∧ (id, userId) ∈ store.drawn := by
  cases write with
  | deleteKey other =>
      cases deletes
      exact ⟨rfl, rfl, acts⟩
  | deleteFile other => exact False.elim acts
  | insertFile row | updateFile other fileName mimeType | insertKey row
  | updateUser other keysId => cases deletes

/-- The writes of a session act for the user of its request, and its deletions were performed. -/
structure Accountable (platform : Platform Id PublicKey) (task : Local Id PublicKey)
    (pending : Session Id) (store : Store Id) : Prop where
  snapshot : ∀ start, pending.snapshot = some start → ∀ shelf, ∀ owner ∈ start.1.owners shelf,
    (owner.id, owner.userId) ∈ store.drawn
  acts : ∀ write ∈ pending.writes, write.ActsFor store task.request.body.userId
  deletes : ∀ id, .deleteKey id ∈ pending.writes →
    task.Deletes platform id task.request.body.userId

/-- Every row and every pending row has an identifier that was drawn once for its user. -/
structure Accounted (platform : Platform Id PublicKey) (world : World Id PublicKey) : Prop where
  distinct : (world.store.drawn.map Prod.fst).Nodup
  owned : ∀ shelf, ∀ owner ∈ world.store.database.owners shelf,
    (owner.id, owner.userId) ∈ world.store.drawn
  sessions : ∀ index task pending, world.locals index = some task → task.session = some pending →
    Accountable platform task pending world.store
  absent : ∀ index id, Waits world index id → ∀ shelf,
    ∀ owner ∈ world.store.database.owners shelf, owner.id ≠ id
  apart : ∀ index other id, Waits world index id → Waits world other id → index = other

section
variable {platform : Platform Id PublicKey} {world : World Id PublicKey}

/-- An identifier was drawn for one user. -/
theorem Accounted.user_unique (accounted : Accounted platform world) {id : Id}
    {first second : String} (left : (id, first) ∈ world.store.drawn)
    (right : (id, second) ∈ world.store.drawn) : first = second :=
  congrArg Prod.snd (List.inj_on_of_nodup_map accounted.distinct left right rfl)

/-- An awaited identifier was drawn. -/
theorem Accounted.drawn_of_waits (accounted : Accounted platform world) {index : Nat} {id : Id}
    (waits : Waits world index id) : ∃ userId, (id, userId) ∈ world.store.drawn := by
  obtain ⟨task, pending, found, isOpen, member⟩ := waits
  obtain ⟨write, present, shelf, owner, inserts, same⟩ := Session.mem_newIds.mp member
  have acts := (accounted.sessions index task pending found isOpen).acts write present
  rw [← same]
  exact ⟨_, (acts.inserted inserts).2⟩

/-- A drawn identifier is not fresh. -/
theorem not_fresh {store : Store Id} [DecidableEq Id] {id : Id} {userId : String}
    (drawn : (id, userId) ∈ store.drawn) (fresh : store.isFresh id = true) : False := by
  have different := List.all_eq_true.mp fresh (id, userId) drawn
  exact of_decide_eq_true different rfl

end

section
variable [DecidableEq Id] {platform : Platform Id PublicKey} {store next : Store Id}
  {session after : Option (Session Id)} {op : Op Id}

/-- A step adds only rows of a session that it commits. -/
theorem Change.owners_added (change : Change platform store session op next after) {shelf : Shelf}
    {owner : Owner Id} (member : owner ∈ next.database.owners shelf) :
    owner ∈ store.database.owners shelf ∨ after = none ∧ ∃ pending, session = some pending ∧
      ∃ write ∈ pending.writes, write.inserts = some (shelf, owner) := by
  cases change with
  | kept | closed | began | staged | drew | sentFile | sentKey | added => exact .inl member
  | committed pending isOpen free =>
      rcases owners_applyAll member with old | new
      · exact .inl old
      · exact .inr ⟨rfl, pending, isOpen, new⟩
  | deleted fileId userId row found =>
      rcases owners_applyAll member with old | new
      · exact .inl old
      · obtain ⟨write, present, inserts⟩ := new
        rw [List.mem_singleton.mp present] at inserts
        cases inserts

/-- A step removes only rows that a committed session deletes or the deleted file. -/
theorem Change.owners_removed (change : Change platform store session op next after) {shelf : Shelf}
    {owner : Owner Id} (member : owner ∈ store.database.owners shelf) :
    owner ∈ next.database.owners shelf ∨
      (∃ pending, op = .act .commitTransaction ∧ session = some pending ∧
        next = store.commit pending.writes ∧
          ∃ write ∈ pending.writes, write.deletes = some (shelf, owner.id)) ∨
      ∃ fileId userId row, shelf = .files ∧ op = .act (.filesDeleteOne fileId userId) ∧
        store.database.findFile platform fileId (some userId) = .ok (some row) ∧
          row.id = owner.id ∧ next = store.commit [.deleteFile row.id] := by
  cases change with
  | kept | closed | began | staged | drew | sentFile | sentKey | added => exact .inl member
  | committed pending isOpen free =>
      rcases owners_applyAll_kept member with kept | deleted
      · exact .inl kept
      · exact .inr (.inl ⟨pending, rfl, isOpen, rfl, deleted⟩)
  | deleted fileId userId row found =>
      rcases owners_applyAll_kept member with kept | deleted
      · exact .inl kept
      · obtain ⟨write, present, deletes⟩ := deleted
        rw [List.mem_singleton.mp present] at deletes
        obtain ⟨isFile, same⟩ := Prod.mk.inj (Option.some.inj deletes)
        exact .inr (.inr ⟨fileId, userId, row, isFile.symm, rfl, found, same, rfl⟩)

omit [DecidableEq Id] in
/-- Inserting a row of a drawn identifier acts for its user. -/
theorem acts_of_inserts {write : Write Id} {shelf : Shelf} {id : Id} {userId : String}
    (inserts : write.inserts = some (shelf, ⟨id, userId, false⟩))
    (drawn : (id, userId) ∈ store.drawn) : write.ActsFor store userId := by
  cases write with
  | insertFile row | insertKey row =>
      simp only [Write.inserts, Option.some.injEq, Prod.mk.injEq, Owner.mk.injEq] at inserts
      obtain ⟨-, sameId, sameUser, -⟩ := inserts
      refine ⟨sameUser, ?_⟩
      rw [sameId]
      exact drawn
  | updateFile other fileName mimeType | deleteFile other | deleteKey other
  | updateUser other keysId => cases inserts

omit [DecidableEq Id] in
/-- A request creates rows for its own user. -/
theorem Body.Permits.creates {Added : String → Prop} {body : Body Id}
    (permits : body.Permits platform Added op) {shelf : Shelf} {userId : String}
    (creates : op.creates = some (shelf, userId)) : userId = body.userId := by
  cases op with
  | ask query => cases creates
  | act command =>
      cases command with
      | filesCreate owner fileName mimeType hash =>
          cases creates
          obtain ⟨-, publicKeyId, attachement, asked⟩ := permits
          rw [asked]
          rfl
      | keysCreate owner =>
          cases creates
          obtain ⟨publicKey, asked⟩ := permits
          rw [asked]
          rfl
      | _ => cases creates

/-- A staged write of a found row inserts nothing. -/
theorem Stages.inserts_none {database : Database Id} {write : Write Id}
    (stages : Stages platform database op write) : write.inserts = none := by
  cases stages <;> rfl

/-- A staged write adds at most the identifier that it inserts. -/
theorem newIds_stage {pending : Session Id} {plan : Database Id → Option (Write Id)} {id : Id}
    (member : id ∈ (pending.stage store plan).newIds) :
    id ∈ pending.newIds ∨ ∃ database write, plan database = some write ∧
      ∃ shelf owner, write.inserts = some (shelf, owner) ∧ owner.id = id := by
  obtain ⟨write, present, new⟩ := Session.mem_newIds.mp member
  rcases List.mem_append.mp present with old | last
  · exact .inl (Session.mem_newIds.mpr ⟨write, old, new⟩)
  · exact .inr ⟨_, write, Option.mem_toList.mp last, new⟩

/-- A session gains only the identifier of a freshly drawn row. -/
theorem Advances.newIds {replied : Bool} (advances : Advances platform store session op replied next after)
    {later : Session Id} (isOpen : after = some later) {id : Id} (member : id ∈ later.newIds) :
    (∃ pending, session = some pending ∧ id ∈ pending.newIds) ∨ store.isFresh id = true := by
  cases advances with
  | kept => exact .inl ⟨later, isOpen, member⟩
  | closed => cases isOpen
  | began =>
      cases isOpen
      cases member
  | staged pending plan opened stages =>
      cases isOpen
      rcases newIds_stage member with old | new
      · exact .inl ⟨pending, opened, old⟩
      · obtain ⟨database, write, planned, shelf, owner, inserts, -⟩ := new
        rw [(stages database write planned).inserts_none] at inserts
        cases inserts
  | drew pending shelf new userId write creates opened fresh inserts =>
      cases isOpen
      rcases newIds_stage member with old | last
      · exact .inl ⟨pending, opened, old⟩
      · obtain ⟨database, planned, same, other, owner, inserted, isNew⟩ := last
        cases same
        rw [inserts] at inserted
        cases inserted
        rw [← isNew]
        exact .inr fresh

end

section
variable [DecidableEq Id] {platform : Platform Id PublicKey} {world next : World Id PublicKey}
  {index : Nat} {op : Op Id} {choice : Choice Id PublicKey}
  {reply : Except Failure (Reply PublicKey op)}

omit [DecidableEq Id] in
/-- An operation that leaves its transaction open keeps what was performed in it. -/
theorem InTransaction.after {task : Local Id PublicKey} {session : Option (Session Id)}
    {moment : Nat} {other : Op Id} (running : op.ends = false)
    (performed : InTransaction other task.trail) :
    InTransaction other (task.after session moment op reply).trail := by
  cases reply with
  | ok value => exact performed.cons running
  | error failure => exact performed

omit [DecidableEq Id] in
/-- An operation that replies was performed in its transaction. -/
theorem inTransaction_of_reply (task : Local Id PublicKey) (session : Option (Session Id))
    (moment : Nat) (replied : reply.toBool = true) :
    InTransaction op (task.after session moment op reply).trail := by
  cases reply with
  | ok value => exact ⟨[], _, _, rfl, rfl, fun _ member => nomatch member⟩
  | error failure => cases replied

/-- A step that leaves the transaction open does not end it. -/
theorem ends_of_open {store after : Store Id} {session : Option (Session Id)}
    {pending : Session Id}
    (responded : respond platform store session op choice =
      some (reply, after, some pending)) : op.ends = false := by
  cases op with
  | ask query => rfl
  | act command =>
      apply Bool.eq_false_iff.mpr
      intro ending
      cases session_of_ending ending responded

omit [DecidableEq Id] in
/-- A request that discards a row still discards it after another operation. -/
theorem Local.Discards.after {task : Local Id PublicKey} {session : Option (Session Id)}
    {moment : Nat} {shelf : Shelf} {id : Id} {userId : String}
    (discards : task.Discards platform shelf id userId) :
    (task.after session moment op reply).Discards platform shelf id userId := by
  obtain ⟨text, cast, asked, removes⟩ := discards
  refine ⟨text, cast, ?_, ?_⟩
  · rw [Local.request_after]
    exact asked
  · cases reply with
    | ok value => exact removes.cons _
    | error failure => exact removes

/-- A task of the next world is the one that stepped or is unchanged. -/
theorem locals_next (performed : world.perform platform index op choice = some (reply, next)) :
    (∃ task session, world.locals index = some task ∧
      next.locals index = some (task.after session world.store.log.length op reply)) ∧
    ∀ other, other ≠ index → next.locals other = world.locals other := by
  obtain ⟨task, session, found, -, locals⟩ := perform_inv performed
  constructor
  · refine ⟨task, session, found, ?_⟩
    rw [locals, Function.update_self]
  · intro other different
    rw [locals, Function.update_of_ne different]

/-- A discarded row stays discarded. -/
theorem Discarded.performed (performed : world.perform platform index op choice = some (reply, next))
    {shelf : Shelf} {id : Id} {userId : String}
    (discarded : Discarded platform world shelf id userId) :
    Discarded platform next shelf id userId := by
  obtain ⟨other, task, found, discards⟩ := discarded
  obtain ⟨⟨current, session, same, stepped⟩, kept⟩ := locals_next performed
  by_cases isIndex : other = index
  · subst isIndex
    rw [found, Option.some.injEq] at same
    subst same
    exact ⟨other, _, stepped, discards.after⟩
  · exact ⟨other, task, (kept other isIndex).trans found, discards⟩

/-- A request awaits an identifier only if it did before or drew it now. -/
theorem waits_next (performed : world.perform platform index op choice = some (reply, next))
    {other : Nat} {id : Id} (waits : Waits next other id) :
    Waits world other id ∨ other = index ∧ world.store.isFresh id = true := by
  obtain ⟨task, session, found, responded, locals⟩ := perform_inv performed
  obtain ⟨current, pending, present, isOpen, member⟩ := waits
  rw [locals] at present
  by_cases same : other = index
  · subst same
    rw [Function.update_self, Option.some.injEq] at present
    subst present
    rw [Local.session_after] at isOpen
    rcases (respond_advances responded).newIds isOpen member with old | fresh
    · obtain ⟨earlier, opened, waiting⟩ := old
      exact .inl ⟨task, earlier, found, opened, waiting⟩
    · exact .inr ⟨rfl, fresh⟩
  · rw [Function.update_of_ne same] at present
    exact .inl ⟨current, pending, present, isOpen, member⟩

/-- A committed row waited in the session of the step, which is closed by now. -/
theorem owners_next (performed : world.perform platform index op choice = some (reply, next))
    {shelf : Shelf} {owner : Owner Id} (member : owner ∈ next.store.database.owners shelf) :
    owner ∈ world.store.database.owners shelf ∨
      Waits world index owner.id ∧ ∀ id, ¬ Waits next index id := by
  obtain ⟨task, session, found, responded, locals⟩ := perform_inv performed
  rcases (respond_change responded).owners_added member with old | new
  · exact .inl old
  · obtain ⟨closed, pending, isOpen, write, present, inserts⟩ := new
    refine .inr ⟨⟨task, pending, found, isOpen,
      Session.mem_newIds.mpr ⟨write, present, shelf, owner, inserts, rfl⟩⟩, ?_⟩
    intro id waits
    obtain ⟨current, waiting, now, opened, -⟩ := waits
    rw [locals, Function.update_self, Option.some.injEq] at now
    subst now
    rw [Local.session_after, closed] at opened
    cases opened

/-- Drawn identifiers stay drawn. -/
theorem drawn_next (performed : world.perform platform index op choice = some (reply, next)) :
    ∀ entry ∈ world.store.drawn, entry ∈ next.store.drawn := by
  obtain ⟨task, session, -, responded, -⟩ := perform_inv performed
  exact (respond_change responded).grows.drawn

/-- A settled identifier stays settled. -/
theorem Settled.performed
    (performed : world.perform platform index op choice = some (reply, next)) {id : Id}
    {userId : String} (settled : Settled world id userId) : Settled next id userId := by
  refine ⟨drawn_next performed _ settled.drawn, ?_⟩
  intro other waits
  rcases waits_next performed waits with old | fresh
  · exact settled.unstaged other old
  · exact not_fresh settled.drawn fresh.2

/-- A row that is gone stays gone. -/
theorem Gone.performed
    (performed : world.perform platform index op choice = some (reply, next)) {shelf : Shelf}
    {id : Id} {userId : String} (gone : Gone world shelf id userId) :
    Gone next shelf id userId := by
  refine ⟨gone.toSettled.performed performed, ?_⟩
  intro owner member same
  rcases owners_next performed member with old | new
  · exact gone.absent owner old same
  · rw [same] at new
    exact absurd new.1 (gone.unstaged index)

/-- A key that the database finds for the text belongs to the user. -/
theorem key_of_findKey {database : Database Id} {userId text : String} {row : KeyRow Id}
    (found : database.findKey platform (KeysCore.condition userId (.text text)) = .ok (some row)) :
    platform.castId text = some row.id ∧ row.userId = userId ∧ row ∈ database.keys ∧
      row.forRecovery = false := by
  obtain ⟨id, resolved, member, named, owned, live⟩ := Database.findKey_some found
  rcases named with free | sameId
  · cases free
  rcases owned with free | sameUser
  · cases free
  rw [sameId] at resolved
  exact ⟨cast_of_resolve resolved, (Option.some.inj sameUser).symm, member, live rfl⟩

/-- A staged write acts for the user of its request. -/
theorem Stages.acts {database : Database Id} {store : Store Id} {body : Body Id} {write : Write Id}
    (stages : Stages platform database op write) (permits : body.Permits platform (fun _ => True) op)
    (owned : ∀ shelf, ∀ owner ∈ database.owners shelf, (owner.id, owner.userId) ∈ store.drawn) :
    write.ActsFor store body.userId := by
  cases stages with
  | updateUser userId keysId user found =>
      have named := (Database.findUser_some found).2
      rcases permits with ⟨publicKey, asked⟩ | ⟨-, publicKeyId, asked⟩
      · rw [asked]
        exact named
      · rw [asked]
        exact named
  | updateFile fileId userId fileName mimeType row found =>
      obtain ⟨attachement, asked⟩ := permits
      obtain ⟨-, member, owner⟩ := Database.findFile_some found
      rcases owner with free | same
      · cases free
      · rw [asked]
        have drawn := owned .files _ (Database.file_owner member)
        rw [← Option.some.inj same] at drawn
        exact drawn
  | deleteKey condition row found =>
      obtain ⟨userId, publicKeyId, asked, sameCondition⟩ := permits
      subst sameCondition
      obtain ⟨-, owner, member, -⟩ := key_of_findKey found
      have drawn := owned .keys _ (Database.key_owner member)
      rw [asked]
      rw [owner] at drawn
      exact drawn

/-- A staged deletion is the one that its request asks for. -/
theorem Stages.deletes {database : Database Id} {task : Local Id PublicKey} {id : Id}
    (stages : Stages platform database op (.deleteKey id))
    (permits : task.request.body.Permits platform (fun _ => True) op)
    (performed : InTransaction op task.trail) :
    task.Deletes platform id task.request.body.userId := by
  cases stages with
  | deleteKey condition row found =>
      obtain ⟨userId, publicKeyId, asked, sameCondition⟩ := permits
      subst sameCondition
      rw [asked]
      exact ⟨publicKeyId, (key_of_findKey found).1, asked, performed⟩

/-- The session sees rows whose identifiers were drawn for their users. -/
theorem Accountable.view {task : Local Id PublicKey} {pending : Session Id} {store : Store Id}
    (accountable : Accountable platform task pending store)
    (owned : ∀ shelf, ∀ owner ∈ store.database.owners shelf,
      (owner.id, owner.userId) ∈ store.drawn) :
    ∀ shelf, ∀ owner ∈
      ((pending.snapshot.getD (store.database, store.log.length)).1.applyAll pending.writes).owners
        shelf, (owner.id, owner.userId) ∈ store.drawn := by
  intro shelf owner member
  rcases owners_applyAll member with old | new
  · cases taken : pending.snapshot with
    | none =>
        rw [taken] at old
        exact owned shelf owner old
    | some start =>
        rw [taken] at old
        exact accountable.snapshot start taken shelf owner old
  · obtain ⟨write, present, inserts⟩ := new
    exact ((accountable.acts write present).inserted inserts).2

omit [DecidableEq Id] in
/-- An accountable session stays accountable while the store grows. -/
theorem Accountable.grows {task after : Local Id PublicKey} {pending : Session Id}
    {store next : Store Id} (accountable : Accountable platform task pending store)
    (drawn : ∀ entry ∈ store.drawn, entry ∈ next.drawn) (request : after.request = task.request)
    (trail : ∀ op, InTransaction op task.trail → InTransaction op after.trail) :
    Accountable platform after pending next where
  snapshot start taken shelf owner member :=
    drawn _ (accountable.snapshot start taken shelf owner member)
  acts write member := by
    rw [request]
    exact (accountable.acts write member).mono drawn
  deletes id member := by
    obtain ⟨text, cast, asked, performed⟩ := accountable.deletes id member
    rw [request]
    exact ⟨text, cast, by rw [request]; exact asked, trail _ performed⟩

/-- A session that stages a write stays accountable. -/
theorem Accountable.stage {task : Local Id PublicKey} {pending : Session Id} {store : Store Id}
    {plan : Database Id → Option (Write Id)}
    (accountable : Accountable platform task pending store)
    (owned : ∀ shelf, ∀ owner ∈ store.database.owners shelf,
      (owner.id, owner.userId) ∈ store.drawn)
    (acts : ∀ database write, plan database = some write →
      (∀ shelf, ∀ owner ∈ database.owners shelf, (owner.id, owner.userId) ∈ store.drawn) →
        write.ActsFor store task.request.body.userId)
    (deletes : ∀ database id, plan database = some (.deleteKey id) →
      task.Deletes platform id task.request.body.userId) :
    Accountable platform task (pending.stage store plan) store where
  snapshot := by
    intro start taken shelf owner member
    cases taken
    cases earlier : pending.snapshot with
    | none =>
        rw [earlier] at member
        exact owned shelf owner member
    | some first =>
        rw [earlier] at member
        exact accountable.snapshot first earlier shelf owner member
  acts := by
    intro write member
    rcases List.mem_append.mp member with old | new
    · exact accountable.acts write old
    · exact acts _ write (Option.mem_toList.mp new) (accountable.view owned)
  deletes := by
    intro id member
    rcases List.mem_append.mp member with old | new
    · exact accountable.deletes id old
    · exact deletes _ id (Option.mem_toList.mp new)

/-- The session that a step leaves is accountable. -/
theorem Accounted.session_performed (accounted : Accounted platform world)
    {task : Local Id PublicKey} {session : Option (Session Id)}
    (found : world.locals index = some task)
    (permits : task.request.body.Permits platform (fun _ => True) op)
    (responded : respond platform world.store task.session op choice =
      some (reply, next.store, session)) {later : Session Id} (isOpen : session = some later) :
    Accountable platform (task.after session world.store.log.length op reply) later
      next.store := by
  have drawn := (respond_change responded).grows.drawn
  have request := Local.request_after task session world.store.log.length op reply
  have running : op.ends = false := by
    rw [isOpen] at responded
    exact ends_of_open responded
  have trail : ∀ other, InTransaction other task.trail →
      InTransaction other (task.after session world.store.log.length op reply).trail :=
    fun _ performed => performed.after running
  have advances := respond_advances responded
  generalize replying : reply.toBool = replied at advances
  generalize next.store = store at advances drawn ⊢
  cases advances with
  | kept =>
      exact (accounted.sessions index task later found isOpen).grows drawn request trail
  | closed => cases isOpen
  | began =>
      cases isOpen
      constructor
      · intro start taken
        cases taken
      · intro write member
        cases member
      · intro id member
        cases member
  | staged pending plan opened stages =>
      cases isOpen
      have kept := (accounted.sessions index task pending found opened).grows drawn request trail
      apply kept.stage accounted.owned
      · intro database write planned owned
        rw [request]
        exact (stages database write planned).acts permits owned
      · intro database id planned
        apply (stages database _ planned).deletes
        · rw [request]
          exact permits
        · exact inTransaction_of_reply task _ _ replying
  | drew pending shelf id userId write creates opened fresh inserts =>
      cases isOpen
      have kept := (accounted.sessions index task pending found opened).grows drawn request trail
      have acts : write.ActsFor
          { world.store with drawn := (id, userId) :: world.store.drawn }
          task.request.body.userId := by
        rw [← permits.creates creates]
        exact acts_of_inserts inserts List.mem_cons_self
      -- The session reads the database alone, so that it may be taken to stage in the later store.
      show Accountable platform _ (pending.stage
        { world.store with drawn := (id, userId) :: world.store.drawn } fun _ => some write) _
      apply kept.stage
      · exact fun shelf owner member => drawn _ (accounted.owned shelf owner member)
      · intro database planned same _
        cases same
        rw [request]
        exact acts
      · intro database other same
        cases same
        cases inserts

/-- A permitted step keeps the accounts. -/
theorem Accounted.performed (accounted : Accounted platform world)
    (permits : ∀ task, world.locals index = some task →
      task.request.body.Permits platform (fun _ => True) op)
    (performed : world.perform platform index op choice = some (reply, next)) :
    Accounted platform next := by
  obtain ⟨task, session, found, responded, locals⟩ := perform_inv performed
  have change := respond_change responded
  have drawn := drawn_next performed
  refine ⟨change.distinct accounted.distinct, ?_, ?_, ?_, ?_⟩
  · intro shelf owner member
    rcases change.owners_added member with old | new
    · exact drawn _ (accounted.owned shelf owner old)
    · obtain ⟨-, pending, isOpen, write, present, inserts⟩ := new
      have acts := (accounted.sessions index task pending found isOpen).acts write present
      exact drawn _ (acts.inserted inserts).2
  · intro other current pending present isOpen
    rw [locals] at present
    by_cases same : other = index
    · rw [same, Function.update_self, Option.some.injEq] at present
      subst present
      rw [Local.session_after] at isOpen
      exact accounted.session_performed found (permits task found) responded isOpen
    · rw [Function.update_of_ne same] at present
      exact (accounted.sessions other current pending present isOpen).grows drawn rfl
        fun _ performed => performed
  · intro other id waits shelf owner member same
    rcases owners_next performed member with old | new
    · rcases waits_next performed waits with earlier | fresh
      · exact accounted.absent other id earlier shelf owner old same
      · rw [← same] at fresh
        exact not_fresh (accounted.owned shelf owner old) fresh.2
    · rw [same] at new
      rcases waits_next performed waits with earlier | fresh
      · have isIndex := accounted.apart other index id earlier new.1
        subst isIndex
        exact new.2 id waits
      · exact new.2 id (fresh.1 ▸ waits)
  · intro first second id left right
    rcases waits_next performed left with earlier | fresh
    · rcases waits_next performed right with later | new
      · exact accounted.apart first second id earlier later
      · obtain ⟨userId, held⟩ := accounted.drawn_of_waits earlier
        exact (not_fresh held new.2).elim
    · rcases waits_next performed right with later | new
      · obtain ⟨userId, held⟩ := accounted.drawn_of_waits later
        exact (not_fresh held fresh.2).elim
      · exact fresh.1.trans new.1.symm

omit [DecidableEq Id] in
/-- A committed row is not pending. -/
theorem Accounted.settled (accounted : Accounted platform world) {shelf : Shelf} {owner : Owner Id}
    (member : owner ∈ world.store.database.owners shelf) :
    Settled world owner.id owner.userId :=
  ⟨accounted.owned shelf owner member,
    fun other waits => accounted.absent other owner.id waits shelf owner member rfl⟩

/-- A commit that deletes a settled row leaves no row of its identifier. -/
theorem Settled.deleted {task : Local Id PublicKey} {pending : Session Id} {shelf : Shelf} {id : Id}
    {userId : String} (settled : Settled world id userId) (found : world.locals index = some task)
    (isOpen : task.session = some pending) {write : Write Id} (present : write ∈ pending.writes)
    (deletes : write.deletes = some (shelf, id)) :
    ∀ owner ∈ (world.store.database.applyAll pending.writes).owners shelf, owner.id ≠ id := by
  apply owners_applyAll_deleted present deletes
  intro other later new inserts isNew
  exact settled.unstaged index ⟨task, pending, found, isOpen,
    Session.mem_newIds.mpr ⟨other, later, shelf, new, inserts, isNew⟩⟩

omit [DecidableEq Id] in
/-- A session deletes a row only for the user of the row, who asked for it. -/
theorem Accounted.deletes_own (accounted : Accounted platform world) {task : Local Id PublicKey}
    {pending : Session Id} (found : world.locals index = some task)
    (isOpen : task.session = some pending) {shelf : Shelf} {id : Id} {userId : String}
    (member : ⟨id, userId, false⟩ ∈ world.store.database.owners shelf) {write : Write Id}
    (present : write ∈ pending.writes) (deletes : write.deletes = some (shelf, id)) :
    shelf = .keys ∧ task.Deletes platform id userId := by
  have accountable := accounted.sessions index task pending found isOpen
  obtain ⟨isKey, isDelete, drawn⟩ := (accountable.acts write present).deleted deletes
  subst isKey isDelete
  have user := accounted.user_unique (accounted.owned .keys _ member) drawn
  subst user
  exact ⟨rfl, accountable.deletes id present⟩

/-- A file that a request finds under its user belongs to this user. -/
theorem Accounted.finds_own (accounted : Accounted platform world) {fileId owner userId : String}
    {row : FileRow Id} (member : ⟨row.id, userId, false⟩ ∈ world.store.database.owners .files)
    (search : world.store.database.findFile platform fileId (some owner) = .ok (some row)) :
    platform.castId fileId = some row.id ∧ owner = userId := by
  obtain ⟨cast, rowMember, named⟩ := Database.findFile_some search
  have drawn := accounted.owned .files _ (Database.file_owner rowMember)
  have user : userId = row.userId :=
    accounted.user_unique (accounted.owned .files _ member) drawn
  rcases named with free | sameUser
  · cases free
  · exact ⟨cast, (Option.some.inj sameUser).trans user.symm⟩

/-- A stored row stays until its user deletes it. -/
theorem Accounted.held_performed (accounted : Accounted platform world)
    (permits : ∀ task, world.locals index = some task →
      task.request.body.Permits platform (fun _ => True) op)
    (performed : world.perform platform index op choice = some (reply, next)) {shelf : Shelf}
    {id : Id} {userId : String} (stored : Held platform world shelf id userId) :
    Held platform next shelf id userId := by
  obtain ⟨task, session, found, responded, locals⟩ := perform_inv performed
  have now : next.locals index = some (task.after session world.store.log.length op reply) := by
    rw [locals, Function.update_self]
  rcases stored with member | ⟨gone, discarded⟩
  · cases reply with
    | error failure =>
        left
        rw [store_of_error responded]
        exact member
    | ok value =>
        have settled := accounted.settled member
        rcases (respond_change responded).owners_removed member with kept | session | file
        · exact .inl kept
        · obtain ⟨pending, isCommit, isOpen, changed, write, present, deletes⟩ := session
          subst isCommit
          obtain ⟨isKey, text, cast, asked, staged⟩ :=
            accounted.deletes_own found isOpen member present deletes
          subst isKey
          refine .inr ⟨⟨settled.performed performed, ?_⟩, index, _, now, text, cast, asked,
            [], _, _, rfl, rfl, staged⟩
          rw [changed]
          intro owner stays same
          exact absurd same (settled.deleted found isOpen present deletes owner stays)
        · obtain ⟨fileId, owner, row, isFile, isDelete, search, same, changed⟩ := file
          subst isFile isDelete same
          have asked : task.request.body = .deleteFile owner fileId := permits task found
          obtain ⟨cast, isOwner⟩ := accounted.finds_own member search
          subst isOwner
          refine .inr ⟨⟨settled.performed performed, ?_⟩, index, _, now, fileId, cast, asked, _,
            List.mem_cons_self, rfl⟩
          rw [changed]
          intro other stays isId
          have deletes : (Write.deleteFile row.id).deletes = some (Shelf.files, row.id) := rfl
          exact absurd isId (owners_of_delete deletes other stays)
  · exact .inr ⟨gone.performed performed, discarded.performed performed⟩

/-- Every permitted step and every new request keep the fact. -/
structure Durable (platform : Platform Id PublicKey) (Fact : World Id PublicKey → Prop) : Prop where
  performed : ∀ world index op choice reply next, Accounted platform world →
    (∀ task, world.locals index = some task → task.request.body.Permits platform (fun _ => True) op) →
      World.perform platform index op choice world = some (reply, next) → Fact world → Fact next
  enrolled : ∀ world index request, world.locals index = none → Fact world →
    Fact ((runtime platform).enroll index request world)

/-- The others leave the request alone and keep every durable fact. -/
structure SparesRequest (platform : Platform Id PublicKey) (index : Nat)
    (world next : World Id PublicKey) : Prop where
  same : next.locals index = world.locals index
  facts : ∀ Fact, Durable platform Fact → Fact world → Fact next

def accounts (platform : Platform Id PublicKey) :
    Discipline (Op Id) (World Id PublicKey) (Choice Id PublicKey) where
  Invariant := Accounted platform
  Rely := SparesRequest platform
  Admits _ _ _ _ := True
  Demands index op world := ∀ task, world.locals index = some task →
    task.request.body.Permits platform (fun _ => True) op

/-- Every operation keeps the accounts. -/
theorem accounts_sound (platform : Platform Id PublicKey) :
    (accounts platform).Sound (World.perform platform) where
  rely_refl index world := ⟨rfl, fun _ _ fact => fact⟩
  rely_trans index first second third left right :=
    ⟨right.same.trans left.same,
      fun Fact durable fact => right.facts Fact durable (left.facts Fact durable fact)⟩
  keeps := by
    intro index op choice world reply next accounted permits _ performed
    exact accounted.performed permits performed
  spares := by
    intro index other op choice world reply next different accounted permits _ performed
    refine ⟨(locals_next performed).2 other different, ?_⟩
    intro Fact durable fact
    exact durable.performed _ _ _ _ _ _ accounted permits performed fact

/-- A new request waits for nothing. -/
theorem waits_enrolled {request : Request Id} {other : Nat} {id : Id}
    (waits : Waits ((runtime platform).enroll index request world) other id) :
    Waits world other id := by
  obtain ⟨task, pending, found, isOpen, member⟩ := waits
  by_cases same : other = index
  · subst same
    rw [show ((runtime platform).enroll other request world).locals other =
      some ⟨request, none, []⟩ from Function.update_self _ _ _, Option.some.injEq] at found
    subst found
    cases isOpen
  · rw [show ((runtime platform).enroll index request world).locals other =
      world.locals other from Function.update_of_ne same _ _] at found
    exact ⟨task, pending, found, isOpen, member⟩

omit [DecidableEq Id] in
/-- Enrolling a request keeps the data of the others. -/
theorem locals_enrolled [DecidableEq Id] {request : Request Id} (free : world.locals index = none)
    {other : Nat} {task : Local Id PublicKey} (found : world.locals other = some task) :
    ((runtime platform).enroll index request world).locals other = some task := by
  have different : other ≠ index := by
    intro same
    rw [same, free] at found
    cases found
  rw [show ((runtime platform).enroll index request world).locals other = world.locals other from
    Function.update_of_ne different _ _]
  exact found

/-- Being settled is durable. -/
theorem durable_settled (id : Id) (userId : String) :
    Durable platform fun world : World Id PublicKey => Settled world id userId where
  performed _ _ _ _ _ _ _ _ performed settled := settled.performed performed
  enrolled _ _ _ _ settled := ⟨settled.drawn, fun other waits =>
    settled.unstaged other (waits_enrolled waits)⟩

/-- Being gone is durable. -/
theorem durable_gone (shelf : Shelf) (id : Id) (userId : String) :
    Durable platform fun world : World Id PublicKey => Gone world shelf id userId where
  performed _ _ _ _ _ _ _ _ performed gone := gone.performed performed
  enrolled world index request free gone :=
    ⟨(durable_settled id userId).enrolled world index request free gone.toSettled, gone.absent⟩

/-- Being held is durable. -/
theorem durable_held (shelf : Shelf) (id : Id) (userId : String) :
    Durable platform fun world : World Id PublicKey => Held platform world shelf id userId where
  performed _ _ _ _ _ _ accounted permits performed stored :=
    accounted.held_performed permits performed stored
  enrolled := by
    intro world index request free stored
    rcases stored with member | ⟨gone, other, task, found, discards⟩
    · exact .inl member
    · exact .inr ⟨(durable_gone shelf id userId).enrolled world index request free gone, other, task,
        locals_enrolled free found, discards⟩

/-- What is always true is durable. -/
theorem durable_true : Durable platform fun _ : World Id PublicKey => True where
  performed _ _ _ _ _ _ _ _ _ fact := fact
  enrolled _ _ _ _ fact := fact

end

end

end Holonus.Backend
