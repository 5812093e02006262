/-
This file proves that committed rows have entries on the chain and that only the owner of a row
writes under its identifier.
-/

import Holonus.Proof.Backend.Rules

namespace Holonus.Backend

open Holonus.Machine Holonus.File Holonus.Abstract

section
variable {Id PublicKey : Type} [DecidableEq Id]

def Database.owners (database : Database Id) : Shelf → List (Owner Id)
  | .files => database.files.map fun row => ⟨row.id, row.userId, false⟩
  | .keys => database.keys.map fun row => ⟨row.id, row.userId, row.forRecovery⟩

/-- A write adds an owner only for an inserted row. -/
theorem owners_apply {database : Database Id} {write : Write Id} {shelf : Shelf}
    {owner : Owner Id} (member : owner ∈ (database.apply write).owners shelf) :
    owner ∈ database.owners shelf ∨ write.inserts = some (shelf, owner) := by
  cases shelf with
  | files =>
      rcases Database.files_apply (fun _ _ _ => rfl) member with old | new
      · exact .inl old
      · obtain ⟨row, inserts, same⟩ := new
        rw [inserts, ← same]
        exact .inr rfl
  | keys =>
      obtain ⟨row, present, same⟩ := List.mem_map.mp member
      subst same
      cases write with
      | insertKey new =>
          rcases List.mem_append.mp present with old | last
          · exact .inl (List.mem_map.mpr ⟨row, old, rfl⟩)
          · rw [List.mem_singleton.mp last]
            exact .inr rfl
      | deleteKey id =>
          exact .inl (List.mem_map.mpr ⟨row, List.mem_of_mem_filter present, rfl⟩)
      | insertFile new => exact .inl member
      | updateFile id fileName mimeType => exact .inl member
      | deleteFile id => exact .inl member
      | updateUser userId keysId => exact .inl member

/-- After a commit an owner was there before or is inserted by one of the writes. -/
theorem owners_applyAll {writes : List (Write Id)} {database : Database Id} {shelf : Shelf}
    {owner : Owner Id} (member : owner ∈ (database.applyAll writes).owners shelf) :
    owner ∈ database.owners shelf ∨ ∃ write ∈ writes, write.inserts = some (shelf, owner) := by
  refine Database.mem_applyAll (Database.owners · shelf)
    (fun write new => write.inserts = some (shelf, new)) ?_ member
  intro current write new
  exact owners_apply

variable (platform : Platform Id PublicKey)

/-- The chain has an entry under the text of the identifier. -/
def Recorded (store : Store Id) (shelf : Shelf) (id : Id) : Prop :=
  ((store.chain.storage shelf).entries (platform.idText id)).id = platform.idText id

/-- The stores gain identifiers and entries and never lose them. -/
structure Grows (store next : Store Id) : Prop where
  drawn : ∀ entry ∈ store.drawn, entry ∈ next.drawn
  recorded : ∀ shelf id, Recorded platform store shelf id → Recorded platform next shelf id

variable {platform}

omit [DecidableEq Id] in
/-- A store grows to itself. -/
theorem Grows.refl (store : Store Id) : Grows platform store store :=
  ⟨fun _ member => member, fun _ _ recorded => recorded⟩

omit [DecidableEq Id] in
/-- Growth of a store composes. -/
theorem Grows.trans {first second third : Store Id} (left : Grows platform first second)
    (right : Grows platform second third) : Grows platform first third where
  drawn entry member := right.drawn entry (left.drawn entry member)
  recorded shelf id recorded := right.recorded shelf id (left.recorded shelf id recorded)

/-- An accepted chain call keeps every entry. -/
theorem entry_of_execute {chain next : File.System} {transaction : File.Transaction}
    (executed : File.execute chain transaction = .ok next) (shelf : Shelf) (text : String)
    (present : ((chain.storage shelf).entries text).id = text) :
    ((next.storage shelf).entries text).id = text := by
  obtain ⟨-, applied⟩ := (execute_eq_ok _ _ _).mp executed
  obtain ⟨msgSender, call⟩ := transaction
  subst applied
  have put (storage : TextStorage) (id value : String) (held : (storage.entries text).id = text) :
      ((storage.put id value).entries text).id = text := by
    show (Function.update storage.entries id ⟨id, value⟩ text).id = text
    by_cases same : text = id
    · rw [same, Function.update_self]
    · rw [Function.update_of_ne same]
      exact held
  cases call with
  | administer party administration =>
      show (((chain.withGuard party _).storage shelf).entries text).id = text
      rw [chain.storage_withGuard]
      exact present
  | setFile fileId hash | storeFile fileId hash =>
      cases shelf with
      | files => exact put chain.fileStorage fileId hash present
      | keys => exact present
  | setKey publickeyId publicKey | storeKey publickeyId publicKey =>
      cases shelf with
      | files => exact present
      | keys => exact put chain.keyStorage publickeyId publicKey present

/-- Every operation only grows the drawn identifiers and the recorded entries. -/
theorem Change.grows {store next : Store Id} {session after : Option (Session Id)} {op : Op Id}
    (change : Change platform store session op next after) : Grows platform store next := by
  cases change with
  | kept | closed | began | staged | committed | deleted | added =>
      exact ⟨fun _ member => member, fun _ _ recorded => recorded⟩
  | drew _ pending shelf id userId write creates isOpen fresh inserts =>
      exact ⟨fun _ member => List.mem_cons_of_mem _ member, fun _ _ recorded => recorded⟩
  | sentFile fileId hash chain executed =>
      exact ⟨fun _ member => member, fun shelf id => entry_of_execute executed shelf _⟩
  | sentKey publicKeyId publicKey chain executed =>
      exact ⟨fun _ member => member, fun shelf id => entry_of_execute executed shelf _⟩

/-- The identifier was drawn for the owner and the chain has its entry. -/
def Backed (platform : Platform Id PublicKey) (store : Store Id) (shelf : Shelf)
    (owner : Owner Id) : Prop :=
  (owner.id, owner.userId) ∈ store.drawn ∧
    (owner.forRecovery = false → Recorded platform store shelf owner.id)

omit [DecidableEq Id] in
/-- A backed row stays backed while the store grows. -/
theorem Backed.grows {store next : Store Id} {shelf : Shelf} {owner : Owner Id}
    (backed : Backed platform store shelf owner) (grows : Grows platform store next) :
    Backed platform next shelf owner :=
  ⟨grows.drawn _ backed.1, fun live => grows.recorded shelf owner.id (backed.2 live)⟩

/-- The operation writes under this text on the chain. -/
def Op.chainText : Op Id → Option String
  | .act (.chainSetFile fileId _) => some fileId
  | .act (.chainSetKey publicKeyId _) => some publicKeyId
  | _ => none

/-- The text names an identifier that was drawn for the user. -/
def Belongs (platform : Platform Id PublicKey) (store : Store Id) (userId text : String) : Prop :=
  ∃ id, platform.castId text = some id ∧ (id, userId) ∈ store.drawn

omit [DecidableEq Id] in
/-- An identifier stays with its user while the store grows. -/
theorem Belongs.grows {store next : Store Id} {userId text : String}
    (belongs : Belongs platform store userId text) (grows : Grows platform store next) :
    Belongs platform next userId text := by
  obtain ⟨id, cast, drawn⟩ := belongs
  exact ⟨id, cast, grows.drawn _ drawn⟩

/-- Every row is backed and every chain write belongs to its request. -/
structure Integral (platform : Platform Id PublicKey) (world : World Id PublicKey) : Prop where
  distinct : (world.store.drawn.map Prod.fst).Nodup
  backed : ∀ shelf, ∀ owner ∈ world.store.database.owners shelf,
    Backed platform world.store shelf owner
  written : ∀ index task, world.locals index = some task → ∀ event ∈ task.trail, ∀ text,
    event.op.chainText = some text → Belongs platform world.store task.request.body.userId text

/-- Every row that the session inserts is backed or the promised one. -/
def Covered (platform : Platform Id PublicKey) (promised : Option (Shelf × Owner Id))
    (session : Option (Session Id)) (store : Store Id) : Prop :=
  ∀ pending, session = some pending → ∀ write ∈ pending.writes, ∀ shelf owner,
    write.inserts = some (shelf, owner) →
      promised = some (shelf, owner) ∨ Backed platform store shelf owner

/-- Before a commit the session is covered, and before a chain write its text belongs to the
request. -/
structure Owes (platform : Platform Id PublicKey) (index : Nat) (op : Op Id)
    (world : World Id PublicKey) : Prop where
  commit : op = .act .commitTransaction → ∀ task, world.locals index = some task →
    Covered platform none task.session world.store
  write : ∀ text, op.chainText = some text → ∀ task, world.locals index = some task →
    Belongs platform world.store task.request.body.userId text

/-- The others leave the request alone and let the stores grow. -/
structure Tolerates (platform : Platform Id PublicKey) (index : Nat)
    (world next : World Id PublicKey) : Prop where
  grows : Grows platform world.store next.store
  same : next.locals index = world.locals index

def integrity (platform : Platform Id PublicKey) :
    Discipline (Op Id) (World Id PublicKey) (Choice Id PublicKey) where
  Invariant := Integral platform
  Rely := Tolerates platform
  Admits _ _ _ _ := True
  Demands := Owes platform

/-- Every operation keeps the drawn identifiers distinct. -/
theorem Change.distinct {store next : Store Id} {session after : Option (Session Id)} {op : Op Id}
    (change : Change platform store session op next after)
    (distinct : (store.drawn.map Prod.fst).Nodup) : (next.drawn.map Prod.fst).Nodup := by
  cases change with
  | kept | closed | began | staged | committed | deleted | sentFile | sentKey | added =>
      exact distinct
  | drew _ pending shelf id userId write creates isOpen fresh inserts =>
      rw [List.map_cons, List.nodup_cons]
      refine ⟨?_, distinct⟩
      intro member
      obtain ⟨entry, present, same⟩ := List.mem_map.mp member
      have different := List.all_eq_true.mp fresh entry present
      exact (of_decide_eq_true different) same

/-- Every operation keeps the rows backed if its commit is covered. -/
theorem Change.backed {store next : Store Id} {session after : Option (Session Id)} {op : Op Id}
    (change : Change platform store session op next after)
    (covered : op = .act .commitTransaction → Covered platform none session store)
    (backed : ∀ shelf, ∀ owner ∈ store.database.owners shelf, Backed platform store shelf owner) :
    ∀ shelf, ∀ owner ∈ next.database.owners shelf, Backed platform next shelf owner := by
  intro shelf owner member
  have grows := change.grows
  cases change with
  | kept | closed | began | staged | drew | sentFile | sentKey | added =>
      exact (backed shelf owner member).grows grows
  | committed pending isOpen free =>
      rcases owners_applyAll member with old | new
      · exact (backed shelf owner old).grows grows
      · obtain ⟨write, present, inserts⟩ := new
        rcases covered rfl pending isOpen write present shelf owner inserts with promised | held
        · cases promised
        · exact held.grows grows
  | deleted fileId userId row found =>
      rcases owners_applyAll member with old | new
      · exact (backed shelf owner old).grows grows
      · obtain ⟨write, present, inserts⟩ := new
        rw [List.mem_singleton.mp present] at inserts
        cases inserts

/-- Every operation keeps the stores integral. -/
theorem integrity_sound (platform : Platform Id PublicKey) :
    (integrity platform).Sound (World.perform platform) where
  rely_refl index world := ⟨Grows.refl world.store, rfl⟩
  rely_trans index first second third left right :=
    ⟨left.grows.trans right.grows, right.same.trans left.same⟩
  keeps := by
    intro index op choice world reply next integral owes _ performed
    obtain ⟨task, session, found, responded, locals⟩ := perform_inv performed
    have change := respond_change responded
    refine ⟨change.distinct integral.distinct,
      change.backed (fun isCommit => owes.commit isCommit task found) integral.backed, ?_⟩
    rw [locals]
    refine forall_update_some ?_ ?_
    · intro event member text writes
      rw [Local.request_after]
      rcases Local.mem_trail_after member with old | new
      · exact (integral.written index task found event old text writes).grows change.grows
      · rw [new] at writes
        exact (owes.write text writes task found).grows change.grows
    · intro other current _ present event member text writes
      exact (integral.written other current present event member text writes).grows change.grows
  spares := by
    intro index other op choice world reply next different _ _ _ performed
    obtain ⟨task, session, found, responded, locals⟩ := perform_inv performed
    refine ⟨(respond_change responded).grows, ?_⟩
    rw [locals, Function.update_of_ne different]

omit [DecidableEq Id] in
/-- A transaction that writes the text of an identifier records it. -/
theorem recorded_of_execute {store next : Store Id} {session after : Option (Session Id)}
    {shelf : Shelf} {id : Id} {text : String} {transaction : File.Transaction}
    (writes : ∀ chain, File.execute store.chain transaction = .ok chain →
      ((chain.storage shelf).entries text).id = text)
    (text_eq : text = platform.idText id)
    (sent : sentToChain store session transaction = (.ok (), next, after)) :
    after = session ∧ Recorded platform next shelf id := by
  obtain ⟨chain, executed, changed, kept⟩ := sentToChain_ok sent
  subst changed text_eq
  exact ⟨kept, writes chain executed⟩

/-- A written file entry carries its own text. -/
theorem entry_of_setFile {chain next : File.System} {sender : Coin.Address} {fileId hash : String}
    (executed : File.execute chain ⟨sender, .setFile fileId hash⟩ = .ok next) :
    ((next.storage .files).entries fileId).id = fileId := by
  obtain ⟨-, applied⟩ := (execute_eq_ok _ _ _).mp executed
  subst applied
  show (Function.update chain.fileStorage.entries fileId ⟨fileId, hash⟩ fileId).id = fileId
  rw [Function.update_self]

/-- A written key entry carries its own text. -/
theorem entry_of_setKey {chain next : File.System} {sender : Coin.Address}
    {publicKeyId publicKey : String}
    (executed : File.execute chain ⟨sender, .setKey publicKeyId publicKey⟩ = .ok next) :
    ((next.storage .keys).entries publicKeyId).id = publicKeyId := by
  obtain ⟨-, applied⟩ := (execute_eq_ok _ _ _).mp executed
  subst applied
  show (Function.update chain.keyStorage.entries publicKeyId ⟨publicKeyId, publicKey⟩
    publicKeyId).id = publicKeyId
  rw [Function.update_self]

/-- A file that the database finds for a user belongs to the user. -/
theorem Integral.belongs_of_findFile {world : World Id PublicKey}
    (integral : Integral platform world) {fileId userId : String} {row : FileRow Id}
    (found : world.store.database.findFile platform fileId (some userId) = .ok (some row)) :
    Belongs platform world.store userId fileId := by
  obtain ⟨cast, member, owned⟩ := Database.findFile_some found
  have drawn := (integral.backed .files _ (List.mem_map.mpr ⟨row, member, rfl⟩)).1
  rcases owned with free | same
  · cases free
  · rw [Option.some.inj same]
    exact ⟨row.id, cast, drawn⟩

/-- In integral stores a key that is found under a text belongs to its user. -/
theorem Integral.belongs_of_findKey {world : World Id PublicKey}
    (integral : Integral platform world) {publicKeyId userId : String} {row : KeyRow Id}
    (found : world.store.database.findKey platform
      (KeysCore.condition userId (.text publicKeyId)) = .ok (some row)) :
    Belongs platform world.store userId publicKeyId := by
  obtain ⟨id, resolved, member, named, owned, -⟩ := Database.findKey_some found
  have drawn := (integral.backed .keys _ (List.mem_map.mpr ⟨row, member, rfl⟩)).1
  rcases named with free | sameId
  · cases free
  rcases owned with free | sameUser
  · cases free
  rw [sameId] at resolved
  rw [Option.some.inj sameUser]
  exact ⟨row.id, cast_of_resolve resolved, drawn⟩

end

end Holonus.Backend
