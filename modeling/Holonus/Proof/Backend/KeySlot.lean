/-
This file abstracts the keys of one user to a slot and follows the slot through commits.
-/

import Holonus.Proof.Backend.Rules

namespace Holonus.Backend

open Holonus.Machine Holonus.File Holonus.Abstract

/-- The slot of a user holds its keys that are not for recovery and the key reference of its
record. -/
@[ext] structure KeySlot (Id : Type) where
  live : List (KeyRow Id)
  pointer : Option (Option String)

section
variable {Id PublicKey : Type}

/-- At most one key is live and the record refers to it. -/
def KeySlot.Tidy (platform : Platform Id PublicKey) (slot : KeySlot Id) : Prop :=
  (slot.live = [] ∧ (slot.pointer = some none ∨ slot.pointer = some (some ""))) ∨
    ∃ row, slot.live = [row] ∧ slot.pointer = some (some (platform.idText row.id))

def Database.keySlot (database : Database Id) (userId : String) : KeySlot Id where
  live := database.keys.filter fun row => row.userId = userId ∧ row.forRecovery = false
  pointer := (database.findUser userId).map User.keysId

/-- A tidy slot belongs to a registered user. -/
theorem KeySlot.Tidy.user {platform : Platform Id PublicKey} {database : Database Id}
    {userId : String} (tidy : (database.keySlot userId).Tidy platform) :
    (database.keySlot userId).pointer.isSome := by
  rcases tidy with ⟨-, empty | text⟩ | ⟨row, -, text⟩
  · rw [empty]
    rfl
  · rw [text]
    rfl
  · rw [text]
    rfl

/-- A slot with a pointer belongs to a registered user. -/
theorem Database.findUser_of_pointer {database : Database Id} {userId : String}
    (isSome : (database.keySlot userId).pointer.isSome) :
    ∃ user, database.findUser userId = some user := by
  apply Option.isSome_iff_exists.mp
  rw [← Option.isSome_map (f := User.keysId)]
  exact isSome

/-- The live keys of a user are the ones that are not kept for recovery. -/
theorem Database.mem_live {database : Database Id} {userId : String} {row : KeyRow Id} :
    row ∈ (database.keySlot userId).live ↔
      row ∈ database.keys ∧ row.userId = userId ∧ row.forRecovery = false := by
  show row ∈ List.filter _ _ ↔ _
  rw [List.mem_filter, decide_eq_true_iff]

variable [DecidableEq Id]

def KeySlot.apply (userId : String) (slot : KeySlot Id) : Write Id → KeySlot Id
  | .insertKey row =>
      if row.userId = userId ∧ row.forRecovery = false then
        { slot with live := slot.live ++ [row] }
      else slot
  | .deleteKey id => { slot with live := slot.live.filter fun row => row.id ≠ id }
  | .updateUser other keysId =>
      if other = userId then { slot with pointer := slot.pointer.map fun _ => keysId } else slot
  | _ => slot

def KeySlot.applyAll (userId : String) (slot : KeySlot Id) (writes : List (Write Id)) :
    KeySlot Id :=
  writes.foldl (KeySlot.apply userId) slot

/-- Updating a user changes the key reference of that user only. -/
theorem findUser_updateUser (database : Database Id) (userId other : String)
    (keysId : Option String) :
    (database.apply (.updateUser other keysId)).findUser userId =
      (database.findUser userId).map fun user =>
        if user.userId = other then { user with keysId := keysId } else user := by
  show List.find? _ (List.map _ database.users) = _
  rw [List.find?_map]
  congr 2
  funext user
  show decide ((if user.userId = other then { user with keysId := keysId } else user).userId =
    userId) = decide (user.userId = userId)
  split <;> rfl

/-- Updating a user moves the pointer of that user's slot only. -/
theorem pointer_updateUser (database : Database Id) (userId other : String)
    (keysId : Option String) :
    ((database.keySlot userId).apply userId (.updateUser other keysId)).pointer =
      if other = userId then ((database.findUser userId).map User.keysId).map fun _ => keysId
      else (database.findUser userId).map User.keysId := by
  simp only [KeySlot.apply]
  split <;> rfl

/-- A write acts on the slot alone. -/
theorem keySlot_apply (database : Database Id) (userId : String) (write : Write Id) :
    (database.apply write).keySlot userId = (database.keySlot userId).apply userId write := by
  cases write with
  | insertFile row => rfl
  | updateFile id fileName mimeType => rfl
  | deleteFile id => rfl
  | insertKey row =>
      show KeySlot.mk (List.filter _ (database.keys ++ [row])) _ = _
      rw [List.filter_append]
      by_cases mine : row.userId = userId ∧ row.forRecovery = false
      · rw [KeySlot.apply, if_pos mine, List.filter_cons_of_pos (by exact decide_eq_true mine)]
        rfl
      · rw [KeySlot.apply, if_neg mine,
          List.filter_cons_of_neg (by exact fun holds => mine (of_decide_eq_true holds)),
          List.filter_nil, List.append_nil]
        rfl
  | deleteKey id =>
      apply KeySlot.ext
      · show List.filter _ (List.filter _ database.keys) = List.filter _ (List.filter _ database.keys)
        rw [List.filter_filter, List.filter_filter]
        congr 1
        funext row
        exact Bool.and_comm _ _
      · rfl
  | updateUser other keysId =>
      apply KeySlot.ext
      · simp only [KeySlot.apply]
        split <;> rfl
      · show Option.map _ ((database.apply (.updateUser other keysId)).findUser userId) = _
        rw [findUser_updateUser, pointer_updateUser]
        cases found : database.findUser userId with
        | none => simp only [Option.map_none, ite_self]
        | some user =>
            rw [Option.map_some, Option.map_some, Option.map_some, Option.map_some,
              (Database.findUser_some found).2]
            by_cases same : other = userId
            · rw [if_pos same, if_pos same.symm]
            · rw [if_neg same, if_neg fun equal => same equal.symm]

/-- The slot of a user follows the writes of a commit one by one. -/
theorem keySlot_applyAll (writes : List (Write Id)) (database : Database Id) (userId : String) :
    (database.applyAll writes).keySlot userId =
      (database.keySlot userId).applyAll userId writes := by
  induction writes generalizing database with
  | nil => rfl
  | cons write rest ih =>
      show ((database.apply write).applyAll rest).keySlot userId = _
      rw [ih, keySlot_apply]
      rfl

/-- No write registers or removes a user. -/
theorem pointer_applyAll (writes : List (Write Id)) (slot : KeySlot Id) (userId : String) :
    (slot.applyAll userId writes).pointer.isSome = slot.pointer.isSome := by
  induction writes generalizing slot with
  | nil => rfl
  | cons write rest ih =>
      show ((slot.apply userId write).applyAll userId rest).pointer.isSome = _
      rw [ih]
      cases write with
      | insertKey row =>
          simp only [KeySlot.apply]
          split <;> rfl
      | updateUser other keysId =>
          simp only [KeySlot.apply]
          split
          · exact Option.isSome_map
          · rfl
      | insertFile row => rfl
      | updateFile id fileName mimeType => rfl
      | deleteFile id => rfl
      | deleteKey id => rfl

/-- A key that the database finds for the user is live. -/
theorem live_of_findKey {platform : Platform Id PublicKey} {database : Database Id}
    {userId publicKeyId : String} {row : KeyRow Id}
    (found : database.findKey platform (KeysCore.condition userId (.text publicKeyId)) =
      .ok (some row)) :
    platform.castId publicKeyId = some row.id ∧ row ∈ (database.keySlot userId).live := by
  obtain ⟨id, resolved, member, named, owned, live⟩ := Database.findKey_some found
  rcases named with free | sameId
  · cases free
  rcases owned with free | sameUser
  · cases free
  rw [sameId] at resolved
  exact ⟨cast_of_resolve resolved,
    Database.mem_live.mpr ⟨member, (Option.some.inj sameUser).symm, live rfl⟩⟩

/-- The only live key is found under its identifier. -/
theorem findKey_of_live {platform : Platform Id PublicKey} {database : Database Id}
    {userId publicKeyId : String} {row : KeyRow Id}
    (cast : platform.castId publicKeyId = some row.id)
    (one : (database.keySlot userId).live = [row]) :
    database.findKey platform (KeysCore.condition userId (.text publicKeyId)) =
      .ok (some row) := by
  have resolved : (Ref.text publicKeyId : Ref Id).resolve platform = .ok (some row.id) := by
    rw [Ref.resolve, cast]
  obtain ⟨member, mine, live⟩ := Database.mem_live.mp (one ▸ List.mem_singleton_self row)
  have searched : database.findKey platform (KeysCore.condition userId (.text publicKeyId)) =
      .ok (database.keys.find? fun other =>
        (Database.KeyCondition.Matches (KeysCore.condition userId (.text publicKeyId))
          (some row.id) other)) := by
    show ((Ref.text publicKeyId : Ref Id).resolve platform >>= _) = _
    rw [resolved]
    rfl
  obtain ⟨found, first⟩ : ∃ found, database.keys.find? (fun other =>
      (Database.KeyCondition.Matches (KeysCore.condition userId (.text publicKeyId))
        (some row.id) other)) = some found := by
    apply Option.isSome_iff_exists.mp
    apply List.find?_isSome.mpr
    refine ⟨row, member, decide_eq_true ?_⟩
    exact ⟨.inr rfl, .inr (congrArg some mine.symm), fun _ => live⟩
  rw [first] at searched
  obtain ⟨-, present⟩ := live_of_findKey searched
  rw [one, List.mem_singleton] at present
  rw [searched, present]

/-- The log is extended, and the slot changes only with a write to the record of the user. -/
def Extends (userId : String) (store next : Store Id) : Prop :=
  ∃ more, next.log = store.log ++ more ∧ (Document.user userId ∉ more →
    next.database.keySlot userId = store.database.keySlot userId)

omit [DecidableEq Id] in
/-- A store extends itself. -/
theorem Extends.refl (userId : String) (store : Store Id) : Extends userId store store :=
  ⟨[], (List.append_nil store.log).symm, fun _ => rfl⟩

omit [DecidableEq Id] in
/-- Extensions of a store compose. -/
theorem Extends.trans {userId : String} {first second third : Store Id}
    (left : Extends userId first second) (right : Extends userId second third) :
    Extends userId first third := by
  obtain ⟨more, appended, kept⟩ := left
  obtain ⟨rest, added, same⟩ := right
  refine ⟨more ++ rest, ?_, ?_⟩
  · rw [added, appended, List.append_assoc]
  · intro absent
    rw [List.mem_append, not_or] at absent
    rw [same absent.2, kept absent.1]

/-- Since the moment the slot is the given one unless the record of the user was written. -/
def Anchored (userId : String) (slot : KeySlot Id) (moment : Nat) (store : Store Id) : Prop :=
  moment ≤ store.log.length ∧ (Document.user userId ∉ store.log.drop moment →
    store.database.keySlot userId = slot)

omit [DecidableEq Id] in
/-- The slot of the present store is anchored now. -/
theorem anchored_now (userId : String) (store : Store Id) :
    Anchored userId (store.database.keySlot userId) store.log.length store :=
  ⟨le_rfl, fun _ => rfl⟩

omit [DecidableEq Id] in
/-- An anchored slot stays anchored while the store is extended. -/
theorem Anchored.extends {userId : String} {slot : KeySlot Id} {moment : Nat}
    {store next : Store Id} (anchored : Anchored userId slot moment store)
    (extension : Extends userId store next) : Anchored userId slot moment next := by
  obtain ⟨more, appended, kept⟩ := extension
  refine ⟨?_, ?_⟩
  · rw [appended, List.length_append]
    exact Nat.le_add_right_of_le anchored.1
  · intro absent
    rw [appended, List.drop_append_of_le_length anchored.1, List.mem_append, not_or] at absent
    rw [kept absent.2, anchored.2 absent.1]

/-- The latest existence check of a request was made at this length of the log. -/
def Local.checkedAt (task : Local Id PublicKey) : Option Nat :=
  (task.trail.find? fun event => match event.op with
    | .ask (.keysExists _) => true
    | _ => false).map Event.moment

/-- The first session write of a request inserts or deletes a key. -/
def Op.isKeyWrite : Op Id → Bool
  | .act (.keysCreate _) => true
  | .act (.keysDeleteOne _) => true
  | _ => false

/-- No commit since the check of the request has written the record of the user. -/
def Undisturbed (userId : String) (index : Nat) (op : Op Id) (world : World Id PublicKey) : Prop :=
  op.isKeyWrite = true → ∀ task ∈ world.locals index, ∀ moment ∈ task.checkedAt,
    Document.user userId ∉ world.store.log.drop moment

instance (userId : String) (index : Nat) (op : Op Id) (world : World Id PublicKey) :
    Decidable (Undisturbed userId index op world) :=
  inferInstanceAs (Decidable (_ → _))

/-- A session that may commit writes the record of the user and leaves a tidy slot. -/
def Committable (platform : Platform Id PublicKey) (userId : String) (pending : Session Id)
    (store : Store Id) : Prop :=
  Document.user userId ∈ pending.writes.map Write.document ∧
    (pending.conflicts store.log = false →
      ((store.database.keySlot userId).applyAll userId pending.writes).Tidy platform)

structure Leaves (userId : String) (index : Nat) (world next : World Id PublicKey) : Prop where
  extension : Extends userId world.store next.store
  same : next.locals index = world.locals index

def keySlotDiscipline (platform : Platform Id PublicKey) (userId : String) :
    Discipline (Op Id) (World Id PublicKey) (Choice Id PublicKey) where
  Invariant world := (world.store.database.keySlot userId).Tidy platform
  Rely := Leaves userId
  Admits index op _ world := Undisturbed userId index op world
  Demands index op world := op = .act .commitTransaction → ∀ task pending,
    world.locals index = some task → task.session = some pending →
      Committable platform userId pending world.store

section
variable {platform : Platform Id PublicKey} {userId : String} {store next : Store Id}
  {session after : Option (Session Id)} {op : Op Id}

/-- An operation extends the store for the user unless it commits without the user's document. -/
theorem Change.extends (change : Change platform store session op next after)
    (commits : op = .act .commitTransaction → ∀ pending, session = some pending →
      Document.user userId ∈ pending.writes.map Write.document) :
    Extends userId store next := by
  cases change with
  | kept | closed | began | staged | drew | sentFile | sentKey | added =>
      exact Extends.refl userId store
  | committed pending isOpen free =>
      refine ⟨pending.writes.map Write.document, rfl, ?_⟩
      intro absent
      exact absurd (commits rfl pending isOpen) absent
  | deleted fileId owner row found => exact ⟨[.file row.id], rfl, fun _ => rfl⟩

/-- An operation keeps the slot tidy if its commit is committable. -/
theorem Change.tidy (change : Change platform store session op next after)
    (commits : op = .act .commitTransaction → ∀ pending, session = some pending →
      Committable platform userId pending store)
    (tidy : (store.database.keySlot userId).Tidy platform) :
    (next.database.keySlot userId).Tidy platform := by
  cases change with
  | kept | closed | began | staged | drew | sentFile | sentKey | added => exact tidy
  | committed pending isOpen free =>
      show ((store.database.applyAll pending.writes).keySlot userId).Tidy platform
      rw [keySlot_applyAll]
      exact (commits rfl pending isOpen).2 free
  | deleted fileId owner row found => exact tidy

end

/-- Every operation keeps the discipline of the key slot. -/
theorem keySlotDiscipline_sound (platform : Platform Id PublicKey) (userId : String) :
    (keySlotDiscipline platform userId).Sound (World.perform platform) where
  rely_refl index world := ⟨Extends.refl userId world.store, rfl⟩
  rely_trans index first second third left right :=
    ⟨left.extension.trans right.extension, right.same.trans left.same⟩
  keeps := by
    intro index op choice world reply next tidy demanded _ performed
    obtain ⟨task, session, found, responded, -⟩ := perform_inv performed
    apply (respond_change responded).tidy _ tidy
    intro isCommit pending isOpen
    exact demanded isCommit task pending found isOpen
  spares := by
    intro index other op choice world reply next different _ demanded _ performed
    obtain ⟨task, session, found, responded, locals⟩ := perform_inv performed
    constructor
    · apply (respond_change responded).extends
      intro isCommit pending isOpen
      exact (demanded isCommit task pending found isOpen).1
    · rw [locals, Function.update_of_ne different]

end

end Holonus.Backend
