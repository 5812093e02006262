/-
This file follows every request through its awaits and proves over whole runs that committed rows
have entries on the chain and that only their users write under their identifiers.
-/

import Holonus.Construction.Backend.PlainPlatform
import Holonus.Proof.Backend.Ownership

namespace Holonus.Backend

open Holonus.Machine Holonus.File Holonus.Abstract

section
variable {Id PublicKey : Type} [DecidableEq Id] {platform : Platform Id PublicKey} {index : Nat}
  {request : Request Id}

/-- Posting a file keeps the stores integral. -/
theorem postFile_integrity {attempts : Nat} {publicKeyId : Ref Id} {fileName mimeType : String}
    {attachement : Bytes} :
    Triple (World.perform platform) (integrity platform) index (Closed index request)
      (FilesCore.postFile platform attempts request.body.userId publicKeyId fileName mimeType
        attachement)
      (fun _ => Closed index request) fun _ => Running index request := by
  have quiet : Quiet platform (integrity platform) index (Clear platform index request) :=
    lasting_true.quiet
  apply integrity_transaction
  apply Triple.bind (loosen (quiet.getTargetUser request.body.userId))
  intro user
  apply Triple.assume
  intro named
  apply Triple.bind (loosen (quiet.usersCheckLocked user.userId))
  intro _
  apply Triple.bind (loosen (quiet.getKey request.body.userId publicKeyId))
  intro found
  apply Triple.bind (loosen present_keeps)
  intro key
  apply Triple.bind (loosen (pem2der_keeps key.2))
  intro derPublicKey
  apply Triple.bind (loosen (encrypt_keeps derPublicKey attachement))
  intro ipfsData
  apply Triple.bind (ipfsAdd_triple (lasting_true.calm rfl rfl (fun same => by cases same)))
  intro ipfsPath
  rw [named]
  apply Triple.bind (filesCreate_promises request.body.userId fileName mimeType ipfsPath)
  intro fileId
  apply Triple.bind (setFile_fulfils fileId ipfsPath)
  intro _
  apply Triple.bind (lasting_true.calm rfl rfl (fun same => by cases same))
  intro _
  exact Triple.pure fun _ _ holds => holds

/-- Reading a file keeps the stores integral. -/
theorem getFile_integrity {userId fileId : String} :
    Triple (World.perform platform) (integrity platform) index (Clear platform index request)
      (FilesCore.getFile userId fileId : Task Id PublicKey (String × String × Bytes))
      (fun _ => Clear platform index request) fun _ => Running index request := by
  apply loosen
  exact lasting_true.quiet.getFile userId fileId

/-- Updating a file keeps the stores integral. -/
theorem putFile_integrity {attempts : Nat} {fileId fileName mimeType : String}
    {attachement : Bytes} :
    Triple (World.perform platform) (integrity platform) index (Closed index request)
      (FilesCore.putFile platform attempts request.body.userId fileId fileName mimeType attachement)
      (fun _ => Closed index request) fun _ => Running index request := by
  have quiet : Quiet platform (integrity platform) index (Clear platform index request) :=
    lasting_true.quiet
  have owned : Lasting platform fun store : Store Id =>
      Belongs platform store request.body.userId fileId := lasting_belongs _ _
  apply integrity_transaction
  apply Triple.bind (loosen (quiet.getTargetUser request.body.userId))
  intro user
  apply Triple.assume
  intro named
  rw [named]
  apply Triple.bind (filesCheckNotFound_belongs fileId request.body.userId)
  intro _
  apply Triple.bind (loosen (owned.quiet.filesCheckLocked fileId))
  intro _
  apply Triple.bind (pem2derObject_triple (owned.calm rfl rfl (fun same => by cases same)))
  intro derPublicKey
  apply Triple.bind (loosen (encrypt_keeps derPublicKey attachement))
  intro ipfsData
  apply Triple.bind (ipfsAdd_triple (owned.calm rfl rfl (fun same => by cases same)))
  intro ipfsPath
  apply Triple.bind (guarded_triple (owned.calm rfl rfl (fun same => by cases same)))
  intro ok
  apply Triple.bind (loosen failIf_keeps)
  intro _
  apply Triple.bind (guarded_triple (chainWrite_belongs rfl rfl (fun same => by cases same)))
  intro _
  apply (owned.calm rfl rfl (fun same => by cases same)).conseq
  · exact fun _ _ holds => holds
  · exact fun _ _ _ holds => Keeping.clear holds
  · exact fun _ _ _ holds => holds

/-- Deleting a file keeps the stores integral. -/
theorem deleteFile_integrity {attempts : Nat} {userId fileId : String} :
    Triple (World.perform platform) (integrity platform) index (Closed index request)
      (FilesCore.deleteFile attempts userId fileId : Task Id PublicKey Unit)
      (fun _ => Closed index request) fun _ => Running index request := by
  have quiet : Quiet platform (integrity platform) index (Clear platform index request) :=
    lasting_true.quiet
  apply integrity_transaction
  apply Triple.bind (loosen (quiet.getTargetUser userId))
  intro user
  apply Triple.assume
  intro _
  apply Triple.bind (loosen (guarded_triple quiet.ask_any))
  intro _
  apply Triple.bind (loosen (checkFound_keeps quiet.ask_any))
  intro _
  apply Triple.bind (loosen (quiet.filesCheckLocked fileId))
  intro _
  apply Triple.bind (lasting_true.calm rfl rfl (fun same => by cases same))
  intro ok
  exact loosen failIf_keeps

/-- Posting a key keeps the stores integral. -/
theorem postKey_integrity {attempts : Nat} {publicKey : Option String} :
    Triple (World.perform platform) (integrity platform) index (Closed index request)
      (KeysCore.postKey platform attempts request.body.userId publicKey)
      (fun _ => Closed index request) fun _ => Running index request := by
  have quiet : Quiet platform (integrity platform) index (Clear platform index request) :=
    lasting_true.quiet
  apply integrity_transaction
  apply Triple.bind (loosen (checkConflict_keeps quiet.ask_any))
  intro _
  apply Triple.bind (keysCreate_promises request.body.userId)
  intro publicKeyId
  have drawn : Lasting platform fun store : Store Id =>
      (publicKeyId, request.body.userId) ∈ store.drawn := lasting_drawn _
  apply Triple.bind (guarded_triple (drawn.calm rfl rfl (fun same => by cases same)))
  intro ok
  apply Triple.bind (loosen failIf_keeps)
  intro _
  apply Triple.bind (loosen present_keeps)
  intro key
  apply Triple.bind (setKey_fulfils publicKeyId key)
  intro _
  apply Triple.bind (lasting_true.calm rfl rfl (fun same => by cases same))
  intro _
  exact Triple.pure fun _ _ holds => holds

/-- Updating a key keeps the stores integral. -/
theorem putKey_integrity {publicKeyId : String} {publicKey : Option String} :
    Triple (World.perform platform) (integrity platform) index (Clear platform index request)
      (KeysCore.putKey request.body.userId publicKeyId publicKey : Task Id PublicKey String)
      (fun _ => Clear platform index request) fun _ => Running index request := by
  have owned : Lasting platform fun store : Store Id =>
      Belongs platform store request.body.userId publicKeyId := lasting_belongs _ _
  apply Triple.bind (keysCheckNotFound_belongs publicKeyId request.body.userId)
  intro _
  apply Triple.bind (loosen (owned.quiet.keysCheckLocked (.text publicKeyId)))
  intro _
  apply Triple.bind (loosen present_keeps)
  intro key
  apply Triple.bind (guarded_triple (chainWrite_belongs rfl rfl (fun same => by cases same)))
  intro _
  exact Triple.pure fun _ _ holds => Keeping.clear holds

/-- Deleting a key keeps the stores integral. -/
theorem deleteKey_integrity {attempts : Nat} {userId publicKeyId : String} :
    Triple (World.perform platform) (integrity platform) index (Closed index request)
      (KeysCore.deleteKey attempts userId publicKeyId : Task Id PublicKey Unit)
      (fun _ => Closed index request) fun _ => Running index request := by
  have quiet : Quiet platform (integrity platform) index (Clear platform index request) :=
    lasting_true.quiet
  apply integrity_transaction
  apply Triple.bind (loosen (checkFound_keeps quiet.ask_any))
  intro _
  apply Triple.bind (loosen (quiet.keysCheckLocked (.text publicKeyId)))
  intro _
  apply Triple.bind (lasting_true.calm rfl rfl (fun same => by cases same))
  intro _
  apply Triple.bind (guarded_triple (lasting_true.calm rfl rfl (fun same => by cases same)))
  intro ok
  exact loosen failIf_keeps

/-- Every request keeps the discipline. -/
theorem program_integrity (request : Request Id) :
    Triple (World.perform platform) (integrity platform) index (Closed index request)
      (request.program platform) (fun _ => Running index request)
      fun _ => Running index request := by
  have ends {Value : Type} {program : Task Id PublicKey Value}
      {Holds : Local Id PublicKey → Store Id → Prop} (respond : Value → Response Id)
      (triple : Triple (World.perform platform) (integrity platform) index
        (Closed index request) program (fun _ => At index request Holds)
        fun _ => Running index request) :
      Triple (World.perform platform) (integrity platform) index (Closed index request)
        (do return respond (← program)) (fun _ => Running index request)
        fun _ => Running index request := by
    apply Triple.bind triple
    intro value
    exact Triple.pure fun _ _ holds => At.running holds
  have clears {Value : Type} {program : Task Id PublicKey Value}
      (triple : Triple (World.perform platform) (integrity platform) index
        (Clear platform index request) program (fun _ => Clear platform index request)
        fun _ => Running index request) :
      Triple (World.perform platform) (integrity platform) index (Closed index request) program
        (fun _ => Clear platform index request) fun _ => Running index request :=
    triple.conseq (fun _ _ holds => Closed.clear holds) (fun _ _ _ holds => holds)
      fun _ _ _ holds => holds
  obtain ⟨attempts, body⟩ := request
  cases body with
  | postFile userId publicKeyId fileName mimeType attachement =>
      exact ends .fileId postFile_integrity
  | getFile userId fileId =>
      exact ends (fun file => .file file.1 file.2.1 file.2.2) (clears getFile_integrity)
  | putFile userId fileId fileName mimeType attachement =>
      exact ends (fun _ => .nothing) putFile_integrity
  | deleteFile userId fileId => exact ends (fun _ => .nothing) deleteFile_integrity
  | postKey userId publicKey => exact ends .publicKeyId postKey_integrity
  | getKey userId publicKeyId =>
      exact ends (fun found => .key (found.map Prod.fst) (found.map Prod.snd))
        (clears (loosen (lasting_true.quiet.getKey userId (.text publicKeyId))))
  | putKey userId publicKeyId publicKey => exact ends .publicKeyText (clears putKey_integrity)
  | deleteKey userId publicKeyId => exact ends (fun _ => .nothing) deleteKey_integrity

/-- Every request starts in integral stores. -/
theorem integrity_starts (platform : Platform Id PublicKey) :
    (integrity platform).Starts (runtime platform) (fun _ _ _ => True) fun _ => True where
  invariant := by
    intro index request world _ free integral
    refine ⟨integral.distinct, integral.backed, forall_update_some ?_ ?_⟩
    · intro event member
      cases member
    · exact fun other task _ found => integral.written other task found
  spares := by
    intro index other request world different _ _
    refine ⟨Grows.refl world.store, ?_⟩
    exact Function.update_of_ne different _ _
  safe := by
    intro index request world _ free enrolled
    have closed : Closed index request ((runtime platform).enroll index request world) :=
      ⟨⟨request, none, []⟩, Function.update_self _ _ _, rfl, rfl⟩
    apply Safe.mono _ enrolled (program_integrity request _ enrolled closed)
    intro outcome current _ _
    exact trivial
  stable _ _ _ _ _ _ _ := trivial

/-- Identifiers are distinct, and every row is backed. -/
structure Established (platform : Platform Id PublicKey) (store : Store Id) : Prop where
  distinct : (store.drawn.map Prod.fst).Nodup
  backed : ∀ shelf, ∀ owner ∈ store.database.owners shelf, Backed platform store shelf owner

/-- Every run keeps the stores integral. -/
theorem reached_integral {store : Store Id} (established : Established platform store)
    (moves : List (Move (Choice Id PublicKey) (Request Id))) :
    Integral platform (reached platform store moves).world := by
  have started : (runtime platform).Kept (integrity platform) (fun _ _ _ => True)
      (resting store) := by
    constructor
    · refine ⟨established.distinct, established.backed, ?_⟩
      intro index task found
      cases found
    · intro index program found
      cases found
  have follows : ∀ entry ∈ history (runtime platform).advance (resting store) moves,
      (integrity platform).Follows (fun _ => True) entry := by
    intro entry _
    obtain ⟨pool, move⟩ := entry
    cases move with
    | start index request => exact trivial
    | step index choice => exact fun _ _ => trivial
  exact (started.run (integrity_sound platform) (integrity_starts platform) follows).invariant

omit [DecidableEq Id] in
/-- Only the user of a row writes on the chain under its identifier. -/
theorem Integral.writer {world : World Id PublicKey} (integral : Integral platform world)
    {shelf : Shelf} {owner : Owner Id} (member : owner ∈ world.store.database.owners shelf)
    {index : Nat} {task : Local Id PublicKey} (found : world.locals index = some task)
    {event : Event Id PublicKey} (happened : event ∈ task.trail)
    (writes : event.op.chainText = some (platform.idText owner.id)) :
    task.request.body.userId = owner.userId := by
  obtain ⟨id, cast, drawn⟩ := integral.written index task found event happened _ writes
  rw [platform.castId_idText, Option.some.injEq] at cast
  subst cast
  have owned := (integral.backed shelf owner member).1
  have same := List.inj_on_of_nodup_map integral.distinct drawn owned rfl
  exact congrArg Prod.snd same

/-- Over every run, the chain has an entry for each committed row, and every value under the
identifier of a row was written for its user. -/
theorem crossStore_integrity {store : Store Id} (established : Established platform store)
    (moves : List (Move (Choice Id PublicKey) (Request Id))) :
    let world := (reached platform store moves).world
    (∀ row ∈ world.store.database.files, Recorded platform world.store .files row.id ∧
      ∀ index task, world.locals index = some task → ∀ event ∈ task.trail,
        event.op.chainText = some (platform.idText row.id) →
          task.request.body.userId = row.userId) ∧
    ∀ row ∈ world.store.database.keys,
      (row.forRecovery = false → Recorded platform world.store .keys row.id) ∧
      ∀ index task, world.locals index = some task → ∀ event ∈ task.trail,
        event.op.chainText = some (platform.idText row.id) →
          task.request.body.userId = row.userId := by
  intro world
  have integral : Integral platform world := reached_integral established moves
  constructor
  · intro row member
    have owner : (⟨row.id, row.userId, false⟩ : Owner Id) ∈ world.store.database.owners .files :=
      List.mem_map.mpr ⟨row, member, rfl⟩
    refine ⟨(integral.backed .files _ owner).2 rfl, ?_⟩
    intro index task found event happened writes
    exact integral.writer owner found happened writes
  · intro row member
    have owner : (⟨row.id, row.userId, row.forRecovery⟩ : Owner Id) ∈
        world.store.database.owners .keys :=
      List.mem_map.mpr ⟨row, member, rfl⟩
    refine ⟨(integral.backed .keys _ owner).2, ?_⟩
    intro index task found event happened writes
    exact integral.writer owner found happened writes

end

/-- The plain store has no rows. -/
theorem plainStore_established : Established plain plainStore where
  distinct := List.nodup_nil
  backed shelf owner member := by
    cases shelf <;> cases member

theorem crossStore_integrity_postedFile :
    Recorded plain (reached plain plainStore postedFile).world.store .files plainFile ∧
      Recorded plain (reached plain plainStore postedFile).world.store .keys plainKey := by
  have integrity := crossStore_integrity plainStore_established postedFile
  constructor
  · apply (integrity.1 ⟨plainFile, "u", "name", "mime", plainAddress [3, 7], false⟩ _).1
    decide +kernel
  · apply (integrity.2 ⟨plainKey, "u", false, false⟩ _).1 rfl
    decide +kernel

end Holonus.Backend
