/-
This file proves that a deletion is final.
A deleted row never comes back, and no request that starts after the deletion uses it.
-/

import Holonus.Proof.Backend.Acknowledged

namespace Holonus.Backend

open Holonus.Machine Holonus.File Holonus.Abstract

section
variable {Id PublicKey Value : Type}

/-- The request names the row of the shelf by this identifier. -/
def Body.Uses (platform : Platform Id PublicKey) (body : Body Id) (id : Id) : Shelf → Prop
  | .files =>
      match body with
      | .getFile _ fileId | .putFile _ fileId _ _ _ | .deleteFile _ fileId =>
          platform.castId fileId = some id
      | _ => False
  | .keys =>
      match body with
      | .postFile _ publicKeyId _ _ _ => publicKeyId.resolve platform = .ok (some id)
      | .getKey _ publicKeyId | .putKey _ publicKeyId _ | .deleteKey _ publicKeyId =>
          platform.castId publicKeyId = some id
      | _ => False

/-- A lookup of a key answers with two null values, and every other request fails. -/
def Body.Refuses (body : Body Id) (outcome : Except Failure (Response Id)) : Prop :=
  match body with
  | .getKey _ _ => outcome = .ok (.key none none)
  | _ => ∃ failure, outcome = .error failure

variable [DecidableEq Id] {platform : Platform Id PublicKey} {index : Nat} {request : Request Id}
  {InSuch : Option (Session Id) → Prop} {id : Id} {owner : String}

/-- Nothing is left to show after a check that never passes. -/
theorem never_passes {discipline : Discipline (Op Id) (World Id PublicKey) (Choice Id PublicKey)}
    {program : Task Id PublicKey Value} {After : Value → World Id PublicKey → Prop}
    {Thrown : Failure → World Id PublicKey → Prop} :
    Triple (World.perform platform) discipline index (fun _ => False) program After Thrown :=
  fun _ _ never => never.elim

/-- The existence check of a deleted file throws. -/
theorem filesExists_denies {fileId : String} (cast : platform.castId fileId = some id)
    (userId : String) :
    Triple (World.perform platform) (accounts platform) index
      (Holding index request InSuch fun world => Gone world .files id owner)
      (FilesModel.checkNotFound fileId userId : Task Id PublicKey Unit) (fun _ _ => False)
      fun _ => Holding index request InSuch fun world => Gone world .files id owner := by
  have asks : Triple (World.perform platform) (accounts platform) index
      (Holding index request InSuch fun world => Gone world .files id owner)
      (ask (.filesExists fileId userId) : Task Id PublicKey Bool)
      (fun found world => found = false ∧
        Holding index request InSuch (fun world => Gone world .files id owner) world)
      fun _ => Holding index request InSuch fun world => Gone world .files id owner := by
    apply (durable_gone .files id owner).quiet.ask
    intro world choice value next _ holding _ performed
    apply Bool.eq_false_iff.mpr
    intro isFound
    subst isFound
    obtain ⟨row, found⟩ := filesExists_true (answer_of_perform performed)
    obtain ⟨rowCast, member, -⟩ := Database.findFile_some found
    rw [cast, Option.some.injEq] at rowCast
    have recovered := holding.2.absent _ (Database.file_owner member) rowCast.symm
    cases recovered
  apply (checkFound_triple asks fun _ _ holds => holds.2).conseq
  · exact fun _ _ holds => holds
  · exact fun _ _ _ holds => Bool.noConfusion holds.1
  · exact fun _ _ _ holds => holds

/-- The existence check of a deleted key throws. -/
theorem keysExists_denies {publicKeyId : Ref Id} (resolved : publicKeyId.resolve platform = .ok (some id))
    (userId : String) :
    Triple (World.perform platform) (accounts platform) index
      (Holding index request InSuch fun world => Gone world .keys id owner)
      (KeysModel.checkNotFound (KeysCore.condition userId publicKeyId) : Task Id PublicKey Unit)
      (fun _ _ => False)
      fun _ => Holding index request InSuch fun world => Gone world .keys id owner := by
  have asks : Triple (World.perform platform) (accounts platform) index
      (Holding index request InSuch fun world => Gone world .keys id owner)
      (ask (.keysExists (KeysCore.condition userId publicKeyId)) : Task Id PublicKey Bool)
      (fun found world => found = false ∧
        Holding index request InSuch (fun world => Gone world .keys id owner) world)
      fun _ => Holding index request InSuch fun world => Gone world .keys id owner := by
    apply (durable_gone .keys id owner).quiet.ask
    intro world choice value next _ holding _ performed
    apply Bool.eq_false_iff.mpr
    intro isFound
    subst isFound
    obtain ⟨found, searched, isSome⟩ := keysExists_eq_ok (answer_of_perform performed)
    obtain ⟨row, same⟩ := Option.isSome_iff_exists.mp isSome
    subst same
    obtain ⟨rowId, rowResolved, member, named, -, live⟩ := Database.findKey_some searched
    have sameId : some id = rowId := Except.ok.inj (resolved.symm.trans rowResolved)
    rcases named with free | isRow
    · cases free
    · have recovered := holding.2.absent _ (Database.key_owner member)
        (Option.some.inj (isRow.symm.trans sameId.symm))
      rw [live rfl] at recovered
      cases recovered
  apply (checkFound_triple asks fun _ _ holds => holds.2).conseq
  · exact fun _ _ holds => holds
  · exact fun _ _ _ holds => Bool.noConfusion holds.1
  · exact fun _ _ _ holds => holds

/-- A lookup of a deleted key gives nothing. -/
theorem getKey_denies {publicKeyId : Ref Id} (resolved : publicKeyId.resolve platform = .ok (some id))
    (userId : String) {Thrown : Failure → World Id PublicKey → Prop} :
    Triple (World.perform platform) (accounts platform) index
      (Holding index request InSuch fun world => Gone world .keys id owner)
      (KeysCore.getKey platform userId publicKeyId)
      (fun found world => found = none ∧
        Holding index request InSuch (fun world => Gone world .keys id owner) world) Thrown := by
  apply Triple.handle (Triple.bind (keysExists_denies resolved userId) fun _ => never_passes)
  intro failure
  exact Triple.pure fun _ _ holds => ⟨rfl, holds⟩

section
variable {attempts : Nat} {userId : String} {fileId : String}

/-- Reading a deleted file throws. -/
theorem getFile_denies (cast : platform.castId fileId = some id) :
    Triple (World.perform platform) (accounts platform) index
      (Holding index request InSuch fun world => Gone world .files id owner)
      (FilesCore.getFile userId fileId : Task Id PublicKey _) (fun _ _ => False)
      fun _ => Active index request := by
  have quiet : Quiet platform (accounts platform) index
      (Holding index request InSuch fun world => Gone world .files id owner) :=
    (durable_gone .files id owner).quiet
  apply fails_active
  apply Triple.bind (quiet.getTargetUser userId)
  intro user
  apply Triple.assume
  intro named
  apply Triple.bind (quiet.usersCheckLocked user.userId)
  intro _
  apply Triple.bind (filesExists_denies cast user.userId)
  intro _
  exact never_passes

omit [DecidableEq Id] in
/-- A text that is cast to an identifier resolves to it. -/
theorem resolve_of_cast {text : String} (cast : platform.castId text = some id) :
    (Ref.text text : Ref Id).resolve platform = .ok (some id) := by
  rw [Ref.resolve, cast]

/-- A transaction whose body never passes never commits. -/
theorem transaction_denies {Known : World Id PublicKey → Prop} (known : Durable platform Known)
    {exec : Task Id PublicKey Value}
    (body : Triple (World.perform platform) (accounts platform) index
      (Holding index request (· = some Session.empty) Known) exec (fun _ _ => False)
      fun _ => Holding index request (· = some Session.empty) Known) :
    Triple (World.perform platform) (accounts platform) index
      (Holding index request (fun _ => True) Known) (DbUtil.transaction attempts exec)
      (fun _ _ => False) fun _ => Active index request := by
  have never : Durable platform fun _ : World Id PublicKey => False :=
    ⟨fun _ _ _ _ _ _ _ _ _ fact => fact, fun _ _ _ _ fact => fact⟩
  have fails := body.conseq (fun _ _ holds => holds) (fun _ _ _ holds => holds)
    fun _ _ _ holds => (⟨holds.1.running, holds.2⟩ : Holding index request (fun _ => True) Known _)
  apply (accounts_transaction known (fun _ => never) fails fun _ => never_passes).conseq
  · exact fun _ _ holds => holds
  · exact fun _ _ _ holds => holds.2
  · exact fun _ _ _ holds => holds

/-- Updating a deleted file throws. -/
theorem putFile_denies {fileName mimeType : String} {attachement : Bytes}
    (cast : platform.castId fileId = some id) :
    Triple (World.perform platform) (accounts platform) index
      (Holding index request (fun _ => True) fun world => Gone world .files id owner)
      (FilesCore.putFile platform attempts userId fileId fileName mimeType attachement)
      (fun _ _ => False) fun _ => Active index request := by
  have gone : Durable platform fun world : World Id PublicKey => Gone world .files id owner :=
    durable_gone .files id owner
  apply transaction_denies gone
  apply Triple.bind (gone.quiet.getTargetUser userId)
  intro user
  apply Triple.assume
  intro named
  apply Triple.bind (filesExists_denies cast user.userId)
  intro _
  exact never_passes

/-- Deleting a deleted file throws. -/
theorem deleteFile_denies (cast : platform.castId fileId = some id) :
    Triple (World.perform platform) (accounts platform) index
      (Holding index request (fun _ => True) fun world => Gone world .files id owner)
      (FilesCore.deleteFile attempts userId fileId : Task Id PublicKey Unit)
      (fun _ _ => False) fun _ => Active index request := by
  have gone : Durable platform fun world : World Id PublicKey => Gone world .files id owner :=
    durable_gone .files id owner
  apply transaction_denies gone
  apply Triple.bind (gone.quiet.getTargetUser userId)
  intro user
  apply Triple.assume
  intro named
  apply Triple.bind (guarded_triple gone.quiet.ask_any)
  intro _
  apply Triple.bind (filesExists_denies cast user.userId)
  intro _
  exact never_passes

/-- Deleting a deleted key throws. -/
theorem deleteKey_denies {publicKeyId : String} (cast : platform.castId publicKeyId = some id) :
    Triple (World.perform platform) (accounts platform) index
      (Holding index request (fun _ => True) fun world => Gone world .keys id owner)
      (KeysCore.deleteKey attempts userId publicKeyId : Task Id PublicKey Unit)
      (fun _ _ => False) fun _ => Active index request := by
  apply transaction_denies (durable_gone .keys id owner)
  apply Triple.bind (keysExists_denies (resolve_of_cast cast) userId)
  intro _
  exact never_passes

/-- Updating a deleted key throws. -/
theorem putKey_denies {publicKeyId : String} {publicKey : Option String}
    (cast : platform.castId publicKeyId = some id) :
    Triple (World.perform platform) (accounts platform) index
      (Holding index request InSuch fun world => Gone world .keys id owner)
      (KeysCore.putKey userId publicKeyId publicKey : Task Id PublicKey String)
      (fun _ _ => False) fun _ => Active index request := by
  apply fails_active
  apply Triple.bind (keysExists_denies (resolve_of_cast cast) userId)
  intro _
  exact never_passes

/-- Posting a file with a deleted key throws. -/
theorem postFile_denies {publicKeyId : Ref Id} {fileName mimeType : String} {attachement : Bytes}
    (resolved : publicKeyId.resolve platform = .ok (some id)) :
    Triple (World.perform platform) (accounts platform) index
      (Holding index request (fun _ => True) fun world => Gone world .keys id owner)
      (FilesCore.postFile platform attempts userId publicKeyId fileName mimeType attachement)
      (fun _ _ => False) fun _ => Active index request := by
  have gone : Durable platform fun world : World Id PublicKey => Gone world .keys id owner :=
    durable_gone .keys id owner
  apply transaction_denies gone
  apply Triple.bind (gone.quiet.getTargetUser userId)
  intro user
  apply Triple.assume
  intro named
  apply Triple.bind (gone.quiet.usersCheckLocked user.userId)
  intro _
  apply Triple.bind (getKey_denies resolved userId)
  intro found
  apply Triple.assume
  intro missing
  subst missing
  exact Triple.throw fun _ _ holds => holds

end

/-- A request that names a deleted row is refused. -/
theorem program_denies {shelf : Shelf} (uses : request.body.Uses platform id shelf) :
    Triple (World.perform platform) (accounts platform) index
      (Holding index request (fun _ => True) fun world => Gone world shelf id owner)
      (request.program platform)
      (fun response world => request.body.Refuses (.ok response) ∧ Active index request world)
      fun failure world => request.body.Refuses (.error failure) ∧ Active index request world := by
  have refused {Result : Type} {program : Task Id PublicKey Result} {respond : Result → Response Id}
      (isOther : ∀ failure, request.body.Refuses (.error failure))
      (refuses : Triple (World.perform platform) (accounts platform) index
        (Holding index request (fun _ => True) fun world => Gone world shelf id owner) program
        (fun _ _ => False) fun _ => Active index request) :
      Triple (World.perform platform) (accounts platform) index
        (Holding index request (fun _ => True) fun world => Gone world shelf id owner)
        (do return respond (← program))
        (fun response world => request.body.Refuses (.ok response) ∧ Active index request world)
        fun failure world => request.body.Refuses (.error failure) ∧
          Active index request world := by
    have fails := refuses.conseq (fun _ _ holds => holds) (fun _ _ _ holds => holds)
      fun failure world _ holds =>
        (⟨isOther failure, holds⟩ : request.body.Refuses (.error failure) ∧
          Active index request world)
    exact Triple.bind fails fun _ => never_passes
  obtain ⟨attempts, body⟩ := request
  cases shelf with
  | files =>
      cases body with
      | getFile userId fileId => exact refused (fun failure => ⟨failure, rfl⟩) (getFile_denies uses)
      | putFile userId fileId fileName mimeType attachement =>
          exact refused (fun failure => ⟨failure, rfl⟩) (putFile_denies uses)
      | deleteFile userId fileId =>
          exact refused (fun failure => ⟨failure, rfl⟩) (deleteFile_denies uses)
      | _ => exact uses.elim
  | keys =>
      cases body with
      | postFile userId publicKeyId fileName mimeType attachement =>
          exact refused (fun failure => ⟨failure, rfl⟩) (postFile_denies uses)
      | getKey userId publicKeyId =>
          apply Triple.bind (getKey_denies (resolve_of_cast uses) userId)
          intro found
          apply Triple.assume
          intro missing
          subst missing
          exact Triple.pure fun _ _ holds => ⟨rfl, holds.active⟩
      | putKey userId publicKeyId publicKey =>
          exact refused (fun failure => ⟨failure, rfl⟩) (putKey_denies uses)
      | deleteKey userId publicKeyId =>
          exact refused (fun failure => ⟨failure, rfl⟩) (deleteKey_denies uses)
      | _ => exact uses.elim

/-- The accounts are kept from the moment on at which the row is gone. -/
def withoutRow (platform : Platform Id PublicKey) (shelf : Shelf) (id : Id) (owner : String) :
    Discipline (Op Id) (World Id PublicKey) (Choice Id PublicKey) where
  Invariant world := Accounted platform world ∧ Gone world shelf id owner
  Rely := SparesRequest platform
  Admits _ _ _ _ := True
  Demands := (accounts platform).Demands

/-- The discipline without the row refines the accounts. -/
theorem withoutRow_refines (shelf : Shelf) (id : Id) (owner : String) :
    (withoutRow platform shelf id owner).Refines (accounts platform) where
  invariant _ holds := holds.1
  rely _ _ _ spares := spares
  admits _ _ _ _ admitted := admitted
  demands _ _ _ permits := permits

/-- Every operation keeps the row away. -/
theorem withoutRow_sound (shelf : Shelf) (id : Id) (owner : String) :
    (withoutRow platform shelf id owner).Sound (World.perform platform) where
  rely_refl := (accounts_sound platform).rely_refl
  rely_trans := (accounts_sound platform).rely_trans
  keeps _ _ _ _ _ _ holds permits _ performed :=
    ⟨holds.1.performed permits performed, holds.2.performed performed⟩
  spares index other op choice world reply next different holds permits admitted performed :=
    (accounts_sound platform).spares index other op choice world reply next different holds.1
      permits admitted performed

/-- A finished request that names the row was refused. -/
def RefusesRow (platform : Platform Id PublicKey) (shelf : Shelf) (id : Id) (index : Nat)
    (outcome : Except Failure (Response Id)) (world : World Id PublicKey) : Prop :=
  ∃ request, Running index request world ∧
    (request.body.Uses platform id shelf → request.body.Refuses outcome)

/-- A request that uses a row which is gone is refused. -/
theorem refusesRow_safe {shelf : Shelf} {world : World Id PublicKey}
    (accounted : Accounted platform world) (gone : Gone world shelf id owner)
    (active : Active index request world) :
    Safe (World.perform platform) (accounts platform) index (RefusesRow platform shelf id index)
      (request.program platform) world := by
  by_cases uses : request.body.Uses platform id shelf
  · apply Safe.mono _ accounted (program_denies uses world accounted ⟨active.1, gone⟩)
    intro outcome current _ ends
    cases outcome with
    | ok response => exact ⟨request, ends.2.1, fun _ => ends.1⟩
    | error failure => exact ⟨request, ends.2.1, fun _ => ends.1⟩
  · apply Safe.mono _ accounted (program_active request world accounted active)
    intro outcome current _ ends
    cases outcome with
    | ok response => exact ⟨request, ends.1, fun named => absurd named uses⟩
    | error failure => exact ⟨request, ends.1, fun named => absurd named uses⟩

/-- Every request starts without the row. -/
theorem withoutRow_starts (shelf : Shelf) (id : Id) (owner : String) {Started : Nat → Prop} :
    (withoutRow platform shelf id owner).Starts (runtime platform)
      (fun index outcome world => Started index → RefusesRow platform shelf id index outcome world)
      fun _ => True where
  invariant index request world _ free holds :=
    ⟨holds.1.enrolled index request,
      (durable_gone shelf id owner).enrolled world index request
        (Option.isNone_iff_eq_none.mp free) holds.2⟩
  spares index other request world different free holds :=
    (accounts_starts platform).spares index other request world different free holds.1
  safe := by
    intro index request world _ _ holds
    have active : Active index request ((runtime platform).enroll index request world) :=
      ⟨⟨⟨request, none, []⟩, Function.update_self _ _ _, rfl, trivial⟩, trivial⟩
    apply Safe.mono _ holds (Safe.refine (withoutRow_refines shelf id owner)
      (refusesRow_safe holds.1 holds.2 active))
    exact fun _ _ _ refuses _ => refuses
  stable := by
    intro index outcome first second spares _ refuses started
    obtain ⟨request, ⟨task, found, asked, -⟩, refused⟩ := refuses started
    exact ⟨request, ⟨task, spares.same.trans found, asked, trivial⟩, refused⟩

/-- Over every run, a row whose deletion succeeded never comes back, and every request that starts
later and names it is refused. -/
theorem deletion_is_final {store : Store Id} (established : Established platform store)
    (moves later : List (Move (Choice Id PublicKey) (Request Id))) (index : Nat) {shelf : Shelf}
    {userId text : String} {response : Response Id} (cast : platform.castId text = some id)
    (asked : (reached platform store moves).world.asked index = some (deleteBody shelf userId text))
    (ended : (reached platform store moves).outcome index = some (.ok response)) :
    let pool := reached platform store (moves ++ later)
    (∀ owner ∈ pool.world.store.database.owners shelf, owner.id = id → owner.forRecovery = true) ∧
    ∀ other body outcome, (reached platform store moves).tasks other = none →
      pool.world.asked other = some body → body.Uses platform id shelf →
        pool.outcome other = some outcome → body.Refuses outcome := by
  intro pool
  have kept := reached_accounts established moves
  have gone : Gone (reached platform store moves).world shelf id userId := by
    have acknowledged := reached_acknowledged established moves asked ended
    cases shelf with
    | files =>
        obtain ⟨other, same, gone⟩ := acknowledged
        rw [cast, Option.some.injEq] at same
        rw [same]
        exact gone
    | keys =>
        obtain ⟨other, same, gone⟩ := acknowledged
        rw [cast, Option.some.injEq] at same
        rw [same]
        exact gone
  have rest := (kept.refine (withoutRow_refines shelf id userId) ⟨kept.invariant, gone⟩).run_any
    (withoutRow_sound shelf id userId) (withoutRow_starts shelf id userId)
    (fun _ _ _ _ => trivial) (fun _ => trivial) later
  have isPool : run (runtime platform).advance (reached platform store moves) later = pool :=
    (run_append _ _ _).symm
  rw [isPool] at rest
  refine ⟨rest.invariant.2.absent, ?_⟩
  intro other body outcome unstarted request uses finished
  obtain ⟨started, ⟨task, found, same, -⟩, refuses⟩ := rest.finished finished unstarted
  rw [World.asked, found, Option.map_some, Option.some.injEq, same] at request
  subst request
  exact refuses uses

end

/-- The user deletes the file. -/
def deletedFile : List (Move (Choice PlainId UInt8) (Request PlainId)) :=
  postedFile ++ [.start 2 ⟨0, .deleteFile "u" "f"⟩] ++ proceeds 2 10

/-- The user asks for the deleted file. -/
def soughtFile : List (Move (Choice PlainId UInt8) (Request PlainId)) :=
  [.start 3 ⟨0, .getFile "u" "f"⟩] ++ proceeds 3 4

theorem deletion_is_final_soughtFile :
    (∀ owner ∈ (reached plain plainStore (deletedFile ++ soughtFile)).world.store.database.owners
      .files, owner.id = plainFile → owner.forRecovery = true) ∧
    (Body.getFile "u" "f" : Body PlainId).Refuses
      (.error (.notFound Messages.fileNotfoundError)) := by
  have asked : (reached plain plainStore deletedFile).world.asked 2 =
      some (deleteBody .files "u" "f") := by decide +kernel
  have ended : (reached plain plainStore deletedFile).outcome 2 = some (.ok .nothing) := by
    decide +kernel
  have final := deletion_is_final plainStore_established deletedFile soughtFile 2
    (show plain.castId "f" = some plainFile from rfl) asked ended
  refine ⟨final.1, final.2 3 _ _ ?_ ?_ ?_ ?_⟩
  · rfl
  · decide +kernel
  · rfl
  · decide +kernel

end Holonus.Backend
