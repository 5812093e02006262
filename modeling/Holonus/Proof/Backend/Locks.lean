/-
This file proves which requests the locks of users and files refuse.
-/

import Holonus.Construction.Backend.PlainPlatform
import Holonus.Proof.Backend.Alone

namespace Holonus.Backend

open Holonus.Machine Holonus.Machine.Program

section
variable {Id PublicKey Value Next : Type}

def Body.isFile : Body Id → Bool
  | .postFile _ _ _ _ _ | .getFile _ _ | .putFile _ _ _ _ _ | .deleteFile _ _ => true
  | _ => false

/-- The request is for this file. -/
def Body.target : Body Id → Option String
  | .getFile _ fileId | .putFile _ fileId _ _ _ | .deleteFile _ fileId => some fileId
  | _ => none

/-- These requests change a file and do not ask for the lock of their user. -/
def Body.unguarded : Body Id → Option String
  | .putFile _ fileId _ _ _ | .deleteFile _ fileId => some fileId
  | _ => none

def UserLocked (store : Store Id) (userId : String) : Prop :=
  ∃ user, store.database.findUser userId = some user ∧ user.isLocked = true

variable [DecidableEq Id]

def FileLocked (platform : Platform Id PublicKey) (store : Store Id) (fileId : String) : Prop :=
  ∃ row, store.database.findFile platform fileId none = .ok (some row) ∧ row.isLocked = true

def FileOwned (platform : Platform Id PublicKey) (store : Store Id) (fileId userId : String) : Prop :=
  ∃ row, store.database.findFile platform fileId (some userId) = .ok (some row)

/-- The request is made as a locked user or for a locked file. -/
def Barred (platform : Platform Id PublicKey) (store : Store Id) (body : Body Id) : Prop :=
  UserLocked store body.userId ∨ ∃ fileId, body.target = some fileId ∧ FileLocked platform store fileId

/-- The request is refused, and the files and their entries on the chain stay as they were. -/
def Refused (platform : Platform Id PublicKey) (store : Store Id) (request : Request Id) : Prop :=
  ∀ choices outcome last, serve platform store request choices = some (outcome, last) →
    (∃ failure, outcome = .error failure) ∧ last.database.files = store.database.files ∧
      last.chain.fileStorage.entries = store.chain.fileStorage.entries

/-- A locked user changes an own file that is not locked. -/
def Slips (platform : Platform Id PublicKey) (store : Store Id) (body : Body Id) : Prop :=
  UserLocked store body.userId ∧ ∃ fileId, body.unguarded = some fileId ∧
    FileOwned platform store fileId body.userId ∧ ¬ FileLocked platform store fileId

/-- The program throws and leaves the stores as they are. -/
def Refuses (platform : Platform Id PublicKey) (request : Request Id) (store : Store Id)
    (program : Task Id PublicKey Value) : Prop :=
  Triple (World.perform platform) (solitary fun _ => True) 0 (On request (· = store)) program
    (fun _ _ => False) fun _ => On request (· = store)

section
variable {platform : Platform Id PublicKey} {request : Request Id} {store : Store Id}

theorem unchanged_quiet :
    Quiet platform (solitary fun _ => True) 0 (On request (· = store)) := solitary_quiet

/-- What follows a program that throws is not reached. -/
theorem Refuses.bind {program : Task Id PublicKey Value}
    (refuses : Refuses platform request store program)
    (following : Value → Task Id PublicKey Next) :
    Refuses platform request store (program >>= following) := by
  apply Triple.bind refuses
  intro _ world _ never
  exact never.elim

/-- A transaction refuses where its body does. -/
theorem Refuses.transaction {exec : Task Id PublicKey Value}
    (refuses : Refuses platform request store exec) (attempts : Nat) :
    Refuses platform request store (DbUtil.transaction attempts exec) := by
  have calm {command : Command Id} (spares : (Op.act command).touches = false) :
      Triple (World.perform platform) (solitary fun _ => True) 0 (On request (· = store))
        (tell command : Task Id PublicKey (Result PublicKey command))
        (fun _ => On request (· = store)) fun _ => On request (· = store) := solitary_calm spares
  apply transaction_triple (calm rfl) (calm rfl) refuses _ (calm rfl) _ (calm rfl)
  · intro _ world _ never
    exact never.elim
  · intro _ world _ never
    exact never.elim

/-- A query answers from the unchanged stores. -/
theorem unchanged_ask (query : Query Id) :
    Triple (World.perform platform) (solitary fun _ => True) 0 (On request (· = store))
      (ask query : Task Id PublicKey (Answer query))
      (fun value => On request fun current => answer platform store query = .ok value ∧ current = store)
      fun _ => On request (· = store) := by
  apply solitary_ask
  intro current value same answered
  rw [same] at answered
  exact ⟨answered, same⟩

/-- A lock check refuses when the row is found locked. -/
theorem checkUnlocked_refuses {message : String} {find : Task Id PublicKey (Option Bool)}
    (finds : Triple (World.perform platform) (solitary fun _ => True) 0 (On request (· = store)) find
      (fun found => On request fun current => found = some true ∧ current = store)
      fun _ => On request (· = store)) :
    Refuses platform request store (checkUnlocked message find) := by
  apply guarded_triple
  apply Triple.bind finds
  intro found
  apply solitary_assume
  intro isLocked
  rw [isLocked]
  exact Triple.throw fun _ _ holds => holds

/-- The lock check of a locked user refuses. -/
theorem usersCheckLocked_refuses {userId : String} (locked : UserLocked store userId) :
    Refuses platform request store (UsersModel.checkLocked userId : Task Id PublicKey Unit) := by
  obtain ⟨user, found, isLocked⟩ := locked
  apply checkUnlocked_refuses
  apply Triple.bind (unchanged_ask (.usersFindOne userId))
  intro answered
  apply solitary_assume
  intro same
  have isUser : some user = answered := by
    rw [← found]
    exact Except.ok.inj same
  rw [← isUser]
  apply Triple.pure
  intro world _ holds
  exact holds.mono fun _ kept => ⟨congrArg some isLocked, kept⟩

/-- The lock check of a locked file refuses. -/
theorem filesCheckLocked_refuses {fileId : String} (locked : FileLocked platform store fileId) :
    Refuses platform request store (FilesModel.checkLocked fileId : Task Id PublicKey Unit) := by
  obtain ⟨row, found, isLocked⟩ := locked
  apply checkUnlocked_refuses
  apply Triple.bind (unchanged_ask (.filesFindOne fileId none))
  intro answered
  apply solitary_assume
  intro same
  have isRow : some row = answered := Except.ok.inj (found.symm.trans same)
  rw [← isRow]
  apply Triple.pure
  intro world _ holds
  exact holds.mono fun _ kept => ⟨congrArg some isLocked, kept⟩

/-- The existence check of a file that the user does not own refuses. -/
theorem filesCheckNotFound_refuses {fileId userId : String}
    (missing : ¬ FileOwned platform store fileId userId) :
    Refuses platform request store
      (FilesModel.checkNotFound fileId userId : Task Id PublicKey Unit) := by
  apply guarded_triple
  apply Triple.bind (unchanged_ask (.filesExists fileId userId))
  intro found
  apply solitary_assume
  intro answered
  cases found with
  | true => exact absurd (filesExists_true answered) missing
  | false => exact Triple.throw fun _ _ holds => holds

/-- The two checks of a file refuse a missing and a locked file. -/
theorem fileChecks_refuse {fileId userId : String} {rest : Task Id PublicKey Value}
    (stops : ¬ FileOwned platform store fileId userId ∨ FileLocked platform store fileId) :
    Refuses platform request store (do
      FilesModel.checkNotFound fileId userId
      FilesModel.checkLocked fileId
      rest) := by
  rcases stops with missing | locked
  · exact (filesCheckNotFound_refuses missing).bind _
  · apply Triple.bind (checkFound_keeps unchanged_quiet.ask_any)
    intro _
    exact (filesCheckLocked_refuses locked).bind _

/-- Updating a locked or missing file refuses. -/
theorem putFile_refuses {attempts : Nat} {userId fileId fileName mimeType : String}
    {attachement : Bytes}
    (stops : ¬ FileOwned platform store fileId userId ∨ FileLocked platform store fileId) :
    Refuses platform request store
      (FilesCore.putFile platform attempts userId fileId fileName mimeType attachement) := by
  apply Refuses.transaction
  apply Triple.bind (unchanged_quiet.getTargetUser userId)
  intro user
  apply Triple.assume
  intro named
  rw [named]
  exact fileChecks_refuse stops

/-- Deleting a locked or missing file refuses. -/
theorem deleteFile_refuses {attempts : Nat} {userId fileId : String}
    (stops : ¬ FileOwned platform store fileId userId ∨ FileLocked platform store fileId) :
    Refuses platform request store
      (FilesCore.deleteFile attempts userId fileId : Task Id PublicKey Unit) := by
  apply Refuses.transaction
  apply Triple.bind (unchanged_quiet.getTargetUser userId)
  intro user
  apply Triple.assume
  intro named
  rw [named]
  apply Triple.bind (guarded_triple unchanged_quiet.ask_any)
  intro _
  exact fileChecks_refuse stops

/-- Every barred request on files is refused unless it slips past the lock of its user. -/
theorem program_refuses (isFile : request.body.isFile = true)
    (barred : Barred platform store request.body) (safe : ¬ Slips platform store request.body) :
    Refuses platform request store (request.program platform) := by
  obtain ⟨attempts, body⟩ := request
  -- The checks of a file stop a barred request that does not slip.
  have stops {fileId : String} (isUnguarded : body.unguarded = some fileId) :
      ¬ FileOwned platform store fileId body.userId ∨ FileLocked platform store fileId := by
    by_contra passes
    rw [not_or, not_not] at passes
    rcases barred with locked | ⟨target, isTarget, locked⟩
    · exact safe ⟨locked, fileId, isUnguarded, passes⟩
    · cases body with
      | putFile _ _ _ _ _ | deleteFile _ _ =>
          cases isUnguarded
          cases isTarget
          exact passes.2 locked
      | _ => cases isUnguarded
  cases body with
  | postFile userId publicKeyId fileName mimeType attachement =>
      rcases barred with locked | ⟨_, isTarget, _⟩
      · apply Refuses.bind
        apply Refuses.transaction
        apply Triple.bind (unchanged_quiet.getTargetUser userId)
        intro user
        apply Triple.assume
        intro named
        rw [named]
        exact (usersCheckLocked_refuses locked).bind _
      · cases isTarget
  | getFile userId fileId =>
      apply Refuses.bind
      apply Triple.bind (unchanged_quiet.getTargetUser userId)
      intro user
      apply Triple.assume
      intro named
      rw [named]
      rcases barred with locked | ⟨_, isTarget, locked⟩
      · exact (usersCheckLocked_refuses locked).bind _
      · cases isTarget
        apply Triple.bind (unchanged_quiet.usersCheckLocked userId)
        intro _
        exact fileChecks_refuse (Or.inr locked)
  | putFile userId fileId fileName mimeType attachement =>
      exact (putFile_refuses (stops rfl)).bind _
  | deleteFile userId fileId =>
      exact (deleteFile_refuses (stops rfl)).bind _
  | _ => cases isFile

/-- A request that refuses throws and leaves all stores as they were. -/
theorem Refuses.unchanged (refuses : Refuses platform request store (request.program platform))
    {choices : List (Choice Id PublicKey)} {outcome : Except Failure (Response Id)} {last : Store Id}
    (served : serve platform store request choices = some (outcome, last)) :
    (∃ failure, outcome = .error failure) ∧ last = store := by
  have triple : Triple (World.perform platform) (solitary fun _ => True) 0 (On request (· = store))
      (request.program platform) (fun _ => On request fun _ => False)
      fun _ => On request (· = store) :=
    refuses.conseq (fun _ _ holds => holds) (fun _ _ _ never => never.elim) fun _ _ _ holds => holds
  have ended := served_ends triple (fun _ _ => trivial) rfl served
  cases outcome with
  | ok response => exact ended.elim
  | error failure => exact ⟨⟨failure, rfl⟩, ended⟩

/-- An owned file that is not locked is found without a lock. -/
theorem FileOwned.unlocked {fileId userId : String} (owned : FileOwned platform store fileId userId)
    (unlocked : ¬ FileLocked platform store fileId) :
    ∃ row, store.database.findFile platform fileId none = .ok (some row) ∧ row.isLocked = false := by
  obtain ⟨row, found⟩ := owned
  obtain ⟨cast, member, -⟩ := Database.findFile_some found
  have search : store.database.findFile platform fileId none =
      .ok (store.database.files.find? fun other => other.id = row.id ∧
        ((none : Option String) = none ∨ none = some other.userId)) := by
    simp only [Database.findFile, cast]
  obtain ⟨first, isFirst⟩ := Option.isSome_iff_exists.mp (List.find?_isSome.mpr
    ⟨row, member, by simp⟩ : (store.database.files.find? fun other => other.id = row.id ∧
        ((none : Option String) = none ∨ none = some other.userId)).isSome)
  rw [isFirst] at search
  refine ⟨first, search, ?_⟩
  by_contra locked
  exact unlocked ⟨first, search, Bool.eq_true_of_not_eq_false locked⟩

/-- The existence check of an owned file passes. -/
theorem filesCheckNotFound_yields {fileId userId : String} {session : Option (Session Id)}
    (owned : FileOwned platform store fileId userId) :
    Yields (solo platform) (FilesModel.checkNotFound fileId userId : Task Id PublicKey Unit)
      (store, session) () (store, session) := by
  obtain ⟨row, found⟩ := owned
  have answered : answer platform store (.filesExists fileId userId) = .ok true := by
    show (store.database.findFile platform fileId (some userId)).map Option.isSome = _
    rw [found]
    rfl
  apply yields_guarded.mpr
  apply yields_bind.mpr
  exact ⟨true, _, ask_yields answered, yields_failIf.mpr ⟨rfl, rfl⟩⟩

/-- The lock check of an unlocked file passes. -/
theorem filesCheckLocked_yields {fileId : String} {row : FileRow Id} {session : Option (Session Id)}
    (found : store.database.findFile platform fileId none = .ok (some row))
    (unlocked : row.isLocked = false) :
    Yields (solo platform) (FilesModel.checkLocked fileId : Task Id PublicKey Unit)
      (store, session) () (store, session) := by
  have answered : answer platform store (.filesFindOne fileId none) = .ok (some row) := found
  apply yields_guarded.mpr
  apply yields_bind.mpr
  refine ⟨some row.isLocked, (store, session), ?_, ?_⟩
  · apply yields_bind.mpr
    exact ⟨some row, _, ask_yields answered, yields_pure.mpr ⟨rfl, rfl⟩⟩
  · apply yields_bind.mpr
    exact ⟨row.isLocked, _, yields_present.mpr ⟨rfl, rfl⟩, yields_failIf.mpr ⟨unlocked, rfl⟩⟩

/-- The deletion of an own file that is not locked succeeds for every user. -/
theorem deleteFile_yields {userId fileId : String} {user : User} (attempts : Nat)
    (found : store.database.findUser userId = some user)
    (owned : FileOwned platform store fileId userId) (unlocked : ¬ FileLocked platform store fileId) :
    ∃ last, Yields (solo platform)
      (FilesCore.deleteFile attempts userId fileId : Task Id PublicKey Unit) (store, none) ()
      (last, none) := by
  obtain ⟨row, isRow, isUnlocked⟩ := owned.unlocked unlocked
  obtain ⟨own, isOwn⟩ := id owned
  have named : user.userId = userId := (Database.findUser_some found).2
  have deletes : Yields (solo platform)
      (FilesModel.deleteOne fileId userId : Task Id PublicKey Bool) (store, some Session.empty) true
      (store.commit [.deleteFile own.id], some Session.empty) := by
    apply tell_yields .proceed
    show some (deletingFile store (some Session.empty)
      (store.database.findFile platform fileId (some userId))) = _
    rw [isOwn]
    rfl
  have answered : answer platform store (.filesFindOne fileId none) = .ok (some row) := isRow
  refine ⟨(store.commit [.deleteFile own.id]).commit Session.empty.writes, ?_⟩
  apply transaction_yields _ rfl attempts
  apply yields_bind.mpr
  refine ⟨user, _, getTargetUser_yields found, ?_⟩
  apply yields_bind.mpr
  refine ⟨some row, _, yields_guarded.mpr (ask_yields answered), ?_⟩
  rw [named]
  apply yields_bind.mpr
  refine ⟨(), _, filesCheckNotFound_yields owned, ?_⟩
  apply yields_bind.mpr
  refine ⟨(), _, filesCheckLocked_yields isRow isUnlocked, ?_⟩
  apply yields_bind.mpr
  exact ⟨true, _, deletes, yields_failIf.mpr ⟨rfl, rfl⟩⟩

/-- The chain accepts the file entries of the backend. -/
def Connected (platform : Platform Id PublicKey) (chain : File.System) : Prop :=
  chain.service.Admits platform.manageAddress ∧ chain.fileStorage.guard.Admits chain.address

/-- An exported key encrypts alone. -/
theorem encrypt_yields {session : Option (Session Id)} (key : PublicKey) (buffer : Bytes) :
    Yields (solo platform) (CryptoUtil.encrypt platform (platform.exportDer key) buffer)
      (store, session) (platform.encrypt key buffer) (store, session) := by
  simp only [CryptoUtil.encrypt, platform.importDer_exportDer]
  exact yields_pure.mpr ⟨rfl, rfl⟩

/-- The first write of a transaction has no conflict. -/
theorem filesUpdateOne_yields {fileId userId : String} (fileName mimeType : String)
    (owned : FileOwned platform store fileId userId) :
    ∃ pending, pending.conflicts store.log = false ∧
      Yields (solo platform)
        (FilesModel.updateOne fileId userId fileName mimeType : Task Id PublicKey Bool)
        (store, some Session.empty) true (store, some pending) := by
  obtain ⟨row, found⟩ := owned
  refine ⟨Session.empty.stage store fun database =>
    (((database.findFile platform fileId (some userId)).toOption.join).map fun row =>
      Write.updateFile row.id fileName mimeType), ?_, ?_⟩
  · simp [Session.stage, Session.conflicts, Session.empty]
  · apply yields_guarded.mpr
    apply tell_yields .proceed
    show some (stagedFound store (some Session.empty)
      (fun database => database.findFile platform fileId (some userId))
      fun row => .updateFile row.id fileName mimeType) = _
    simp only [stagedFound, found, staged]
    rfl

/-- On a connected chain an entry can be written. -/
theorem setFile_yields (session : Option (Session Id)) (connected : Connected platform store.chain)
    (fileId hash : String) :
    ∃ next : Store Id, next.log = store.log ∧
      Yields (solo platform) (HolonusFileService.setFile fileId hash : Task Id PublicKey Unit)
        (store, session) () (next, session) := by
  obtain ⟨chain, sent⟩ : ∃ chain, File.execute store.chain
      ⟨platform.manageAddress, .setFile fileId hash⟩ = .ok chain :=
    (File.exists_ok_iff _ _).mpr connected
  refine ⟨{ store with chain := chain }, rfl, ?_⟩
  apply yields_guarded.mpr
  apply tell_yields .proceed
  show some (sentToChain store session ⟨platform.manageAddress, .setFile fileId hash⟩) = _
  simp only [sentToChain, sent]
  rfl

/-- The update of an own file that is not locked succeeds for every user. -/
theorem putFile_yields [Inhabited PublicKey] {userId fileId : String} {user : User} (attempts : Nat)
    (fileName mimeType : String) (attachement : Bytes)
    (found : store.database.findUser userId = some user)
    (owned : FileOwned platform store fileId userId) (unlocked : ¬ FileLocked platform store fileId)
    (connected : Connected platform store.chain) :
    ∃ last, Yields (solo platform)
      (FilesCore.putFile platform attempts userId fileId fileName mimeType attachement) (store, none)
      () (last, none) := by
  obtain ⟨row, isRow, isUnlocked⟩ := owned.unlocked unlocked
  have named : user.userId = userId := (Database.findUser_some found).2
  -- The encrypted bytes are added before the row and the entry change.
  generalize isData : platform.encrypt (default : PublicKey) attachement = data
  obtain ⟨added, isAdded⟩ : ∃ added : Store Id, { store with ipfs := store.ipfs ++ [data] } = added :=
    ⟨_, rfl⟩
  have stillOwned : FileOwned platform added fileId userId := by
    rw [← isAdded]
    exact owned
  have stillConnected : Connected platform added.chain := by
    rw [← isAdded]
    exact connected
  obtain ⟨pending, free, updates⟩ := filesUpdateOne_yields fileName mimeType stillOwned
  obtain ⟨next, sameLog, sets⟩ := setFile_yields (some pending) stillConnected fileId
    (platform.address data)
  rw [← sameLog] at free
  refine ⟨next.commit pending.writes, transaction_yields ?_ free attempts⟩
  apply yields_bind.mpr
  refine ⟨user, _, getTargetUser_yields found, ?_⟩
  rw [named]
  apply yields_bind.mpr
  refine ⟨(), _, filesCheckNotFound_yields owned, ?_⟩
  apply yields_bind.mpr
  refine ⟨(), _, filesCheckLocked_yields isRow isUnlocked, ?_⟩
  apply yields_bind.mpr
  refine ⟨platform.exportDer default, (store, some Session.empty), ?_, ?_⟩
  · apply yields_bind.mpr
    exact ⟨default, _, tell_yields (.generate default) rfl, yields_pure.mpr ⟨rfl, rfl⟩⟩
  apply yields_bind.mpr
  refine ⟨data, _, isData ▸ encrypt_yields default attachement, ?_⟩
  apply yields_bind.mpr
  refine ⟨platform.address data, (added, some Session.empty), ?_, ?_⟩
  · rw [← isAdded]
    exact (yields_handle fun _ => ⟨_, rfl⟩).mpr (tell_yields .proceed rfl)
  apply yields_bind.mpr
  refine ⟨true, _, updates, ?_⟩
  apply yields_bind.mpr
  refine ⟨(), _, yields_failIf.mpr ⟨rfl, rfl⟩, ?_⟩
  apply yields_bind.mpr
  exact ⟨(), _, sets, tell_yields .proceed rfl⟩

/-- A request that slips past the lock of its user can succeed. -/
theorem Slips.served [Inhabited PublicKey] (slips : Slips platform store request.body)
    (connected : Connected platform store.chain) :
    ∃ choices last, serve platform store request choices = some (.ok .nothing, last) := by
  obtain ⟨attempts, body⟩ := request
  obtain ⟨⟨user, found, -⟩, fileId, isUnguarded, owned, unlocked⟩ := slips
  cases body with
  | putFile userId _ fileName mimeType attachement =>
      cases isUnguarded
      obtain ⟨last, yields⟩ := putFile_yields attempts fileName mimeType attachement found owned
        unlocked connected
      obtain ⟨choices, served⟩ := served_of_yields ⟨attempts, .putFile userId fileId
        fileName mimeType attachement⟩ (yields_bind.mpr ⟨(), _, yields, yields_pure.mpr ⟨rfl, rfl⟩⟩)
      exact ⟨choices, last, served⟩
  | deleteFile userId _ =>
      cases isUnguarded
      obtain ⟨last, yields⟩ := deleteFile_yields attempts found owned unlocked
      obtain ⟨choices, served⟩ := served_of_yields ⟨attempts, .deleteFile userId fileId⟩
        (yields_bind.mpr ⟨(), _, yields, yields_pure.mpr ⟨rfl, rfl⟩⟩)
      exact ⟨choices, last, served⟩
  | _ => cases isUnguarded

/-- No request changes who may write to the chain. -/
theorem connected_change {next : Store Id} {session after : Option (Session Id)} {op : Op Id}
    (change : Change platform store session op next after) (connected : Connected platform store.chain) :
    Connected platform next.chain := by
  cases change with
  | sentFile fileId hash chain sent =>
      obtain ⟨-, applied⟩ := (File.execute_eq_ok _ _ _).mp sent
      rw [← applied]
      exact connected
  | sentKey publicKeyId publicKey chain sent =>
      obtain ⟨-, applied⟩ := (File.execute_eq_ok _ _ _).mp sent
      rw [← applied]
      exact connected
  | _ => exact connected

end

/-- After every sequence of requests the locks refuse a barred request on files exactly if it is no
change of an own unlocked file by a locked user. -/
theorem locks_respected_iff [Inhabited PublicKey] (platform : Platform Id PublicKey)
    (store last : Store Id) (connected : Connected platform store.chain)
    (requests : List (Request Id))
    (served : ServedAll platform (fun _ _ _ => True) store requests last)
    (request : Request Id) (isFile : request.body.isFile = true) :
    (Barred platform last request.body → Refused platform last request) ↔
      ¬ Slips platform last request.body := by
  have stillConnected : Connected platform last.chain := by
    apply served.keeps _ connected
    intro _ _ _ _ _ _ ended held
    exact serve_keeps (fun _ _ _ _ _ change holds => connected_change change holds) ended held
  constructor
  · intro refuses slips
    obtain ⟨choices, after, succeeds⟩ := slips.served stillConnected
    obtain ⟨⟨failure, failed⟩, -⟩ := refuses (Or.inl slips.1) _ _ _ succeeds
    cases failed
  · intro safe barred choices outcome after ended
    obtain ⟨failed, same⟩ := (program_refuses isFile barred safe).unchanged ended
    rw [same]
    exact ⟨failed, rfl, rfl⟩

end

/-- The user and the file have these locks. -/
def lockedStore (userLocked fileLocked : Bool) : Store PlainId :=
  { plainStore with
    database := ⟨[⟨"u", userLocked, none⟩], [⟨plainFile, "u", "name", "mime", "h", fileLocked⟩], []⟩
    drawn := [(plainFile, "u")] }

/-- After a refused read of a locked file its update is refused as well. -/
theorem lockedFile_refused :
    ∃ last, ServedAll plain (fun _ _ _ => True) (lockedStore false true) [⟨0, .getFile "u" "f"⟩] last ∧
      Barred plain last (.putFile "u" "f" "other" "mime" [7]) ∧
      Refused plain last ⟨0, .putFile "u" "f" "other" "mime" [7]⟩ := by
  have served : ServedAll plain (fun _ _ _ => True) (lockedStore false true) [⟨0, .getFile "u" "f"⟩]
      (lockedStore false true) :=
    .cons (List.replicate 5 .proceed) (.error (.badRequest "file is locked")) trivial rfl (.nil _)
  have barred : Barred plain (lockedStore false true) (.putFile "u" "f" "other" "mime" [7]) :=
    Or.inr ⟨"f", rfl, _, rfl, rfl⟩
  refine ⟨_, served, barred, (locks_respected_iff plain _ _ ⟨⟨rfl, rfl⟩, rfl, rfl⟩ _ served _
    rfl).mpr ?_ barred⟩
  rintro ⟨⟨user, found, locked⟩, -⟩
  cases found
  cases locked

/-- A locked user updates an own file and deletes it. -/
theorem lockedUser_changes_files :
    ∃ store, (∀ body, body.userId = "u" → Barred plain store body) ∧
      (∃ choices last, serve plain store ⟨0, .putFile "u" "f" "other" "mime" [7]⟩ choices =
          some (.ok .nothing, last) ∧ last.database.files ≠ store.database.files ∧
        last.chain.fileStorage.entries "f" ≠ store.chain.fileStorage.entries "f") ∧
      ∃ choices last, serve plain store ⟨0, .deleteFile "u" "f"⟩ choices =
          some (.ok .nothing, last) ∧ last.database.files ≠ store.database.files := by
  refine ⟨lockedStore true false, ?_, ?_, ?_⟩
  · intro body isUser
    refine Or.inl ?_
    rw [isUser]
    exact ⟨_, rfl, rfl⟩
  · refine ⟨List.replicate 6 .proceed ++ [.generate 3] ++ List.replicate 6 .proceed, _, rfl, ?_, ?_⟩
    · decide
    · decide
  · refine ⟨List.replicate 10 .proceed, _, rfl, ?_⟩
    decide

end Holonus.Backend
