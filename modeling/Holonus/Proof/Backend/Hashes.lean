/-
This file proves when the hash of a row and the hash on the chain agree.
-/

import Holonus.Proof.Backend.Encryption
import Holonus.Proof.Backend.Locks

namespace Holonus.Backend

open Holonus.Machine Holonus.File Holonus.Abstract

section
variable {Id PublicKey : Type} [DecidableEq Id]

/-- The identifiers of the files with their hashes. -/
def Database.hashes (database : Database Id) : List (Id × String) :=
  database.files.map fun row => (row.id, row.hash)

def Write.insertedHash : Write Id → Option (Id × String)
  | .insertFile row => some (row.id, row.hash)
  | _ => none

/-- The writes add a hash only for an inserted file. -/
theorem hashes_applyAll {writes : List (Write Id)} {database : Database Id} {entry : Id × String}
    (member : entry ∈ (database.applyAll writes).hashes) :
    entry ∈ database.hashes ∨ ∃ write ∈ writes, write.insertedHash = some entry := by
  refine Database.mem_applyAll Database.hashes
    (fun write new => write.insertedHash = some new) ?_ member
  intro current write added present
  rcases Database.files_apply (fun _ _ _ => rfl) present with old | new
  · exact .inl old
  · obtain ⟨row, inserts, same⟩ := new
    rw [inserts, ← same]
    exact .inr rfl

variable (platform : Platform Id PublicKey)

/-- The identifier was drawn and the chain has its hash. -/
def Matched (store : Store Id) (entry : Id × String) : Prop :=
  store.isFresh entry.1 = false ∧
    (store.chain.fileStorage.entries (platform.idText entry.1)).value = entry.2

/-- Every row has the hash of its entry on the chain. -/
def Agrees (store : Store Id) : Prop := ∀ entry ∈ store.database.hashes, Matched platform store entry

/-- Every hash that the session inserts is allowed. -/
def Inserts (Allowed : Id × String → Prop) (session : Option (Session Id)) : Prop :=
  ∀ pending, session = some pending → ∀ write ∈ pending.writes, ∀ entry,
    write.insertedHash = some entry → Allowed entry

/-- The stores agree and keep agreeing after a commit. -/
structure Prepared (session : Option (Session Id)) (store : Store Id) : Prop where
  agrees : Agrees platform store
  inserts : Inserts (Matched platform store) session

/-- The entry of the new identifier is still missing on the chain. -/
structure Pledged (id : Id) (hash : String) (session : Option (Session Id)) (store : Store Id) :
    Prop where
  agrees : Agrees platform store
  drawn : store.isFresh id = false
  absent : ∀ entry ∈ store.database.hashes, entry.1 ≠ id
  inserts : Inserts (fun entry => entry = (id, hash) ∨ entry.1 ≠ id ∧ Matched platform store entry)
    session

variable {platform}

/-- These operations neither create a row nor commit one nor write a file entry. -/
def Op.isMild : Op Id → Bool
  | .act .commitTransaction | .act (.filesCreate _ _ _ _) | .act (.keysCreate _)
  | .act (.chainSetFile _ _) => false
  | _ => true

omit [DecidableEq Id] in
/-- A write that inserts no row inserts no hash. -/
theorem insertedHash_of_inserts {write : Write Id} (modifies : write.inserts = none) :
    write.insertedHash = none := by
  cases write with
  | insertFile row => cases modifies
  | _ => rfl

/-- A staged write keeps the hashes allowed when its own is. -/
theorem Inserts.stage {Allowed : Id × String → Prop} {pending : Session Id} {store : Store Id}
    {plan : Database Id → Option (Write Id)} (held : Inserts Allowed (some pending))
    (planned : ∀ database write entry, plan database = some write →
      write.insertedHash = some entry → Allowed entry) :
    Inserts Allowed (some (pending.stage store plan)) := by
  intro staged same write member entry inserted
  cases same
  rcases List.mem_append.mp member with old | new
  · exact held pending rfl write old entry inserted
  · exact planned _ write entry (Option.mem_toList.mp new) inserted

/-- A mild operation keeps the session prepared. -/
theorem Prepared.change {store next : Store Id} {session after : Option (Session Id)} {op : Op Id}
    (change : Change platform store session op next after) (mild : op.isMild = true)
    (prepared : Prepared platform session store) : Prepared platform after next := by
  obtain ⟨agrees, inserts⟩ := prepared
  cases change with
  | kept => exact ⟨agrees, inserts⟩
  | closed => exact ⟨agrees, fun _ same => nomatch same⟩
  | began =>
      refine ⟨agrees, ?_⟩
      intro pending same write member
      cases same
      cases member
  | staged _ pending plan isOpen modifies =>
      subst isOpen
      refine ⟨agrees, inserts.stage ?_⟩
      intro database write entry planned inserted
      rw [insertedHash_of_inserts (modifies database write planned)] at inserted
      cases inserted
  | drew _ pending shelf id userId write creates =>
      cases op with
      | ask query => cases creates
      | act command =>
          cases command with
          | filesCreate _ _ _ _ | keysCreate _ => cases mild
          | _ => cases creates
  | committed | sentFile => cases mild
  | deleted fileId userId row found =>
      refine ⟨?_, inserts⟩
      intro entry member
      rcases hashes_applyAll member with old | new
      · exact agrees entry old
      · obtain ⟨write, present, inserted⟩ := new
        rw [List.mem_singleton.mp present] at inserted
        cases inserted
  | sentKey publicKeyId publicKey chain sent =>
      obtain ⟨-, applied⟩ := (execute_eq_ok _ _ _).mp sent
      subst applied
      exact ⟨agrees, inserts⟩
  | added data => exact ⟨agrees, inserts⟩

/-- A commit of matched hashes keeps the agreement. -/
theorem Prepared.commit {pending : Session Id} {store : Store Id}
    (prepared : Prepared platform (some pending) store) :
    Agrees platform (store.commit pending.writes) := by
  intro entry member
  rcases hashes_applyAll member with old | new
  · exact prepared.agrees entry old
  · obtain ⟨write, present, inserted⟩ := new
    exact prepared.inserts pending rfl write present entry inserted

/-- A fresh identifier has no hash yet, and drawing it keeps every match. -/
theorem Matched.draw {store : Store Id} {entry : Id × String} {id : Id}
    (matched : Matched platform store entry) (fresh : store.isFresh id = true) (userId : String) :
    entry.1 ≠ id ∧ Matched platform { store with drawn := (id, userId) :: store.drawn } entry := by
  refine ⟨?_, ?_, matched.2⟩
  · intro same
    rw [← same, matched.1] at fresh
    cases fresh
  · exact isFresh_drawn id userId matched.1

/-- A new row pledges its entry. -/
theorem Prepared.create {pending : Session Id} {store : Store Id} {id : Id} {userId hash : String}
    (prepared : Prepared platform (some pending) store) (fresh : store.isFresh id = true)
    (fileName mimeType : String) (isLocked : Bool) :
    Pledged platform id hash (some (pending.stage store fun _ =>
        some (.insertFile ⟨id, userId, fileName, mimeType, hash, isLocked⟩)))
      { store with drawn := (id, userId) :: store.drawn } := by
  refine ⟨?_, ?_, ?_, ?_⟩
  · intro entry member
    exact ((prepared.agrees entry member).draw fresh userId).2
  · exact isFresh_self id userId
  · intro entry member
    exact ((prepared.agrees entry member).draw fresh userId).1
  · apply Inserts.stage
    · intro held same write present entry inserted
      exact Or.inr ((prepared.inserts held same write present entry inserted).draw fresh userId)
    · intro database write entry planned inserted
      cases planned
      cases inserted
      exact Or.inl rfl

/-- Writing under a text of no identifier keeps every match. -/
theorem Matched.put {store : Store Id} {entry : Id × String} {fileId : String} (hash : String)
    (matched : Matched platform store entry) (different : platform.idText entry.1 ≠ fileId) :
    Matched platform { store with chain := { store.chain with
      fileStorage := store.chain.fileStorage.put fileId hash } } entry := by
  refine ⟨matched.1, ?_⟩
  show (Function.update store.chain.fileStorage.entries fileId _ (platform.idText entry.1)).value = _
  rw [Function.update_of_ne different]
  exact matched.2

/-- The entry of the pledged identifier completes the preparation. -/
theorem Pledged.put {id : Id} {hash : String} {session : Option (Session Id)} {store : Store Id}
    (pledged : Pledged platform id hash session store) :
    Prepared platform session { store with chain := { store.chain with
      fileStorage := store.chain.fileStorage.put (platform.idText id) hash } } := by
  have others {entry : Id × String} (different : entry.1 ≠ id)
      (matched : Matched platform store entry) := matched.put hash
    ((idText_injective platform).ne different)
  refine ⟨?_, ?_⟩
  · intro entry member
    exact others (pledged.absent entry member) (pledged.agrees entry member)
  · intro pending same write present entry inserted
    rcases pledged.inserts pending same write present entry inserted with isNew | isOld
    · rw [isNew]
      refine ⟨pledged.drawn, ?_⟩
      show (Function.update store.chain.fileStorage.entries (platform.idText id) _
        (platform.idText id)).value = _
      rw [Function.update_self]
    · exact others isOld.1 isOld.2

section
variable {Value : Type} {request : Request Id}

/-- The request is running with such a session and such stores. -/
def Within (request : Request Id) (Holds : Option (Session Id) → Store Id → Prop) :
    World Id PublicKey → Prop :=
  At 0 request fun task => Holds task.session

abbrev Agreeing (platform : Platform Id PublicKey) (request : Request Id) :
    World Id PublicKey → Prop :=
  Within request fun _ => Agrees platform

abbrev Preparing (platform : Platform Id PublicKey) (request : Request Id) :
    World Id PublicKey → Prop :=
  Within request (Prepared platform)

theorem Preparing.agreeing {world : World Id PublicKey}
    (preparing : Preparing platform request world) : Agreeing platform request world := by
  obtain ⟨task, found, asked, prepared⟩ := preparing
  exact ⟨task, found, asked, prepared.agrees⟩

/-- A prepared request is kept so by queries. -/
theorem preparing_quiet :
    Quiet platform (solitary fun _ => True) 0 (Preparing platform request) where
  stable := solitary_stable
  demands _ _ _ _ := trivial
  kept := by
    intro query choice world reply next _ preparing performed
    obtain ⟨task, found, asked, prepared⟩ := preparing
    obtain ⟨current, session, same, responded, locals⟩ := perform_inv performed
    rw [found, Option.some.injEq] at same
    subst same
    refine ⟨_, by rw [locals, Function.update_self], ?_, ?_⟩
    · rw [Local.request_after, asked]
    · show Prepared platform (task.after session _ _ reply).session next.store
      rw [Local.session_after]
      exact prepared.change (respond_change responded) rfl

/-- A failed part of a request leaves the agreement. -/
theorem preparing_fall {program : Task Id PublicKey Value}
    {After : Value → World Id PublicKey → Prop}
    (triple : Triple (World.perform platform) (solitary fun _ => True) 0
      (Preparing platform request) program After fun _ => Preparing platform request) :
    Triple (World.perform platform) (solitary fun _ => True) 0 (Preparing platform request) program
      After fun _ => Agreeing platform request :=
  triple.conseq (fun _ _ holds => holds) (fun _ _ _ holds => holds)
    fun _ _ _ holds => Preparing.agreeing holds

/-- A command is followed in the session and in the stores, and its failure changes nothing. -/
theorem tell_follows {command : Command Id} {Before : Option (Session Id) → Store Id → Prop}
    {After : Result PublicKey command → Option (Session Id) → Store Id → Prop}
    (agrees : ∀ session store, Before session store → Agrees platform store)
    (replies : ∀ store session choice value next after, Before session store →
      respond platform store session (.act command) choice = some (.ok value, next, after) →
        After value after next) :
    Triple (World.perform platform) (solitary fun _ => True) 0
      (Within request Before)
      (tell command : Task Id PublicKey (Result PublicKey command))
      (fun value => Within request (After value))
      fun _ => Agreeing platform request := by
  apply At.call solitary_stable (fun _ _ _ _ _ _ => trivial)
  intro world task choice reply store session _ _ _ before _ responded
  cases reply with
  | ok value => exact replies _ _ _ _ _ _ before responded
  | error failure =>
      rw [store_of_error responded]
      exact agrees _ _ before

/-- A mild command keeps the request prepared. -/
theorem tell_mild {command : Command Id} (mild : (Op.act command).isMild = true) :
    Triple (World.perform platform) (solitary fun _ => True) 0 (Preparing platform request)
      (tell command : Task Id PublicKey (Result PublicKey command))
      (fun _ => Preparing platform request) fun _ => Agreeing platform request := by
  apply tell_follows (fun _ _ prepared => prepared.agrees)
  intro store session choice value next after prepared responded
  exact prepared.change (respond_change responded) mild

/-- The new row is pledged to have its entry. -/
theorem filesCreate_pledges (userId fileName mimeType hash : String) :
    Triple (World.perform platform) (solitary fun _ => True) 0 (Preparing platform request)
      (FilesModel.create userId fileName mimeType hash : Task Id PublicKey Id)
      (fun id => Within request (Pledged platform id hash))
      fun _ => Agreeing platform request := by
  apply guarded_triple
  apply tell_follows (fun _ _ prepared => prepared.agrees)
  intro store session choice id next after prepared responded
  obtain ⟨fresh, changed, pending, isOpen, isStaged⟩ := filesCreate_ok responded
  rw [isOpen] at prepared
  rw [changed, isStaged]
  exact prepared.create fresh _ _ _

/-- The entry of the new row fulfils the pledge. -/
theorem setFile_completes (id : Id) (hash : String) :
    Triple (World.perform platform) (solitary fun _ => True) 0
      (Within request (Pledged platform id hash))
      (HolonusFileService.setFile (platform.idText id) hash : Task Id PublicKey Unit)
      (fun _ => Preparing platform request) fun _ => Agreeing platform request := by
  apply guarded_triple
  apply tell_follows (fun _ _ pledged => pledged.agrees)
  intro store session choice _ next after pledged responded
  have kept : after = session := session_of_quiet rfl responded
  rw [chainSetFile_ok responded, kept]
  exact pledged.put

/-- An entry under a text of no identifier concerns no row. -/
theorem setFile_spares {fileId : String} (foreign : ∀ id, platform.idText id ≠ fileId)
    (hash : String) :
    Triple (World.perform platform) (solitary fun _ => True) 0 (Preparing platform request)
      (HolonusFileService.setFile fileId hash : Task Id PublicKey Unit)
      (fun _ => Preparing platform request) fun _ => Agreeing platform request := by
  apply guarded_triple
  apply tell_follows (fun _ _ prepared => prepared.agrees)
  intro store session choice _ next after prepared responded
  have kept : after = session := session_of_quiet rfl responded
  rw [chainSetFile_ok responded, kept]
  refine ⟨?_, ?_⟩
  · intro entry member
    exact (prepared.agrees entry member).put hash (foreign _)
  · intro pending same write present entry inserted
    exact (prepared.inserts pending same write present entry inserted).put hash (foreign _)

/-- A transaction whose body prepares its session keeps the agreement. -/
theorem agreeing_transaction {exec : Task Id PublicKey Value} (attempts : Nat)
    (body : Triple (World.perform platform) (solitary fun _ => True) 0 (Preparing platform request)
      exec (fun _ => Preparing platform request) fun _ => Agreeing platform request) :
    Triple (World.perform platform) (solitary fun _ => True) 0 (Agreeing platform request)
      (DbUtil.transaction attempts exec) (fun _ => Agreeing platform request)
      fun _ => Agreeing platform request := by
  have calm {command : Command Id} (spares : (Op.act command).touches = false) :
      Triple (World.perform platform) (solitary fun _ => True) 0 (Agreeing platform request)
        (tell command : Task Id PublicKey (Result PublicKey command))
        (fun _ => Agreeing platform request) fun _ => Agreeing platform request :=
    solitary_calm spares
  have begins : Triple (World.perform platform) (solitary fun _ => True) 0
      (Agreeing platform request) (tell .startTransaction : Task Id PublicKey Unit)
      (fun _ => Preparing platform request) fun _ => Agreeing platform request := by
    apply tell_follows (fun _ _ agrees => agrees)
    intro store session choice value next after agrees responded
    obtain ⟨started, -⟩ := session_of_startTransaction responded
    have same : next = store := (respond_change responded).untouched rfl
    rw [started, same]
    refine ⟨agrees, ?_⟩
    intro pending isEmpty write member
    cases isEmpty
    cases member
  have commits : Triple (World.perform platform) (solitary fun _ => True) 0
      (Preparing platform request) (tell .commitTransaction : Task Id PublicKey Unit)
      (fun _ => Agreeing platform request) fun _ => Agreeing platform request := by
    apply tell_follows (fun _ _ prepared => prepared.agrees)
    intro store session choice value next after prepared responded
    obtain ⟨pending, isOpen, -, changed⟩ := commit_ok responded
    rw [changed]
    rw [isOpen] at prepared
    exact prepared.commit
  exact transaction_triple (calm rfl) begins body (fun _ => commits) (calm rfl) (fun _ => calm rfl)
    (calm rfl)

/-- Posting a file keeps the hashes in agreement. -/
theorem postFile_agrees (attempts : Nat) (userId : String) (publicKeyId : Ref Id)
    (fileName mimeType : String) (attachement : Bytes) :
    Triple (World.perform platform) (solitary fun _ => True) 0 (Agreeing platform request)
      (FilesCore.postFile platform attempts userId publicKeyId fileName mimeType attachement)
      (fun _ => Agreeing platform request) fun _ => Agreeing platform request := by
  apply agreeing_transaction
  apply Triple.bind (preparing_fall (preparing_quiet.getTargetUser userId))
  intro user
  apply Triple.assume
  intro _
  apply Triple.bind (preparing_fall (preparing_quiet.usersCheckLocked user.userId))
  intro _
  apply Triple.bind (preparing_fall (preparing_quiet.getKey userId publicKeyId))
  intro found
  apply Triple.bind (preparing_fall present_keeps)
  intro key
  apply Triple.bind (preparing_fall (pem2der_keeps key.2))
  intro derPublicKey
  apply Triple.bind (preparing_fall (encrypt_keeps derPublicKey attachement))
  intro ipfsData
  apply Triple.bind (ipfsAdd_triple (tell_mild rfl))
  intro ipfsPath
  apply Triple.bind (filesCreate_pledges user.userId fileName mimeType ipfsPath)
  intro fileId
  apply Triple.bind (setFile_completes fileId ipfsPath)
  intro _
  apply Triple.bind (tell_mild rfl)
  intro _
  exact Triple.pure fun _ _ holds => holds

/-- Deleting a file keeps the hashes in agreement. -/
theorem deleteFile_agrees (attempts : Nat) (userId fileId : String) :
    Triple (World.perform platform) (solitary fun _ => True) 0 (Agreeing platform request)
      (FilesCore.deleteFile attempts userId fileId : Task Id PublicKey Unit)
      (fun _ => Agreeing platform request) fun _ => Agreeing platform request := by
  apply agreeing_transaction
  apply Triple.bind (preparing_fall (preparing_quiet.getTargetUser userId))
  intro user
  apply Triple.assume
  intro _
  apply Triple.bind (preparing_fall (guarded_triple preparing_quiet.ask_any))
  intro _
  apply Triple.bind (preparing_fall (checkFound_keeps preparing_quiet.ask_any))
  intro _
  apply Triple.bind (preparing_fall (preparing_quiet.filesCheckLocked fileId))
  intro _
  apply Triple.bind (tell_mild rfl)
  intro ok
  exact preparing_fall failIf_keeps

/-- An update under a text of no identifier leaves every entry of a row. -/
theorem putFile_agrees {fileId : String} (foreign : ∀ id, platform.idText id ≠ fileId)
    (attempts : Nat) (userId fileName mimeType : String) (attachement : Bytes) :
    Triple (World.perform platform) (solitary fun _ => True) 0 (Agreeing platform request)
      (FilesCore.putFile platform attempts userId fileId fileName mimeType attachement)
      (fun _ => Agreeing platform request) fun _ => Agreeing platform request := by
  apply agreeing_transaction
  apply Triple.bind (preparing_fall (preparing_quiet.getTargetUser userId))
  intro user
  apply Triple.assume
  intro _
  apply Triple.bind (preparing_fall (checkFound_keeps preparing_quiet.ask_any))
  intro _
  apply Triple.bind (preparing_fall (preparing_quiet.filesCheckLocked fileId))
  intro _
  apply Triple.bind (pem2derObject_triple (tell_mild rfl))
  intro derPublicKey
  apply Triple.bind (preparing_fall (encrypt_keeps derPublicKey attachement))
  intro ipfsData
  apply Triple.bind (ipfsAdd_triple (tell_mild rfl))
  intro ipfsPath
  apply Triple.bind (guarded_triple (tell_mild rfl))
  intro ok
  apply Triple.bind (preparing_fall failIf_keeps)
  intro _
  apply Triple.bind (setFile_spares foreign ipfsPath)
  intro _
  exact tell_mild rfl

end

/-- The request changes files. -/
def Body.writesFiles : Body Id → Bool
  | .postFile _ _ _ _ _ | .putFile _ _ _ _ _ | .deleteFile _ _ => true
  | _ => false

/-- An update finds an own unlocked file under the text of an identifier. -/
def Rewrites (platform : Platform Id PublicKey) (store : Store Id) : Body Id → Prop
  | .putFile userId fileId _ _ _ => FileOwned platform store fileId userId ∧
      ¬ FileLocked platform store fileId ∧ ∃ id, platform.idText id = fileId
  | _ => False

/-- A request that rewrites no file keeps the agreement. -/
theorem served_agrees {request : Request Id} {store last : Store Id}
    {choices : List (Choice Id PublicKey)} {outcome : Except Failure (Response Id)}
    (writes : request.body.writesFiles = true) (safe : ¬ Rewrites platform store request.body)
    (served : serve platform store request choices = some (outcome, last))
    (agrees : Agrees platform store) : Agrees platform last := by
  have ends {Value : Type} {program : Task Id PublicKey Value} {respond : Value → Response Id}
      (isProgram : request.program platform = do return respond (← program))
      (triple : Triple (World.perform platform) (solitary fun _ => True) 0
        (Agreeing platform request) program (fun _ => Agreeing platform request)
        fun _ => Agreeing platform request) : Agrees platform last := by
    have whole : Triple (World.perform platform) (solitary fun _ => True) 0
        (On request (Agrees platform)) (request.program platform)
        (fun _ => On request (Agrees platform)) fun _ => On request (Agrees platform) := by
      rw [isProgram]
      apply Triple.bind triple
      intro value
      exact Triple.pure fun _ _ holds => holds
    have ended := served_ends whole (fun _ _ => trivial) agrees served
    cases outcome with
    | ok response => exact ended
    | error failure => exact ended
  obtain ⟨attempts, body⟩ := request
  cases body with
  | postFile userId publicKeyId fileName mimeType attachement =>
      exact ends rfl (postFile_agrees attempts userId publicKeyId fileName mimeType attachement)
  | deleteFile userId fileId => exact ends rfl (deleteFile_agrees attempts userId fileId)
  | putFile userId fileId fileName mimeType attachement =>
      by_cases foreign : ∀ id, platform.idText id ≠ fileId
      · exact ends rfl (putFile_agrees foreign attempts userId fileName mimeType attachement)
      · have stops : ¬ FileOwned platform store fileId userId ∨ FileLocked platform store fileId := by
          by_contra passes
          rw [not_or, not_not] at passes
          rw [not_forall_not] at foreign
          exact safe ⟨passes.1, passes.2, foreign⟩
        have refuses : Refuses platform ⟨attempts, .putFile userId fileId fileName mimeType attachement⟩
            store (Request.program platform
              ⟨attempts, .putFile userId fileId fileName mimeType attachement⟩) :=
          (putFile_refuses stops).bind _
        rw [(refuses.unchanged served).2]
        exact agrees
  | _ => cases writes

/-- Over every run of file requests without a rewritten file, both copies of each hash agree. -/
theorem hashes_agree (platform : Platform Id PublicKey) (store last : Store Id)
    (agrees : Agrees platform store) (requests : List (Request Id))
    (served : ServedAll platform (fun current request _ => request.body.writesFiles = true ∧
      ¬ Rewrites platform current request.body) store requests last) :
    ∀ row ∈ last.database.files,
      row.hash = (last.chain.fileStorage.entries (platform.idText row.id)).value := by
  have kept : Agrees platform last := by
    apply served.keeps _ agrees
    intro request current choices outcome next admitted ended held
    exact served_agrees admitted.1 admitted.2 ended held
  intro row member
  exact (kept (row.id, row.hash) (List.mem_map.mpr ⟨row, member, rfl⟩)).2.symm

end

theorem keyedStore_agrees : Agrees plain keyedStore := by
  have empty : keyedStore.database.hashes = [] := by decide +kernel
  intro entry member
  rw [empty] at member
  cases member

/-- A posted file has the same hash in its row and on the chain. -/
theorem postedFile_agrees :
    ∃ last, ServedAll plain (fun current request _ => request.body.writesFiles = true ∧
        ¬ Rewrites plain current request.body) keyedStore [postRequest] last ∧
      (∃ row, row ∈ last.database.files) ∧ ∀ row ∈ last.database.files,
        row.hash = (last.chain.fileStorage.entries (plain.idText row.id)).value := by
  have posted : (serve plain keyedStore postRequest postChoices).map
      (fun served => served.2.database.hashes) = some [(plainFile, plainAddress [3, 7])] := by
    decide +kernel
  obtain ⟨⟨outcome, last⟩, ended, hashes⟩ := Option.map_eq_some_iff.mp posted
  have served : ServedAll plain (fun current request _ => request.body.writesFiles = true ∧
      ¬ Rewrites plain current request.body) keyedStore [postRequest] last :=
    .cons postChoices outcome ⟨rfl, id⟩ ended (.nil last)
  refine ⟨last, served, ?_, hashes_agree plain keyedStore last keyedStore_agrees _ served⟩
  have member : (plainFile, plainAddress [3, 7]) ∈ last.database.hashes := by
    rw [hashes]
    exact List.mem_singleton_self _
  obtain ⟨row, present, -⟩ := List.mem_map.mp member
  exact ⟨row, present⟩

/-- An update without any failure leaves the old hash in the row. -/
theorem update_keeps_old_hash :
    ∃ last, ServedAll plain (fun _ request choices => request.body.writesFiles = true ∧
        ∀ choice ∈ choices, ∀ failure, choice ≠ .fail failure) keyedStore [postRequest, putRequest] last ∧
      ∃ row ∈ last.database.files,
        row.hash ≠ (last.chain.fileStorage.entries (plain.idText row.id)).value := by
  have ran : ((serve plain keyedStore postRequest postChoices).bind fun posted =>
      serve plain posted.2 putRequest putChoices).map (fun ended =>
        ended.2.database.files.map fun row =>
          decide (row.hash = (ended.2.chain.fileStorage.entries (plain.idText row.id)).value)) =
      some [false] := by decide +kernel
  obtain ⟨⟨outcome, last⟩, both, differs⟩ := Option.map_eq_some_iff.mp ran
  obtain ⟨⟨first, middle⟩, posted, updated⟩ := Option.bind_eq_some_iff.mp both
  have proceeds {choices : List (Choice PlainId UInt8)}
      (safe : (choices.all fun choice => !choice.isFailure) = true) :
      ∀ choice ∈ choices, ∀ failure, choice ≠ .fail failure := by
    intro choice member failure same
    have held := List.all_eq_true.mp safe choice member
    rw [same] at held
    cases held
  refine ⟨last, .cons postChoices first ⟨rfl, proceeds (by decide)⟩ posted
    (.cons putChoices outcome ⟨rfl, proceeds (by decide)⟩ updated (.nil last)), ?_⟩
  obtain ⟨row, present, same⟩ := List.mem_map.mp (differs ▸ List.mem_singleton_self false)
  exact ⟨row, present, of_decide_eq_false same⟩

end Holonus.Backend
