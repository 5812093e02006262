/-
This file follows the requests on one file through their awaits, from their first check to the
version that they write or read.
-/

import Holonus.Proof.Backend.FileTurn

namespace Holonus.Backend

open Holonus.Machine Holonus.File Holonus.Abstract

section
variable {Id PublicKey Value : Type} [DecidableEq Id] {platform : Platform Id PublicKey} {id : Id}
  {index : Nat} {request : Request Id}

/-- The request is running and blank. -/
abbrev Unmarked (platform : Platform Id PublicKey) (id : Id) (index : Nat) (request : Request Id) :
    World Id PublicKey → Prop :=
  At index request fun task _ => Blank platform id task

/-- The assertion is about the session and the marks of a request, the owners of the rows and an
entry that only the creator of the file writes. -/
structure Steady (platform : Platform Id PublicKey) (id : Id)
    (Holds : Local Id PublicKey → Store Id → Prop) : Prop where
  alike : ∀ task after store, Alike (platform.idText id) task after →
    after.session = task.session → Holds task store → Holds after store
  spared : ∀ task store next, (∀ userId, (∃ row ∈ store.database.rowsOf id, row.userId = userId) →
      ∃ row ∈ next.database.rowsOf id, row.userId = userId) →
    (Creates id task.session →
      next.entry (platform.idText id) = store.entry (platform.idText id)) →
    Holds task store → Holds task next

/-- Having done nothing to the file is steady. -/
theorem steady_blank :
    Steady platform id fun task _ => Blank platform id task where
  alike _ _ _ alike _ blank := alike.blank blank
  spared _ _ _ _ _ blank := blank

/-- Being halfway is steady. -/
theorem steady_halfway :
    Steady platform id fun task _ => task.isHalfway platform id = true where
  alike _ _ _ alike _ halfway := alike.isHalfway.trans halfway
  spared _ _ _ _ _ halfway := halfway

/-- These commands concern neither the file nor the session. -/
def Command.isPlain : Command Id → Bool
  | .startSession | .logsCreate | .ipfsAdd _ | .generateKey => true
  | _ => false

/-- A plain command that returns keeps the database, the chain and the session. -/
theorem plain_ok {command : Command Id} {choice : Choice Id PublicKey} {store next : Store Id}
    {session after : Option (Session Id)} {value : Result PublicKey command}
    (isPlain : command.isPlain = true)
    (responded : respond platform store session (.act command) choice =
      some (.ok value, next, after)) :
    next.database = store.database ∧ next.chain = store.chain ∧ after = session := by
  have acts := act_of_respond responded
  cases command with
  | startSession | logsCreate | ipfsAdd data =>
      cases proceeding_eq_some acts
      exact ⟨rfl, rfl, rfl⟩
  | generateKey =>
      cases choice <;> cases acts
      exact ⟨rfl, rfl, rfl⟩
  | _ => cases isPlain

/-- A plain command throws only when the environment fails it. -/
theorem plain_error {command : Command Id} {choice : Choice Id PublicKey} {store next : Store Id}
    {session after : Option (Session Id)} {failure : Failure} (isPlain : command.isPlain = true)
    (responded : respond platform store session (.act command) choice =
      some (.error failure, next, after)) : choice.isFailure = true := by
  rcases respond_act responded with fails | acts
  · obtain ⟨reason, failed, -⟩ := fails
    rw [failed]
    rfl
  · cases command with
    | startSession | logsCreate | ipfsAdd data => cases proceeding_eq_some acts
    | generateKey => cases choice <;> cases acts
    | _ => cases isPlain

omit [DecidableEq Id] in
/-- A plain command leaves no mark on the file. -/
theorem plain_unmarked {command : Command Id} (isPlain : command.isPlain = true) :
    (Op.act command).isUnmarked (platform.idText id) = true := by
  cases command <;> first | rfl | cases isPlain

namespace Steady

variable {Holds : Local Id PublicKey → Store Id → Prop} (steady : Steady platform id Holds)
include steady

/-- A steady fact is kept by the other requests. -/
theorem stable : (versionDiscipline platform id).Stable index (At index request Holds) := by
  intro world current spares _ holds
  obtain ⟨task, found, asked, held⟩ := holds
  refine ⟨task, spares.same.trans found, asked, ?_⟩
  exact steady.spared task _ _ spares.owners (spares.created task found) held

/-- A steady fact is kept by queries. -/
theorem quiet : Quiet platform (versionDiscipline platform id) index (At index request Holds) where
  stable := steady.stable
  demands _ _ _ _ _ _ := trivial
  kept := by
    intro query choice world reply next _ holds performed
    obtain ⟨task, found, asked, held⟩ := holds
    obtain ⟨current, session, same, responded, locals⟩ := perform_inv performed
    rw [found, Option.some.injEq] at same
    subst same
    obtain ⟨-, unchanged, kept⟩ := respond_ask responded
    refine ⟨_, by rw [locals, Function.update_self], ?_, ?_⟩
    · rw [Local.request_after, asked]
    · rw [unchanged]
      apply steady.alike task _ _ (alike_after _ _ _ rfl reply) _ held
      rw [Local.session_after, kept]

/-- An operation of a prepared request is followed in its task. -/
theorem call {op : Op Id} {Thrown : Local Id PublicKey → Store Id → Prop}
    {After : Reply PublicKey op → Local Id PublicKey → Store Id → Prop}
    (readies : ∀ task store, task.request = request → Holds task store →
      Readies platform id task store op)
    (replies : ∀ world task choice reply store session, Coherent platform id world →
      world.locals index = some task → task.request = request → Holds task world.store →
      Orderly platform id index op choice world →
      respond platform world.store task.session op choice = some (reply, store, session) →
        match reply with
        | .ok value => After value (task.after session world.store.log.length op (.ok value)) store
        | .error failure =>
            Thrown (task.after session world.store.log.length op (.error failure)) store) :
    Triple (World.perform platform) (versionDiscipline platform id) index (At index request Holds)
      (Program.call op) (fun value => At index request (After value))
      fun _ => At index request Thrown := by
  apply At.call steady.stable
  · intro world task _ found asked held current same
    rw [found, Option.some.injEq] at same
    rw [← same]
    exact readies task _ asked held
  · exact replies

/-- A plain command keeps a steady assertion, and it fails only for a blank request. -/
theorem tell {command : Command Id} {Fact : Result PublicKey command → Prop}
    (isPlain : command.isPlain = true)
    (fact : ∀ store session choice value next after,
      respond platform store session (.act command) choice = some (.ok value, next, after) →
        Fact value) :
    Triple (World.perform platform) (versionDiscipline platform id) index (At index request Holds)
      (Backend.tell command : Task Id PublicKey (Result PublicKey command))
      (fun value world => Fact value ∧ At index request Holds world)
      fun _ => Unmarked platform id index request := by
  have called : Triple (World.perform platform) (versionDiscipline platform id) index
      (At index request Holds)
      (Backend.tell command : Task Id PublicKey (Result PublicKey command))
      (fun value => At index request fun task store => Fact value ∧ Holds task store)
      fun _ => Unmarked platform id index request := by
    apply steady.call
    · intro task store _ _
      cases command <;> trivial
    · intro world task choice reply store session _ found _ held orderly responded
      cases reply with
      | ok value =>
          obtain ⟨database, chain, kept⟩ := plain_ok isPlain responded
          refine ⟨fact _ _ _ _ _ _ responded, ?_⟩
          apply steady.alike task _ _ (alike_after _ _ _ (plain_unmarked isPlain) _)
            (by rw [Local.session_after, kept])
          apply steady.spared task world.store store _ _ held
          · rw [database]
            exact fun _ owned => owned
          · intro _
            rw [Store.entry, chain, Store.entry]
      | error failure =>
          have blank := orderly.fails (plain_error isPlain responded) task found
          exact (alike_error _ _ _ _ failure).blank blank
  apply called.conseq (fun _ _ holds => holds) _ fun _ _ _ holds => holds
  intro value world _ holds
  obtain ⟨task, found, asked, known, held⟩ := holds
  exact ⟨known, task, found, asked, held⟩

/-- A plain command keeps a steady fact. -/
theorem tell_any {command : Command Id} (isPlain : command.isPlain = true) :
    Triple (World.perform platform) (versionDiscipline platform id) index (At index request Holds)
      (Backend.tell command : Task Id PublicKey (Result PublicKey command))
      (fun _ => At index request Holds) fun _ => Unmarked platform id index request := by
  apply (steady.tell isPlain fun _ _ _ _ _ _ _ => trivial).conseq (fun _ _ holds => holds) _
    fun _ _ _ holds => holds
  exact fun _ _ _ holds => holds.2

omit steady in
/-- A program that keeps a blank request in its assertion ends blank. -/
theorem fall {program : Task Id PublicKey Value} {After : Value → World Id PublicKey → Prop}
    (blank : ∀ task store, Holds task store → Blank platform id task)
    (triple : Triple (World.perform platform) (versionDiscipline platform id) index
      (At index request Holds) program After fun _ => At index request Holds) :
    Triple (World.perform platform) (versionDiscipline platform id) index (At index request Holds)
      program After fun _ => Unmarked platform id index request := by
  apply triple.conseq (fun _ _ holds => holds) (fun _ _ _ holds => holds)
  intro _ world _ holds
  obtain ⟨task, found, asked, held⟩ := holds
  exact ⟨task, found, asked, blank task _ held⟩

end Steady

/-- A blank request has opened its transaction. -/
def Fresh (platform : Platform Id PublicKey) (id : Id) (task : Local Id PublicKey)
    (_ : Store Id) : Prop :=
  Blank platform id task ∧ task.session = some Session.empty

/-- A fresh session is steady. -/
theorem steady_fresh : Steady platform id (Fresh platform id) where
  alike _ _ _ alike kept fresh := ⟨alike.blank fresh.1, kept.trans fresh.2⟩
  spared _ _ _ _ _ fresh := fresh

/-- Having committed is steady. -/
theorem steady_committed :
    Steady platform id fun task _ => task.hasCommitted = true where
  alike _ _ _ alike _ committed := alike.committed.trans committed
  spared _ _ _ _ _ committed := committed

/-- Starting a transaction gives a fresh session. -/
theorem startTransaction_fresh :
    Triple (World.perform platform) (versionDiscipline platform id) index
      (Unmarked platform id index request) (tell .startTransaction : Task Id PublicKey Unit)
      (fun _ => At index request (Fresh platform id))
      fun _ => Unmarked platform id index request := by
  apply steady_blank.call
  · intro task store _ blank
    exact blank.notHalfway
  · intro world task choice reply store session _ _ _ blank _ responded
    obtain ⟨started, value, replied⟩ := session_of_startTransaction responded
    subst replied started
    exact ⟨(alike_after _ _ _ rfl _).blank blank, rfl⟩

/-- Ending a transaction that did nothing to the file leaves the request unmarked. -/
theorem blank_closes {command : Command Id}
    (isEnding : command = .abortTransaction ∨ command = .endSession) :
    Triple (World.perform platform) (versionDiscipline platform id) index
      (Unmarked platform id index request)
      (tell command : Task Id PublicKey (Result PublicKey command))
      (fun _ => Unmarked platform id index request)
      fun _ => Unmarked platform id index request := by
  apply steady_blank.call
  · intro task store _ blank
    rcases isEnding with rfl | rfl
    · exact blank.notHalfway
    · exact blank.notHalfway
  · intro world task choice reply store session _ _ _ blank _ responded
    have unmarked : (Op.act command).isUnmarked (platform.idText id) = true := by
      rcases isEnding with rfl | rfl <;> rfl
    cases reply with
    | ok value => exact (alike_after _ _ _ unmarked _).blank blank
    | error failure => exact (alike_error _ _ _ _ failure).blank blank

/-- A prepared commit fails only for a blank request. -/
theorem commit_marks {Ready : Local Id PublicKey → Store Id → Prop}
    (steady : Steady platform id Ready)
    (readies : ∀ task store, Ready task store → task.isHalfway platform id = true ∨
      Inserted platform id task store ∧ Blank platform id task) :
    Triple (World.perform platform) (versionDiscipline platform id) index
      (At index request Ready) (tell .commitTransaction : Task Id PublicKey Unit)
      (fun _ => At index request fun task _ => task.hasCommitted = true)
      fun _ => Unmarked platform id index request := by
  apply steady.call
  · intro task store _ ready
    exact (readies task store ready).imp_right And.left
  · intro world task choice reply store session coherent found _ ready orderly responded
    cases reply with
    | ok value => rfl
    | error failure =>
        rcases readies task _ ready with halfway | inserted
        · have replied := (commit_halfway coherent found halfway orderly responded).1
          cases replied
        · exact (alike_error _ _ _ _ failure).blank inserted.2

/-- A request that has committed does not fail to end its session. -/
theorem committed_ends :
    Triple (World.perform platform) (versionDiscipline platform id) index
      (At index request fun task _ => task.hasCommitted = true)
      (tell .endSession : Task Id PublicKey Unit)
      (fun _ => At index request fun task _ => task.hasCommitted = true)
      fun _ => Unmarked platform id index request := by
  apply steady_committed.call
  · intro task store _ committed
    apply Bool.eq_false_iff.mpr
    intro halfway
    have pending := (isHalfway_iff.mp halfway).2.2
    rw [committed] at pending
    cases pending
  · intro world task choice reply store session _ found _ committed orderly responded
    cases reply with
    | ok value =>
        have alike : Alike (platform.idText id) task (task.after session world.store.log.length
            (.act .endSession) (.ok value)) := alike_after _ _ _ rfl _
        exact alike.committed.trans committed
    | error failure =>
        rcases respond_act responded with fails | acts
        · obtain ⟨reason, failed, -⟩ := fails
          subst failed
          have blank := orderly.fails rfl task found
          rw [blank.1] at committed
          cases committed
        · cases proceeding_eq_some acts

/-- A transaction needs a body that prepares its commit and fails only while it is blank. -/
theorem version_transaction {exec : Task Id PublicKey Value} (attempts : Nat)
    {Ready : Local Id PublicKey → Store Id → Prop} (steady : Steady platform id Ready)
    (readies : ∀ task store, Ready task store → task.isHalfway platform id = true ∨
      Inserted platform id task store ∧ Blank platform id task)
    (body : Triple (World.perform platform) (versionDiscipline platform id) index
      (At index request (Fresh platform id)) exec (fun _ => At index request Ready)
      fun _ => Unmarked platform id index request) :
    Triple (World.perform platform) (versionDiscipline platform id) index
      (Unmarked platform id index request) (DbUtil.transaction attempts exec)
      (fun _ => At index request fun task _ => task.hasCommitted = true)
      fun _ => Unmarked platform id index request :=
  transaction_triple (steady_blank.tell_any rfl) startTransaction_fresh body
    (fun _ => commit_marks steady readies) (blank_closes (.inl rfl)) (fun _ => committed_ends)
    (blank_closes (.inr rfl))

/-- The encryption uses some key. -/
theorem encrypt_some {Before : World Id PublicKey → Prop} (publicKey buffer : Bytes) :
    Triple (World.perform platform) (versionDiscipline platform id) index Before
      (CryptoUtil.encrypt platform publicKey buffer)
      (fun data world => (∃ key, data = platform.encrypt key buffer) ∧ Before world)
      fun _ => Before := by
  simp only [CryptoUtil.encrypt]
  split
  · exact Triple.pure fun _ _ holds => ⟨⟨_, rfl⟩, holds⟩
  · exact Triple.throw fun _ _ holds => holds

/-- Storing content returns its address and keeps a steady fact. -/
theorem ipfsAdd_hash {Holds : Local Id PublicKey → Store Id → Prop}
    (steady : Steady platform id Holds) (data : Bytes) :
    Triple (World.perform platform) (versionDiscipline platform id) index (At index request Holds)
      (IpfsUtil.add data : Task Id PublicKey String)
      (fun hash world => hash = platform.address data ∧ At index request Holds world)
      fun _ => Unmarked platform id index request := by
  apply ipfsAdd_triple
  apply steady.tell rfl
  intro store session choice hash next after responded
  exact (ipfsAdd_ok responded).1

/-- The session has one new row. -/
def Drawn (platform : Platform Id PublicKey) (id : Id) (row : FileRow Id)
    (task : Local Id PublicKey) (_ : Store Id) : Prop :=
  Blank platform id task ∧ ∃ start, task.session = some ⟨start, [.insertFile row]⟩

/-- A drawn row is steady. -/
theorem steady_drawn (row : FileRow Id) : Steady platform id (Drawn platform id row) where
  alike _ _ _ alike kept drawn :=
    ⟨alike.blank drawn.1, drawn.2.choose, kept.trans drawn.2.choose_spec⟩
  spared _ _ _ _ _ drawn := drawn

/-- The new row has its entry. -/
def Entered (platform : Platform Id PublicKey) (id : Id) (task : Local Id PublicKey)
    (store : Store Id) : Prop :=
  Blank platform id task ∧ Inserted platform id task store

/-- A written entry is steady. -/
theorem steady_entered : Steady platform id (Entered platform id) where
  alike task after store alike kept entered := by
    obtain ⟨blank, posts, start, row, staged, prepared⟩ := entered
    refine ⟨alike.blank blank, ?_, start, row, kept.trans staged, ?_⟩
    · rw [alike.request]
      exact posts
    · rw [alike.sent, alike.request]
      exact prepared
  spared task store next owners created entered := by
    obtain ⟨blank, posts, start, row, staged, prepared⟩ := entered
    refine ⟨blank, posts, start, row, staged, ?_⟩
    intro same
    rw [created ⟨_, staged, row, List.mem_singleton_self _, same⟩]
    exact prepared same

/-- Creating a file draws its row. -/
theorem filesCreate_draws (userId fileName mimeType hash : String) :
    Triple (World.perform platform) (versionDiscipline platform id) index
      (At index request (Fresh platform id))
      (FilesModel.create userId fileName mimeType hash : Task Id PublicKey Id)
      (fun new => At index request
        (Drawn platform id ⟨new, userId, fileName, mimeType, hash, false⟩))
      fun _ => Unmarked platform id index request := by
  apply guarded_triple
  apply steady_fresh.call
  · intro task store _ fresh
    exact ⟨fresh.2, fresh.1.notHalfway⟩
  · intro world task choice reply store session _ _ _ fresh _ responded
    cases reply with
    | error failure => exact (alike_error _ _ _ _ failure).blank fresh.1
    | ok new =>
        obtain ⟨-, -, pending, isOpen, staged⟩ := filesCreate_ok responded
        rw [fresh.2, Option.some.injEq] at isOpen
        subst isOpen
        exact ⟨(alike_after _ _ _ rfl _).blank fresh.1,
          some (world.store.database, world.store.log.length), staged⟩

/-- The entry of the new row completes the preparation. -/
theorem setFile_enters {row : FileRow Id} {key : PublicKey} {attachement : Bytes}
    (posts : request.body.updates platform id = false)
    (brought : request.body.content platform id =
      some (row.fileName, row.mimeType, attachement)) :
    Triple (World.perform platform) (versionDiscipline platform id) index
      (At index request (Drawn platform id row))
      (HolonusFileService.setFile (platform.idText row.id)
        (platform.address (platform.encrypt key attachement)) : Task Id PublicKey Unit)
      (fun _ => At index request (Entered platform id))
      fun _ => Unmarked platform id index request := by
  apply guarded_triple
  apply (steady_drawn row).call
  · intro task store asked drawn named
    obtain ⟨blank, start, staged⟩ := drawn
    refine .inl ⟨by rw [asked, posts], _, staged, row, List.mem_singleton_self _, ?_⟩
    exact idText_injective platform named
  · intro world task choice reply store session _ _ asked drawn _ responded
    obtain ⟨blank, start, staged⟩ := drawn
    have kept : session = task.session := session_of_quiet rfl responded
    subst kept
    have still : task.request.body.updates platform id = false := by rw [asked, posts]
    cases reply with
    | error failure => exact (alike_error _ _ _ _ failure).blank blank
    | ok value =>
        have changed : store = world.store.put _ _ := chainSetFile_ok responded
        subst changed
        refine ⟨⟨blank.1, ?_⟩, still, start, row, staged, ?_⟩
        · intro updates
          rw [Local.request_after, still] at updates
          cases updates
        · intro same
          subst same
          rw [entry_put_self, sent_after]
          exact ⟨List.mem_cons_self, key, attachement, by rw [Local.request_after, asked, brought],
            rfl⟩

/-- Posting a file keeps its versions in agreement. -/
theorem postFile_version {attempts : Nat} {userId : String} {publicKeyId : Ref Id}
    {fileName mimeType : String} {attachement : Bytes}
    (posts : request.body.updates platform id = false)
    (brought : request.body.content platform id =
      some (fileName, mimeType, attachement)) :
    Triple (World.perform platform) (versionDiscipline platform id) index
      (Unmarked platform id index request)
      (FilesCore.postFile platform attempts userId publicKeyId fileName mimeType attachement)
      (fun _ => At index request fun task _ => task.hasCommitted = true)
      fun _ => Unmarked platform id index request := by
  have quiet : Quiet platform (versionDiscipline platform id) index
      (At index request (Fresh platform id)) := steady_fresh.quiet
  have fall {Value : Type} {program : Task Id PublicKey Value}
      {After : Value → World Id PublicKey → Prop}
      (triple : Triple (World.perform platform) (versionDiscipline platform id) index
        (At index request (Fresh platform id)) program After
        fun _ => At index request (Fresh platform id)) := Steady.fall (fun _ _ fresh => fresh.1) triple
  apply version_transaction attempts steady_entered
    (fun task store entered => .inr ⟨entered.2, entered.1⟩)
  apply Triple.bind (fall (quiet.getTargetUser userId))
  intro user
  apply Triple.assume
  intro _
  apply Triple.bind (fall (quiet.usersCheckLocked user.userId))
  intro _
  apply Triple.bind (fall (quiet.getKey userId publicKeyId))
  intro found
  apply Triple.bind (fall present_keeps)
  intro key
  apply Triple.bind (fall (pem2der_keeps key.2))
  intro derPublicKey
  apply Triple.bind (fall (encrypt_some derPublicKey attachement))
  intro ipfsData
  apply Triple.assume
  rintro ⟨used, rfl⟩
  apply Triple.bind (ipfsAdd_hash steady_fresh _)
  intro ipfsPath
  apply Triple.assume
  rintro rfl
  apply Triple.bind (filesCreate_draws user.userId fileName mimeType _)
  intro fileId
  apply Triple.bind (setFile_enters posts brought)
  intro _
  apply Triple.bind (steady_entered.tell_any rfl)
  intro _
  exact Triple.pure fun _ _ holds => holds

/-- The opened transaction belongs to an owner of the file. -/
def Owned (platform : Platform Id PublicKey) (id : Id) (userId : String)
    (task : Local Id PublicKey) (store : Store Id) : Prop :=
  Fresh platform id task store ∧ ∃ row ∈ store.database.rowsOf id, row.userId = userId

/-- Owning the file is steady. -/
theorem steady_owned (userId : String) : Steady platform id (Owned platform id userId) where
  alike task after store alike kept owned :=
    ⟨steady_fresh.alike task after store alike kept owned.1, owned.2⟩
  spared _ _ _ owners _ owned := ⟨owned.1, owners userId owned.2⟩

/-- The rows of an identifier are the rows of the collection that have it. -/
theorem mem_rowsOf {database : Database Id} {row : FileRow Id} :
    row ∈ database.rowsOf id ↔ row ∈ database.files ∧ row.id = id := by
  rw [Database.rowsOf, List.mem_filter, decide_eq_true_iff]

/-- A search by a text of the identifier finds a row of the file. -/
theorem mem_rowsOf_of_findFile {database : Database Id} {fileId : String} {userId : Option String}
    {row : FileRow Id} (names : platform.castId fileId = some id)
    (found : database.findFile platform fileId userId = .ok (some row)) :
    row ∈ database.rowsOf id ∧ (userId = none ∨ userId = some row.userId) := by
  obtain ⟨cast, member, owned⟩ := Database.findFile_some found
  rw [names, Option.some.injEq] at cast
  exact ⟨mem_rowsOf.mpr ⟨member, cast.symm⟩, owned⟩

/-- A search by a text of the identifier finds the file of its owner. -/
theorem findFile_of_mem_rowsOf {database : Database Id} {fileId : String} {row : FileRow Id}
    (names : platform.castId fileId = some id) (member : row ∈ database.rowsOf id) :
    ∃ found, database.findFile platform fileId (some row.userId) = .ok (some found) ∧
      found.id = id := by
  obtain ⟨present, named⟩ := mem_rowsOf.mp member
  have searched : database.findFile platform fileId (some row.userId) =
      .ok (database.files.find? fun other =>
        other.id = id ∧ (some row.userId = none ∨ some row.userId = some other.userId)) := by
    rw [Database.findFile, names]
  obtain ⟨found, first⟩ : ∃ found, database.files.find? (fun other => other.id = id ∧
      (some row.userId = none ∨ some row.userId = some other.userId)) = some found := by
    apply Option.isSome_iff_exists.mp
    apply List.find?_isSome.mpr
    exact ⟨row, present, decide_eq_true ⟨named, .inr rfl⟩⟩
  rw [first] at searched
  exact ⟨found, searched, (mem_rowsOf.mp (mem_rowsOf_of_findFile names searched).1).2⟩

/-- The check finds the row of an owner. -/
theorem filesCheckNotFound_owned {fileId : String} (names : platform.castId fileId = some id)
    (userId : String) :
    Triple (World.perform platform) (versionDiscipline platform id) index
      (At index request (Fresh platform id))
      (FilesModel.checkNotFound fileId userId : Task Id PublicKey Unit)
      (fun _ => At index request (Owned platform id userId))
      fun _ => Unmarked platform id index request := by
  have asks : Triple (World.perform platform) (versionDiscipline platform id) index
      (At index request (Fresh platform id))
      (ask (.filesExists fileId userId) : Task Id PublicKey Bool)
      (fun isFound => At index request fun task store => Fresh platform id task store ∧
        (isFound = true → ∃ row ∈ store.database.rowsOf id, row.userId = userId))
      fun _ => Unmarked platform id index request := by
    apply steady_fresh.call
    · exact fun _ _ _ _ => trivial
    · intro world task choice reply store session _ _ _ fresh _ responded
      obtain ⟨answered, same, kept⟩ := respond_ask responded
      subst same kept
      cases reply with
      | error failure => exact fresh.1
      | ok isFound =>
          refine ⟨⟨(alike_after _ _ _ rfl _).blank fresh.1, fresh.2⟩, ?_⟩
          rintro rfl
          rcases answered with fails | answers
          · obtain ⟨failure, failed⟩ := fails
            cases failed
          · obtain ⟨row, found⟩ := filesExists_true answers.symm
            obtain ⟨member, free | owned⟩ := mem_rowsOf_of_findFile names found
            · cases free
            · exact ⟨row, member, (Option.some.inj owned).symm⟩
  apply (checkFound_triple asks _).conseq (fun _ _ holds => holds) _ fun _ _ _ holds => holds
  · intro world _ holds
    obtain ⟨task, found, asked, fresh, -⟩ := holds
    exact ⟨task, found, asked, fresh.1⟩
  · intro _ world _ holds
    obtain ⟨task, found, asked, fresh, owned⟩ := holds
    exact ⟨task, found, asked, fresh, owned rfl⟩

/-- A drafted update is steady. -/
theorem steady_drafted (hash : String) :
    Steady platform id fun task store => Drafted platform id task store hash where
  alike task after store alike kept drafted := by
    obtain ⟨updates, blank, rows, start, fileName, mimeType, staged, brings⟩ := drafted
    refine ⟨?_, alike.blank blank, rows, start, fileName, mimeType, kept.trans staged, ?_⟩
    · rw [alike.request]
      exact updates
    · rw [alike.request]
      exact brings
  spared task store next owners _ drafted := by
    obtain ⟨updates, blank, rows, staged⟩ := drafted
    refine ⟨updates, blank, ?_, staged⟩
    obtain ⟨row, member⟩ := List.exists_mem_of_ne_nil _ rows
    obtain ⟨other, stays, -⟩ := owners row.userId ⟨row, member, rfl⟩
    exact List.ne_nil_of_mem stays

/-- An owner stages the update of the row. -/
theorem filesUpdateOne_drafts {fileId userId fileName mimeType hash : String}
    (names : platform.castId fileId = some id)
    (updates : request.body.updates platform id = true)
    (brings : Brings platform id request fileName mimeType hash) :
    Triple (World.perform platform) (versionDiscipline platform id) index
      (At index request (Owned platform id userId))
      (FilesModel.updateOne fileId userId fileName mimeType : Task Id PublicKey Bool)
      (fun _ => At index request fun task store => Drafted platform id task store hash)
      fun _ => Unmarked platform id index request := by
  apply guarded_triple
  apply (steady_owned userId).call
  · intro task store _ owned
    exact ⟨owned.1.2, owned.1.1.notHalfway⟩
  · intro world task choice reply store session _ _ asked owned _ responded
    obtain ⟨⟨blank, opened⟩, row, member, owner⟩ := owned
    subst owner
    cases reply with
    | error failure => exact (alike_error _ _ _ _ failure).blank blank
    | ok value =>
        obtain ⟨found, searched, named⟩ := findFile_of_mem_rowsOf names member
        have acted := proceeding_eq_some (act_of_respond responded)
        rw [stagedFound, searched, opened] at acted
        cases acted
        refine ⟨by rw [Local.request_after, asked, updates], (alike_after _ _ _ rfl _).blank blank,
          List.ne_nil_of_mem member, (world.store.database, world.store.log.length), fileName,
          mimeType, ?_, by rw [Local.request_after, asked]; exact brings⟩
        show some (Session.mk _ ([] ++ (Option.map _ (Option.join (Except.toOption
          (world.store.database.findFile platform _ _)))).toList)) = _
        rw [searched]
        show some (Session.mk _ [.updateFile found.id fileName mimeType]) = _
        rw [named]
        rfl

/-- The entry of an update opens it; an orderly step writes it under the text of the identifier. -/
theorem setFile_opens (fileId hash : String) :
    Triple (World.perform platform) (versionDiscipline platform id) index
      (At index request fun task store => Drafted platform id task store hash)
      (HolonusFileService.setFile fileId hash : Task Id PublicKey Unit)
      (fun _ => At index request fun task _ => task.isHalfway platform id = true)
      fun _ => Unmarked platform id index request := by
  apply guarded_triple
  apply (steady_drafted hash).call
  · exact fun task store _ drafted _ => .inr drafted
  · intro world task choice reply store session _ found _ drafted orderly _
    cases reply with
    | error failure => exact (alike_error _ _ _ _ failure).blank drafted.blank
    | ok value =>
        obtain ⟨named, -, -⟩ := orderly.sends fileId rfl task found drafted.updates
        subst named
        apply isHalfway_iff.mpr
        refine ⟨drafted.updates, ?_, drafted.blank.1⟩
        rw [sent_after]
        exact List.cons_ne_nil _ _

/-- An update commits the version that it brings, or it fails while it is blank. -/
theorem putFile_version {attempts : Nat} {userId fileId fileName mimeType : String}
    {attachement : Bytes} (names : platform.castId fileId = some id)
    (updates : request.body.updates platform id = true)
    (brought : request.body.content platform id =
      some (fileName, mimeType, attachement)) :
    Triple (World.perform platform) (versionDiscipline platform id) index
      (Unmarked platform id index request)
      (FilesCore.putFile platform attempts userId fileId fileName mimeType attachement)
      (fun _ => At index request fun task _ => task.hasCommitted = true)
      fun _ => Unmarked platform id index request := by
  have owned (owner : String) : Steady platform id (Owned platform id owner) := steady_owned owner
  have fall {Value : Type} {program : Task Id PublicKey Value}
      {After : Value → World Id PublicKey → Prop} {owner : String}
      (triple : Triple (World.perform platform) (versionDiscipline platform id) index
        (At index request (Owned platform id owner)) program After
        fun _ => At index request (Owned platform id owner)) :=
    Steady.fall (fun _ _ held => held.1.1) triple
  apply version_transaction attempts steady_halfway (fun task store halfway => .inl halfway)
  apply Triple.bind (Steady.fall (fun _ _ fresh => fresh.1) (steady_fresh.quiet.getTargetUser userId))
  intro user
  apply Triple.assume
  intro _
  apply Triple.bind (filesCheckNotFound_owned names user.userId)
  intro _
  apply Triple.bind (fall ((owned user.userId).quiet.filesCheckLocked _))
  intro _
  apply Triple.bind (pem2derObject_triple ((owned user.userId).tell_any rfl))
  intro derPublicKey
  apply Triple.bind (fall (encrypt_some derPublicKey attachement))
  intro ipfsData
  apply Triple.assume
  rintro ⟨used, rfl⟩
  apply Triple.bind (ipfsAdd_hash (owned user.userId) _)
  intro ipfsPath
  apply Triple.assume
  rintro rfl
  apply Triple.bind (filesUpdateOne_drafts names updates ⟨used, attachement, brought, rfl⟩)
  intro ok
  apply Triple.bind (Steady.fall (fun _ _ drafted => drafted.blank) failIf_keeps)
  intro _
  apply Triple.bind (setFile_opens fileId _)
  intro _
  exact steady_halfway.tell_any rfl

/-- The read row was of one version with the entry, unless the file has changed since. -/
def Seen (platform : Platform Id PublicKey) (id : Id) (index : Nat) (request : Request Id)
    (found : Option (FileRow Id)) (world : World Id PublicKey) : Prop :=
  ∃ task, world.locals index = some task ∧ task.request = request ∧
    Blank platform id task ∧ ∀ row, found = some row →
      world.store.database.rowsOf id ≠ [] ∧ ∃ event ∈ task.trail,
        event.op.readsRow platform id = true ∧
        event.moment ≤ world.store.log.length ∧
        (Document.file id ∉ world.store.log.drop event.moment →
          Calm platform id world → Sourced platform id world row.fileName row.mimeType
            (world.store.entry (platform.idText id)))

/-- A row that was seen stays known. -/
theorem seen_stable (found : Option (FileRow Id)) :
    (versionDiscipline platform id).Stable index (Seen platform id index request found) := by
  intro world current spares _ seen
  obtain ⟨task, located, asked, blank, version⟩ := seen
  refine ⟨task, spares.same.trans located, asked, blank, ?_⟩
  intro row same
  obtain ⟨rows, event, happened, reads, earlier, sourced⟩ := version row same
  obtain ⟨more, appended, kept⟩ := spares.entry
  refine ⟨?_, event, happened, reads, ?_, ?_⟩
  · obtain ⟨one, member⟩ := List.exists_mem_of_ne_nil _ rows
    obtain ⟨other, stays, -⟩ := spares.owners one.userId ⟨one, member, rfl⟩
    exact List.ne_nil_of_mem stays
  · rw [appended, List.length_append]
    exact Nat.le_add_right_of_le earlier
  · intro absent calm
    rw [appended, List.drop_append_of_le_length earlier, List.mem_append, not_or] at absent
    obtain ⟨before, entry⟩ := kept rows absent.2 calm
    rw [entry]
    exact spares.sourced _ _ _ (sourced absent.1 before)

/-- The read row has a version with this entry. -/
def Known (platform : Platform Id PublicKey) (id : Id) (index : Nat) (request : Request Id)
    (found : Option (FileRow Id)) (hash : String) (world : World Id PublicKey) : Prop :=
  Unmarked platform id index request world ∧ ∀ row, found = some row →
    Sourced platform id world row.fileName row.mimeType hash

/-- A query of a request keeps what has one author. -/
theorem sourced_ask {query : Query Id} {choice : Choice Id PublicKey}
    {world next : World Id PublicKey} {reply : Except Failure (Reply PublicKey (.ask query))}
    (performed : World.perform platform index (.ask query) choice world = some (reply, next))
    {fileName mimeType hash : String} (sourced : Sourced platform id world fileName mimeType hash) :
    Sourced platform id next fileName mimeType hash := by
  obtain ⟨task, session, found, -, locals⟩ := perform_inv performed
  have moves : Moves (platform.idText id) index world next task _ :=
    ⟨found, locals, grown_after _ _ _ reply⟩
  exact moves.sourced sourced

/-- A found row and a known hash are kept by queries. -/
theorem known_quiet (found : Option (FileRow Id)) (hash : String) :
    Quiet platform (versionDiscipline platform id) index
      (Known platform id index request found hash) where
  stable := by
    intro world current spares coherent known
    refine ⟨steady_blank.stable world current spares coherent known.1, ?_⟩
    exact fun row same => spares.sourced _ _ _ (known.2 row same)
  demands _ _ _ _ _ _ := trivial
  kept := by
    intro query choice world reply next coherent known performed
    refine ⟨steady_blank.quiet.kept query choice world reply next coherent known.1 performed, ?_⟩
    exact fun row same => sourced_ask performed (known.2 row same)

/-- Reading the row sees a version of the file. -/
theorem filesFindOne_seen {fileId : String} (names : platform.castId fileId = some id)
    (userId : String) :
    Triple (World.perform platform) (versionDiscipline platform id) index
      (Unmarked platform id index request)
      (FilesModel.findOne fileId (some userId) : Task Id PublicKey (Option (FileRow Id)))
      (fun found => Seen platform id index request found)
      fun _ => Unmarked platform id index request := by
  apply guarded_triple
  apply Triple.call steady_blank.stable
  · exact fun _ _ _ _ _ => trivial
  intro world choice reply next coherent blank _ performed settled
  obtain ⟨task, located, asked, isBlank⟩ :=
    steady_blank.quiet.kept _ choice world reply next coherent blank performed
  cases reply with
  | error failure => exact ⟨task, located, asked, isBlank⟩
  | ok found =>
      refine ⟨task, located, asked, isBlank, ?_⟩
      intro row same
      have answered := answer_of_perform performed
      have unchanged := store_of_ask performed
      rw [same] at answered
      have member := (mem_rowsOf_of_findFile names answered).1
      rw [← unchanged] at member
      obtain ⟨current, session, -, -, locals⟩ := perform_inv performed
      rw [locals, Function.update_self, Option.some.injEq] at located
      refine ⟨List.ne_nil_of_mem member, ⟨_, found, world.store.log.length⟩, ?_, ?_, ?_, ?_⟩
      · rw [← located]
        exact List.mem_cons_self
      · exact decide_eq_true names
      · rw [unchanged]
      · exact fun _ calm => settled.settled calm row member

/-- Reading the chain in an orderly step finds the entry of the same version. -/
theorem chainGetFile_known (fileId : String) (found : Option (FileRow Id)) :
    Triple (World.perform platform) (versionDiscipline platform id) index
      (Seen platform id index request found)
      (ask (.chainGetFile fileId) : Task Id PublicKey File.StoredText)
      (fun stored => Known platform id index request found stored.value)
      fun _ => Unmarked platform id index request := by
  apply Triple.call (seen_stable found)
  · exact fun _ _ _ _ _ => trivial
  intro world choice reply next coherent seen orderly performed _
  obtain ⟨task, located, asked, blank, version⟩ := seen
  have kept := steady_blank.quiet.kept _ choice world reply next coherent
    ⟨task, located, asked, blank⟩ performed
  cases reply with
  | error failure => exact kept
  | ok stored =>
      refine ⟨kept, ?_⟩
      intro row same
      obtain ⟨-, event, happened, reads, -, sourced⟩ := version row same
      obtain ⟨named, calm, unchanged⟩ := orderly.reads fileId rfl
      subst named
      have entry : world.store.entry (platform.idText id) = stored.value :=
        congrArg StoredText.value (chainGetFile_ok (answer_of_perform performed))
      rw [← entry]
      exact sourced_ask performed (sourced (unchanged task located event happened reads) calm)

/-- A read returns the name, the type and the content of one version. -/
theorem getFile_version {fileId : String} (names : platform.castId fileId = some id)
    (userId : String) :
    Triple (World.perform platform) (versionDiscipline platform id) index
      (Unmarked platform id index request)
      (FilesCore.getFile userId fileId : Task Id PublicKey (String × String × Bytes))
      (fun file world => Unmarked platform id index request world ∧
        Sourced platform id world file.1 file.2.1 (platform.address file.2.2))
      fun _ => Unmarked platform id index request := by
  have quiet : Quiet platform (versionDiscipline platform id) index
      (Unmarked platform id index request) := steady_blank.quiet
  apply Triple.bind (quiet.getTargetUser userId)
  intro user
  apply Triple.assume
  intro _
  apply Triple.bind (quiet.usersCheckLocked user.userId)
  intro _
  apply Triple.bind (checkFound_keeps quiet.ask_any)
  intro _
  apply Triple.bind (quiet.filesCheckLocked _)
  intro _
  apply Triple.bind (filesFindOne_seen names user.userId)
  intro fileinfo
  apply Triple.bind (chainGetFile_triple (chainGetFile_known fileId fileinfo) fun _ _ _ known => known.1)
  intro bcData
  have cats : Triple (World.perform platform) (versionDiscipline platform id) index
      (Known platform id index request fileinfo bcData.value)
      (ask (.ipfsCat bcData.value) : Task Id PublicKey Bytes)
      (fun data world => platform.address data = bcData.value ∧
        Known platform id index request fileinfo bcData.value world)
      fun _ => Unmarked platform id index request := by
    apply ((known_quiet fileinfo bcData.value).ask _).conseq (fun _ _ holds => holds)
      (fun _ _ _ holds => holds) fun _ _ _ known => known.1
    intro world choice data next _ _ _ performed
    exact (ipfsCat_ok (answer_of_perform performed)).2
  apply Triple.bind (ipfsCat_triple cats)
  intro ipfsData
  apply Triple.assume
  intro addressed
  have presents : Triple (World.perform platform) (versionDiscipline platform id) index
      (Known platform id index request fileinfo bcData.value)
      (present fileinfo : Task Id PublicKey (FileRow Id))
      (fun row world => Unmarked platform id index request world ∧
        Sourced platform id world row.fileName row.mimeType bcData.value)
      fun _ => Unmarked platform id index request :=
    present_triple (fun row same world _ known => ⟨known.1, known.2 row same⟩)
      fun _ _ known => known.1
  apply Triple.bind presents
  intro row
  apply Triple.pure
  intro world _ known
  rw [addressed]
  exact known

end

end Holonus.Backend
