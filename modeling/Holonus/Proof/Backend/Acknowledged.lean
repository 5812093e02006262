/-
This file proves that every acknowledged row stays until its user deletes it and that a deleted row
never comes back.
-/

import Holonus.Proof.Backend.Accounts

namespace Holonus.Backend

open Holonus.Machine Holonus.File Holonus.Abstract

section
variable {Id PublicKey Value : Type}

/-- The request is running in such a session, and the fact holds. -/
def Holding (index : Nat) (request : Request Id) (InSuch : Option (Session Id) → Prop)
    (Fact : World Id PublicKey → Prop) (world : World Id PublicKey) : Prop :=
  InSession index request InSuch world ∧ Fact world

variable [DecidableEq Id] {platform : Platform Id PublicKey} {index : Nat} {request : Request Id}
  {InSuch : Option (Session Id) → Prop} {Fact : World Id PublicKey → Prop}

omit [DecidableEq Id] in
/-- A request in the world permits what its body permits. -/
theorem permits_of_running {world : World Id PublicKey} {op : Op Id}
    (running : InSession index request InSuch world)
    (permits : request.body.Permits platform (fun _ => True) op) :
    ∀ task, world.locals index = some task → task.request.body.Permits platform (fun _ => True) op := by
  obtain ⟨task, found, asked, -⟩ := running
  intro current same
  rw [found, Option.some.injEq] at same
  rw [← same, asked]
  exact permits

/-- A durable fact is kept by the other requests. -/
theorem Durable.stable (durable : Durable platform Fact) :
    (accounts platform).Stable index (Holding index request InSuch Fact) := by
  intro world current spares _ holding
  obtain ⟨⟨task, found, asked, held⟩, fact⟩ := holding
  exact ⟨⟨task, spares.same.trans found, asked, held⟩, spares.facts Fact durable fact⟩

/-- A permitted step follows the session of its request. -/
theorem Durable.holding (durable : Durable platform Fact) {op : Op Id}
    (permits : request.body.Permits platform (fun _ => True) op) {world next : World Id PublicKey}
    {choice : Choice Id PublicKey} {reply : Except Failure (Reply PublicKey op)}
    {After : Option (Session Id) → Prop} (accounted : Accounted platform world)
    (performed : world.perform platform index op choice = some (reply, next))
    (follows : ∀ session after, InSuch session →
      respond platform world.store session op choice = some (reply, next.store, after) →
        After after)
    (holding : Holding index request InSuch Fact world) : Holding index request After Fact next := by
  have fact := durable.performed _ _ _ _ _ _ accounted (permits_of_running holding.1 permits)
    performed holding.2
  obtain ⟨task, found, asked, held⟩ := holding.1
  obtain ⟨current, session, same, responded, locals⟩ := perform_inv performed
  rw [found, Option.some.injEq] at same
  subst same
  refine ⟨⟨task.after session world.store.log.length op reply, ?_, ?_, ?_⟩, fact⟩
  · rw [locals, Function.update_self]
  · rw [Local.request_after, asked]
  · show After (task.after session world.store.log.length op reply).session
    rw [Local.session_after]
    exact follows _ _ held responded

/-- A permitted operation keeps what the request knows and follows its session. -/
theorem Durable.call (durable : Durable platform Fact) {op : Op Id}
    {After : Reply PublicKey op → Option (Session Id) → Prop} {Thrown : Option (Session Id) → Prop}
    (permits : request.body.Permits platform (fun _ => True) op)
    (follows : ∀ store session choice reply next after, InSuch session →
      respond platform store session op choice = some (reply, next, after) →
        match reply with
        | .ok value => After value after
        | .error _ => Thrown after) :
    Triple (World.perform platform) (accounts platform) index
      (Holding index request InSuch Fact) (Program.call op)
      (fun value => Holding index request (After value) Fact)
      fun _ => Holding index request Thrown Fact := by
  apply Triple.call durable.stable
  · intro world _ holding
    exact permits_of_running holding.1 permits
  · intro world choice reply next accounted holding _ performed _
    cases reply with
    | ok value =>
        exact durable.holding permits accounted performed
          (fun _ _ held responded => follows _ _ _ _ _ _ held responded) holding
    | error failure =>
        exact durable.holding permits accounted performed
          (fun _ _ held responded => follows _ _ _ _ _ _ held responded) holding

/-- A durable fact is kept by queries. -/
theorem Durable.quiet (durable : Durable platform Fact) :
    Quiet platform (accounts platform) index (Holding index request InSuch Fact) where
  stable := durable.stable
  demands query world _ holding := permits_of_running holding.1 (by exact trivial)
  kept := by
    intro query choice world reply next accounted holding performed
    apply durable.holding (by exact trivial) accounted performed _ holding
    intro session after held responded
    rw [(respond_ask responded).2.2]
    exact held

/-- A command that leaves the session alone keeps what the request knows. -/
theorem Durable.calm (durable : Durable platform Fact) {command : Command Id}
    (permits : request.body.Permits platform (fun _ => True) (.act command))
    (isQuiet : command.isQuiet = true) :
    Triple (World.perform platform) (accounts platform) index
      (Holding index request InSuch Fact)
      (tell command : Task Id PublicKey (Result PublicKey command))
      (fun _ => Holding index request InSuch Fact) fun _ => Holding index request InSuch Fact := by
  apply durable.call permits
  intro store session choice reply next after held responded
  rw [session_of_quiet isQuiet responded]
  cases reply with
  | ok value => exact held
  | error failure => exact held

/-- The request is running. -/
abbrev Active (index : Nat) (request : Request Id) : World Id PublicKey → Prop :=
  Holding index request (fun _ => True) fun _ => True

omit [DecidableEq Id] in
/-- A request that holds a fact is active. -/
theorem Holding.active {world : World Id PublicKey}
    (holding : Holding index request InSuch Fact world) : Active index request world :=
  ⟨holding.1.running, trivial⟩

/-- A control command keeps what is known of the world. -/
theorem Durable.control (durable : Durable platform Fact) {command : Command Id}
    (permits : request.body.Permits platform (fun _ => True) (.act command)) :
    Triple (World.perform platform) (accounts platform) index
      (Holding index request (fun _ => True) Fact)
      (tell command : Task Id PublicKey (Result PublicKey command))
      (fun _ => Holding index request (fun _ => True) Fact)
      fun _ => Holding index request (fun _ => True) Fact := by
  apply durable.call permits
  intro store session choice reply next after _ _
  cases reply with
  | ok value => exact trivial
  | error failure => exact trivial

/-- What a running request does it does in every session. -/
theorem from_active {program : Task Id PublicKey Value} {After : Value → World Id PublicKey → Prop}
    {Thrown : Failure → World Id PublicKey → Prop}
    (triple : Triple (World.perform platform) (accounts platform) index (Active index request)
      program After Thrown) :
    Triple (World.perform platform) (accounts platform) index
      (Holding index request InSuch Fact) program After Thrown :=
  triple.conseq (fun _ _ holds => holds.active) (fun _ _ _ holds => holds)
    fun _ _ _ holds => holds

/-- A failure keeps only that the request is running. -/
theorem fails_active {program : Task Id PublicKey Value} {Before : World Id PublicKey → Prop}
    {After : Value → World Id PublicKey → Prop}
    (triple : Triple (World.perform platform) (accounts platform) index Before program After
      fun _ => Holding index request InSuch Fact) :
    Triple (World.perform platform) (accounts platform) index Before program After
      fun _ => Active index request :=
  triple.conseq (fun _ _ holds => holds) (fun _ _ _ holds => holds)
    fun _ _ _ holds => holds.active

/-- What a transaction commits is a durable fact, and every attempt knows what was known before. -/
theorem accounts_transaction {exec : Task Id PublicKey Value} {attempts : Nat}
    {Known : World Id PublicKey → Prop} {Ready Done : Value → World Id PublicKey → Prop}
    (known : Durable platform Known) (durable : ∀ value, Durable platform (Done value))
    (body : Triple (World.perform platform) (accounts platform) index
      (Holding index request (· = some Session.empty) Known) exec Ready
      fun _ => Holding index request (fun _ => True) Known)
    (commits : ∀ value, Triple (World.perform platform) (accounts platform) index (Ready value)
      (tell .commitTransaction : Task Id PublicKey Unit)
      (fun _ => Holding index request (fun _ => True) (Done value))
      fun _ => Holding index request (fun _ => True) Known) :
    Triple (World.perform platform) (accounts platform) index
      (Holding index request (fun _ => True) Known) (DbUtil.transaction attempts exec)
      (fun value => Holding index request (fun _ => True) (Done value))
      fun _ => Active index request := by
  have begins : Triple (World.perform platform) (accounts platform) index
      (Holding index request (fun _ => True) Known)
      (tell .startTransaction : Task Id PublicKey Unit)
      (fun _ => Holding index request (· = some Session.empty) Known)
      fun _ => Holding index request (fun _ => True) Known := by
    apply known.call (by exact trivial)
    intro store session choice reply next after _ responded
    obtain ⟨started, value, replied⟩ := session_of_startTransaction responded
    subst replied
    exact started
  apply transaction_triple (fails_active (known.control (by exact trivial))) begins body commits
  · exact known.control (by exact trivial)
  · exact fun value => fails_active ((durable value).control (by exact trivial))
  · exact from_active (durable_true.control (by exact trivial))

/-- The session inserts the row. -/
def InsertsRow (shelf : Shelf) (id : Id) (userId : String) (session : Option (Session Id)) : Prop :=
  ∃ pending, session = some pending ∧ ∃ write ∈ pending.writes,
    write.inserts = some (shelf, ⟨id, userId, false⟩)

/-- A staged write keeps the row that the session inserts. -/
theorem InsertsRow.stage {shelf : Shelf} {id : Id} {userId : String} {pending : Session Id}
    (inserts : InsertsRow shelf id userId (some pending)) (store : Store Id)
    (plan : Database Id → Option (Write Id)) :
    InsertsRow shelf id userId (some (pending.stage store plan)) := by
  obtain ⟨current, isOpen, write, member, inserted⟩ := inserts
  cases isOpen
  exact ⟨_, rfl, write, List.mem_append_left _ member, inserted⟩

/-- Staging an insertion makes the session insert its row. -/
theorem insertsRow_staged {shelf : Shelf} {id : Id} {userId : String} (pending : Session Id)
    (store : Store Id) {write : Write Id}
    (inserted : write.inserts = some (shelf, ⟨id, userId, false⟩)) :
    InsertsRow shelf id userId (some (pending.stage store fun _ => some write)) :=
  ⟨_, rfl, write, List.mem_append_right _ List.mem_cons_self, inserted⟩

/-- A committed row of a request that deletes nothing is stored. -/
theorem commit_stores (posts : ∀ userId text, request.body ≠ deleteBody .keys userId text)
    (shelf : Shelf) (id : Id) (userId : String) :
    Triple (World.perform platform) (accounts platform) index
      (Holding index request (InsertsRow shelf id userId) fun _ => True)
      (tell .commitTransaction : Task Id PublicKey Unit)
      (fun _ => Holding index request (fun _ => True) fun world =>
        Held platform world shelf id userId)
      fun _ => Active index request := by
  apply Triple.call durable_true.stable
  · intro world _ holding
    exact permits_of_running holding.1 (by exact trivial)
  · intro world choice reply next accounted holding _ performed _
    have running : Active index request next :=
      durable_true.holding (by exact trivial) accounted performed (fun _ _ _ _ => trivial) holding
    cases reply with
    | error failure => exact running
    | ok value =>
        refine ⟨running.1, ?_⟩
        obtain ⟨task, found, asked, pending, isOpen, write, member, inserts⟩ := holding.1
        obtain ⟨current, session, same, responded, locals⟩ := perform_inv performed
        rw [found, Option.some.injEq] at same
        subst same
        have now := (congrFun locals index).trans (Function.update_self _ _ _)
        obtain ⟨committed, opened, -, stored⟩ := commit_ok responded
        rw [isOpen, Option.some.injEq] at opened
        subst opened
        rcases owners_applyAll_inserted member inserts with present | deleted
        · left
          rw [stored]
          exact present
        · obtain ⟨other, deletion, deletes⟩ := deleted
          have accountable := accounted.sessions index task pending found isOpen
          obtain ⟨-, isDelete, -⟩ := (accountable.acts other deletion).deleted deletes
          subst isDelete
          obtain ⟨text, -, isDeletion, -⟩ := accountable.deletes id deletion
          rw [asked] at isDeletion
          exact absurd isDeletion (posts _ text)

/-- A command that creates a row inserts it in the session. -/
theorem create_inserts {command : Command Id} {shelf : Shelf} {userId : String}
    {drawn : Result PublicKey command → Id}
    (permits : request.body.Permits platform (fun _ => True) (.act command))
    (created : ∀ store session choice value next after,
      respond platform store session (.act command) choice = some (.ok value, next, after) →
        ∃ (pending : Session Id) (write : Write Id),
          write.inserts = some (shelf, ⟨drawn value, userId, false⟩) ∧
          after = some (pending.stage store fun _ => some write)) :
    Triple (World.perform platform) (accounts platform) index (Active index request)
      (tell command : Task Id PublicKey (Result PublicKey command))
      (fun value => Holding index request (InsertsRow shelf (drawn value) userId) fun _ => True)
      fun _ => Active index request := by
  apply durable_true.call permits
  intro store session choice reply next after _ responded
  cases reply with
  | error failure => exact trivial
  | ok value =>
      obtain ⟨pending, write, inserts, staged⟩ := created _ _ _ _ _ _ responded
      rw [staged]
      exact insertsRow_staged pending store inserts

/-- Creating a file leaves a session that inserts its row. -/
theorem filesCreate_inserts {userId : String} {publicKeyId : Ref Id} {fileName mimeType hash : String}
    {attachement : Bytes}
    (asked : request.body = .postFile userId publicKeyId fileName mimeType attachement) :
    Triple (World.perform platform) (accounts platform) index (Active index request)
      (FilesModel.create userId fileName mimeType hash : Task Id PublicKey Id)
      (fun id => Holding index request (InsertsRow .files id userId) fun _ => True)
      fun _ => Active index request := by
  apply guarded_triple
  apply create_inserts
  · rw [asked]
    exact ⟨trivial, _, _, rfl⟩
  · intro store session choice value next after responded
    obtain ⟨-, -, pending, -, staged⟩ := filesCreate_ok responded
    exact ⟨pending, _, rfl, staged⟩

/-- Creating a key leaves a session that inserts its row. -/
theorem keysCreate_inserts {userId : String} {publicKey : Option String}
    (asked : request.body = .postKey userId publicKey) :
    Triple (World.perform platform) (accounts platform) index (Active index request)
      (KeysModel.create userId : Task Id PublicKey Id)
      (fun id => Holding index request (InsertsRow .keys id userId) fun _ => True)
      fun _ => Active index request := by
  apply guarded_triple
  apply create_inserts
  · rw [asked]
    exact ⟨_, rfl⟩
  · intro store session choice value next after responded
    obtain ⟨-, -, pending, -, staged⟩ := keysCreate_ok responded
    exact ⟨pending, _, rfl, staged⟩

/-- Encrypting seals the content under some key. -/
theorem encrypt_seals (publicKey buffer : Bytes) :
    Triple (World.perform platform) (accounts platform) index (Active index request)
      (CryptoUtil.encrypt platform publicKey buffer)
      (fun data world => (∃ key, platform.encrypt key buffer = data) ∧ Active index request world)
      fun _ => Active index request := by
  rw [CryptoUtil.encrypt]
  cases platform.importDer publicKey with
  | some key => exact Triple.pure fun _ _ active => ⟨⟨key, rfl⟩, active⟩
  | none => exact Triple.throw fun _ _ active => active

/-- The acknowledged file is stored. -/
theorem postFile_commits {attempts : Nat} {userId : String} {publicKeyId : Ref Id}
    {fileName mimeType : String} {attachement : Bytes}
    (asked : request.body = .postFile userId publicKeyId fileName mimeType attachement) :
    Triple (World.perform platform) (accounts platform) index (Active index request)
      (FilesCore.postFile platform attempts userId publicKeyId fileName mimeType attachement)
      (fun id => Holding index request (fun _ => True) fun world =>
        Held platform world .files id userId)
      fun _ => Active index request := by
  have quiet : Quiet platform (accounts platform) index (Active index request) :=
    durable_true.quiet
  apply accounts_transaction durable_true (fun id => durable_held .files id userId) _
    fun id => commit_stores (by rw [asked]; nofun) .files id userId
  apply from_active
  apply Triple.bind (quiet.getTargetUser userId)
  intro user
  apply Triple.assume
  intro named
  apply Triple.bind (quiet.usersCheckLocked user.userId)
  intro _
  apply Triple.bind (quiet.getKey userId publicKeyId)
  intro found
  apply Triple.bind present_keeps
  intro key
  apply Triple.bind (pem2der_keeps key.2)
  intro derPublicKey
  apply Triple.bind (encrypt_seals derPublicKey attachement)
  intro ipfsData
  apply Triple.assume
  rintro ⟨sealer, encrypted⟩
  apply Triple.bind (ipfsAdd_triple (durable_true.calm
    (by rw [asked]; exact ⟨sealer, attachement, .inl ⟨_, _, _, _, rfl⟩, encrypted⟩) rfl))
  intro ipfsPath
  rw [named]
  apply Triple.bind (filesCreate_inserts asked)
  intro fileId
  apply Triple.bind (fails_active (guarded_triple (durable_true.calm
    (by rw [asked]; exact ⟨trivial, .inl ⟨_, _, _, _, _, rfl⟩⟩) rfl)))
  intro _
  apply Triple.bind (fails_active (durable_true.calm (by exact trivial) rfl))
  intro _
  exact Triple.pure fun _ _ holds => holds

/-- An update of the user stages at most one more write. -/
theorem session_of_usersUpdateOne {store next : Store Id} {session after : Option (Session Id)}
    {userId : String} {keysId : Option String} {choice : Choice Id PublicKey}
    {reply : Except Failure (Reply PublicKey (.act (.usersUpdateOne userId keysId)))}
    (responded : respond platform store session (.act (.usersUpdateOne userId keysId)) choice =
      some (reply, next, after)) :
    after = session ∨ ∃ pending plan, session = some pending ∧
      after = some (pending.stage store plan) := by
  rcases respond_act responded with fails | acts
  · obtain ⟨failure, -, -, -, -, kept⟩ := fails
    exact .inl kept
  · have staging := proceeding_eq_some acts
    cases session with
    | none =>
        cases staging
        exact .inl rfl
    | some pending =>
        cases staging
        exact .inr ⟨pending, _, rfl, rfl⟩

/-- Updating the user keeps the row that the session inserts. -/
theorem usersUpdateOne_inserts {userId : String} {publicKey keysId : Option String} {shelf : Shelf}
    {id : Id} (asked : request.body = .postKey userId publicKey) :
    Triple (World.perform platform) (accounts platform) index
      (Holding index request (InsertsRow shelf id userId) fun _ => True)
      (UsersModel.updateOne userId keysId : Task Id PublicKey Bool)
      (fun _ => Holding index request (InsertsRow shelf id userId) fun _ => True)
      fun _ => Active index request := by
  apply guarded_triple
  apply fails_active
  apply durable_true.call
  · rw [asked]
    exact .inl ⟨_, rfl⟩
  · intro store session choice reply next after inserts responded
    have kept : InsertsRow shelf id userId after := by
      rcases session_of_usersUpdateOne responded with same | staged
      · rw [same]
        exact inserts
      · obtain ⟨pending, plan, isOpen, result⟩ := staged
        rw [result]
        rw [isOpen] at inserts
        exact inserts.stage store plan
    cases reply with
    | ok value => exact kept
    | error failure => exact kept

/-- The acknowledged key is stored. -/
theorem postKey_commits {attempts : Nat} {userId : String} {publicKey : Option String}
    (asked : request.body = .postKey userId publicKey) :
    Triple (World.perform platform) (accounts platform) index (Active index request)
      (KeysCore.postKey platform attempts userId publicKey)
      (fun id => Holding index request (fun _ => True) fun world =>
        Held platform world .keys id userId)
      fun _ => Active index request := by
  have quiet : Quiet platform (accounts platform) index (Active index request) :=
    durable_true.quiet
  apply accounts_transaction durable_true (fun id => durable_held .keys id userId) _
    fun id => commit_stores (by rw [asked]; nofun) .keys id userId
  apply from_active
  apply Triple.bind (checkConflict_keeps quiet.ask_any)
  intro _
  apply Triple.bind (keysCreate_inserts asked)
  intro publicKeyId
  apply Triple.bind (usersUpdateOne_inserts asked)
  intro ok
  apply Triple.bind (fails_active failIf_keeps)
  intro _
  apply Triple.bind (fails_active present_value)
  intro key
  apply Triple.assume
  intro same
  apply Triple.bind (fails_active (guarded_triple (durable_true.calm
    (by rw [asked, same]; exact ⟨_, .inl rfl⟩) rfl)))
  intro _
  apply Triple.bind (fails_active (durable_true.calm (by exact trivial) rfl))
  intro _
  exact Triple.pure fun _ _ holds => holds

/-- The text names an identifier that was drawn for the user and is not pending. -/
def SettledText (platform : Platform Id PublicKey) (text userId : String)
    (world : World Id PublicKey) : Prop :=
  ∃ id, platform.castId text = some id ∧ Settled world id userId

/-- The text names an identifier without a row. -/
def GoneText (platform : Platform Id PublicKey) (shelf : Shelf) (text userId : String)
    (world : World Id PublicKey) : Prop :=
  ∃ id, platform.castId text = some id ∧ Gone world shelf id userId

/-- A settled identifier text is durable. -/
theorem durable_settledText (text userId : String) :
    Durable platform (SettledText platform text userId : World Id PublicKey → Prop) where
  performed := by
    intro world index op choice reply next accounted permits performed fact
    obtain ⟨id, cast, settled⟩ := fact
    exact ⟨id, cast, settled.performed performed⟩
  enrolled := by
    intro world index request free fact
    obtain ⟨id, cast, settled⟩ := fact
    exact ⟨id, cast, (durable_settled id userId).enrolled world index request free settled⟩

/-- A text whose row is gone is durable. -/
theorem durable_goneText (shelf : Shelf) (text userId : String) :
    Durable platform (GoneText platform shelf text userId : World Id PublicKey → Prop) where
  performed := by
    intro world index op choice reply next accounted permits performed fact
    obtain ⟨id, cast, gone⟩ := fact
    exact ⟨id, cast, gone.performed performed⟩
  enrolled := by
    intro world index request free fact
    obtain ⟨id, cast, gone⟩ := fact
    exact ⟨id, cast, (durable_gone shelf id userId).enrolled world index request free gone⟩

/-- A file that exists has its owner settled. -/
theorem filesExists_settles (fileId userId : String) :
    Triple (World.perform platform) (accounts platform) index (Active index request)
      (FilesModel.checkNotFound fileId userId : Task Id PublicKey Unit)
      (fun _ => Holding index request (fun _ => True) (SettledText platform fileId userId))
      fun _ => Active index request := by
  have asks : Triple (World.perform platform) (accounts platform) index (Active index request)
      (ask (.filesExists fileId userId) : Task Id PublicKey Bool)
      (fun found world => (found = true → SettledText platform fileId userId world) ∧
        Active index request world)
      fun _ => Active index request := by
    apply durable_true.quiet.ask
    intro world choice value next accounted _ _ performed isFound
    subst isFound
    obtain ⟨row, found⟩ := filesExists_true (answer_of_perform performed)
    obtain ⟨cast, member, owned⟩ := Database.findFile_some found
    rcases owned with free | same
    · cases free
    · refine ⟨row.id, cast, ?_⟩
      rw [Option.some.inj same]
      exact (accounted.settled (Database.file_owner member)).performed performed
  apply (checkFound_triple asks fun _ _ holds => holds.2).conseq
  · exact fun _ _ holds => holds
  · exact fun _ _ _ holds => ⟨holds.2.1, holds.1 rfl⟩
  · exact fun _ _ _ holds => holds

/-- A search without a result shows that the user has no such file. -/
theorem findFile_none {database : Database Id} {fileId userId : String} {id : Id}
    (missing : database.findFile platform fileId (some userId) = .ok none)
    (cast : platform.castId fileId = some id) :
    ∀ row ∈ database.files, row.id = id → row.userId ≠ userId := by
  intro row member sameId sameUser
  rw [Database.findFile, cast] at missing
  have absent := List.find?_eq_none.mp (Except.ok.inj missing) row member
  apply absent
  rw [sameId, sameUser]
  exact decide_eq_true ⟨rfl, .inr rfl⟩

/-- The deletion removes the file at once if it is still there. -/
theorem filesDeleteOne_ok {store next : Store Id} {session after : Option (Session Id)}
    {fileId userId : String} {choice : Choice Id PublicKey} {value : Bool}
    (responded : respond platform store session (.act (.filesDeleteOne fileId userId)) choice =
      some (.ok value, next, after)) :
    (store.database.findFile platform fileId (some userId) = .ok none ∧ next = store) ∨
      ∃ row, store.database.findFile platform fileId (some userId) = .ok (some row) ∧
        next = store.commit [.deleteFile row.id] := by
  have deleted := proceeding_eq_some (act_of_respond responded)
  cases searched : store.database.findFile platform fileId (some userId) with
  | error failure =>
      rw [searched] at deleted
      cases deleted
  | ok found =>
      rw [searched] at deleted
      cases found with
      | none =>
          cases deleted
          exact .inl ⟨rfl, rfl⟩
      | some row =>
          cases deleted
          exact .inr ⟨row, rfl, rfl⟩

/-- After its deletion no row has the identifier of the file. -/
theorem filesDeleteOne_removes {fileId userId : String}
    (asked : request.body = .deleteFile userId fileId) :
    Triple (World.perform platform) (accounts platform) index
      (Holding index request (fun _ => True) (SettledText platform fileId userId))
      (FilesModel.deleteOne fileId userId : Task Id PublicKey Bool)
      (fun _ => Holding index request (fun _ => True) (GoneText platform .files fileId userId))
      fun _ => Active index request := by
  have permits : request.body.Permits platform (fun _ => True) (.act (.filesDeleteOne fileId userId)) := by
    rw [asked]
    exact rfl
  apply Triple.call (durable_settledText fileId userId).stable
  · intro world _ holding
    exact permits_of_running holding.1 permits
  · intro world choice reply next accounted holding _ performed _
    have kept := (durable_settledText fileId userId).holding permits accounted performed
      (fun _ _ _ _ => trivial) holding
    cases reply with
    | error failure => exact kept.active
    | ok value =>
        refine ⟨kept.1, ?_⟩
        obtain ⟨id, cast, settled⟩ := holding.2
        refine ⟨id, cast, settled.performed performed, ?_⟩
        intro owner member same
        obtain ⟨task, session, found, responded, -⟩ := perform_inv performed
        exfalso
        rcases filesDeleteOne_ok responded with missing | removed
        · obtain ⟨search, unchanged⟩ := missing
          rw [unchanged] at member
          obtain ⟨row, present, isOwner⟩ := List.mem_map.mp member
          subst isOwner same
          have drawn := accounted.owned .files _ (Database.file_owner present)
          exact findFile_none search cast row present rfl
            (accounted.user_unique drawn settled.drawn)
        · obtain ⟨row, search, result⟩ := removed
          have rowCast := (Database.findFile_some search).1
          rw [cast, Option.some.injEq] at rowCast
          subst rowCast
          rw [result] at member
          have deletes : (Write.deleteFile row.id).deletes = some (Shelf.files, row.id) := rfl
          exact owners_of_delete deletes owner member same

/-- A commit keeps what is known of the world. -/
theorem commit_keeps (durable : Durable platform Fact) :
    Triple (World.perform platform) (accounts platform) index
      (Holding index request (fun _ => True) Fact)
      (tell .commitTransaction : Task Id PublicKey Unit)
      (fun _ => Holding index request (fun _ => True) Fact) fun _ => Active index request :=
  fails_active (durable.control (by exact trivial))

/-- The deleted file is gone. -/
theorem deleteFile_removes {attempts : Nat} {userId fileId : String}
    (asked : request.body = .deleteFile userId fileId) :
    Triple (World.perform platform) (accounts platform) index (Active index request)
      (FilesCore.deleteFile attempts userId fileId : Task Id PublicKey Unit)
      (fun _ => Holding index request (fun _ => True) (GoneText platform .files fileId userId))
      fun _ => Active index request := by
  have quiet : Quiet platform (accounts platform) index (Active index request) :=
    durable_true.quiet
  have gone : Durable platform (GoneText platform .files fileId userId) := durable_goneText _ _ _
  apply accounts_transaction durable_true (fun _ => gone) _ fun _ => commit_keeps gone
  apply from_active
  apply Triple.bind (quiet.getTargetUser userId)
  intro user
  apply Triple.assume
  intro named
  apply Triple.bind (guarded_triple quiet.ask_any)
  intro _
  rw [named]
  apply Triple.bind (filesExists_settles fileId userId)
  intro _
  apply Triple.bind
    (fails_active ((durable_settledText fileId userId).quiet.filesCheckLocked fileId))
  intro _
  apply Triple.bind (filesDeleteOne_removes asked)
  intro ok
  exact fails_active failIf_keeps

/-- A key that exists has its owner settled. -/
theorem keysExists_settles {InSuch : Option (Session Id) → Prop} (publicKeyId userId : String) :
    Triple (World.perform platform) (accounts platform) index
      (Holding index request InSuch fun _ => True)
      (KeysModel.checkNotFound (KeysCore.condition userId (.text publicKeyId)) :
        Task Id PublicKey Unit)
      (fun _ => Holding index request InSuch (SettledText platform publicKeyId userId))
      fun _ => Active index request := by
  have asks : Triple (World.perform platform) (accounts platform) index
      (Holding index request InSuch fun _ => True)
      (ask (.keysExists (KeysCore.condition userId (.text publicKeyId))) : Task Id PublicKey Bool)
      (fun found world => (found = true → SettledText platform publicKeyId userId world) ∧
        Holding index request InSuch (fun _ => True) world)
      fun _ => Holding index request InSuch fun _ => True := by
    apply durable_true.quiet.ask
    intro world choice value next accounted _ _ performed isFound
    subst isFound
    obtain ⟨found, searched, isSome⟩ := keysExists_eq_ok (answer_of_perform performed)
    obtain ⟨row, same⟩ := Option.isSome_iff_exists.mp isSome
    subst same
    obtain ⟨cast, owned, member, -⟩ := key_of_findKey searched
    refine ⟨row.id, cast, ?_⟩
    rw [← owned]
    exact (accounted.settled (Database.key_owner member)).performed performed
  apply (checkFound_triple asks fun _ _ holds => holds.2).conseq
  · exact fun _ _ holds => holds
  · exact fun _ _ _ holds => ⟨holds.2.1, holds.1 rfl⟩
  · exact fun _ _ _ holds => holds.active

/-- The key is gone, or the session deletes it. -/
def Removing (platform : Platform Id PublicKey) (index : Nat) (request : Request Id)
    (text userId : String) (world : World Id PublicKey) : Prop :=
  ∃ task id, world.locals index = some task ∧ task.request = request ∧
    platform.castId text = some id ∧ Settled world id userId ∧
    (Gone world .keys id userId ∨
      ∃ pending, task.session = some pending ∧ .deleteKey id ∈ pending.writes)

omit [DecidableEq Id] in
/-- A request that removes a row is running. -/
theorem Removing.running {text userId : String} {world : World Id PublicKey}
    (removing : Removing platform index request text userId world) :
    Running index request world := by
  obtain ⟨task, -, found, asked, -⟩ := removing
  exact ⟨task, found, asked, trivial⟩

/-- The removal of a row is kept by the other requests. -/
theorem removing_stable (text userId : String) :
    (accounts platform).Stable index (Removing platform index request text userId) := by
  intro world current spares _ removing
  obtain ⟨task, id, found, asked, cast, settled, removes⟩ := removing
  refine ⟨task, id, spares.same.trans found, asked, cast,
    spares.facts _ (durable_settled id userId) settled, ?_⟩
  rcases removes with gone | staged
  · exact .inl (spares.facts _ (durable_gone .keys id userId) gone)
  · exact .inr staged

/-- A search without a result shows that the user has no such key but for recovery. -/
theorem findKey_none {database : Database Id} {text userId : String} {id : Id}
    (missing : database.findKey platform (KeysCore.condition userId (.text text)) = .ok none)
    (cast : platform.castId text = some id) :
    ∀ row ∈ database.keys, row.id = id → row.userId = userId → row.forRecovery = true := by
  intro row member sameId sameUser
  have resolved : ((KeysCore.condition userId (.text text)).id.getD .missing).resolve platform =
      .ok (some id) := by
    show (Ref.text text : Ref Id).resolve platform = .ok (some id)
    rw [Ref.resolve, cast]
  rw [Database.findKey, resolved] at missing
  have absent := List.find?_eq_none.mp (Except.ok.inj missing) row member
  by_contra live
  apply absent
  apply decide_eq_true
  refine ⟨.inr (congrArg some sameId.symm), .inr (congrArg some sameUser.symm), ?_⟩
  intro _
  exact Bool.eq_false_iff.mpr live

/-- The first write of the session deletes the key that is there. -/
theorem keysDeleteOne_ok {store next : Store Id} {after : Option (Session Id)}
    {condition : KeyCondition Id} {choice : Choice Id PublicKey} {value : Bool}
    (responded : respond platform store (some Session.empty) (.act (.keysDeleteOne condition))
      choice = some (.ok value, next, after)) :
    next = store ∧ (store.database.findKey platform condition = .ok none ∨
      ∃ row pending, store.database.findKey platform condition = .ok (some row) ∧
        after = some pending ∧ .deleteKey row.id ∈ pending.writes) := by
  have staging := proceeding_eq_some (act_of_respond responded)
  simp only [stagedFound] at staging
  split at staging
  · cases staging
  · rename_i found searched
    cases staging
    refine ⟨rfl, ?_⟩
    cases found with
    | none => exact .inl searched
    | some row =>
        refine .inr ⟨row, _, searched, rfl, ?_⟩
        apply List.mem_append_right
        show Write.deleteKey row.id ∈
          (((store.database.findKey platform condition).toOption.join).map
            fun row => Write.deleteKey row.id).toList
        rw [searched]
        exact List.mem_cons_self

/-- Deleting a key leaves a session that removes its row. -/
theorem keysDeleteOne_removes {publicKeyId userId : String}
    (asked : request.body = .deleteKey userId publicKeyId) :
    Triple (World.perform platform) (accounts platform) index
      (Holding index request (· = some Session.empty) (SettledText platform publicKeyId userId))
      (KeysModel.deleteOne (KeysCore.condition userId (.text publicKeyId)) :
        Task Id PublicKey Bool)
      (fun _ => Removing platform index request publicKeyId userId)
      fun _ => Active index request := by
  have permits : request.body.Permits platform (fun _ => True)
      (.act (.keysDeleteOne (KeysCore.condition userId (.text publicKeyId)))) := by
    rw [asked]
    exact ⟨_, _, rfl, rfl⟩
  apply Triple.call (durable_settledText publicKeyId userId).stable
  · intro world _ holding
    exact permits_of_running holding.1 permits
  · intro world choice reply next accounted holding _ performed _
    cases reply with
    | error failure =>
        exact ((durable_settledText publicKeyId userId).holding permits accounted performed
          (fun _ _ _ _ => trivial) holding).active
    | ok value =>
        obtain ⟨task, found, asks, isOpen⟩ := holding.1
        obtain ⟨id, cast, settled⟩ := holding.2
        obtain ⟨current, session, same, responded, locals⟩ := perform_inv performed
        rw [found, Option.some.injEq] at same
        subst same
        have now := (congrFun locals index).trans (Function.update_self _ _ _)
        have opened : task.session = some Session.empty := isOpen
        rw [opened] at responded
        obtain ⟨unchanged, removes⟩ := keysDeleteOne_ok responded
        refine ⟨_, id, now, asks, cast, settled.performed performed, ?_⟩
        rcases removes with missing | ⟨row, pending, search, staged, deletes⟩
        · refine .inl ⟨settled.performed performed, ?_⟩
          intro owner member isId
          rw [unchanged] at member
          obtain ⟨row, present, isOwner⟩ := List.mem_map.mp member
          subst isOwner isId
          have drawn := accounted.owned .keys _ (Database.key_owner present)
          exact findKey_none missing cast row present rfl
            (accounted.user_unique drawn settled.drawn)
        · have rowCast := (key_of_findKey search).1
          rw [cast, Option.some.injEq] at rowCast
          subst rowCast
          exact .inr ⟨pending, staged, deletes⟩

/-- Updating the user keeps the removal of the row. -/
theorem usersUpdateOne_removing {publicKeyId userId : String}
    (asked : request.body = .deleteKey userId publicKeyId) :
    Triple (World.perform platform) (accounts platform) index
      (Removing platform index request publicKeyId userId)
      (UsersModel.updateOne userId none : Task Id PublicKey Bool)
      (fun _ => Removing platform index request publicKeyId userId)
      fun _ => Active index request := by
  have permits : request.body.Permits platform (fun _ => True) (.act (.usersUpdateOne userId none)) := by
    rw [asked]
    exact .inr ⟨rfl, _, rfl⟩
  apply guarded_triple
  apply Triple.call (removing_stable publicKeyId userId)
  · intro world _ removing
    exact permits_of_running removing.running permits
  · intro world choice reply next accounted removing _ performed _
    obtain ⟨task, id, found, asks, cast, settled, removes⟩ := removing
    obtain ⟨current, session, same, responded, locals⟩ := perform_inv performed
    rw [found, Option.some.injEq] at same
    subst same
    have now := (congrFun locals index).trans (Function.update_self _ _ _)
    have request : (task.after session world.store.log.length _ reply).request = request := by
      rw [Local.request_after, asks]
    cases reply with
    | error failure => exact ⟨⟨_, now, request, trivial⟩, trivial⟩
    | ok value =>
        refine ⟨_, id, now, request, cast, settled.performed performed, ?_⟩
        rcases removes with gone | ⟨pending, isOpen, deletes⟩
        · exact .inl (gone.performed performed)
        · right
          rcases session_of_usersUpdateOne responded with kept | ⟨waiting, plan, opened, staged⟩
          · exact ⟨pending, kept.trans isOpen, deletes⟩
          · rw [isOpen, Option.some.injEq] at opened
            subst opened
            exact ⟨_, staged, List.mem_append_left _ deletes⟩

/-- A committed deletion leaves no row with the identifier of the key. -/
theorem commit_removes (publicKeyId userId : String) :
    Triple (World.perform platform) (accounts platform) index
      (Removing platform index request publicKeyId userId)
      (tell .commitTransaction : Task Id PublicKey Unit)
      (fun _ => Holding index request (fun _ => True) (GoneText platform .keys publicKeyId userId))
      fun _ => Active index request := by
  apply Triple.call (removing_stable publicKeyId userId)
  · intro world _ removing
    exact permits_of_running removing.running (by exact trivial)
  · intro world choice reply next accounted removing _ performed _
    have running : Active index request next :=
      durable_true.holding (by exact trivial) accounted performed (fun _ _ _ _ => trivial)
        ⟨removing.running, trivial⟩
    cases reply with
    | error failure => exact running
    | ok value =>
        refine ⟨running.1, ?_⟩
        obtain ⟨task, id, found, asks, cast, settled, removes⟩ := removing
        refine ⟨id, cast, ?_⟩
        rcases removes with gone | ⟨pending, isOpen, deletes⟩
        · exact gone.performed performed
        · refine ⟨settled.performed performed, ?_⟩
          obtain ⟨current, session, same, responded, locals⟩ := perform_inv performed
          rw [found, Option.some.injEq] at same
          subst same
          obtain ⟨committed, opened, -, result⟩ := commit_ok responded
          rw [isOpen, Option.some.injEq] at opened
          subst opened
          intro owner member isId
          rw [result] at member
          have absent : ∀ owner ∈ (world.store.database.applyAll pending.writes).owners .keys,
              owner.id ≠ id := by
            apply owners_applyAll_deleted deletes rfl
            intro other present new inserts isNew
            exact settled.unstaged index ⟨task, pending, found, isOpen,
              Session.mem_newIds.mpr ⟨other, present, .keys, new, inserts, isNew⟩⟩
          exact absurd isId (absent owner member)

/-- The deleted key is gone. -/
theorem deleteKey_removes {attempts : Nat} {userId publicKeyId : String}
    (asked : request.body = .deleteKey userId publicKeyId) :
    Triple (World.perform platform) (accounts platform) index (Active index request)
      (KeysCore.deleteKey attempts userId publicKeyId : Task Id PublicKey Unit)
      (fun _ => Holding index request (fun _ => True) (GoneText platform .keys publicKeyId userId))
      fun _ => Active index request := by
  apply accounts_transaction durable_true (fun _ => durable_goneText .keys publicKeyId userId) _
    fun _ => commit_removes publicKeyId userId
  apply Triple.bind (keysExists_settles publicKeyId userId)
  intro _
  apply Triple.bind (fails_active
    ((durable_settledText publicKeyId userId).quiet.keysCheckLocked (.text publicKeyId)))
  intro _
  apply Triple.bind (keysDeleteOne_removes asked)
  intro _
  apply Triple.bind (usersUpdateOne_removing asked)
  intro ok
  apply failIf_triple
  · exact fun _ _ _ holds => holds
  · exact fun _ _ _ holds => ⟨holds.running, trivial⟩

/-- Every request performs permitted operations only. -/
theorem program_active (request : Request Id) :
    Triple (World.perform platform) (accounts platform) index (Active index request)
      (request.program platform) (fun _ => Active index request)
      fun _ => Active index request := by
  have obeys : (request.program platform).Obeys
      (protocol platform Evidence.any (fun _ => True) request.body)
      (request.body.Suits platform Evidence.any)
      (Listed (fun _ => True) request.body.errors) := program_obeys platform request
  apply (obeys.triple durable_true.stable _ _).conseq
  · exact fun _ _ holds => holds
  · exact fun _ _ _ holds => holds.2
  · exact fun _ _ _ holds => holds.2
  · intro op world permits _ active
    exact permits_of_running active.1 permits
  · intro op choice world reply next permits accounted active _ performed _
    refine ⟨?_, durable_true.holding permits accounted performed (fun _ _ _ _ => trivial) active⟩
    cases reply with
    | error failure => exact .inr trivial
    | ok value =>
        obtain ⟨task, session, -, responded, -⟩ := perform_inv performed
        exact truthful_of_respond (Evidence.any_knows platform _) responded fun _ _ => trivial

/-- What a response says about the rows of its user. -/
def Body.Acknowledged (platform : Platform Id PublicKey) (body : Body Id) (response : Response Id)
    (world : World Id PublicKey) : Prop :=
  match body with
  | .postFile userId _ _ _ _ => ∃ id, response = .fileId id ∧ Held platform world .files id userId
  | .postKey userId _ => ∃ id, response = .publicKeyId id ∧ Held platform world .keys id userId
  | .deleteFile userId fileId => GoneText platform .files fileId userId world
  | .deleteKey userId publicKeyId => GoneText platform .keys publicKeyId userId world
  | _ => True

/-- A durable fact is durable for some witness. -/
theorem Durable.exists {Witness : Type} {Fact : Witness → World Id PublicKey → Prop}
    {Suits : Witness → Prop} (durable : ∀ witness, Durable platform (Fact witness)) :
    Durable platform fun world => ∃ witness, Suits witness ∧ Fact witness world where
  performed := by
    intro world index op choice reply next accounted permits performed fact
    obtain ⟨witness, suits, fact⟩ := fact
    exact ⟨witness, suits,
      (durable witness).performed _ _ _ _ _ _ accounted permits performed fact⟩
  enrolled := by
    intro world index request free fact
    obtain ⟨witness, suits, fact⟩ := fact
    exact ⟨witness, suits, (durable witness).enrolled world index request free fact⟩

/-- What an acknowledged request asserts is durable. -/
theorem durable_acknowledged (body : Body Id) (response : Response Id) :
    Durable platform (body.Acknowledged platform response) := by
  cases body with
  | postFile userId publicKeyId fileName mimeType attachement =>
      exact .exists fun id => durable_held .files id userId
  | postKey userId publicKey => exact .exists fun id => durable_held .keys id userId
  | deleteFile userId fileId => exact durable_goneText .files fileId userId
  | deleteKey userId publicKeyId => exact durable_goneText .keys publicKeyId userId
  | getFile userId fileId => exact durable_true
  | putFile userId fileId fileName mimeType attachement => exact durable_true
  | getKey userId publicKeyId => exact durable_true
  | putKey userId publicKeyId publicKey => exact durable_true

/-- Every request keeps the word of its response. -/
theorem program_acknowledges (request : Request Id) :
    Triple (World.perform platform) (accounts platform) index (Active index request)
      (request.program platform)
      (fun response => Holding index request (fun _ => True)
        (request.body.Acknowledged platform response))
      fun _ => Active index request := by
  have active : Triple (World.perform platform) (accounts platform) index (Active index request)
      (request.program platform) (fun _ => Active index request) fun _ => Active index request :=
    program_active request
  obtain ⟨attempts, body⟩ := request
  cases body with
  | postFile userId publicKeyId fileName mimeType attachement =>
      apply Triple.bind (postFile_commits rfl)
      intro id
      exact Triple.pure fun _ _ holds => ⟨holds.1, id, rfl, holds.2⟩
  | postKey userId publicKey =>
      apply Triple.bind (postKey_commits rfl)
      intro id
      exact Triple.pure fun _ _ holds => ⟨holds.1, id, rfl, holds.2⟩
  | deleteFile userId fileId =>
      apply Triple.bind (deleteFile_removes rfl)
      intro _
      exact Triple.pure fun _ _ holds => holds
  | deleteKey userId publicKeyId =>
      apply Triple.bind (deleteKey_removes rfl)
      intro _
      exact Triple.pure fun _ _ holds => holds
  | getFile userId fileId => exact active
  | putFile userId fileId fileName mimeType attachement => exact active
  | getKey userId publicKeyId => exact active
  | putKey userId publicKeyId publicKey => exact active

/-- A finished request keeps its word. -/
def Acknowledges (platform : Platform Id PublicKey) (index : Nat)
    (outcome : Except Failure (Response Id)) (world : World Id PublicKey) : Prop :=
  ∃ request, Running index request world ∧
    ∀ response, outcome = .ok response → request.body.Acknowledged platform response world

/-- Enrolling a request keeps the accounts. -/
theorem Accounted.enrolled {world : World Id PublicKey} (accounted : Accounted platform world)
    (index : Nat) (request : Request Id) :
    Accounted platform ((runtime platform).enroll index request world) where
  distinct := accounted.distinct
  owned := accounted.owned
  sessions := by
    intro other task pending found
    apply forall_update_some _ _ other task found
    · intro isOpen
      cases isOpen
    · exact fun another current _ present => accounted.sessions another current pending present
  absent other id waits := accounted.absent other id (waits_enrolled waits)
  apart first second id left right :=
    accounted.apart first second id (waits_enrolled left) (waits_enrolled right)

/-- Every request starts in settled accounts. -/
theorem accounts_starts (platform : Platform Id PublicKey) :
    (accounts platform).Starts (runtime platform) (Acknowledges platform) fun _ => True where
  invariant := by
    intro index request world _ _ accounted
    exact accounted.enrolled index request
  spares := by
    intro index other request world different free _
    refine ⟨Function.update_of_ne different _ _, ?_⟩
    intro Fact durable fact
    exact durable.enrolled world index request (Option.isNone_iff_eq_none.mp free) fact
  safe := by
    intro index request world _ free accounted
    have active : Active index request ((runtime platform).enroll index request world) :=
      ⟨⟨⟨request, none, []⟩, Function.update_self _ _ _, rfl, trivial⟩, trivial⟩
    apply Safe.mono _ accounted (program_acknowledges request _ accounted active)
    intro outcome current _ ends
    cases outcome with
    | ok response =>
        refine ⟨request, ends.1, ?_⟩
        intro other same
        cases same
        exact ends.2
    | error failure =>
        refine ⟨request, ends.1, ?_⟩
        intro response same
        cases same
  stable := by
    intro index outcome first second spares _ acknowledges
    obtain ⟨request, ⟨task, found, asked, -⟩, keeps⟩ := acknowledges
    refine ⟨request, ⟨task, spares.same.trans found, asked, trivial⟩, ?_⟩
    intro response same
    exact spares.facts _ (durable_acknowledged request.body response) (keeps response same)

/-- Every run from an established store accounts for its rows. -/
theorem reached_accounts {store : Store Id} (established : Established platform store)
    (moves : List (Move (Choice Id PublicKey) (Request Id))) :
    (runtime platform).Kept (accounts platform) (Acknowledges platform)
      (reached platform store moves) := by
  apply Runtime.Kept.run_any (accounts_sound platform) (accounts_starts platform)
    (fun _ _ _ _ => trivial) (fun _ => trivial)
  have idle : ∀ index id, ¬ Waits (⟨store, fun _ => none⟩ : World Id PublicKey) index id := by
    intro index id waits
    obtain ⟨task, pending, found, -⟩ := waits
    cases found
  constructor
  · refine ⟨established.distinct, ?_, ?_, ?_, ?_⟩
    · intro shelf owner member
      exact (established.backed shelf owner member).1
    · intro index task pending found
      cases found
    · intro index id waits
      exact absurd waits (idle index id)
    · intro index other id waits
      exact absurd waits (idle index id)
  · intro index program found
    cases found

/-- The request that the task with the index serves. -/
def World.asked (world : World Id PublicKey) (index : Nat) : Option (Body Id) :=
  (world.locals index).map fun task => task.request.body

/-- What a returned request acknowledges holds in every later state. -/
theorem reached_acknowledged {store : Store Id} (established : Established platform store)
    (moves : List (Move (Choice Id PublicKey) (Request Id))) {body : Body Id}
    {response : Response Id}
    (asked : (reached platform store moves).world.asked index = some body)
    (ended : (reached platform store moves).outcome index = some (.ok response)) :
    body.Acknowledged platform response (reached platform store moves).world := by
  obtain ⟨request, ⟨task, found, same, -⟩, keeps⟩ :=
    (reached_accounts established moves).finished ended
  rw [World.asked, found, Option.map_some, Option.some.injEq, same] at asked
  rw [← asked]
  exact keeps response rfl

/-- Over every run, an acknowledged file and an acknowledged key stay in the database until a
request of the same user deletes them. -/
theorem acknowledged_rows_stay {store : Store Id} (established : Established platform store)
    (moves : List (Move (Choice Id PublicKey) (Request Id))) (index : Nat) {body : Body Id}
    {response : Response Id}
    (asked : (reached platform store moves).world.asked index = some body)
    (ended : (reached platform store moves).outcome index = some (.ok response)) :
    (∀ publicKeyId fileName mimeType attachement,
      body = .postFile body.userId publicKeyId fileName mimeType attachement →
        ∃ id, response = .fileId id ∧
          Held platform (reached platform store moves).world .files id body.userId) ∧
    ∀ publicKey, body = .postKey body.userId publicKey → ∃ id, response = .publicKeyId id ∧
      Held platform (reached platform store moves).world .keys id body.userId := by
  have acknowledged := reached_acknowledged established moves asked ended
  constructor
  · intro publicKeyId fileName mimeType attachement isPost
    rw [isPost] at acknowledged
    exact acknowledged
  · intro publicKey isPost
    rw [isPost] at acknowledged
    exact acknowledged

end

/-- The rows of a posted file and of its key are held. -/
theorem acknowledged_rows_stay_postedFile :
    Held plain (reached plain plainStore postedFile).world .files plainFile "u" ∧
      Held plain (reached plain plainStore postedFile).world .keys plainKey "u" := by
  have file : (reached plain plainStore postedFile).world.asked 1 =
      some (.postFile "u" (.text "k") "name" "mime" [7]) := by decide +kernel
  have key : (reached plain plainStore postedFile).world.asked 0 =
      some (.postKey "u" (some "pem")) := by decide +kernel
  have postedFile : (reached plain plainStore postedFile).outcome 1 =
      some (.ok (.fileId plainFile)) := by decide +kernel
  have postedKey : (reached plain plainStore Backend.postedFile).outcome 0 =
      some (.ok (.publicKeyId plainKey)) := by decide +kernel
  constructor
  · obtain ⟨id, same, stored⟩ :=
      (acknowledged_rows_stay plainStore_established _ 1 file postedFile).1 _ _ _ _ rfl
    cases same
    exact stored
  · obtain ⟨id, same, stored⟩ :=
      (acknowledged_rows_stay plainStore_established _ 0 key postedKey).2 _ rfl
    cases same
    exact stored

end Holonus.Backend
