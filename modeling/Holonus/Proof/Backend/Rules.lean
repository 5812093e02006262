/-
This file proves the triples of the backend functions for every discipline.
-/

import Holonus.Proof.Backend.Steps

namespace Holonus.Backend

open Holonus.Machine

section
variable {Operation : Type} {Answered : Operation → Type} {State Event Value : Type}
  {perform : Nat → (op : Operation) → Event → State → Option (Except Failure (Answered op) × State)}
  {discipline : Discipline Operation State Event} {index : Nat}
  {Before Thrown : State → Prop} {After : Value → State → Prop}

/-- A guarded body keeps its rule, since only the error is replaced. -/
theorem guarded_triple {message : String} {body : Program Operation Answered Failure Value}
    (triple : Triple perform discipline index Before body After fun _ => Thrown) :
    Triple perform discipline index Before (guarded message body) After fun _ => Thrown := by
  apply Triple.handle triple
  intro failure
  apply Triple.throw
  intro world _ thrown
  exact thrown

/-- An expected value is present, or the program throws. -/
theorem present_triple {found : Option Value}
    (after : ∀ value, found = some value → ∀ world, discipline.Invariant world → Before world →
      After value world)
    (thrown : ∀ world, discipline.Invariant world → Before world → Thrown world) :
    Triple perform discipline index Before
      (present found : Program Operation Answered Failure Value) After fun _ => Thrown := by
  cases found with
  | none => exact Triple.throw thrown
  | some value => exact Triple.pure (after value rfl)

/-- A present value is the one that was found. -/
theorem present_value {found : Option Value} :
    Triple perform discipline index Before
      (present found : Program Operation Answered Failure Value)
      (fun value world => found = some value ∧ Before world) fun _ => Before :=
  present_triple (fun _ same _ _ holds => ⟨same, holds⟩) fun _ _ holds => holds

/-- Expecting a value changes nothing. -/
theorem present_keeps {found : Option Value} :
    Triple perform discipline index Before
      (present found : Program Operation Answered Failure Value) (fun _ => Before)
      fun _ => Before :=
  present_triple (fun _ _ _ _ holds => holds) fun _ _ holds => holds

/-- A check passes when its condition is false and throws when it is true. -/
theorem failIf_triple {condition : Bool} {failure : Failure} {After : State → Prop}
    (after : condition = false → ∀ world, discipline.Invariant world → Before world → After world)
    (thrown : condition = true → ∀ world, discipline.Invariant world → Before world →
      Thrown world) :
    Triple perform discipline index Before
      (failIf condition failure : Program Operation Answered Failure Unit) (fun _ => After)
      fun _ => Thrown := by
  cases condition with
  | false => exact Triple.pure (after rfl)
  | true => exact Triple.throw (thrown rfl)

/-- A check changes nothing. -/
theorem failIf_keeps {condition : Bool} {failure : Failure} :
    Triple perform discipline index Before
      (failIf condition failure : Program Operation Answered Failure Unit) (fun _ => Before)
      fun _ => Before :=
  failIf_triple (fun _ _ _ holds => holds) fun _ _ _ holds => holds

end

section
variable {Id PublicKey Value : Type} [DecidableEq Id] {platform : Platform Id PublicKey}
  {discipline : Discipline (Op Id) (World Id PublicKey) (Choice Id PublicKey)} {index : Nat}
  {Before Thrown : World Id PublicKey → Prop} {After : Value → World Id PublicKey → Prop}

/-- A check for existence passes only if the row is found. -/
theorem checkFound_triple {message : String} {find : Task Id PublicKey Bool}
    {Found : Bool → World Id PublicKey → Prop}
    (triple : Triple (World.perform platform) discipline index Before find Found fun _ => Thrown)
    (missing : ∀ world, discipline.Invariant world → Found false world → Thrown world) :
    Triple (World.perform platform) discipline index Before (checkFound message find)
      (fun _ => Found true) fun _ => Thrown := by
  apply guarded_triple
  apply Triple.bind triple
  intro found
  cases found with
  | false => exact Triple.throw missing
  | true => exact Triple.pure fun _ _ holds => holds

/-- A check for a lock passes with what its lookup leaves. -/
theorem checkUnlocked_triple {message : String} {find : Task Id PublicKey (Option Bool)}
    {After : World Id PublicKey → Prop}
    (triple : Triple (World.perform platform) discipline index Before find (fun _ => After)
      fun _ => Thrown)
    (thrown : ∀ world, discipline.Invariant world → After world → Thrown world) :
    Triple (World.perform platform) discipline index Before (checkUnlocked message find)
      (fun _ => After) fun _ => Thrown := by
  apply guarded_triple
  apply Triple.bind triple
  intro found
  have held : Triple (World.perform platform) discipline index After
      (present found : Task Id PublicKey Bool) (fun _ => After) fun _ => Thrown :=
    present_triple (fun _ _ _ _ holds => holds) thrown
  apply Triple.bind held
  intro isLocked
  exact failIf_triple (fun _ _ _ holds => holds) fun _ => thrown

/-- A check for existence changes nothing that its lookup does not change. -/
theorem checkFound_keeps {message : String} {find : Task Id PublicKey Bool}
    (triple : Triple (World.perform platform) discipline index Before find (fun _ => Before)
      fun _ => Before) :
    Triple (World.perform platform) discipline index Before (checkFound message find)
      (fun _ => Before) fun _ => Before := by
  apply checkFound_triple triple
  intro world _ holds
  exact holds

/-- A check for a lock changes nothing that its lookup does not change. -/
theorem checkUnlocked_keeps {message : String} {find : Task Id PublicKey (Option Bool)}
    (triple : Triple (World.perform platform) discipline index Before find (fun _ => Before)
      fun _ => Before) :
    Triple (World.perform platform) discipline index Before (checkUnlocked message find)
      (fun _ => Before) fun _ => Before := by
  apply checkUnlocked_triple triple
  intro world _ holds
  exact holds

/-- The check for a conflict changes nothing that its lookup does not change. -/
theorem checkConflict_keeps {condition : KeyCondition Id}
    (triple : Triple (World.perform platform) discipline index Before
      (ask (.keysExists condition) : Task Id PublicKey Bool) (fun _ => Before) fun _ => Before) :
    Triple (World.perform platform) discipline index Before
      (KeysModel.checkConflict condition : Task Id PublicKey Unit) (fun _ => Before)
      fun _ => Before := by
  apply guarded_triple
  apply Triple.bind triple
  intro found
  exact failIf_triple (fun _ _ _ holds => holds) fun _ _ _ holds => holds

/-- Decoding a key text changes nothing. -/
theorem pem2der_keeps (pem : String) :
    Triple (World.perform platform) discipline index Before
      (CryptoUtil.pem2der platform (.text pem)) (fun _ => Before) fun _ => Before := by
  simp only [CryptoUtil.pem2der]
  split
  · exact Triple.pure fun _ _ holds => holds
  · exact Triple.throw fun _ _ holds => holds

/-- Decoding an object generates a new key. -/
theorem pem2derObject_triple {After : World Id PublicKey → Prop}
    (triple : Triple (World.perform platform) discipline index Before
      (tell .generateKey : Task Id PublicKey PublicKey) (fun _ => After) fun _ => Thrown) :
    Triple (World.perform platform) discipline index Before
      (CryptoUtil.pem2der platform .object) (fun _ => After) fun _ => Thrown := by
  apply Triple.bind triple
  intro key
  exact Triple.pure fun _ _ holds => holds

/-- Encrypting changes nothing. -/
theorem encrypt_keeps (publicKey buffer : Bytes) :
    Triple (World.perform platform) discipline index Before
      (CryptoUtil.encrypt platform publicKey buffer) (fun _ => Before) fun _ => Before := by
  simp only [CryptoUtil.encrypt]
  split
  · exact Triple.pure fun _ _ holds => holds
  · exact Triple.throw fun _ _ holds => holds

/-- Adding content follows the rule of its operation. -/
theorem ipfsAdd_triple {data : Bytes} {After : String → World Id PublicKey → Prop}
    (triple : Triple (World.perform platform) discipline index Before
      (tell (.ipfsAdd data) : Task Id PublicKey String) After fun _ => Thrown) :
    Triple (World.perform platform) discipline index Before
      (IpfsUtil.add data : Task Id PublicKey String) After fun _ => Thrown := by
  apply Triple.handle triple
  intro failure
  exact Triple.throw fun _ _ thrown => thrown

/-- An entry that was read from the chain is checked and returned. -/
theorem found_triple {message missing : String} {asked : Task Id PublicKey File.StoredText}
    {After : File.StoredText → World Id PublicKey → Prop}
    (asks : Triple (World.perform platform) discipline index Before asked After fun _ => Thrown)
    (falls : ∀ stored world, discipline.Invariant world → After stored world → Thrown world) :
    Triple (World.perform platform) discipline index Before
      (guarded message do
        let stored ← asked
        failIf (stored.id = "") (.notFound missing)
        return stored) After fun _ => Thrown := by
  apply guarded_triple
  apply Triple.bind asks
  intro stored
  apply Triple.bind (failIf_triple (fun _ _ _ holds => holds) fun _ => falls stored)
  intro _
  exact Triple.pure fun _ _ holds => holds

/-- Reading a file entry follows the rule of its query. -/
theorem chainGetFile_triple {fileId : String} {After : File.StoredText → World Id PublicKey → Prop}
    (asks : Triple (World.perform platform) discipline index Before
      (ask (.chainGetFile fileId) : Task Id PublicKey File.StoredText) After fun _ => Thrown)
    (falls : ∀ stored world, discipline.Invariant world → After stored world → Thrown world) :
    Triple (World.perform platform) discipline index Before
      (HolonusFileService.getFile fileId : Task Id PublicKey File.StoredText) After
      fun _ => Thrown := by
  exact found_triple asks falls

/-- Reading a key entry follows the rule of its query. -/
theorem chainGetKey_triple {publicKeyId : String}
    {After : File.StoredText → World Id PublicKey → Prop}
    (asks : Triple (World.perform platform) discipline index Before
      (ask (.chainGetKey publicKeyId) : Task Id PublicKey File.StoredText) After fun _ => Thrown)
    (falls : ∀ stored world, discipline.Invariant world → After stored world → Thrown world) :
    Triple (World.perform platform) discipline index Before
      (HolonusFileService.getKey publicKeyId : Task Id PublicKey File.StoredText) After
      fun _ => Thrown := by
  exact found_triple asks falls

/-- Reading content follows the rule of its query. -/
theorem ipfsCat_triple {hash : String} {After : Bytes → World Id PublicKey → Prop}
    (asks : Triple (World.perform platform) discipline index Before
      (ask (.ipfsCat hash) : Task Id PublicKey Bytes) After fun _ => Thrown) :
    Triple (World.perform platform) discipline index Before
      (IpfsUtil.cat hash : Task Id PublicKey Bytes) After fun _ => Thrown := by
  apply Triple.handle asks
  intro failure
  split
  · exact Triple.throw fun _ _ thrown => thrown
  · exact Triple.throw fun _ _ thrown => thrown

/-- A transaction commits what its body prepared or drops it. -/
theorem transaction_triple {exec : Task Id PublicKey Value} {attempts : Nat}
    {Idle Begun Failed Final : World Id PublicKey → Prop}
    {Ready Done : Value → World Id PublicKey → Prop}
    (opens : Triple (World.perform platform) discipline index Idle
      (tell .startSession : Task Id PublicKey Unit) (fun _ => Idle) fun _ => Final)
    (begins : Triple (World.perform platform) discipline index Idle
      (tell .startTransaction : Task Id PublicKey Unit) (fun _ => Begun) fun _ => Idle)
    (body : Triple (World.perform platform) discipline index Begun exec Ready fun _ => Failed)
    (commits : ∀ value, Triple (World.perform platform) discipline index (Ready value)
      (tell .commitTransaction : Task Id PublicKey Unit) (fun _ => Done value) fun _ => Idle)
    (aborts : Triple (World.perform platform) discipline index Failed
      (tell .abortTransaction : Task Id PublicKey Unit) (fun _ => Idle) fun _ => Idle)
    (ends : ∀ value, Triple (World.perform platform) discipline index (Done value)
      (tell .endSession : Task Id PublicKey Unit) (fun _ => Done value) fun _ => Final)
    (drops : Triple (World.perform platform) discipline index Idle
      (tell .endSession : Task Id PublicKey Unit) (fun _ => Final) fun _ => Final) :
    Triple (World.perform platform) discipline index Idle (DbUtil.transaction attempts exec) Done
      fun _ => Final := by
  have attempt {retry : Failure → Task Id PublicKey Value}
      (retries : ∀ failure, Triple (World.perform platform) discipline index Idle (retry failure)
        Done fun _ => Idle) :
      Triple (World.perform platform) discipline index Idle
        (DbUtil.attemptTransaction exec retry) Done fun _ => Idle := by
    apply Triple.bind begins
    intro _
    apply Triple.bind body.settled
    intro outcome
    cases outcome with
    | ok value =>
        apply Triple.bind (commits value).settled
        intro committed
        cases committed with
        | ok _ => exact Triple.pure fun _ _ holds => holds
        | error failure => exact retries failure
    | error failure =>
        apply Triple.bind aborts
        intro _
        exact retries failure
  have whole : Triple (World.perform platform) discipline index Idle
      (DbUtil.withTransaction exec attempts) Done fun _ => Idle := by
    induction attempts with
    | zero =>
        apply attempt
        intro failure
        exact Triple.throw fun _ _ holds => holds
    | succ attempts ih =>
        apply attempt
        intro failure
        split
        · exact ih
        · exact Triple.throw fun _ _ holds => holds
  apply Triple.bind opens
  intro _
  apply Triple.bind whole.settled
  intro outcome
  cases outcome with
  | ok value =>
      apply Triple.bind (ends value)
      intro _
      exact fun _ _ holds => holds
  | error failure =>
      apply Triple.bind drops
      intro _
      exact fun _ _ holds => holds

/-- The request with an index is running and its assertion holds. -/
def At (index : Nat) (request : Request Id)
    (Holds : Local Id PublicKey → Store Id → Prop) (world : World Id PublicKey) : Prop :=
  ∃ task, world.locals index = some task ∧ task.request = request ∧ Holds task world.store

/-- The request with an index is running in such a session. -/
def InSession (index : Nat) (request : Request Id) (Holds : Option (Session Id) → Prop) :
    World Id PublicKey → Prop :=
  At index request fun task _ => Holds task.session

abbrev Running (index : Nat) (request : Request Id) : World Id PublicKey → Prop :=
  InSession index request fun _ => True

/-- No transaction is open. -/
abbrev Closed (index : Nat) (request : Request Id) : World Id PublicKey → Prop :=
  InSession index request (· = none)

/-- The transaction has no writes. -/
abbrev Opened (index : Nat) (request : Request Id) : World Id PublicKey → Prop :=
  InSession index request (· = some Session.empty)

omit [DecidableEq Id] in
/-- A request whose task has a property is running. -/
theorem At.running {request : Request Id} {Holds : Local Id PublicKey → Store Id → Prop}
    {world : World Id PublicKey} (holds : At index request Holds world) :
    Running index request world := by
  obtain ⟨task, found, asked, -⟩ := holds
  exact ⟨task, found, asked, trivial⟩

/-- An operation is followed in the task of its request. -/
theorem At.call {request : Request Id} {op : Op Id}
    {Before Thrown : Local Id PublicKey → Store Id → Prop}
    {After : Reply PublicKey op → Local Id PublicKey → Store Id → Prop}
    (stable : discipline.Stable index (At index request Before))
    (demands : ∀ world task, discipline.Invariant world → world.locals index = some task →
      task.request = request → Before task world.store → discipline.Demands index op world)
    (replies : ∀ world task choice reply store session, discipline.Invariant world →
      world.locals index = some task → task.request = request → Before task world.store →
      discipline.Admits index op choice world →
      respond platform world.store task.session op choice = some (reply, store, session) →
        match reply with
        | .ok value => After value (task.after session world.store.log.length op (.ok value)) store
        | .error failure =>
            Thrown (task.after session world.store.log.length op (.error failure)) store) :
    Triple (World.perform platform) discipline index (At index request Before)
      (Program.call op) (fun value => At index request (After value))
      fun _ => At index request Thrown := by
  apply Triple.call stable
  · intro world invariant holds
    obtain ⟨task, found, asked, before⟩ := holds
    exact demands world task invariant found asked before
  · intro world choice reply next invariant holds admitted performed _
    obtain ⟨task, found, asked, before⟩ := holds
    obtain ⟨current, session, same, responded, locals⟩ := perform_inv performed
    rw [found, Option.some.injEq] at same
    subst same
    have ended := replies world task choice reply next.store session invariant found asked before
      admitted responded
    have now : next.locals index =
        some (task.after session world.store.log.length op reply) := by
      rw [locals, Function.update_self]
    cases reply with
    | ok value => exact ⟨_, now, asked, ended⟩
    | error failure => exact ⟨_, now, asked, ended⟩

/-- These commands open and close a session without a commit. -/
def Command.isControl : Command Id → Bool
  | .startSession | .startTransaction | .abortTransaction | .endSession => true
  | _ => false

/-- The others leave the task alone, and the session can be opened and closed at any time. -/
structure Sessional (discipline : Discipline (Op Id) (World Id PublicKey) (Choice Id PublicKey))
    (index : Nat) : Prop where
  same : ∀ world current, discipline.Rely index world current →
    current.locals index = world.locals index
  demands : ∀ command world, command.isControl = true →
    discipline.Demands index (.act command) world

namespace Sessional

variable {request : Request Id} (sessional : Sessional discipline index)
include sessional

/-- A control command is followed in the session of the request. -/
theorem control {command : Command Id} {Before Thrown : Option (Session Id) → Prop}
    {After : Option (Session Id) → Prop} (isControl : command.isControl = true)
    (replies : ∀ store session choice reply next after, Before session →
      respond platform store session (.act command) choice = some (reply, next, after) →
        match reply with
        | .ok _ => After after
        | .error _ => Thrown after) :
    Triple (World.perform platform) discipline index (InSession index request Before)
      (tell command : Task Id PublicKey (Result PublicKey command))
      (fun _ => InSession index request After) fun _ => InSession index request Thrown := by
  apply At.call
  · intro world current relied _ holds
    obtain ⟨task, found, asked, held⟩ := holds
    exact ⟨task, (sessional.same world current relied).trans found, asked, held⟩
  · intro world _ _ _ _ _
    exact sessional.demands command world isControl
  · intro world task choice reply store session _ _ _ before _ responded
    have ended := replies _ _ _ _ _ _ before responded
    cases reply with
    | ok value => exact ended
    | error failure => exact ended

/-- A control command that ends the session leaves the request without one. -/
theorem ending {command : Command Id} {Before : Option (Session Id) → Prop}
    (isControl : command.isControl = true) (isEnding : command.isEnding = true) :
    Triple (World.perform platform) discipline index (InSession index request Before)
      (tell command : Task Id PublicKey (Result PublicKey command))
      (fun _ => Closed index request) fun _ => Closed index request := by
  apply sessional.control isControl
  intro store session choice reply next after _ responded
  have ended := session_of_ending isEnding responded
  cases reply with
  | ok value => exact ended
  | error failure => exact ended

/-- A transaction needs the triples of its body and of its commit. -/
theorem transaction {exec : Task Id PublicKey Value} {attempts : Nat}
    {Ready : Value → World Id PublicKey → Prop}
    (body : Triple (World.perform platform) discipline index (Opened index request) exec Ready
      fun _ => Running index request)
    (commits : ∀ value, Triple (World.perform platform) discipline index (Ready value)
      (tell .commitTransaction : Task Id PublicKey Unit) (fun _ => Closed index request)
      fun _ => Closed index request) :
    Triple (World.perform platform) discipline index (Closed index request)
      (DbUtil.transaction attempts exec) (fun _ => Closed index request)
      fun _ => Running index request := by
  have opens : Triple (World.perform platform) discipline index (Closed index request)
      (tell .startSession : Task Id PublicKey Unit) (fun _ => Closed index request)
      fun _ => Running index request := by
    apply sessional.control rfl
    intro store session choice reply next after closed responded
    have kept := session_of_quiet rfl responded
    cases reply with
    | ok value => exact kept.trans closed
    | error failure => exact trivial
  have begins : Triple (World.perform platform) discipline index (Closed index request)
      (tell .startTransaction : Task Id PublicKey Unit) (fun _ => Opened index request)
      fun _ => Closed index request := by
    apply sessional.control rfl
    intro store session choice reply next after _ responded
    obtain ⟨started, value, replied⟩ := session_of_startTransaction responded
    subst replied
    exact started
  have ends : Triple (World.perform platform) discipline index (Closed index request)
      (tell .endSession : Task Id PublicKey Unit) (fun _ => Closed index request)
      fun _ => Closed index request := sessional.ending rfl rfl
  have drops : Triple (World.perform platform) discipline index (Closed index request)
      (tell .endSession : Task Id PublicKey Unit) (fun _ => Running index request)
      fun _ => Running index request :=
    ends.conseq (fun _ _ holds => holds) (fun _ _ _ holds => holds.running)
      fun _ _ _ holds => holds.running
  exact transaction_triple opens begins body commits (sessional.ending rfl rfl)
    (fun _ => ends.conseq (fun _ _ holds => holds) (fun _ _ _ holds => holds)
      fun _ _ _ holds => holds.running) drops

end Sessional

/-- Queries keep a quiet assertion and owe nothing. -/
structure Quiet (platform : Platform Id PublicKey)
    (discipline : Discipline (Op Id) (World Id PublicKey) (Choice Id PublicKey)) (index : Nat)
    (Holds : World Id PublicKey → Prop) : Prop where
  stable : discipline.Stable index Holds
  demands : ∀ query world, discipline.Invariant world → Holds world →
    discipline.Demands index (.ask query) world
  kept : ∀ query choice world reply next, discipline.Invariant world → Holds world →
    World.perform platform index (.ask query) choice world = some (reply, next) → Holds next

/-- A query answers from the present store. -/
theorem answer_of_perform {query : Query Id} {choice : Choice Id PublicKey}
    {world next : World Id PublicKey} {value : Answer query}
    (performed : World.perform platform index (.ask query) choice world = some (.ok value, next)) :
    answer platform world.store query = .ok value := by
  obtain ⟨task, session, -, responded, -⟩ := perform_inv performed
  rcases (respond_ask responded).1 with fails | answers
  · obtain ⟨failure, failed⟩ := fails
    cases failed
  · exact answers.symm

/-- A query leaves the store as it is. -/
theorem store_of_ask {query : Query Id} {choice : Choice Id PublicKey}
    {world next : World Id PublicKey} {reply : Except Failure (Answer query)}
    (performed : World.perform platform index (.ask query) choice world = some (reply, next)) :
    next.store = world.store := by
  obtain ⟨task, session, -, responded, -⟩ := perform_inv performed
  exact (respond_ask responded).2.1

namespace Quiet

variable {Holds : World Id PublicKey → Prop} (quiet : Quiet platform discipline index Holds)
include quiet

/-- A query adds what its answer says. -/
theorem ask {query : Query Id} {Fact : Answer query → World Id PublicKey → Prop}
    (fact : ∀ world choice value next, discipline.Invariant world → Holds world →
      discipline.Admits index (.ask query) choice world →
      World.perform platform index (.ask query) choice world = some (.ok value, next) →
        Fact value next) :
    Triple (World.perform platform) discipline index Holds
      (Backend.ask query : Task Id PublicKey (Answer query))
      (fun value world => Fact value world ∧ Holds world) fun _ => Holds := by
  apply Triple.call quiet.stable (quiet.demands query)
  intro world choice reply next invariant holds admitted performed _
  have kept := quiet.kept query choice world reply next invariant holds performed
  cases reply with
  | ok value => exact ⟨fact world choice value next invariant holds admitted performed, kept⟩
  | error failure => exact kept

/-- A query keeps every stable property. -/
theorem ask_any {query : Query Id} :
    Triple (World.perform platform) discipline index Holds
      (Backend.ask query : Task Id PublicKey (Answer query)) (fun _ => Holds) fun _ => Holds := by
  apply Triple.call quiet.stable (quiet.demands query)
  intro world choice reply next invariant holds _ performed _
  have kept := quiet.kept query choice world reply next invariant holds performed
  cases reply with
  | ok value => exact kept
  | error failure => exact kept

/-- The lock check of a user keeps every stable property. -/
theorem usersCheckLocked (userId : String) :
    Triple (World.perform platform) discipline index Holds
      (UsersModel.checkLocked userId : Task Id PublicKey Unit) (fun _ => Holds) fun _ => Holds := by
  apply checkUnlocked_keeps
  apply Triple.bind quiet.ask_any
  intro user
  exact Triple.pure fun _ _ holds => holds

/-- The lock check of a file keeps every stable property. -/
theorem filesCheckLocked (fileId : String) :
    Triple (World.perform platform) discipline index Holds
      (FilesModel.checkLocked fileId : Task Id PublicKey Unit) (fun _ => Holds) fun _ => Holds := by
  apply checkUnlocked_keeps
  apply Triple.bind quiet.ask_any
  intro file
  exact Triple.pure fun _ _ holds => holds

/-- The lock check of a key keeps every stable property. -/
theorem keysCheckLocked (id : Ref Id) :
    Triple (World.perform platform) discipline index Holds
      (KeysModel.checkLocked id : Task Id PublicKey Unit) (fun _ => Holds) fun _ => Holds := by
  apply checkUnlocked_keeps
  apply Triple.bind quiet.ask_any
  intro key
  exact Triple.pure fun _ _ holds => holds

/-- The target user has the identifier of the request. -/
theorem getTargetUser (userId : String) :
    Triple (World.perform platform) discipline index Holds
      (FilesCore.getTargetUser userId : Task Id PublicKey User)
      (fun user world => user.userId = userId ∧ Holds world) fun _ => Holds := by
  apply Triple.bind (checkFound_keeps quiet.ask_any)
  intro _
  have found : Triple (World.perform platform) discipline index Holds
      (UsersModel.findOne userId : Task Id PublicKey (Option User))
      (fun found world => (∀ user, found = some user → user.userId = userId) ∧ Holds world)
      fun _ => Holds := by
    apply guarded_triple
    apply quiet.ask
    intro world choice value next _ _ _ performed user same
    have answered := answer_of_perform performed
    rw [same] at answered
    exact (Database.findUser_some (Except.ok.inj answered)).2
  apply Triple.bind found
  intro found
  apply Triple.assume
  intro named
  apply present_triple
  · intro user same world _ holds
    exact ⟨named user same, holds⟩
  · intro world _ holds
    exact holds

/-- Reading a key keeps every stable property. -/
theorem getKey (userId : String) (publicKeyId : Ref Id) :
    Triple (World.perform platform) discipline index Holds
      (KeysCore.getKey platform userId publicKeyId) (fun _ => Holds) fun _ => Holds := by
  apply Triple.handle
  · apply Triple.bind (checkFound_keeps quiet.ask_any)
    intro _
    apply Triple.bind (quiet.keysCheckLocked publicKeyId)
    intro _
    apply Triple.bind (guarded_triple quiet.ask_any)
    intro found
    apply Triple.bind present_keeps
    intro key
    apply Triple.bind (chainGetKey_triple quiet.ask_any fun _ _ _ holds => holds)
    intro stored
    exact Triple.pure fun _ _ holds => holds
  · intro failure
    exact Triple.pure fun _ _ holds => holds

/-- Reading a file keeps every stable property. -/
theorem getFile (userId fileId : String) :
    Triple (World.perform platform) discipline index Holds
      (FilesCore.getFile userId fileId : Task Id PublicKey (String × String × Bytes))
      (fun _ => Holds) fun _ => Holds := by
  apply Triple.bind (quiet.getTargetUser userId)
  intro user
  apply Triple.assume
  intro _
  apply Triple.bind (quiet.usersCheckLocked user.userId)
  intro _
  apply Triple.bind (checkFound_keeps quiet.ask_any)
  intro _
  apply Triple.bind (quiet.filesCheckLocked fileId)
  intro _
  apply Triple.bind (guarded_triple quiet.ask_any)
  intro fileinfo
  apply Triple.bind (chainGetFile_triple quiet.ask_any fun _ _ _ holds => holds)
  intro bcData
  apply Triple.bind (ipfsCat_triple quiet.ask_any)
  intro ipfsData
  apply Triple.bind present_keeps
  intro row
  exact Triple.pure fun _ _ holds => holds

end Quiet

end

end Holonus.Backend
