/-
This file serves a backend request alone: the values that it can return and the triples that hold
while nothing else runs.
-/

import Holonus.Machine.Evaluation
import Holonus.Proof.Backend.Rules

namespace Holonus.Backend

open Holonus.Machine Holonus.Machine.Program

section
variable {Operation : Type} {Answered : Operation → Type} {Value World Choice : Type}
  {perform : (op : Operation) → Choice → World → Option (Except Failure (Answered op) × World)}
  {world next : World} {value : Value}

/-- A guarded body yields what the body yields. -/
theorem yields_guarded {message : String} {body : Program Operation Answered Failure Value} :
    Yields perform (guarded message body) world value next ↔ Yields perform body world value next :=
  yields_handle fun _ => ⟨_, rfl⟩

/-- A value that must be present yields itself. -/
theorem yields_present {found : Option Value} :
    Yields perform (present found) world value next ↔ found = some value ∧ next = world := by
  cases found with
  | none =>
      constructor
      · exact fun yields => absurd yields not_yields_throw
      · exact fun same => nomatch same.1
  | some other =>
      rw [Option.some.injEq]
      exact yields_pure

/-- A check yields when its condition is false. -/
theorem yields_failIf {condition : Bool} {failure : Failure} {done : Unit} :
    Yields perform (failIf condition failure) world done next ↔ condition = false ∧ next = world := by
  cases condition with
  | true =>
      constructor
      · exact fun yields => absurd yields not_yields_throw
      · exact fun same => nomatch same.1
  | false =>
      show Yields perform (pure ()) world done next ↔ _
      rw [yields_pure]
      exact and_congr_left' ⟨fun _ => rfl, fun _ => rfl⟩

end

section
variable {Id PublicKey Value : Type} [DecidableEq Id]

/-- A request that runs alone sees the stores and its session only. -/
abbrev solo (platform : Platform Id PublicKey) (op : Op Id) (choice : Choice Id PublicKey)
    (state : Store Id × Option (Session Id)) :
    Option (Except Failure (Reply PublicKey op) × Store Id × Option (Session Id)) :=
  respond platform state.1 state.2 op choice

variable {platform : Platform Id PublicKey}

/-- The trail of the request does not matter to its run. -/
theorem alone_solo (platform : Platform Id PublicKey) (program : Task Id PublicKey Value)
    (choices : List (Choice Id PublicKey)) (world : World Id PublicKey)
    (task : Local Id PublicKey) (found : world.locals 0 = some task) :
    (program.alone (World.perform platform 0) choices world).map
        (fun ended => (ended.1, ended.2.store)) =
      (program.alone (solo platform) choices (world.store, task.session)).map
        fun ended => (ended.1, ended.2.1) := by
  induction program generalizing choices world task with
  | done outcome => cases choices <;> rfl
  | await op resume ih =>
      cases choices with
      | nil => rfl
      | cons choice rest =>
          simp only [alone, World.perform, found, solo]
          cases respond platform world.store task.session op choice with
          | none => rfl
          | some effect =>
              obtain ⟨reply, store, session⟩ := effect
              have same : (task.after session world.store.log.length op reply).session = session := by
                cases reply <;> rfl
              have later := ih reply rest ⟨store, Function.update world.locals 0
                (some (task.after session world.store.log.length op reply))⟩
                (task.after session world.store.log.length op reply) rfl
              rw [same] at later
              exact later

/-- What a request can return when it runs alone can be served. -/
theorem served_of_yields (request : Request Id) {store last : Store Id}
    {session : Option (Session Id)} {response : Response Id}
    (yields : Yields (solo platform) (request.program platform) (store, none) response
      (last, session)) :
    ∃ choices, serve platform store request choices = some (.ok response, last) := by
  obtain ⟨choices, ran⟩ := yields
  refine ⟨choices, ?_⟩
  have same := alone_solo platform (request.program platform) choices
    ⟨store, Function.update (fun _ => none) 0 (some ⟨request, none, []⟩)⟩ ⟨request, none, []⟩ rfl
  rw [ran] at same
  exact same

/-- A fact that every effect on the stores keeps holds after a request. -/
theorem serve_keeps {Holds : Store Id → Prop}
    (keeps : ∀ store session op next after, Change platform store session op next after →
      Holds store → Holds next)
    {request : Request Id} {store last : Store Id} {choices : List (Choice Id PublicKey)}
    {outcome : Except Failure (Response Id)}
    (served : serve platform store request choices = some (outcome, last)) (holds : Holds store) :
    Holds last := by
  obtain ⟨⟨ended, world⟩, ran, same⟩ := Option.map_eq_some_iff.mp served
  cases same
  have performs (op : Op Id) (choice : Choice Id PublicKey) (world : World Id PublicKey)
      (reply : Except Failure (Reply PublicKey op)) (next : World Id PublicKey)
      (held : Holds world.store) (performed : World.perform platform 0 op choice world =
        some (reply, next)) : Holds next.store := by
    obtain ⟨task, session, -, responded, -⟩ := perform_inv performed
    exact keeps _ _ _ _ _ (respond_change responded) held
  exact alone_keeps (fun current => Holds current.store) performs ran holds

/-- The requests are served one after another, each admitted in the stores before it. -/
inductive ServedAll (platform : Platform Id PublicKey)
    (Admitted : Store Id → Request Id → List (Choice Id PublicKey) → Prop) :
    Store Id → List (Request Id) → Store Id → Prop where
  | nil (store : Store Id) : ServedAll platform Admitted store [] store
  | cons {store middle last : Store Id} {request : Request Id} {requests : List (Request Id)}
      (choices : List (Choice Id PublicKey)) (outcome : Except Failure (Response Id)) :
      Admitted store request choices →
      serve platform store request choices = some (outcome, middle) →
      ServedAll platform Admitted middle requests last →
        ServedAll platform Admitted store (request :: requests) last

/-- A fact that every admitted request keeps holds after all of them. -/
theorem ServedAll.keeps {Holds : Store Id → Prop}
    {Admitted : Store Id → Request Id → List (Choice Id PublicKey) → Prop}
    {requests : List (Request Id)} {store last : Store Id}
    (served : ServedAll platform Admitted store requests last)
    (step : ∀ request store choices outcome next, Admitted store request choices →
      serve platform store request choices = some (outcome, next) → Holds store → Holds next)
    (holds : Holds store) : Holds last := by
  induction served with
  | nil store => exact holds
  | cons choices outcome admitted first rest ih =>
      apply ih
      exact step _ _ _ _ _ admitted first holds

section
variable {store middle : Store Id} {session : Option (Session Id)}

/-- A query yields its answer and keeps the state. -/
theorem ask_yields {query : Query Id} {value : Answer query}
    (answered : answer platform store query = .ok value) :
    Yields (solo platform) (ask query : Task Id PublicKey (Answer query)) (store, session) value
      (store, session) := by
  apply yields_call.mpr
  refine ⟨.proceed, ?_⟩
  show some (answer platform store query, store, session) = _
  rw [answered]
  rfl

/-- A command yields its result and its effect. -/
theorem tell_yields {command : Command Id} (choice : Choice Id PublicKey)
    {value : Result PublicKey command} {effect : Store Id × Option (Session Id)}
    (responded : respond platform store session (.act command) choice = some (.ok value, effect)) :
    Yields (solo platform) (tell command : Task Id PublicKey (Result PublicKey command))
      (store, session) value effect :=
  yields_call.mpr ⟨choice, responded⟩

/-- The target user is yielded when it is found. -/
theorem getTargetUser_yields {userId : String} {user : User}
    (found : store.database.findUser userId = some user) :
    Yields (solo platform) (FilesCore.getTargetUser userId : Task Id PublicKey User) (store, session)
      user (store, session) := by
  have isThere : answer platform store (.usersExists userId) = .ok true := by
    show Except.ok (store.database.findUser userId).isSome = _
    rw [found]
    rfl
  have answered : answer platform store (.usersFindOne userId) = .ok (some user) :=
    congrArg Except.ok found
  apply yields_bind.mpr
  refine ⟨(), (store, session), ?_, ?_⟩
  · apply yields_guarded.mpr
    apply yields_bind.mpr
    exact ⟨true, _, ask_yields isThere, yields_failIf.mpr ⟨rfl, rfl⟩⟩
  · apply yields_bind.mpr
    exact ⟨some user, _, yields_guarded.mpr (ask_yields answered), yields_present.mpr ⟨rfl, rfl⟩⟩

/-- A body whose writes meet no conflict is committed. -/
theorem transaction_yields {exec : Task Id PublicKey Value} {value : Value} {pending : Session Id}
    (body : Yields (solo platform) exec (store, some Session.empty) value (middle, some pending))
    (free : pending.conflicts middle.log = false) (attempts : Nat) :
    Yields (solo platform) (DbUtil.transaction attempts exec) (store, session) value
      (middle.commit pending.writes, none) := by
  have commits : Yields (solo platform) (tell .commitTransaction : Task Id PublicKey Unit)
      (middle, some pending) () (middle.commit pending.writes, none) := by
    apply tell_yields .proceed
    show some (committing middle (some pending)) = _
    rw [committing, free]
    rfl
  have attempt (retry : Failure → Task Id PublicKey Value) :
      Yields (solo platform) (DbUtil.attemptTransaction exec retry) (store, session) value
        (middle.commit pending.writes, none) := by
    apply yields_bind.mpr
    refine ⟨(), (store, some Session.empty), tell_yields .proceed rfl, ?_⟩
    apply yields_bind.mpr
    refine ⟨.ok value, _, body.settled, ?_⟩
    apply yields_bind.mpr
    exact ⟨.ok (), _, commits.settled, yields_pure.mpr ⟨rfl, rfl⟩⟩
  apply yields_bind.mpr
  refine ⟨(), (store, session), tell_yields .proceed rfl, ?_⟩
  apply Yields.andFinally
  · cases attempts with
    | zero => exact attempt _
    | succ attempts => exact attempt _
  · exact tell_yields .proceed rfl

end

end

section
variable {Id PublicKey Value : Type}

/-- Nothing happens between the steps of a request that is served alone. -/
def solitary (Admitted : Choice Id PublicKey → Prop) :
    Discipline (Op Id) (World Id PublicKey) (Choice Id PublicKey) where
  Invariant _ := True
  Rely _ world next := next = world
  Admits _ _ choice _ := Admitted choice
  Demands _ _ _ := True

/-- The request is running and the stores satisfy the facts. -/
def On (request : Request Id) (Facts : Store Id → Prop) : World Id PublicKey → Prop :=
  At 0 request fun _ => Facts

variable {Admitted : Choice Id PublicKey → Prop} {request : Request Id}
  {Facts Thrown : Store Id → Prop}

/-- Alone, every fact is kept by the other requests. -/
theorem solitary_stable {Holds : World Id PublicKey → Prop} :
    (solitary Admitted).Stable 0 Holds := by
  intro world current same _ holds
  rw [same]
  exact holds

/-- Facts about the store may be widened. -/
theorem On.mono {world : World Id PublicKey} (holds : On request Facts world)
    (wider : ∀ store, Facts store → Thrown store) : On request Thrown world := by
  obtain ⟨task, found, asked, facts⟩ := holds
  exact ⟨task, found, asked, wider _ facts⟩

variable [DecidableEq Id] {platform : Platform Id PublicKey}

/-- A served request ends as its triple states. -/
theorem served_ends {After : Response Id → Store Id → Prop} {store last : Store Id}
    {choices : List (Choice Id PublicKey)} {outcome : Except Failure (Response Id)}
    (triple : Triple (World.perform platform) (solitary Admitted) 0 (On request Facts)
      (request.program platform) (fun response => On request (After response))
      fun _ => On request Thrown)
    (admitted : ∀ choice ∈ choices, Admitted choice) (facts : Facts store)
    (served : serve platform store request choices = some (outcome, last)) :
    match outcome with
    | .ok response => After response last
    | .error _ => Thrown last := by
  obtain ⟨⟨ended, world⟩, ran, same⟩ := Option.map_eq_some_iff.mp served
  cases same
  have started : On request Facts (⟨store, Function.update (fun _ => none) 0
      (some ⟨request, none, []⟩)⟩ : World Id PublicKey) :=
    ⟨⟨request, none, []⟩, rfl, rfl, facts⟩
  have holds := (triple _ trivial started).alone (fun _ => rfl) (fun _ _ _ _ _ _ _ _ _ => trivial)
    (fun choice member _ _ => admitted choice member) trivial ran
  cases ended with
  | ok response =>
      obtain ⟨task, -, -, after⟩ := holds
      exact after
  | error failure =>
      obtain ⟨task, -, -, thrown⟩ := holds
      exact thrown

/-- A rule about the only request is a rule about serving it. -/
theorem served_of_triple {After : Response Id → Store Id → Prop} {store last : Store Id}
    {choices : List (Choice Id PublicKey)} {response : Response Id}
    (triple : Triple (World.perform platform) (solitary Admitted) 0 (On request Facts)
      (request.program platform) (fun response => On request (After response))
      fun _ => Running 0 request)
    (admitted : ∀ choice ∈ choices, Admitted choice) (facts : Facts store)
    (served : serve platform store request choices = some (.ok response, last)) :
    After response last :=
  served_ends (triple.conseq (fun _ _ holds => holds) (fun _ _ _ holds => holds)
    fun _ _ _ holds => (holds : On request (fun _ => True) _)) admitted facts served

/-- Alone, queries keep the facts about the store. -/
theorem solitary_quiet : Quiet platform (solitary Admitted) 0 (On request Facts) where
  stable := solitary_stable
  demands _ _ _ _ := trivial
  kept := by
    intro query choice world reply next _ holds performed
    obtain ⟨task, found, asked, facts⟩ := holds
    obtain ⟨current, session, same, responded, locals⟩ := perform_inv performed
    rw [found, Option.some.injEq] at same
    subst same
    refine ⟨_, by rw [locals, Function.update_self], ?_, ?_⟩
    · rw [Local.request_after, asked]
    · rw [(respond_ask responded).2.1]
      exact facts

/-- A query is answered from the stores. -/
theorem solitary_ask {query : Query Id} {After : Answer query → Store Id → Prop}
    (answers : ∀ store value, Facts store → answer platform store query = .ok value →
      After value store) :
    Triple (World.perform platform) (solitary Admitted) 0 (On request Facts)
      (ask query : Task Id PublicKey (Answer query)) (fun value => On request (After value))
      fun _ => On request Facts := by
  apply At.call solitary_stable (fun _ _ _ _ _ _ => trivial)
  intro world task choice reply store session _ _ _ facts _ responded
  obtain ⟨answered, same, -⟩ := respond_ask responded
  rw [same]
  cases reply with
  | error failure => exact facts
  | ok value =>
      rcases answered with fails | answered
      · obtain ⟨failure, failed⟩ := fails
        cases failed
      · exact answers world.store value facts answered.symm

/-- A command is followed in the stores. -/
theorem solitary_tell {command : Command Id} {After : Result PublicKey command → Store Id → Prop}
    (replies : ∀ store session choice value next after, Facts store → Admitted choice →
      respond platform store session (.act command) choice = some (.ok value, next, after) →
        After value next) :
    Triple (World.perform platform) (solitary Admitted) 0 (On request Facts)
      (tell command : Task Id PublicKey (Result PublicKey command))
      (fun value => On request (After value)) fun _ => On request Facts := by
  apply At.call solitary_stable (fun _ _ _ _ _ _ => trivial)
  intro world task choice reply store session _ _ _ facts admitted responded
  cases reply with
  | ok value => exact replies _ _ _ _ _ _ facts admitted responded
  | error failure =>
      rw [store_of_error responded]
      exact facts

/-- A command that touches no store keeps every fact. -/
theorem solitary_calm {command : Command Id} (spares : (Op.act command).touches = false) :
    Triple (World.perform platform) (solitary Admitted) 0 (On request Facts)
      (tell command : Task Id PublicKey (Result PublicKey command))
      (fun _ => On request Facts) fun _ => On request Facts := by
  apply solitary_tell
  intro store session choice value next after facts _ responded
  rw [(respond_change responded).untouched spares]
  exact facts

/-- A transaction alone ends committed, or as it began. -/
theorem solitary_transaction {exec : Task Id PublicKey Value} {attempts : Nat}
    {Done : Value → Store Id → Prop} (Ready : Value → Store Id → Prop)
    (body : Triple (World.perform platform) (solitary Admitted) 0 (On request Facts) exec
      (fun value => On request (Ready value)) fun _ => On request Facts)
    (falls : ∀ value store, Ready value store → Facts store)
    (commits : ∀ value store writes, Ready value store → Done value (store.commit writes)) :
    Triple (World.perform platform) (solitary Admitted) 0 (On request Facts)
      (DbUtil.transaction attempts exec) (fun value => On request (Done value))
      fun _ => Running 0 request := by
  have drops {Before : Store Id → Prop} : Triple (World.perform platform) (solitary Admitted) 0
      (On request Before) (tell .endSession : Task Id PublicKey Unit)
      (fun _ => On request Before) fun _ => Running 0 request :=
    (solitary_calm rfl).conseq (fun _ _ holds => holds) (fun _ _ _ holds => holds)
      fun _ _ _ holds => At.running holds
  have commit (value : Value) : Triple (World.perform platform) (solitary Admitted) 0
      (On request (Ready value)) (tell .commitTransaction : Task Id PublicKey Unit)
      (fun _ => On request (Done value)) fun _ => On request (Ready value) := by
    apply solitary_tell
    intro store session choice _ next after ready _ responded
    obtain ⟨pending, -, -, same⟩ := commit_ok responded
    rw [same]
    exact commits value store pending.writes ready
  apply transaction_triple
  · exact (solitary_calm rfl).conseq (fun _ _ holds => holds) (fun _ _ _ holds => holds)
      fun _ _ _ holds => At.running holds
  · exact solitary_calm rfl
  · exact body
  · exact fun value => (commit value).conseq (fun _ _ holds => holds) (fun _ _ _ holds => holds)
      fun _ _ _ holds => holds.mono (falls value)
  · exact solitary_calm rfl
  · exact fun _ => drops
  · exact drops.conseq (fun _ _ holds => holds) (fun _ _ _ holds => At.running holds)
      fun _ _ _ holds => holds

/-- A failed part of a request keeps only that it is running. -/
theorem solitary_loosen {program : Task Id PublicKey Value} {Before : World Id PublicKey → Prop}
    {After : Value → World Id PublicKey → Prop}
    (triple : Triple (World.perform platform) (solitary Admitted) 0 Before program After
      fun _ => On request Facts) :
    Triple (World.perform platform) (solitary Admitted) 0 Before program After
      fun _ => Running 0 request :=
  triple.conseq (fun _ _ holds => holds) (fun _ _ _ holds => holds)
    fun _ _ _ holds => At.running holds

/-- A failed part of a request falls back to weaker facts. -/
theorem solitary_fall {program : Task Id PublicKey Value} {Before : World Id PublicKey → Prop}
    {After : Value → World Id PublicKey → Prop}
    (triple : Triple (World.perform platform) (solitary Admitted) 0 Before program After
      fun _ => On request Facts)
    (wider : ∀ store, Facts store → Thrown store) :
    Triple (World.perform platform) (solitary Admitted) 0 Before program After
      fun _ => On request Thrown :=
  triple.conseq (fun _ _ holds => holds) (fun _ _ _ holds => holds)
    fun _ _ _ holds => holds.mono wider

/-- A fact that does not depend on the stores is assumed. -/
theorem solitary_assume {fact : Prop} {program : Task Id PublicKey Value}
    {After : Value → World Id PublicKey → Prop} {Thrown : World Id PublicKey → Prop}
    (triple : fact → Triple (World.perform platform) (solitary Admitted) 0 (On request Facts)
      program After fun _ => Thrown) :
    Triple (World.perform platform) (solitary Admitted) 0
      (On request fun store => fact ∧ Facts store) program After fun _ => Thrown := by
  intro world invariant holds
  obtain ⟨task, found, asked, holdsFact, facts⟩ := holds
  exact triple holdsFact world invariant ⟨task, found, asked, facts⟩

end

end Holonus.Backend
