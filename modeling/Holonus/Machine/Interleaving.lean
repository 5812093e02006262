/-
This file interleaves programs at their awaits.
A discipline states what each program may assume of the others and what it owes them.
-/

import Holonus.Machine.AtomicRun
import Holonus.Machine.Program

namespace Holonus.Machine

/-- The runtime performs operations for the task with an index and starts programs for requests. -/
structure Runtime (Op : Type) (Reply : Op → Type)
    (Failure Value World Choice Request : Type) where
  perform : Nat → (op : Op) → Choice → World → Option (Except Failure (Reply op) × World)
  program : Request → Program Op Reply Failure Value
  free : Nat → World → Bool
  enroll : Nat → Request → World → World

/-- The pool holds the world and the remaining program of each task. -/
structure Pool (Op : Type) (Reply : Op → Type) (Failure Value World : Type) where
  world : World
  tasks : Nat → Option (Program Op Reply Failure Value)

/-- A move starts a request or lets one task perform its awaited operation. -/
inductive Move (Choice Request : Type) where
  | start (index : Nat) (request : Request)
  | step (index : Nat) (choice : Choice)

/-- The move starts a task only with an index below the bound. -/
def Move.startsBelow {Choice Request : Type} (bound : Nat) : Move Choice Request → Bool
  | .start index _ => index < bound
  | .step _ _ => true

/-- A property of every entry of an updated table is checked for the new entry and the others. -/
theorem forall_update_some {Entry : Type} {table : Nat → Option Entry} {index : Nat} {entry : Entry}
    {Holds : Nat → Entry → Prop} (mine : Holds index entry)
    (others : ∀ other current, other ≠ index → table other = some current → Holds other current) :
    ∀ other current, Function.update table index (some entry) other = some current →
      Holds other current := by
  intro other current found
  by_cases same : other = index
  · subst same
    rw [Function.update_self, Option.some.injEq] at found
    rw [← found]
    exact mine
  · rw [Function.update_of_ne same] at found
    exact others other current same found

section
variable {Op : Type} {Reply : Op → Type} {Failure Value World Choice Request : Type}

/-- An impossible move changes nothing. -/
def Runtime.advance (runtime : Runtime Op Reply Failure Value World Choice Request)
    (pool : Pool Op Reply Failure Value World) :
    Move Choice Request → Except Unit (Pool Op Reply Failure Value World)
  | .start index request =>
      if runtime.free index pool.world ∧ (pool.tasks index).isNone then
        .ok ⟨runtime.enroll index request pool.world,
          Function.update pool.tasks index (some (runtime.program request))⟩
      else .error ()
  | .step index choice =>
      match pool.tasks index with
      | some (.await op resume) =>
          match runtime.perform index op choice pool.world with
          | some (reply, next) =>
              .ok ⟨next, Function.update pool.tasks index (some (resume reply))⟩
          | none => .error ()
      | _ => .error ()

/-- A start enrols its request under a free index. -/
theorem Runtime.advance_start (runtime : Runtime Op Reply Failure Value World Choice Request)
    {pool next : Pool Op Reply Failure Value World} {index : Nat} {request : Request}
    (advanced : runtime.advance pool (.start index request) = .ok next) :
    runtime.free index pool.world = true ∧ next = ⟨runtime.enroll index request pool.world,
      Function.update pool.tasks index (some (runtime.program request))⟩ := by
  simp only [Runtime.advance] at advanced
  split at advanced
  · rename_i possible
    cases advanced
    exact ⟨possible.1, rfl⟩
  · cases advanced

/-- A started index had no task before. -/
theorem Runtime.unstarted_of_start (runtime : Runtime Op Reply Failure Value World Choice Request)
    {pool next : Pool Op Reply Failure Value World} {index : Nat} {request : Request}
    (advanced : runtime.advance pool (.start index request) = .ok next) :
    pool.tasks index = none := by
  simp only [Runtime.advance] at advanced
  split at advanced
  · rename_i possible
    exact Option.isNone_iff_eq_none.mp possible.2
  · cases advanced

/-- A step performs the operation that its task awaits. -/
theorem Runtime.advance_step (runtime : Runtime Op Reply Failure Value World Choice Request)
    {pool next : Pool Op Reply Failure Value World} {index : Nat} {choice : Choice}
    (advanced : runtime.advance pool (.step index choice) = .ok next) :
    ∃ op resume reply world, pool.tasks index = some (.await op resume) ∧
      runtime.perform index op choice pool.world = some (reply, world) ∧
      next = ⟨world, Function.update pool.tasks index (some (resume reply))⟩ := by
  simp only [Runtime.advance] at advanced
  split at advanced
  · rename_i op resume task
    split at advanced
    · rename_i reply world performed
      cases advanced
      exact ⟨op, resume, reply, world, task, performed, rfl⟩
    · cases advanced
  · cases advanced

/-- A step whose operation is performed resumes its task. -/
theorem Runtime.step_advances (runtime : Runtime Op Reply Failure Value World Choice Request)
    {pool : Pool Op Reply Failure Value World} {index : Nat} {choice : Choice} {op : Op}
    {resume : Except Failure (Reply op) → Program Op Reply Failure Value}
    {reply : Except Failure (Reply op)} {world : World}
    (task : pool.tasks index = some (.await op resume))
    (performed : runtime.perform index op choice pool.world = some (reply, world)) :
    runtime.advance pool (.step index choice) =
      .ok ⟨world, Function.update pool.tasks index (some (resume reply))⟩ := by
  simp only [Runtime.advance, task, performed]

/-- A finished task has an outcome. -/
def Pool.outcome (pool : Pool Op Reply Failure Value World) (index : Nat) :
    Option (Except Failure Value) :=
  match pool.tasks index with
  | some (.done outcome) => some outcome
  | _ => none

/-- A discipline names the common invariant, the interference that a task tolerates, the steps
that are admitted and what a task owes before a step. -/
structure Discipline (Op World Choice : Type) where
  Invariant : World → Prop
  Rely : Nat → World → World → Prop
  Admits : Nat → Op → Choice → World → Prop
  Demands : Nat → Op → World → Prop

variable (perform : Nat → (op : Op) → Choice → World → Option (Except Failure (Reply op) × World))

/-- One admitted step keeps the invariant and stays within the interference of the others. -/
structure Discipline.Sound (discipline : Discipline Op World Choice) : Prop where
  rely_refl : ∀ index world, discipline.Rely index world world
  rely_trans : ∀ index first second third, discipline.Rely index first second →
    discipline.Rely index second third → discipline.Rely index first third
  keeps : ∀ index op choice world reply next, discipline.Invariant world →
    discipline.Demands index op world → discipline.Admits index op choice world →
      perform index op choice world = some (reply, next) → discipline.Invariant next
  spares : ∀ index other op choice world reply next, other ≠ index → discipline.Invariant world →
    discipline.Demands index op world → discipline.Admits index op choice world →
      perform index op choice world = some (reply, next) → discipline.Rely other world next

/-- Under every tolerated interference the program owes nothing and ends as stated. -/
def Safe (discipline : Discipline Op World Choice) (index : Nat)
    (Ensures : Except Failure Value → World → Prop) :
    Program Op Reply Failure Value → World → Prop
  | .done outcome, world => Ensures outcome world
  | .await op resume, world => ∀ current, discipline.Rely index world current →
      discipline.Invariant current → discipline.Demands index op current ∧
        ∀ choice reply next, discipline.Admits index op choice current →
          perform index op choice current = some (reply, next) → discipline.Invariant next →
            Safe discipline index Ensures (resume reply) next

section
variable {perform} {discipline : Discipline Op World Choice} {index : Nat}

/-- A safe program ensures whatever follows from what it ensures. -/
theorem Safe.mono {Ensures Wider : Except Failure Value → World → Prop}
    (wider : ∀ outcome world, discipline.Invariant world → Ensures outcome world →
      Wider outcome world)
    {program : Program Op Reply Failure Value} {world : World}
    (invariant : discipline.Invariant world)
    (safe : Safe perform discipline index Ensures program world) :
    Safe perform discipline index Wider program world := by
  induction program generalizing world with
  | done outcome => exact wider outcome world invariant safe
  | await op resume ih =>
      intro current relied holds
      obtain ⟨demanded, continues⟩ := safe current relied holds
      refine ⟨demanded, ?_⟩
      intro choice reply next admitted performed kept
      exact ih reply kept (continues choice reply next admitted performed kept)

/-- Interference of the others keeps a program safe. -/
theorem Safe.rely {Ensures : Except Failure Value → World → Prop}
    (transitive : ∀ first second third, discipline.Rely index first second →
      discipline.Rely index second third → discipline.Rely index first third)
    (stable : ∀ outcome first second, discipline.Rely index first second →
      discipline.Invariant second → Ensures outcome first → Ensures outcome second)
    {program : Program Op Reply Failure Value} {world current : World}
    (relied : discipline.Rely index world current) (invariant : discipline.Invariant current)
    (safe : Safe perform discipline index Ensures program world) :
    Safe perform discipline index Ensures program current := by
  cases program with
  | done outcome => exact stable outcome world current relied invariant safe
  | await op resume =>
      intro later further holds
      exact safe later (transitive _ _ _ relied further) holds

/-- A sequence is safe when its rest is safe after its first part. -/
theorem Safe.bind {Result : Type} {Ensures : Except Failure Result → World → Prop}
    {program : Program Op Reply Failure Value} {next : Value → Program Op Reply Failure Result}
    {world : World}
    (safe : Safe perform discipline index (fun outcome current =>
      match outcome with
      | .ok value => Safe perform discipline index Ensures (next value) current
      | .error failure => Ensures (.error failure) current) program world) :
    Safe perform discipline index Ensures (program >>= next) world := by
  induction program generalizing world with
  | done outcome =>
      cases outcome with
      | ok value => exact safe
      | error failure => exact safe
  | await op resume ih =>
      intro current relied holds
      obtain ⟨demanded, continues⟩ := safe current relied holds
      refine ⟨demanded, ?_⟩
      intro choice reply later admitted performed kept
      exact ih reply (continues choice reply later admitted performed kept)

/-- A handled program is safe when its handler is safe after every failure. -/
theorem Safe.handle {Ensures : Except Failure Value → World → Prop}
    {program : Program Op Reply Failure Value}
    {handler : Failure → Program Op Reply Failure Value} {world : World}
    (safe : Safe perform discipline index (fun outcome current =>
      match outcome with
      | .ok value => Ensures (.ok value) current
      | .error failure => Safe perform discipline index Ensures (handler failure) current)
        program world) :
    Safe perform discipline index Ensures (tryCatch program handler) world := by
  induction program generalizing world with
  | done outcome =>
      cases outcome with
      | ok value => exact safe
      | error failure => exact safe
  | await op resume ih =>
      intro current relied holds
      obtain ⟨demanded, continues⟩ := safe current relied holds
      refine ⟨demanded, ?_⟩
      intro choice reply later admitted performed kept
      exact ih reply (continues choice reply later admitted performed kept)

/-- A settled program is safe as the program is. -/
theorem Safe.settled {Ensures : Except Failure (Except Failure Value) → World → Prop}
    {program : Program Op Reply Failure Value} {world : World}
    (safe : Safe perform discipline index (fun outcome => Ensures (.ok outcome)) program world) :
    Safe perform discipline index Ensures program.settled world := by
  induction program generalizing world with
  | done outcome => exact safe
  | await op resume ih =>
      intro current relied holds
      obtain ⟨demanded, continues⟩ := safe current relied holds
      refine ⟨demanded, ?_⟩
      intro choice reply later admitted performed kept
      exact ih reply (continues choice reply later admitted performed kept)

/-- A safe program ends as stated when it runs alone. -/
theorem Safe.alone {Ensures : Except Failure Value → World → Prop}
    (reflexive : ∀ world, discipline.Rely index world world)
    (keeps : ∀ op choice world reply next, discipline.Invariant world →
      discipline.Demands index op world → discipline.Admits index op choice world →
        perform index op choice world = some (reply, next) → discipline.Invariant next)
    {program : Program Op Reply Failure Value} {choices : List Choice} {world last : World}
    {outcome : Except Failure Value}
    (admits : ∀ choice ∈ choices, ∀ op world, discipline.Admits index op choice world)
    (invariant : discipline.Invariant world)
    (safe : Safe perform discipline index Ensures program world)
    (ran : program.alone (perform index) choices world = some (outcome, last)) :
    Ensures outcome last := by
  induction program generalizing choices world with
  | done result =>
      cases choices with
      | nil =>
          cases ran
          exact safe
      | cons choice rest => cases ran
  | await op resume ih =>
      cases choices with
      | nil => cases ran
      | cons choice rest =>
          simp only [Program.alone] at ran
          split at ran
          · cases ran
          · rename_i reply next performed
            obtain ⟨demanded, continues⟩ := safe world (reflexive world) invariant
            have admitted := admits choice List.mem_cons_self op world
            have kept := keeps op choice world reply next invariant demanded admitted performed
            exact ih reply (fun later member => admits later (List.mem_cons_of_mem _ member)) kept
              (continues choice reply next admitted performed kept) ran

end

/-- A triple states what holds after a value and what holds after a failure. -/
def Triple (discipline : Discipline Op World Choice) (index : Nat) (Before : World → Prop)
    (program : Program Op Reply Failure Value) (After : Value → World → Prop)
    (Thrown : Failure → World → Prop) : Prop :=
  ∀ world, discipline.Invariant world → Before world →
    Safe perform discipline index (fun outcome current =>
      match outcome with
      | .ok value => After value current
      | .error failure => Thrown failure current) program world

/-- Interference keeps a stable assertion. -/
def Discipline.Stable (discipline : Discipline Op World Choice) (index : Nat)
    (Holds : World → Prop) : Prop :=
  ∀ world current, discipline.Rely index world current → discipline.Invariant current →
    Holds world → Holds current

namespace Triple

variable {perform} {discipline : Discipline Op World Choice} {index : Nat}
  {Before : World → Prop} {After : Value → World → Prop} {Thrown : Failure → World → Prop}

/-- The rule of a returned value. -/
theorem pure {value : Value}
    (holds : ∀ world, discipline.Invariant world → Before world → After value world) :
    Triple perform discipline index Before
      (Pure.pure value : Program Op Reply Failure Value) After Thrown :=
  holds

/-- The rule of a thrown failure. -/
theorem throw {failure : Failure}
    (holds : ∀ world, discipline.Invariant world → Before world → Thrown failure world) :
    Triple perform discipline index Before
      (MonadExcept.throw failure : Program Op Reply Failure Value) After Thrown :=
  holds

/-- The rule of sequence. -/
theorem bind {Result : Type} {Finally : Result → World → Prop}
    {program : Program Op Reply Failure Value} {next : Value → Program Op Reply Failure Result}
    (first : Triple perform discipline index Before program After Thrown)
    (rest : ∀ value, Triple perform discipline index (After value) (next value) Finally Thrown) :
    Triple perform discipline index Before (program >>= next) Finally Thrown := by
  intro world invariant before
  apply Safe.bind
  apply Safe.mono _ invariant (first world invariant before)
  intro outcome current holds ended
  cases outcome with
  | ok value => exact rest value current holds ended
  | error failure => exact ended

theorem pure_bind {Result : Type} {Finally : Result → World → Prop} {value : Value}
    {next : Value → Program Op Reply Failure Result}
    (rest : Triple perform discipline index Before (next value) Finally Thrown) :
    Triple perform discipline index Before (Pure.pure value >>= next) Finally Thrown :=
  rest

/-- The rule of a handler. -/
theorem handle {Caught : Failure → World → Prop} {program : Program Op Reply Failure Value}
    {handler : Failure → Program Op Reply Failure Value}
    (first : Triple perform discipline index Before program After Caught)
    (rest : ∀ failure,
      Triple perform discipline index (Caught failure) (handler failure) After Thrown) :
    Triple perform discipline index Before (tryCatch program handler) After Thrown := by
  intro world invariant before
  apply Safe.handle
  apply Safe.mono _ invariant (first world invariant before)
  intro outcome current holds ended
  cases outcome with
  | ok value => exact ended
  | error failure => exact rest failure current holds ended

/-- The rule of a settled program. -/
theorem settled {Caught : Failure → World → Prop} {program : Program Op Reply Failure Value}
    (triple : Triple perform discipline index Before program After Caught) :
    Triple perform discipline index Before program.settled (fun outcome current =>
      match outcome with
      | .ok value => After value current
      | .error failure => Caught failure current) Thrown := by
  intro world invariant before
  exact Safe.settled (triple world invariant before)

/-- A stable assertion lasts until the awaited operation is performed. -/
theorem call {op : Op} {After : Reply op → World → Prop}
    (stable : discipline.Stable index Before)
    (demands : ∀ world, discipline.Invariant world → Before world →
      discipline.Demands index op world)
    (replies : ∀ world choice reply next, discipline.Invariant world → Before world →
      discipline.Admits index op choice world →
        perform index op choice world = some (reply, next) → discipline.Invariant next →
          match reply with
          | .ok value => After value next
          | .error failure => Thrown failure next) :
    Triple perform discipline index Before (Program.call op) After Thrown := by
  intro world _ before current relied holds
  have now := stable world current relied holds before
  refine ⟨demands current holds now, ?_⟩
  intro choice reply next admitted performed kept
  have ended := replies current choice reply next holds now admitted performed kept
  cases reply with
  | ok value => exact ended
  | error failure => exact ended

/-- The rule of consequence. -/
theorem conseq {Weaker : World → Prop} {Wider : Value → World → Prop}
    {Caught : Failure → World → Prop} {program : Program Op Reply Failure Value}
    (triple : Triple perform discipline index Before program After Thrown)
    (before : ∀ world, discipline.Invariant world → Weaker world → Before world)
    (after : ∀ value world, discipline.Invariant world → After value world → Wider value world)
    (thrown : ∀ failure world, discipline.Invariant world → Thrown failure world →
      Caught failure world) :
    Triple perform discipline index Weaker program Wider Caught := by
  intro world invariant weaker
  apply Safe.mono _ invariant (triple world invariant (before world invariant weaker))
  intro outcome current holds ended
  cases outcome with
  | ok value => exact after value current holds ended
  | error failure => exact thrown failure current holds ended

/-- A condition that does not depend on the world may be assumed. -/
theorem assume {fact : Prop} {program : Program Op Reply Failure Value}
    (triple : fact → Triple perform discipline index Before program After Thrown) :
    Triple perform discipline index (fun world => fact ∧ Before world) program After Thrown := by
  intro world invariant before
  exact triple before.1 world invariant before.2

/-- A witness of the condition may be chosen. -/
theorem choose {Witness : Type} {Before : Witness → World → Prop}
    {program : Program Op Reply Failure Value}
    (triple : ∀ witness, Triple perform discipline index (Before witness) program After Thrown) :
    Triple perform discipline index (fun world => ∃ witness, Before witness world) program After
      Thrown := by
  intro world invariant before
  obtain ⟨witness, holds⟩ := before
  exact triple witness world invariant holds

end Triple

end

section
variable {Op : Type} {Reply : Op → Type} {Failure Value World Choice Request : Type}

/-- The pool keeps the invariant and every task is safe. -/
structure Runtime.Kept (runtime : Runtime Op Reply Failure Value World Choice Request)
    (discipline : Discipline Op World Choice)
    (Ensures : Nat → Except Failure Value → World → Prop)
    (pool : Pool Op Reply Failure Value World) : Prop where
  invariant : discipline.Invariant pool.world
  safe : ∀ index program, pool.tasks index = some program →
    Safe runtime.perform discipline index (Ensures index) program pool.world

/-- The entry starts an accepted request or makes an admitted step. -/
def Discipline.Follows (discipline : Discipline Op World Choice) (Accepts : Request → Prop)
    (entry : Pool Op Reply Failure Value World × Move Choice Request) : Prop :=
  match entry.2 with
  | .start _ request => Accepts request
  | .step index choice => ∀ op ∈ (entry.1.tasks index).bind Program.awaited,
      discipline.Admits index op choice entry.1.world

variable {runtime : Runtime Op Reply Failure Value World Choice Request}
  {discipline : Discipline Op World Choice}
  {Ensures : Nat → Except Failure Value → World → Prop} {Accepts : Request → Prop}

/-- Accepted requests start safe programs. -/
structure Discipline.Starts (discipline : Discipline Op World Choice)
    (runtime : Runtime Op Reply Failure Value World Choice Request)
    (Ensures : Nat → Except Failure Value → World → Prop) (Accepts : Request → Prop) : Prop where
  invariant : ∀ index request world, Accepts request → runtime.free index world = true →
    discipline.Invariant world → discipline.Invariant (runtime.enroll index request world)
  spares : ∀ index other request world, other ≠ index → runtime.free index world = true →
    discipline.Invariant world → discipline.Rely other world (runtime.enroll index request world)
  safe : ∀ index request world, Accepts request → runtime.free index world = true →
    discipline.Invariant (runtime.enroll index request world) →
      Safe runtime.perform discipline index (Ensures index) (runtime.program request)
        (runtime.enroll index request world)
  stable : ∀ index outcome first second, discipline.Rely index first second →
    discipline.Invariant second → Ensures index outcome first → Ensures index outcome second

/-- A task that has ended ensures its outcome. -/
theorem Runtime.Kept.finished {pool : Pool Op Reply Failure Value World}
    (kept : runtime.Kept discipline Ensures pool) {index : Nat} {outcome : Except Failure Value}
    (ended : pool.outcome index = some outcome) : Ensures index outcome pool.world := by
  unfold Pool.outcome at ended
  split at ended
  · rename_i result task
    cases ended
    exact kept.safe index _ task
  · cases ended

/-- A task that awaits an operation owes nothing for it. -/
theorem Runtime.Kept.demands {pool : Pool Op Reply Failure Value World}
    (kept : runtime.Kept discipline Ensures pool)
    (reflexive : ∀ index world, discipline.Rely index world world) {index : Nat} {op : Op}
    {resume : Except Failure (Reply op) → Program Op Reply Failure Value}
    (task : pool.tasks index = some (.await op resume)) :
    discipline.Demands index op pool.world :=
  (kept.safe index _ task pool.world (reflexive index pool.world) kept.invariant).1

/-- A start of an accepted request keeps the pool. -/
theorem Runtime.Kept.start (sound : discipline.Sound runtime.perform)
    (starts : discipline.Starts runtime Ensures Accepts)
    {pool : Pool Op Reply Failure Value World} (kept : runtime.Kept discipline Ensures pool)
    {index : Nat} {request : Request} (accepted : Accepts request)
    (free : runtime.free index pool.world = true) :
    runtime.Kept discipline Ensures ⟨runtime.enroll index request pool.world,
      Function.update pool.tasks index (some (runtime.program request))⟩ := by
  have holds := starts.invariant index request pool.world accepted free kept.invariant
  refine ⟨holds, forall_update_some ?_ ?_⟩
  · exact starts.safe index request pool.world accepted free holds
  · intro other program same task
    exact (kept.safe other program task).rely (sound.rely_trans other) (starts.stable other)
      (starts.spares index other request pool.world same free kept.invariant) holds

/-- A step keeps the pool. -/
theorem Runtime.Kept.step (sound : discipline.Sound runtime.perform)
    (starts : discipline.Starts runtime Ensures Accepts)
    {pool : Pool Op Reply Failure Value World} (kept : runtime.Kept discipline Ensures pool)
    {index : Nat} {op : Op} {resume : Except Failure (Reply op) → Program Op Reply Failure Value}
    {choice : Choice} {reply : Except Failure (Reply op)} {next : World}
    (task : pool.tasks index = some (.await op resume))
    (admitted : discipline.Admits index op choice pool.world)
    (performed : runtime.perform index op choice pool.world = some (reply, next)) :
    runtime.Kept discipline Ensures
      ⟨next, Function.update pool.tasks index (some (resume reply))⟩ := by
  obtain ⟨demanded, continues⟩ :=
    kept.safe index _ task pool.world (sound.rely_refl index pool.world) kept.invariant
  have holds := sound.keeps index op choice pool.world reply next kept.invariant demanded admitted
    performed
  refine ⟨holds, forall_update_some ?_ ?_⟩
  · exact continues choice reply next admitted performed holds
  · intro other program same remaining
    exact (kept.safe other program remaining).rely (sound.rely_trans other) (starts.stable other)
      (sound.spares index other op choice pool.world reply next same kept.invariant demanded
        admitted performed) holds

/-- Every move that follows the discipline keeps the pool. -/
theorem Runtime.Kept.advance (sound : discipline.Sound runtime.perform)
    (starts : discipline.Starts runtime Ensures Accepts)
    {pool next : Pool Op Reply Failure Value World} {move : Move Choice Request}
    (follows : discipline.Follows Accepts (pool, move))
    (kept : runtime.Kept discipline Ensures pool) (advanced : runtime.advance pool move = .ok next) :
    runtime.Kept discipline Ensures next := by
  cases move with
  | start index request =>
      obtain ⟨free, started⟩ := runtime.advance_start advanced
      rw [started]
      exact kept.start sound starts follows free
  | step index choice =>
      obtain ⟨op, resume, reply, world, task, performed, stepped⟩ := runtime.advance_step advanced
      have admitted := follows op (Option.mem_def.mpr (by rw [task]; rfl))
      rw [stepped]
      exact kept.step sound starts task admitted performed

/-- Every run of accepted requests and admitted steps keeps the discipline. -/
theorem Runtime.Kept.run (sound : discipline.Sound runtime.perform)
    (starts : discipline.Starts runtime Ensures Accepts)
    {pool : Pool Op Reply Failure Value World} (kept : runtime.Kept discipline Ensures pool)
    {moves : List (Move Choice Request)}
    (follows : ∀ entry ∈ history runtime.advance pool moves, discipline.Follows Accepts entry) :
    runtime.Kept discipline Ensures (Machine.run runtime.advance pool moves) := by
  apply run_invariant (discipline.Follows Accepts) (runtime.Kept discipline Ensures) kept _ follows
  intro current move next admitted holds advanced
  exact holds.advance sound starts admitted advanced

/-- A discipline that admits every step and accepts every request is kept by every run. -/
theorem Runtime.Kept.run_any (sound : discipline.Sound runtime.perform)
    (starts : discipline.Starts runtime Ensures Accepts)
    (admits : ∀ index op choice world, discipline.Admits index op choice world)
    (accepts : ∀ request, Accepts request)
    {pool : Pool Op Reply Failure Value World} (kept : runtime.Kept discipline Ensures pool)
    (moves : List (Move Choice Request)) :
    runtime.Kept discipline Ensures (Machine.run runtime.advance pool moves) := by
  apply kept.run sound starts
  intro entry _
  obtain ⟨current, move⟩ := entry
  cases move with
  | start index request => exact accepts request
  | step index choice => exact fun op _ => admits index op choice current.world

end

end Holonus.Machine
