/-
This file states what a program may await and what it may end with.
A protocol allows operations and bounds their replies without a world.
-/

import Holonus.Machine.Interleaving

namespace Holonus.Machine

/-- A protocol names the operations that a program may await and the replies it can get. -/
structure Protocol (Op : Type) (Reply : Op → Type) (Failure : Type) where
  Allows : Op → Prop
  Answers : (op : Op) → Except Failure (Reply op) → Prop

section
variable {Op : Type} {Reply : Op → Type} {Failure Value Result World Choice : Type}

/-- The program awaits allowed operations only and ends with such a value or failure. -/
def Program.Obeys (protocol : Protocol Op Reply Failure) (After : Value → Prop)
    (Thrown : Failure → Prop) : Program Op Reply Failure Value → Prop
  | .done (.ok value) => After value
  | .done (.error failure) => Thrown failure
  | .await op resume => protocol.Allows op ∧
      ∀ reply, protocol.Answers op reply → (resume reply).Obeys protocol After Thrown

namespace Program.Obeys

variable {protocol : Protocol Op Reply Failure} {After : Value → Prop} {Thrown : Failure → Prop}

/-- A returned value follows a protocol when its own condition holds. -/
theorem pure {value : Value} (holds : After value) :
    (Pure.pure value : Program Op Reply Failure Value).Obeys protocol After Thrown :=
  holds

/-- A thrown failure follows a protocol when its own condition holds. -/
theorem throw {failure : Failure} (holds : Thrown failure) :
    (MonadExcept.throw failure : Program Op Reply Failure Value).Obeys protocol After Thrown :=
  holds

/-- A call follows a protocol that allows its operation. -/
theorem call {op : Op} {After : Reply op → Prop} (allowed : protocol.Allows op)
    (after : ∀ value, protocol.Answers op (.ok value) → After value)
    (thrown : ∀ failure, protocol.Answers op (.error failure) → Thrown failure) :
    (Program.call op : Program Op Reply Failure (Reply op)).Obeys protocol After Thrown := by
  refine ⟨allowed, ?_⟩
  intro reply answered
  cases reply with
  | ok value => exact after value answered
  | error failure => exact thrown failure answered

/-- A sequence follows the protocol when both of its parts do. -/
theorem bind {Finally : Result → Prop} {program : Program Op Reply Failure Value}
    {next : Value → Program Op Reply Failure Result}
    (first : program.Obeys protocol After Thrown)
    (rest : ∀ value, After value → (next value).Obeys protocol Finally Thrown) :
    (program >>= next).Obeys protocol Finally Thrown := by
  induction program with
  | done outcome =>
      cases outcome with
      | ok value => exact rest value first
      | error failure => exact first
  | await op resume ih =>
      refine ⟨first.1, ?_⟩
      intro reply answered
      exact ih reply (first.2 reply answered)

/-- A handled program follows the protocol when its handler does. -/
theorem handle {Caught : Failure → Prop} {program : Program Op Reply Failure Value}
    {handler : Failure → Program Op Reply Failure Value}
    (first : program.Obeys protocol After Caught)
    (rest : ∀ failure, Caught failure → (handler failure).Obeys protocol After Thrown) :
    (tryCatch program handler).Obeys protocol After Thrown := by
  induction program with
  | done outcome =>
      cases outcome with
      | ok value => exact first
      | error failure => exact rest failure first
  | await op resume ih =>
      refine ⟨first.1, ?_⟩
      intro reply answered
      exact ih reply (first.2 reply answered)

/-- A settled program follows the protocol of the program. -/
theorem settled {Caught : Failure → Prop} {program : Program Op Reply Failure Value}
    (obeys : program.Obeys protocol After Caught) :
    program.settled.Obeys protocol (fun outcome =>
      match outcome with
      | .ok value => After value
      | .error failure => Caught failure) Thrown := by
  induction program with
  | done outcome =>
      cases outcome with
      | ok value => exact obeys
      | error failure => exact obeys
  | await op resume ih =>
      refine ⟨obeys.1, ?_⟩
      intro reply answered
      exact ih reply (obeys.2 reply answered)

/-- A final step is part of the protocol. -/
theorem andFinally {program : Program Op Reply Failure Value}
    {last : Program Op Reply Failure Unit} (first : program.Obeys protocol After Thrown)
    (ends : last.Obeys protocol (fun _ => True) Thrown) :
    (program.andFinally last).Obeys protocol After Thrown := by
  apply bind (settled first)
  intro outcome ended
  apply bind ends
  intro _ _
  cases outcome with
  | ok value => exact ended
  | error failure => exact ended

/-- The rule of consequence for protocols. -/
theorem conseq {Wider : Value → Prop} {Caught : Failure → Prop}
    {program : Program Op Reply Failure Value} (obeys : program.Obeys protocol After Thrown)
    (after : ∀ value, After value → Wider value)
    (thrown : ∀ failure, Thrown failure → Caught failure) :
    program.Obeys protocol Wider Caught := by
  induction program with
  | done outcome =>
      cases outcome with
      | ok value => exact after value obeys
      | error failure => exact thrown failure obeys
  | await op resume ih =>
      refine ⟨obeys.1, ?_⟩
      intro reply answered
      exact ih reply (obeys.2 reply answered)

/-- A program that obeys a protocol obeys every wider one. -/
theorem widen {wider : Protocol Op Reply Failure} {program : Program Op Reply Failure Value}
    (obeys : program.Obeys protocol After Thrown)
    (allows : ∀ op, protocol.Allows op → wider.Allows op)
    (answers : ∀ op reply, protocol.Allows op → wider.Answers op reply →
      protocol.Answers op reply) :
    program.Obeys wider After Thrown := by
  induction program with
  | done outcome =>
      cases outcome with
      | ok value => exact obeys
      | error failure => exact obeys
  | await op resume ih =>
      refine ⟨allows op obeys.1, ?_⟩
      intro reply answered
      exact ih reply (obeys.2 reply (answers op reply obeys.1 answered))

variable {perform : Nat → (op : Op) → Choice → World → Option (Except Failure (Reply op) × World)}
  {discipline : Discipline Op World Choice} {index : Nat} {Holds : World → Prop}

/-- An assertion that the allowed operations keep holds when an obedient program ends. -/
theorem triple {program : Program Op Reply Failure Value}
    (obeys : program.Obeys protocol After Thrown) (stable : discipline.Stable index Holds)
    (demands : ∀ op world, protocol.Allows op → discipline.Invariant world → Holds world →
      discipline.Demands index op world)
    (replies : ∀ op choice world reply next, protocol.Allows op → discipline.Invariant world →
      Holds world → discipline.Admits index op choice world →
        perform index op choice world = some (reply, next) → discipline.Invariant next →
          protocol.Answers op reply ∧ Holds next) :
    Triple perform discipline index Holds program (fun value world => After value ∧ Holds world)
      fun failure world => Thrown failure ∧ Holds world := by
  intro world invariant holds
  induction program generalizing world with
  | done outcome =>
      cases outcome with
      | ok value => exact ⟨obeys, holds⟩
      | error failure => exact ⟨obeys, holds⟩
  | await op resume ih =>
      intro current relied kept
      have now := stable world current relied kept holds
      refine ⟨demands op current obeys.1 kept now, ?_⟩
      intro choice reply next admitted performed after
      obtain ⟨answered, later⟩ :=
        replies op choice current reply next obeys.1 kept now admitted performed after
      exact ih reply (obeys.2 reply answered) next after later

end Program.Obeys

/-- A discipline refines another one when it assumes more and owes less. -/
structure Discipline.Refines (fine coarse : Discipline Op World Choice) : Prop where
  invariant : ∀ world, fine.Invariant world → coarse.Invariant world
  rely : ∀ index world next, fine.Rely index world next → coarse.Rely index world next
  admits : ∀ index op choice world, fine.Admits index op choice world →
    coarse.Admits index op choice world
  demands : ∀ index op world, coarse.Demands index op world → fine.Demands index op world

/-- A safe program stays safe under a finer discipline. -/
theorem Safe.refine
    {perform : Nat → (op : Op) → Choice → World → Option (Except Failure (Reply op) × World)}
    {fine coarse : Discipline Op World Choice} (refines : fine.Refines coarse) {index : Nat}
    {Ensures : Except Failure Value → World → Prop} {program : Program Op Reply Failure Value}
    {world : World} (safe : Safe perform coarse index Ensures program world) :
    Safe perform fine index Ensures program world := by
  induction program generalizing world with
  | done outcome => exact safe
  | await op resume ih =>
      intro current relied holds
      obtain ⟨demanded, continues⟩ :=
        safe current (refines.rely _ _ _ relied) (refines.invariant _ holds)
      refine ⟨refines.demands _ _ _ demanded, ?_⟩
      intro choice reply next admitted performed kept
      exact ih reply (continues choice reply next (refines.admits _ _ _ _ admitted) performed
        (refines.invariant _ kept))

section
variable {Request : Type} {runtime : Runtime Op Reply Failure Value World Choice Request}
  {Ensures : Nat → Except Failure Value → World → Prop} {fine coarse : Discipline Op World Choice}

/-- A run goes on under a finer discipline, which judges only the tasks that start from now on. -/
theorem Runtime.Kept.refine {pool : Pool Op Reply Failure Value World}
    {Later : Nat → Except Failure Value → World → Prop}
    (kept : runtime.Kept coarse Ensures pool) (refines : fine.Refines coarse)
    (holds : fine.Invariant pool.world) :
    runtime.Kept fine
      (fun index outcome world => pool.tasks index = none → Later index outcome world) pool := by
  refine ⟨holds, ?_⟩
  intro index program task
  apply Safe.mono _ holds (Safe.refine refines (kept.safe index program task))
  intro outcome world _ _ unstarted
  rw [task] at unstarted
  cases unstarted

end

section
variable {Request : Type} {runtime : Runtime Op Reply Failure Value World Choice Request}
  {asked : World → Nat → Option Request}

/-- The world remembers the request of each task. -/
structure Runtime.Remembers (runtime : Runtime Op Reply Failure Value World Choice Request)
    (asked : World → Nat → Option Request) : Prop where
  enrolled : ∀ index request world,
    asked (runtime.enroll index request world) = Function.update (asked world) index (some request)
  performed : ∀ index op choice world reply next,
    runtime.perform index op choice world = some (reply, next) → asked next = asked world

variable {protocol : Nat → Request → Protocol Op Reply Failure} {After : Request → Value → Prop}
  {Thrown : Request → Failure → Prop}

/-- Every task obeys the protocol of its request. -/
def Pool.Obedient (asked : World → Nat → Option Request)
    (protocol : Nat → Request → Protocol Op Reply Failure) (After : Request → Value → Prop)
    (Thrown : Request → Failure → Prop) (pool : Pool Op Reply Failure Value World) : Prop :=
  ∀ index program, pool.tasks index = some program → ∃ request,
    asked pool.world index = some request ∧
      program.Obeys (protocol index request) (After request) (Thrown request)

/-- The step gets a reply that the protocol of its task answers. -/
def Runtime.Answered (runtime : Runtime Op Reply Failure Value World Choice Request)
    (asked : World → Nat → Option Request) (protocol : Nat → Request → Protocol Op Reply Failure)
    (entry : Pool Op Reply Failure Value World × Move Choice Request) : Prop :=
  ∀ index choice, entry.2 = .step index choice → ∀ op resume reply next request,
    entry.1.tasks index = some (.await op resume) →
      runtime.perform index op choice entry.1.world = some (reply, next) →
        asked entry.1.world index = some request → (protocol index request).Allows op →
          (protocol index request).Answers op reply

namespace Pool.Obedient

variable {pool next : Pool Op Reply Failure Value World}

/-- An obedient task awaits only allowed operations. -/
theorem allows (obedient : pool.Obedient asked protocol After Thrown) {index : Nat} {op : Op}
    {resume : Except Failure (Reply op) → Program Op Reply Failure Value}
    (task : pool.tasks index = some (.await op resume)) :
    ∃ request, asked pool.world index = some request ∧ (protocol index request).Allows op := by
  obtain ⟨request, same, obeys⟩ := obedient index _ task
  exact ⟨request, same, obeys.1⟩

/-- An obedient task that has ended has an outcome of its request. -/
theorem finished (obedient : pool.Obedient asked protocol After Thrown) {index : Nat}
    {outcome : Except Failure Value} (ended : pool.outcome index = some outcome) :
    ∃ request, asked pool.world index = some request ∧
      match outcome with
      | .ok value => After request value
      | .error failure => Thrown request failure := by
  unfold Pool.outcome at ended
  split at ended
  · rename_i result task
    cases ended
    obtain ⟨request, same, obeyed⟩ := obedient index _ task
    refine ⟨request, same, ?_⟩
    cases outcome with
    | ok value => exact obeyed
    | error failure => exact obeyed
  · cases ended

/-- Every answered move keeps the pool obedient. -/
theorem advance (remembers : runtime.Remembers asked)
    (obeys : ∀ index request,
      (runtime.program request).Obeys (protocol index request) (After request) (Thrown request))
    {move : Move Choice Request} (answered : runtime.Answered asked protocol (pool, move))
    (obedient : pool.Obedient asked protocol After Thrown)
    (advanced : runtime.advance pool move = .ok next) :
    next.Obedient asked protocol After Thrown := by
  cases move with
  | start index request =>
      obtain ⟨-, started⟩ := runtime.advance_start advanced
      rw [started]
      apply forall_update_some
      · refine ⟨request, ?_, obeys index request⟩
        rw [remembers.enrolled, Function.update_self]
      · intro other program different task
        obtain ⟨earlier, same, obeyed⟩ := obedient other program task
        refine ⟨earlier, ?_, obeyed⟩
        rw [remembers.enrolled, Function.update_of_ne different]
        exact same
  | step index choice =>
      obtain ⟨op, resume, reply, world, task, performed, stepped⟩ := runtime.advance_step advanced
      have kept := remembers.performed index op choice pool.world reply world performed
      rw [stepped]
      apply forall_update_some
      · obtain ⟨request, same, obeyed⟩ := obedient index _ task
        refine ⟨request, (congrFun kept index).trans same, obeyed.2 reply ?_⟩
        exact answered index choice rfl op resume reply world request task performed same obeyed.1
      · intro other program _ present
        obtain ⟨request, same, obeyed⟩ := obedient other program present
        exact ⟨request, (congrFun kept other).trans same, obeyed⟩

/-- Every run whose replies are answered keeps every task obedient. -/
theorem run (remembers : runtime.Remembers asked)
    (obeys : ∀ index request,
      (runtime.program request).Obeys (protocol index request) (After request) (Thrown request))
    {moves : List (Move Choice Request)} (obedient : pool.Obedient asked protocol After Thrown)
    (answered : ∀ entry ∈ history runtime.advance pool moves,
      runtime.Answered asked protocol entry) :
    (Machine.run runtime.advance pool moves).Obedient asked protocol After Thrown := by
  apply run_invariant (runtime.Answered asked protocol)
    (fun pool => pool.Obedient asked protocol After Thrown) obedient _ answered
  intro current move next answers holds advanced
  exact holds.advance remembers obeys answers advanced

/-- A run whose replies are answered starts every step from an obedient pool. -/
theorem recorded (remembers : runtime.Remembers asked)
    (obeys : ∀ index request,
      (runtime.program request).Obeys (protocol index request) (After request) (Thrown request))
    {moves : List (Move Choice Request)} (obedient : pool.Obedient asked protocol After Thrown)
    (answered : ∀ entry ∈ history runtime.advance pool moves,
      runtime.Answered asked protocol entry)
    {entry : Pool Op Reply Failure Value World × Move Choice Request}
    (member : entry ∈ history runtime.advance pool moves) :
    entry.1.Obedient asked protocol After Thrown := by
  obtain ⟨first, rest, next, same, ran, -, -⟩ := split_of_history member
  rw [← ran]
  apply obedient.run remembers obeys
  intro earlier present
  apply answered earlier
  rw [same, history_append]
  exact List.mem_append_left _ present

/-- What the allowed operations keep holds after every run whose replies are answered. -/
theorem keeps {Holds : World → Prop} (remembers : runtime.Remembers asked)
    (obeys : ∀ index request,
      (runtime.program request).Obeys (protocol index request) (After request) (Thrown request))
    {moves : List (Move Choice Request)} (obedient : pool.Obedient asked protocol After Thrown)
    (answered : ∀ entry ∈ history runtime.advance pool moves,
      runtime.Answered asked protocol entry)
    (holds : Holds pool.world)
    (enrolled : ∀ index request world, runtime.free index world = true → Holds world →
      Holds (runtime.enroll index request world))
    (performed : ∀ index op choice world reply next request, asked world index = some request →
      (protocol index request).Allows op →
        runtime.perform index op choice world = some (reply, next) → Holds world → Holds next) :
    Holds (Machine.run runtime.advance pool moves).world := by
  apply run_invariant (fun entry => entry ∈ history runtime.advance pool moves)
    (fun current : Pool Op Reply Failure Value World => Holds current.world) holds _
    fun _ member => member
  intro current move next member before advanced
  cases move with
  | start index request =>
      obtain ⟨free, started⟩ := runtime.advance_start advanced
      rw [started]
      exact enrolled index request current.world free before
  | step index choice =>
      obtain ⟨op, resume, reply, world, task, stepping, stepped⟩ := runtime.advance_step advanced
      obtain ⟨request, same, allowed⟩ :=
        (obedient.recorded remembers obeys answered member).allows task
      rw [stepped]
      exact performed index op choice current.world reply world request same allowed stepping before

end Pool.Obedient

end

end

end Holonus.Machine
