/-
This file lets the tasks of a host run programs of a component.
Every run of the host shows a run of the component.
-/

import Holonus.Machine.Protocol

namespace Holonus.Machine

/-- A host performs operations of its component and of its own, and it starts a request of the
component for the current task. -/
inductive HostOp (Op Request Own : Type) where
  | inner (op : Op)
  | enter (request : Request)
  | own (op : Own)

def HostOp.Reply {Op Request Own : Type} (Reply : Op → Type) (Answer : Own → Type) :
    HostOp Op Request Own → Type
  | .inner op => Reply op
  | .enter _ => Unit
  | .own op => Answer op

/-- The operations of a program are embedded in a larger set. -/
def Program.through {Small Large : Type} {Reply : Large → Type} {Failure Value : Type}
    (embed : Small → Large) :
    Program Small (fun op => Reply (embed op)) Failure Value → Program Large Reply Failure Value
  | .done outcome => .done outcome
  | .await op resume => .await (embed op) fun reply => (resume reply).through embed

/-- An embedded program obeys what the program obeys on the smaller set. -/
theorem Program.Obeys.through {Small Large : Type} {Reply : Large → Type} {Failure Value : Type}
    {embed : Small → Large} {protocol : Protocol Large Reply Failure} {After : Value → Prop}
    {Thrown : Failure → Prop} {program : Program Small (fun op => Reply (embed op)) Failure Value}
    (obeys : program.Obeys ⟨fun op => protocol.Allows (embed op),
      fun op reply => protocol.Answers (embed op) reply⟩ After Thrown) :
    (program.through embed).Obeys protocol After Thrown := by
  induction program with
  | done outcome =>
      cases outcome with
      | ok value => exact obeys
      | error failure => exact obeys
  | await op resume ih => exact ⟨obeys.1, fun reply answered => ih reply (obeys.2 reply answered)⟩

section
variable {Op Request Own : Type} {Reply : Op → Type} {Answer : Own → Type}
  {Failure Value Result Served : Type}

/-- An operation of the host moves the program of the component on. -/
inductive HostOp.Turns (serve : Request → Program Op Reply Failure Served)
    (Allows : Option (Program Op Reply Failure Served) → Own → Prop) :
    Option (Program Op Reply Failure Served) → (op : HostOp Op Request Own) →
      (Except Failure (op.Reply Reply Answer) → Option (Program Op Reply Failure Served)) →
        Prop where
  | own (phase : Option (Program Op Reply Failure Served)) (op : Own) (allowed : Allows phase op) :
      Turns serve Allows phase (.own op) fun _ => phase
  | enter (request : Request) :
      Turns serve Allows none (.enter request) fun _ => some (serve request)
  | inner (op : Op) (rest : Except Failure (Reply op) → Program Op Reply Failure Served) :
      Turns serve Allows (some (.await op rest)) (.inner op) fun reply => some (rest reply)

/-- An own operation is allowed in its phase and keeps it. -/
theorem HostOp.Turns.of_own {serve : Request → Program Op Reply Failure Served}
    {Allows : Option (Program Op Reply Failure Served) → Own → Prop}
    {phase : Option (Program Op Reply Failure Served)} {op : Own}
    {later : Except Failure (Answer op) → Option (Program Op Reply Failure Served)}
    (turns : HostOp.Turns serve Allows phase (.own op) later) :
    Allows phase op ∧ ∀ reply, later reply = phase := by
  cases turns with
  | own _ _ allowed => exact ⟨allowed, fun _ => rfl⟩

/-- A host program runs at most one program of the component, and its own operations may depend on
how far that program is. -/
def Program.Visits (serve : Request → Program Op Reply Failure Served)
    (Allows : Option (Program Op Reply Failure Served) → Own → Prop)
    (Answers : (op : HostOp Op Request Own) → Except Failure (op.Reply Reply Answer) → Prop)
    (After : Value → Option (Program Op Reply Failure Served) → Prop)
    (Thrown : Failure → Option (Program Op Reply Failure Served) → Prop) :
    Program (HostOp Op Request Own) (HostOp.Reply Reply Answer) Failure Value →
      Option (Program Op Reply Failure Served) → Prop
  | .done (.ok value), phase => After value phase
  | .done (.error failure), phase => Thrown failure phase
  | .await op resume, phase => ∃ later, HostOp.Turns serve Allows phase op later ∧
      ∀ reply, Answers op reply →
        (resume reply).Visits serve Allows Answers After Thrown (later reply)

namespace Program.Visits

variable {serve : Request → Program Op Reply Failure Served}
  {Allows : Option (Program Op Reply Failure Served) → Own → Prop}
  {Answers : (op : HostOp Op Request Own) → Except Failure (op.Reply Reply Answer) → Prop}
  {After : Value → Option (Program Op Reply Failure Served) → Prop}
  {Thrown : Failure → Option (Program Op Reply Failure Served) → Prop}
  {phase : Option (Program Op Reply Failure Served)}

/-- A returned value keeps the phase. -/
theorem pure {value : Value} (holds : After value phase) :
    (Pure.pure value : Program (HostOp Op Request Own) (HostOp.Reply Reply Answer) Failure
      Value).Visits serve Allows Answers After Thrown phase :=
  holds

/-- The rule of consequence for visits. -/
theorem conseq {Wider : Value → Option (Program Op Reply Failure Served) → Prop}
    {Caught : Failure → Option (Program Op Reply Failure Served) → Prop}
    {program : Program (HostOp Op Request Own) (HostOp.Reply Reply Answer) Failure Value}
    (visits : program.Visits serve Allows Answers After Thrown phase)
    (after : ∀ value later, After value later → Wider value later)
    (thrown : ∀ failure later, Thrown failure later → Caught failure later) :
    program.Visits serve Allows Answers Wider Caught phase := by
  induction program generalizing phase with
  | done outcome =>
      cases outcome with
      | ok value => exact after value phase visits
      | error failure => exact thrown failure phase visits
  | await op resume ih =>
      obtain ⟨later, turns, rest⟩ := visits
      exact ⟨later, turns, fun reply answered => ih reply (rest reply answered)⟩

/-- A sequence visits in the phase that its first part leaves. -/
theorem bind {Finally : Result → Option (Program Op Reply Failure Served) → Prop}
    {program : Program (HostOp Op Request Own) (HostOp.Reply Reply Answer) Failure Value}
    {next : Value → Program (HostOp Op Request Own) (HostOp.Reply Reply Answer) Failure Result}
    (first : program.Visits serve Allows Answers After Thrown phase)
    (rest : ∀ value later, After value later →
      (next value).Visits serve Allows Answers Finally Thrown later) :
    (program >>= next).Visits serve Allows Answers Finally Thrown phase := by
  induction program generalizing phase with
  | done outcome =>
      cases outcome with
      | ok value => exact rest value phase first
      | error failure => exact first
  | await op resume ih =>
      obtain ⟨later, turns, visits⟩ := first
      exact ⟨later, turns, fun reply answered => ih reply (visits reply answered)⟩

/-- A settled program visits as the program does. -/
theorem settled {Caught : Failure → Option (Program Op Reply Failure Served) → Prop}
    {program : Program (HostOp Op Request Own) (HostOp.Reply Reply Answer) Failure Value}
    (visits : program.Visits serve Allows Answers After Caught phase) :
    program.settled.Visits serve Allows Answers (fun outcome later =>
      match outcome with
      | .ok value => After value later
      | .error failure => Caught failure later) Thrown phase := by
  induction program generalizing phase with
  | done outcome =>
      cases outcome with
      | ok value => exact visits
      | error failure => exact visits
  | await op resume ih =>
      obtain ⟨later, turns, rest⟩ := visits
      exact ⟨later, turns, fun reply answered => ih reply (rest reply answered)⟩

/-- A request of the component runs to its end. -/
theorem inner (program : Program Op Reply Failure Served) :
    (program.through HostOp.inner :
      Program (HostOp Op Request Own) (HostOp.Reply Reply Answer) Failure Served).Visits serve Allows
      Answers (fun value later => later = some (.done (.ok value)))
      (fun failure later => later = some (.done (.error failure))) (some program) := by
  induction program with
  | done outcome =>
      cases outcome with
      | ok value => exact rfl
      | error failure => exact rfl
  | await op resume ih => exact ⟨_, .inner op resume, fun reply _ => ih reply⟩

/-- A request of the component starts without fail. -/
theorem enter {request : Request} (starts : ∀ failure, ¬ Answers (.enter request) (.error failure)) :
    (Program.call (HostOp.enter request) :
      Program (HostOp Op Request Own) (HostOp.Reply Reply Answer) Failure Unit).Visits serve Allows
      Answers (fun _ later => later = some (serve request)) Thrown none := by
  refine ⟨_, .enter request, ?_⟩
  intro reply answered
  cases reply with
  | ok _ => exact rfl
  | error failure => exact absurd answered (starts failure)

/-- A program that performs allowed operations of the host only leaves the component alone. -/
theorem own {protocol : Protocol (HostOp Op Request Own) (HostOp.Reply Reply Answer) Failure}
    {program : Program (HostOp Op Request Own) (HostOp.Reply Reply Answer) Failure Value}
    (allows : ∀ op, protocol.Allows op → ∃ mine, op = .own mine ∧ Allows phase mine)
    (answers : ∀ op reply, protocol.Allows op → Answers op reply → protocol.Answers op reply)
    (obeys : program.Obeys protocol (fun value => After value phase)
      fun failure => Thrown failure phase) :
    program.Visits serve Allows Answers After Thrown phase := by
  induction program with
  | done outcome =>
      cases outcome with
      | ok value => exact obeys
      | error failure => exact obeys
  | await op resume ih =>
      obtain ⟨mine, isOwn, allowed⟩ := allows op obeys.1
      subst isOwn
      refine ⟨_, .own phase mine allowed, ?_⟩
      intro reply answered
      exact ih reply (obeys.2 reply (answers _ reply obeys.1 answered))

end Program.Visits

end

section
variable {Op Request Own : Type} {Reply : Op → Type} {Answer : Own → Type}
  {Failure Value Served World Choice Whole Chosen Call : Type}

/-- The host performs the operations of its component on a part of its world. -/
structure Runtime.Hosts
    (outer : Runtime (HostOp Op Request Own) (HostOp.Reply Reply Answer) Failure Value Whole Chosen
      Call)
    (inner : Runtime Op Reply Failure Served World Choice Request) (part : Whole → World) :
    Prop where
  performs : ∀ index op choice world reply next,
    outer.perform index (.inner op) choice world = some (reply, next) →
      ∃ mine, inner.perform index op mine (part world) = some (reply, part next)
  enters : ∀ index request choice world reply next,
    outer.perform index (.enter request) choice world = some (reply, next) →
      inner.free index (part world) = true ∧ part next = inner.enroll index request (part world)
  keeps : ∀ index op choice world reply next,
    outer.perform index (.own op) choice world = some (reply, next) → part next = part world
  enrolls : ∀ index call world, part (outer.enroll index call world) = part world

/-- Each task of the host is as far as the task of the component with the same index. -/
structure Linked (serve : Request → Program Op Reply Failure Served) (part : Whole → World)
    (asked : Whole → Nat → Option Call)
    (Allows : Call → Option (Program Op Reply Failure Served) → Own → Prop)
    (Answers : (op : HostOp Op Request Own) → Except Failure (op.Reply Reply Answer) → Prop)
    (pool : Pool (HostOp Op Request Own) (HostOp.Reply Reply Answer) Failure Value Whole)
    (mine : Pool Op Reply Failure Served World) : Prop where
  world : mine.world = part pool.world
  idle : ∀ index, pool.tasks index = none → mine.tasks index = none
  visits : ∀ index program, pool.tasks index = some program → ∃ call,
    asked pool.world index = some call ∧
      program.Visits serve (Allows call) Answers (fun _ _ => True) (fun _ _ => True)
        (mine.tasks index)

namespace Linked

variable
  {outer : Runtime (HostOp Op Request Own) (HostOp.Reply Reply Answer) Failure Value Whole Chosen
    Call}
  {inner : Runtime Op Reply Failure Served World Choice Request} {part : Whole → World}
  {asked : Whole → Nat → Option Call}
  {Allows : Call → Option (Program Op Reply Failure Served) → Own → Prop}
  {Answers : (op : HostOp Op Request Own) → Except Failure (op.Reply Reply Answer) → Prop}
  {pool next : Pool (HostOp Op Request Own) (HostOp.Reply Reply Answer) Failure Value Whole}
  {mine : Pool Op Reply Failure Served World}

/-- Starting a request keeps the pools linked. -/
theorem start (hosts : outer.Hosts inner part) (remembers : outer.Remembers asked)
    (visits : ∀ call, (outer.program call).Visits inner.program (Allows call) Answers
      (fun _ _ => True) (fun _ _ => True) none)
    (linked : Linked inner.program part asked Allows Answers pool mine) {index : Nat} {call : Call}
    (advanced : outer.advance pool (.start index call) = .ok next) :
    Linked inner.program part asked Allows Answers next mine := by
  have unstarted := outer.unstarted_of_start advanced
  obtain ⟨-, started⟩ := outer.advance_start advanced
  rw [started]
  refine ⟨linked.world.trans (hosts.enrolls index call pool.world).symm, ?_, ?_⟩
  · intro other idle
    by_cases same : other = index
    · rw [same]
      exact linked.idle index unstarted
    · apply linked.idle other
      rw [← idle]
      exact (Function.update_of_ne same _ _).symm
  · apply forall_update_some
    · refine ⟨call, ?_, ?_⟩
      · rw [remembers.enrolled, Function.update_self]
      · rw [linked.idle index unstarted]
        exact visits call
    · intro other program different task
      obtain ⟨earlier, same, visiting⟩ := linked.visits other program task
      refine ⟨earlier, ?_, visiting⟩
      rw [remembers.enrolled, Function.update_of_ne different]
      exact same

/-- A step of the host is a step of the component, a start there or no change. -/
theorem step (hosts : outer.Hosts inner part) (remembers : outer.Remembers asked)
    (linked : Linked inner.program part asked Allows Answers pool mine) {index : Nat} {choice : Chosen}
    {op : HostOp Op Request Own}
    {resume : Except Failure (op.Reply Reply Answer) →
      Program (HostOp Op Request Own) (HostOp.Reply Reply Answer) Failure Value}
    {reply : Except Failure (op.Reply Reply Answer)} {world : Whole}
    (task : pool.tasks index = some (.await op resume))
    (performed : outer.perform index op choice pool.world = some (reply, world))
    (answered : Answers op reply) :
    ∃ moves call later, asked pool.world index = some call ∧
      HostOp.Turns inner.program (Allows call) (mine.tasks index) op later ∧
      (run inner.advance mine moves).tasks = Function.update mine.tasks index (later reply) ∧
      Linked inner.program part asked Allows Answers
        ⟨world, Function.update pool.tasks index (some (resume reply))⟩
        (run inner.advance mine moves) := by
  obtain ⟨call, same, later, turns, visits⟩ := linked.visits index _ task
  have kept := remembers.performed index op choice pool.world reply world performed
  -- The component takes the step that the operation stands for.
  have stepped : ∃ moves, (run inner.advance mine moves).world = part world ∧
      (run inner.advance mine moves).tasks = Function.update mine.tasks index (later reply) := by
    generalize phase : mine.tasks index = current at turns
    cases turns with
    | own _ op allowed =>
        refine ⟨[], ?_, ?_⟩
        · exact linked.world.trans (hosts.keeps index op choice _ reply world performed).symm
        · rw [← phase]
          exact (Function.update_eq_self index mine.tasks).symm
    | enter request =>
        obtain ⟨free, entered⟩ := hosts.enters index request choice _ reply world performed
        refine ⟨[.start index request], ?_⟩
        have advanced : inner.advance mine (.start index request) =
            .ok ⟨inner.enroll index request mine.world,
              Function.update mine.tasks index (some (inner.program request))⟩ := by
          rw [← linked.world] at free
          simp only [Runtime.advance, free, phase, Option.isNone_none, and_self, if_true]
        rw [run_cons, run_nil, settle_ok advanced]
        refine ⟨?_, rfl⟩
        rw [entered, ← linked.world]
    | inner op rest =>
        obtain ⟨chosen, mirrored⟩ := hosts.performs index op choice _ reply world performed
        refine ⟨[.step index chosen], ?_⟩
        have advanced : inner.advance mine (.step index chosen) =
            .ok ⟨part world, Function.update mine.tasks index (some (rest reply))⟩ := by
          rw [← linked.world] at mirrored
          exact inner.step_advances phase mirrored
        rw [run_cons, run_nil, settle_ok advanced]
        exact ⟨rfl, rfl⟩
  obtain ⟨moves, isWorld, isTasks⟩ := stepped
  refine ⟨moves, call, later, same, turns, isTasks, isWorld, ?_, ?_⟩
  · intro other idle
    dsimp only at idle
    by_cases isIndex : other = index
    · subst isIndex
      rw [Function.update_self] at idle
      cases idle
    · rw [Function.update_of_ne isIndex] at idle
      rw [isTasks, Function.update_of_ne isIndex]
      exact linked.idle other idle
  · rw [isTasks]
    apply forall_update_some
    · rw [Function.update_self]
      exact ⟨call, (congrFun kept index).trans same, visits reply answered⟩
    · intro other program different present
      obtain ⟨earlier, asks, visiting⟩ := linked.visits other program present
      rw [Function.update_of_ne different]
      exact ⟨earlier, (congrFun kept other).trans asks, visiting⟩

end Linked

end

end Holonus.Machine
