/-
This file relates a program to the values that it can return when it runs alone.
-/

import Holonus.Machine.Program

namespace Holonus.Machine.Program

section
variable {Op : Type} {Reply : Op → Type} {Failure Value Result World Choice : Type}
  (perform : (op : Op) → Choice → World → Option (Except Failure (Reply op) × World))

/-- Some choices lead the program from the world to the value and the next world. -/
def Yields (program : Program Op Reply Failure Value) (world : World) (value : Value)
    (next : World) : Prop :=
  ∃ choices, program.alone perform choices world = some (.ok value, next)

variable {perform} {world next : World} {value : Value}

/-- A fact that every operation keeps holds at the end of a run. -/
theorem alone_keeps (Holds : World → Prop)
    (keeps : ∀ op choice world reply next, Holds world → perform op choice world = some (reply, next) →
      Holds next)
    {program : Program Op Reply Failure Value} {choices : List Choice}
    {outcome : Except Failure Value}
    (ran : program.alone perform choices world = some (outcome, next)) (holds : Holds world) :
    Holds next := by
  induction program generalizing choices world with
  | done ended =>
      cases choices with
      | nil =>
          cases ran
          exact holds
      | cons choice rest => cases ran
  | await op resume ih =>
      cases choices with
      | nil => cases ran
      | cons choice rest =>
          simp only [alone] at ran
          split at ran
          · cases ran
          · rename_i reply middle performed
            exact ih reply ran (keeps op choice world reply middle holds performed)

/-- A finished program yields the value that it returned. -/
theorem yields_done {outcome : Except Failure Value} :
    Yields perform (done outcome) world value next ↔ outcome = .ok value ∧ next = world := by
  constructor
  · rintro ⟨choices, ran⟩
    cases choices with
    | nil =>
        cases ran
        exact ⟨rfl, rfl⟩
    | cons choice rest => cases ran
  · rintro ⟨same, kept⟩
    exact ⟨[], by rw [same, kept]; rfl⟩

/-- A program that awaits an operation yields after some reply to it. -/
theorem yields_await {op : Op} {resume : Except Failure (Reply op) → Program Op Reply Failure Value} :
    Yields perform (await op resume) world value next ↔
      ∃ choice reply middle, perform op choice world = some (reply, middle) ∧
        Yields perform (resume reply) middle value next := by
  constructor
  · rintro ⟨choices, ran⟩
    cases choices with
    | nil => cases ran
    | cons choice rest =>
        simp only [alone] at ran
        split at ran
        · cases ran
        · rename_i reply middle performed
          exact ⟨choice, reply, middle, performed, rest, ran⟩
  · rintro ⟨choice, reply, middle, performed, rest, ran⟩
    refine ⟨choice :: rest, ?_⟩
    rw [alone_await performed]
    exact ran

theorem yields_pure {result : Value} :
    Yields perform (pure result) world value next ↔ result = value ∧ next = world := by
  rw [show (pure result : Program Op Reply Failure Value) = done (.ok result) from rfl, yields_done,
    Except.ok.injEq]

/-- A program that throws yields nothing. -/
theorem not_yields_throw {failure : Failure} :
    ¬ Yields perform (throw failure) world value next := by
  intro yields
  cases (yields_done.mp yields).1

/-- A call yields the reply of its operation. -/
theorem yields_call {op : Op} {reply : Reply op} :
    Yields perform (call op) world reply next ↔
      ∃ choice, perform op choice world = some (.ok reply, next) := by
  rw [call, yields_await]
  constructor
  · rintro ⟨choice, answered, middle, performed, finished⟩
    obtain ⟨same, kept⟩ := yields_done.mp finished
    rw [same, ← kept] at performed
    exact ⟨choice, performed⟩
  · rintro ⟨choice, performed⟩
    exact ⟨choice, .ok reply, next, performed, yields_done.mpr ⟨rfl, rfl⟩⟩

/-- A sequence returns what its second part returns for the value of the first part. -/
theorem yields_bind {program : Program Op Reply Failure Result}
    {following : Result → Program Op Reply Failure Value} :
    Yields perform (program >>= following) world value next ↔
      ∃ result middle, Yields perform program world result middle ∧
        Yields perform (following result) middle value next := by
  show Yields perform (program.bind following) world value next ↔ _
  induction program generalizing world with
  | done outcome =>
      cases outcome with
      | ok result => simp [bind, yields_done]
      | error failure => simp [bind, yields_done]
  | await op resume ih =>
      simp only [bind, yields_await, ih]
      constructor
      · rintro ⟨choice, reply, middle, performed, result, later, first, second⟩
        exact ⟨result, later, ⟨choice, reply, middle, performed, first⟩, second⟩
      · rintro ⟨result, later, ⟨choice, reply, middle, performed, first⟩, second⟩
        exact ⟨choice, reply, middle, performed, result, later, first, second⟩

/-- A handler that throws returns nothing. -/
theorem yields_handle {program : Program Op Reply Failure Value}
    {handler : Failure → Program Op Reply Failure Value}
    (throws : ∀ failure, ∃ other, handler failure = done (.error other)) :
    Yields perform (tryCatch program handler) world value next ↔
      Yields perform program world value next := by
  show Yields perform (program.handle handler) world value next ↔ _
  induction program generalizing world with
  | done outcome =>
      cases outcome with
      | ok result => rfl
      | error failure =>
          obtain ⟨other, same⟩ := throws failure
          simp [handle, same, yields_done]
  | await op resume ih => simp only [handle, yields_await, ih]

/-- A settled program yields the outcome as a value. -/
theorem Yields.settled {program : Program Op Reply Failure Value}
    (yields : Yields perform program world value next) :
    Yields perform program.settled world (.ok value) next := by
  induction program generalizing world with
  | done outcome =>
      obtain ⟨same, kept⟩ := yields_done.mp yields
      rw [same, kept]
      exact yields_done.mpr ⟨rfl, rfl⟩
  | await op resume ih =>
      obtain ⟨choice, reply, middle, performed, rest⟩ := yields_await.mp yields
      exact yields_await.mpr ⟨choice, reply, middle, performed, ih reply rest⟩

/-- A program with a final step yields what it did when the step succeeds. -/
theorem Yields.andFinally {program : Program Op Reply Failure Value}
    {last : Program Op Reply Failure Unit} {middle : World}
    (yields : Yields perform program world value middle)
    (closes : Yields perform last middle () next) :
    Yields perform (program.andFinally last) world value next := by
  apply yields_bind.mpr
  refine ⟨.ok value, middle, yields.settled, ?_⟩
  apply yields_bind.mpr
  exact ⟨(), next, closes, yields_done.mpr ⟨rfl, rfl⟩⟩

end

end Holonus.Machine.Program
