/-
This file defines programs that await operations of their environment.
Every awaited operation replies with a value or throws.
-/

import Mathlib.Tactic

namespace Holonus.Machine

/-- A program ends with an outcome or awaits the reply of an operation. -/
inductive Program (Op : Type) (Reply : Op → Type) (Failure Value : Type) where
  | done (outcome : Except Failure Value)
  | await (op : Op) (resume : Except Failure (Reply op) → Program Op Reply Failure Value)

namespace Program

section
variable {Op : Type} {Reply : Op → Type} {Failure Value Result : Type}

/-- A failure skips the rest of the program. -/
def bind : Program Op Reply Failure Value → (Value → Program Op Reply Failure Result) →
    Program Op Reply Failure Result
  | done (.ok value), next => next value
  | done (.error failure), _ => done (.error failure)
  | await op resume, next => await op fun reply => (resume reply).bind next

/-- The handler replaces a failure. -/
def handle : Program Op Reply Failure Value → (Failure → Program Op Reply Failure Value) →
    Program Op Reply Failure Value
  | done (.ok value), _ => done (.ok value)
  | done (.error failure), handler => handler failure
  | await op resume, handler => await op fun reply => (resume reply).handle handler

instance : Monad (Program Op Reply Failure) where
  pure value := done (.ok value)
  bind := bind

instance : MonadExcept Failure (Program Op Reply Failure) where
  throw failure := done (.error failure)
  tryCatch := handle

def call (op : Op) : Program Op Reply Failure (Reply op) := await op done

def awaited : Program Op Reply Failure Value → Option Op
  | done _ => none
  | await op _ => some op

/-- The settled program returns the outcome instead of throwing it. -/
def settled : Program Op Reply Failure Value →
    Program Op Reply Failure (Except Failure Value)
  | done outcome => done (.ok outcome)
  | await op resume => await op fun reply => (resume reply).settled

/-- The last program runs after a value and after a failure. -/
def andFinally (program : Program Op Reply Failure Value)
    (last : Program Op Reply Failure Unit) : Program Op Reply Failure Value := do
  let outcome ← program.settled
  last
  done outcome

section
variable {World Choice : Type}
  (perform : (op : Op) → Choice → World → Option (Except Failure (Reply op) × World))

/-- Alone, a program takes its operations one after another. -/
def alone : Program Op Reply Failure Value → List Choice → World →
    Option (Except Failure Value × World)
  | done outcome, [], world => some (outcome, world)
  | done _, _ :: _, _ => none
  | await _ _, [], _ => none
  | await op resume, choice :: rest, world =>
      match perform op choice world with
      | none => none
      | some (reply, next) => alone (resume reply) rest next

variable {perform}

/-- A program alone goes on with the reply to its operation. -/
theorem alone_await {op : Op} {resume : Except Failure (Reply op) → Program Op Reply Failure Value}
    {choice : Choice} {rest : List Choice} {world next : World} {reply : Except Failure (Reply op)}
    (performed : perform op choice world = some (reply, next)) :
    alone perform (await op resume) (choice :: rest) world =
      alone perform (resume reply) rest next := by
  simp only [alone, performed]

end

end

end Program

end Holonus.Machine
