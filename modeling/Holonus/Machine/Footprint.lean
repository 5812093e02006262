/-
This file proves that atomic actions with separate footprints commute.
A state is seen as a family of cells, and an action names the cells that it reads and writes.
-/

import Mathlib
import Holonus.Machine.AtomicRun

namespace Holonus.Machine

section
variable {State Action Failure Cell : Type} {Content : Cell → Type}

/-- Two states hold the same contents in these cells. -/
def Agree (content : State → (cell : Cell) → Content cell) (cells : Set Cell) (left right : State) :
    Prop :=
  ∀ cell ∈ cells, content left cell = content right cell

variable {content : State → (cell : Cell) → Content cell}
  {step : State → Action → Except Failure State}

theorem Agree.refl (cells : Set Cell) (state : State) : Agree content cells state state :=
  fun _ _ => rfl

theorem Agree.symm {cells : Set Cell} {left right : State} (agree : Agree content cells left right) :
    Agree content cells right left :=
  fun cell member => (agree cell member).symm

theorem Agree.trans {cells : Set Cell} {first second third : State}
    (left : Agree content cells first second) (right : Agree content cells second third) :
    Agree content cells first third :=
  fun cell member => (left cell member).trans (right cell member)

/-- States that agree on more cells agree on fewer. -/
theorem Agree.mono {cells more : Set Cell} {left right : State} (agree : Agree content more left right)
    (within : cells ⊆ more) : Agree content cells left right :=
  fun cell member => agree cell (within member)

/-- Every state with the same contents in the read cells takes the same turn and keeps the rest. -/
structure Confined (content : State → (cell : Cell) → Content cell)
    (step : State → Action → Except Failure State) (action : Action) (reads writes : Set Cell)
    (state : State) : Prop where
  within : writes ⊆ reads
  frame : ∀ other next, Agree content reads state other → step other action = .ok next →
    Agree content writesᶜ other next
  follows : ∀ left right next, Agree content reads state left → Agree content reads state right →
    step left action = .ok next →
    ∃ last, step right action = .ok last ∧ Agree content writes next last

namespace Confined

variable {action : Action} {reads writes : Set Cell} {state other : State}

/-- The success of a confined action depends on its read cells only. -/
theorem isOk_eq (confined : Confined content step action reads writes state)
    (agree : Agree content reads state other) :
    (step other action).isOk = (step state action).isOk := by
  cases here : step state action with
  | ok next =>
      obtain ⟨last, there, -⟩ := confined.follows state other next (Agree.refl _ _) agree here
      rw [there]
      rfl
  | error failure =>
      cases there : step other action with
      | ok last =>
          obtain ⟨next, again, -⟩ := confined.follows other state last agree (Agree.refl _ _) there
          rw [here] at again
          exact absurd again (by simp)
      | error _ => rfl

/-- A settled action leaves every cell outside its footprint alone. -/
theorem settle_frame (confined : Confined content step action reads writes state)
    (agree : Agree content reads state other) :
    Agree content writesᶜ other (settle step other action) := by
  cases outcome : step other action with
  | ok next =>
      rw [settle_ok outcome]
      exact confined.frame other next agree outcome
  | error failure =>
      rw [settle_error outcome]
      exact Agree.refl _ _

/-- A settled action writes the same contents in every state that it reads alike. -/
theorem settle_follows (confined : Confined content step action reads writes state)
    (agree : Agree content reads state other) :
    Agree content writes (settle step state action) (settle step other action) := by
  have same := confined.isOk_eq agree
  cases here : step state action with
  | ok next =>
      obtain ⟨last, there, written⟩ := confined.follows state other next (Agree.refl _ _) agree here
      rw [settle_ok here, settle_ok there]
      exact written
  | error failure =>
      cases there : step other action with
      | ok last =>
          rw [here, there] at same
          exact absurd same (by simp [Except.isOk, Except.toBool])
      | error _ =>
          rw [settle_error here, settle_error there]
          exact agree.mono confined.within

/-- Two actions that do not write what the other one reads can be exchanged. -/
theorem commute (whole : ∀ left right, Agree content Set.univ left right → left = right)
    {first second : Action} {firstReads firstWrites secondReads secondWrites : Set Cell}
    (one : Confined content step first firstReads firstWrites state)
    (two : Confined content step second secondReads secondWrites state)
    (apart : Disjoint firstWrites secondReads) (separate : Disjoint secondWrites firstReads) :
    (step (settle step state second) first).isOk = (step state first).isOk ∧
      (step (settle step state first) second).isOk = (step state second).isOk ∧
      run step state [first, second] = run step state [second, first] := by
  have firstKept := one.settle_frame (Agree.refl firstReads state)
  have secondKept := two.settle_frame (Agree.refl secondReads state)
  have firstSees : Agree content firstReads state (settle step state second) :=
    secondKept.mono separate.symm.subset_compl_right
  have secondSees : Agree content secondReads state (settle step state first) :=
    firstKept.mono apart.symm.subset_compl_right
  refine ⟨one.isOk_eq firstSees, two.isOk_eq secondSees, ?_⟩
  simp only [run_cons, run_nil]
  have secondAfter := two.settle_frame secondSees
  have firstAfter := one.settle_frame firstSees
  have firstSame := one.settle_follows firstSees
  have secondSame := two.settle_follows secondSees
  apply whole
  intro cell _
  by_cases written : cell ∈ firstWrites
  · have untouched : cell ∈ secondWritesᶜ := fun other =>
      Set.disjoint_left.mp apart written (two.within other)
    rw [← secondAfter cell untouched, firstSame cell written]
  · by_cases rewritten : cell ∈ secondWrites
    · rw [← secondSame cell rewritten, ← firstAfter cell written]
    · rw [← secondAfter cell rewritten, ← firstAfter cell written, ← firstKept cell written,
        ← secondKept cell rewritten]

end Confined

end

end Holonus.Machine
