/-
This file defines runs of atomic actions.
A failed action leaves the state unchanged and leaves no trace in the history.
-/

import Mathlib.Tactic

namespace Holonus.Machine

section
variable {State Action Failure : Type} (step : State → Action → Except Failure State)

/-- A failed action keeps the old state. -/
def settle (state : State) (action : Action) : State :=
  match step state action with
  | .ok next => next
  | .error _ => state

/-- A run settles its actions in order. -/
def run (state : State) (actions : List Action) : State :=
  actions.foldl (settle step) state

/-- The history keeps each successful action with the state it started from. -/
def history : State → List Action → List (State × Action)
  | _, [] => []
  | state, action :: rest =>
      match step state action with
      | .ok next => (state, action) :: history next rest
      | .error _ => history state rest

variable {step}

/-- An action that succeeds settles in its result. -/
theorem settle_ok {state next : State} {action : Action} (succeeds : step state action = .ok next) :
    settle step state action = next := by
  simp only [settle, succeeds]

/-- An action that fails settles where it began. -/
theorem settle_error {state : State} {action : Action} {failure : Failure}
    (fails : step state action = .error failure) : settle step state action = state := by
  simp only [settle, fails]

@[simp] theorem run_nil (state : State) : run step state [] = state := rfl

@[simp] theorem run_cons (state : State) (action : Action) (rest : List Action) :
    run step state (action :: rest) = run step (settle step state action) rest := rfl

/-- A run continues from where its first part ended. -/
theorem run_append (state : State) (first second : List Action) :
    run step state (first ++ second) = run step (run step state first) second := by
  simp only [run, List.foldl_append]

/-- Actions that succeed throughout reach the end of the run. -/
theorem run_of_foldlM {state final : State} {actions : List Action}
    (succeeds : actions.foldlM step state = .ok final) : run step state actions = final := by
  induction actions generalizing state with
  | nil =>
      rw [List.foldlM_nil] at succeeds
      exact Except.ok.inj succeeds
  | cons action rest ih =>
      rw [List.foldlM_cons] at succeeds
      cases outcome : step state action with
      | error failure =>
          rw [outcome] at succeeds
          cases succeeds
      | ok next =>
          rw [outcome] at succeeds
          rw [run_cons, settle_ok outcome]
          exact ih succeeds

@[simp] theorem history_nil (state : State) : history step state [] = [] := rfl

/-- An action that succeeds enters the history. -/
theorem history_ok {state next : State} {action : Action} (rest : List Action)
    (succeeds : step state action = .ok next) :
    history step state (action :: rest) = (state, action) :: history step next rest := by
  simp only [history, succeeds]

/-- An action that fails leaves no entry in the history. -/
theorem history_error {state : State} {action : Action} {failure : Failure} (rest : List Action)
    (fails : step state action = .error failure) :
    history step state (action :: rest) = history step state rest := by
  simp only [history, fails]

/-- The history of two runs is that of the first and then that of the second. -/
theorem history_append (state : State) (first second : List Action) :
    history step state (first ++ second) =
      history step state first ++ history step (run step state first) second := by
  induction first generalizing state with
  | nil => rfl
  | cons action rest ih =>
      cases outcome : step state action with
      | ok next =>
          rw [List.cons_append, history_ok _ outcome, history_ok _ outcome, ih, run_cons,
            settle_ok outcome, List.cons_append]
      | error failure =>
          rw [List.cons_append, history_error _ outcome, history_error _ outcome, ih, run_cons,
            settle_error outcome]

/-- Every entry of the history splits the run at its action. -/
theorem split_of_history {state : State} {actions : List Action} {entry : State × Action}
    (member : entry ∈ history step state actions) :
    ∃ first rest next, actions = first ++ entry.2 :: rest ∧ run step state first = entry.1 ∧
      step entry.1 entry.2 = .ok next ∧
      history step state actions = history step state first ++ entry :: history step next rest := by
  induction actions generalizing state with
  | nil => simp at member
  | cons action rest ih =>
      cases outcome : step state action with
      | ok next =>
          rw [history_ok _ outcome, List.mem_cons] at member
          rcases member with same | later
          · subst same
            exact ⟨[], rest, next, rfl, rfl, outcome, history_ok _ outcome⟩
          · obtain ⟨first, tail, last, parts, reached, succeeds, whole⟩ := ih later
            refine ⟨action :: first, tail, last, ?_, ?_, succeeds, ?_⟩
            · rw [parts, List.cons_append]
            · rw [run_cons, settle_ok outcome, reached]
            · rw [history_ok _ outcome, history_ok _ outcome, whole, List.cons_append]
      | error failure =>
          rw [history_error _ outcome] at member
          obtain ⟨first, tail, last, parts, reached, succeeds, whole⟩ := ih member
          refine ⟨action :: first, tail, last, ?_, ?_, succeeds, ?_⟩
          · rw [parts, List.cons_append]
          · rw [run_cons, settle_error outcome, reached]
          · rw [history_error _ outcome, history_error _ outcome, whole]

/-- A property holds along the run exactly when every step of the history keeps it. -/
theorem run_prefixes_iff (Holds : State → Prop) (Keeps : State × Action → Prop) {state : State}
    {actions : List Action} (start : Holds state)
    (stepwise : ∀ entry ∈ history step state actions, ∀ next, step entry.1 entry.2 = .ok next →
      Holds entry.1 → (Holds next ↔ Keeps entry)) :
    (∀ first, first <+: actions → Holds (run step state first)) ↔
      ∀ entry ∈ history step state actions, Keeps entry := by
  induction actions generalizing state with
  | nil =>
      constructor
      · intro _ entry member
        simp at member
      · intro _ first earlier
        rw [List.prefix_nil.mp earlier]
        exact start
  | cons action rest ih =>
      have parts : (∀ first, first <+: action :: rest → Holds (run step state first)) ↔
          ∀ first, first <+: rest → Holds (run step (settle step state action) first) := by
        constructor
        · intro along first earlier
          exact along (action :: first) ((List.prefix_cons_inj action).mpr earlier)
        · intro along first earlier
          rcases List.prefix_cons_iff.mp earlier with empty | more
          · rw [empty]
            exact start
          · obtain ⟨tail, same, earlier⟩ := more
            rw [same]
            exact along tail earlier
      rw [parts]
      cases outcome : step state action with
      | ok next =>
          rw [history_ok _ outcome] at stepwise
          have here := stepwise (state, action) List.mem_cons_self next outcome start
          rw [settle_ok outcome, history_ok _ outcome, List.forall_mem_cons, ← here]
          constructor
          · intro along
            have reached : Holds next := along [] List.nil_prefix
            exact ⟨reached, (ih reached fun entry member =>
              stepwise entry (List.mem_cons_of_mem _ member)).mp along⟩
          · intro kept
            exact (ih kept.1 fun entry member =>
              stepwise entry (List.mem_cons_of_mem _ member)).mpr kept.2
      | error failure =>
          rw [history_error _ outcome] at stepwise
          rw [settle_error outcome, history_error _ outcome]
          exact ih start stepwise

/-- A relation between the history and the state holds after every run. -/
theorem run_history (Relates : List (State × Action) → State → Prop) {state : State}
    (start : Relates [] state)
    (advance : ∀ past current action next, Relates past current →
      step current action = .ok next → Relates (past ++ [(current, action)]) next)
    (actions : List Action) :
    Relates (history step state actions) (run step state actions) := by
  induction actions using List.reverseRecOn with
  | nil => exact start
  | append_singleton actions action ih =>
      rw [history_append, run_append, run_cons, run_nil]
      cases outcome : step (run step state actions) action with
      | ok next =>
          rw [history_ok _ outcome, history_nil, settle_ok outcome]
          exact advance _ _ _ _ ih outcome
      | error failure =>
          rw [history_error _ outcome, history_nil, List.append_nil, settle_error outcome]
          exact ih

/-- A property that every admitted step keeps holds after every admitted run. -/
theorem run_invariant (Admits : State × Action → Prop) (Holds : State → Prop) {state : State}
    {actions : List Action} (start : Holds state)
    (keeps : ∀ current action next, Admits (current, action) → Holds current →
      step current action = .ok next → Holds next)
    (admitted : ∀ entry ∈ history step state actions, Admits entry) :
    Holds (run step state actions) := by
  revert admitted
  apply run_history (fun past current => (∀ entry ∈ past, Admits entry) → Holds current)
    fun _ => start
  intro past current action next earlier succeeds admits
  apply keeps current action next (admits _ (List.mem_append_right past List.mem_cons_self)) _
    succeeds
  exact earlier fun entry member => admits entry (List.mem_append_left _ member)

/-- A relation that every step extends leads from each step of a run to its end. -/
theorem later_of_history (Later : State → State → Prop) (refl : ∀ state, Later state state)
    (respects : ∀ first current action next, Later first current →
      step current action = .ok next → Later first next)
    {state : State} {actions : List Action} {entry : State × Action}
    (member : entry ∈ history step state actions) :
    ∃ first rest next, actions = first ++ entry.2 :: rest ∧ run step state first = entry.1 ∧
      step entry.1 entry.2 = .ok next ∧ Later next (run step state actions) := by
  obtain ⟨first, rest, next, parts, ran, succeeds, -⟩ := split_of_history member
  refine ⟨first, rest, next, parts, ran, succeeds, ?_⟩
  rw [parts, run_append, ran, run_cons, settle_ok succeeds]
  apply run_invariant (fun _ => True) (Later next) (refl next) _ fun _ _ => trivial
  intro current action after _ holds advanced
  exact respects next current action after holds advanced

end

end Holonus.Machine
