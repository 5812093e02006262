/-
This file states the purpose of the file contracts: two independent maps of texts.
-/

import Mathlib.Tactic

namespace Holonus.Abstract

/-- The registry keeps one map for files and one map for keys. -/
inductive Shelf where
  | files
  | keys
  deriving DecidableEq, Repr

/-- A writing stores a value under an identifier of one shelf. -/
structure Writing (Text : Type) where
  shelf : Shelf
  id : Text
  value : Text

abbrev Registry (Text : Type) : Type := Shelf → Text → Option Text

section
variable {Text : Type} [DecidableEq Text]

def Registry.write (registry : Registry Text) (writing : Writing Text) : Registry Text :=
  Function.update registry writing.shelf
    (Function.update (registry writing.shelf) writing.id (some writing.value))

/-- The latest writing to an identifier decides its value. -/
def latest (writings : List (Writing Text)) : Registry Text := fun shelf id =>
  (writings.reverse.find? fun writing => writing.shelf = shelf ∧ writing.id = id).map Writing.value

/-- A written text is found. -/
theorem Registry.write_self (registry : Registry Text) (writing : Writing Text) :
    registry.write writing writing.shelf writing.id = some writing.value := by
  rw [Registry.write, Function.update_self, Function.update_self]

/-- A written text keeps the others. -/
theorem Registry.write_of_ne (registry : Registry Text) {writing : Writing Text} {shelf : Shelf}
    {id : Text} (different : ¬ (writing.shelf = shelf ∧ writing.id = id)) :
    registry.write writing shelf id = registry shelf id := by
  by_cases same : shelf = writing.shelf
  · subst same
    rw [Registry.write, Function.update_self]
    exact Function.update_of_ne (fun equal => different ⟨rfl, equal.symm⟩) _ _
  · rw [Registry.write, Function.update_of_ne same]

/-- A new writing changes the latest values like a write. -/
theorem latest_append (writings : List (Writing Text)) (writing : Writing Text) :
    latest (writings ++ [writing]) = Registry.write (latest writings) writing := by
  funext shelf id
  rw [latest, List.reverse_append, List.reverse_singleton, List.singleton_append]
  by_cases same : writing.shelf = shelf ∧ writing.id = id
  · rw [List.find?_cons_of_pos (by simpa using same), ← same.1, ← same.2, Registry.write_self]
    rfl
  · rw [List.find?_cons_of_neg (by simpa using same), Registry.write_of_ne _ same]
    rfl

end

end Holonus.Abstract
