/-
This file writes single entries of a table and sums a table over a finite account set.
-/

import Mathlib.Tactic

namespace Holonus.Machine

/-- A write of one entry changes its own column at one key and no other column. -/
theorem column_update {Row Column Value : Type} [DecidableEq Row] [DecidableEq Column]
    (table : Row → Column → Value) (row : Row) (column other : Column) (value : Value) :
    (fun key => Function.update table row (Function.update (table row) column value) key other) =
      if other = column then Function.update (fun key => table key other) row value
      else fun key => table key other := by
  funext key
  by_cases here : key = row
  · subst here
    by_cases same : other = column
    · subst same
      simp
    · simp [same]
  · by_cases same : other = column
    · simp [same, here]
    · simp [same, here]

section
variable {Account : Type} [DecidableEq Account]

/-- This update writes one entry of a table with two keys. -/
def writePair {Value : Type} (table : Account → Account → Value) (row column : Account)
    (value : Value) : Account → Account → Value :=
  Function.update table row (Function.update (table row) column value)

@[simp] theorem writePair_self {Value : Type} (table : Account → Account → Value)
    (row column : Account) (value : Value) : writePair table row column value row column = value := by
  simp [writePair]

/-- A written row is the updated one. -/
theorem writePair_row {Value : Type} (table : Account → Account → Value) (row column : Account)
    (value : Value) :
    writePair table row column value row = Function.update (table row) column value :=
  Function.update_self _ _ _

/-- Writing a cell keeps the other rows. -/
theorem writePair_of_row_ne {Value : Type} (table : Account → Account → Value)
    {row other : Account} (column : Account) (value : Value) (different : other ≠ row) :
    writePair table row column value other = table other :=
  Function.update_of_ne different _ _

/-- Writing a cell keeps the other columns. -/
theorem writePair_of_column_ne {Value : Type} (table : Account → Account → Value)
    (row other : Account) {column key : Account} (value : Value) (different : key ≠ column) :
    writePair table row column value other key = table other key := by
  by_cases same : other = row
  · subst same
    rw [writePair_row, Function.update_of_ne different]
  · rw [writePair_of_row_ne table column value same]

@[simp] theorem writePair_eq_self {Value : Type} (table : Account → Account → Value)
    (row column : Account) : writePair table row column (table row column) = table := by
  rw [writePair, Function.update_eq_self, Function.update_eq_self]

/-- Reading a table commutes with writing one of its cells. -/
theorem map_writePair {Value Image : Type} (read : Value → Image)
    (table : Account → Account → Value) (row column : Account) (value : Value) :
    (fun first second => read (writePair table row column value first second)) =
      writePair (fun first second => read (table first second)) row column (read value) := by
  funext first second
  by_cases sameRow : first = row
  · subst sameRow
    by_cases sameColumn : second = column
    · subst sameColumn
      rw [writePair_self, writePair_self]
    · rw [writePair_of_column_ne _ _ _ _ sameColumn, writePair_of_column_ne _ _ _ _ sameColumn]
  · rw [writePair_of_row_ne _ _ _ sameRow, writePair_of_row_ne _ _ _ sameRow]

variable [Fintype Account]

/-- A write changes the total by the replaced term. -/
theorem sum_update (amount : Account → Nat) (account : Account) (value : Nat) :
    ∑ other, Function.update amount account value other + amount account =
      ∑ other, amount other + value := by
  rw [Finset.sum_update_of_mem (Finset.mem_univ account),
    ← Finset.sum_sdiff (Finset.subset_univ {account}), Finset.sum_singleton]
  omega

/-- Two accounts hold at most the total. -/
theorem pair_le_sum (amount : Account → Nat) {first second : Account} (different : first ≠ second) :
    amount first + amount second ≤ ∑ other, amount other := by
  rw [← Finset.sum_pair different]
  exact Finset.sum_le_sum_of_subset (Finset.subset_univ _)

/-- A credit raises the sum by its value. -/
theorem sum_credit (amount : Account → Nat) (account : Account) (value : Nat) :
    ∑ other, Function.update amount account (amount account + value) other =
      ∑ other, amount other + value := by
  have total := sum_update amount account (amount account + value)
  omega

/-- A covered debit lowers the sum by its value. -/
theorem sum_debit (amount : Account → Nat) (account : Account) (value : Nat)
    (covered : value ≤ amount account) :
    ∑ other, Function.update amount account (amount account - value) other + value =
      ∑ other, amount other := by
  have total := sum_update amount account (amount account - value)
  omega

/-- A transfer between two accounts keeps the total. -/
theorem sum_transfer (amount : Account → Nat) {source target : Account} (value : Nat)
    (covered : value ≤ amount source) (different : target ≠ source) :
    ∑ other, Function.update (Function.update amount source (amount source - value))
        target (amount target + value) other = ∑ other, amount other := by
  have first := sum_debit amount source value covered
  have second := sum_credit (Function.update amount source (amount source - value)) target value
  rw [Function.update_of_ne different] at second
  omega

end

end Holonus.Machine
