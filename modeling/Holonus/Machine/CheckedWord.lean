/-
This file defines unsigned machine words with checked arithmetic.
Each partial operation names the check that stops it.
-/

import Mathlib.Tactic

namespace Holonus.Machine

/-- A fault names the check that stopped a call. -/
inductive Fault where
  | requirement
  | assertion
  | overflow
  | divisionByZero
  deriving DecidableEq, Repr

/-- A word carries the bound of its machine width. -/
@[ext] structure Word (width : Nat) where
  toNat : Nat
  bounded : toNat < 2 ^ width
  deriving DecidableEq, Repr

namespace Word

variable {width : Nat}

instance (value : Nat) : OfNat (Word width) value :=
  ⟨⟨value % 2 ^ width, Nat.mod_lt _ (Nat.two_pow_pos width)⟩⟩

instance : LE (Word width) := ⟨fun left right => left.toNat ≤ right.toNat⟩

instance : LT (Word width) := ⟨fun left right => left.toNat < right.toNat⟩

instance (left right : Word width) : Decidable (left ≤ right) :=
  inferInstanceAs (Decidable (left.toNat ≤ right.toNat))

instance (left right : Word width) : Decidable (left < right) :=
  inferInstanceAs (Decidable (left.toNat < right.toNat))

theorem le_def (left right : Word width) : left ≤ right ↔ left.toNat ≤ right.toNat := Iff.rfl

theorem lt_def (left right : Word width) : left < right ↔ left.toNat < right.toNat := Iff.rfl

/-- Words are equal when their numbers are. -/
theorem eq_iff (left right : Word width) : left = right ↔ left.toNat = right.toNat :=
  ⟨congrArg toNat, Word.ext⟩

@[simp] theorem toNat_zero : (0 : Word width).toNat = 0 := Nat.zero_mod _

/-- A signed integer converts to its residue of the machine width. -/
def ofInt (value : Int) : Word width :=
  ⟨(value % (2 ^ width : Nat)).toNat, by
    have positive := Nat.two_pow_pos width
    have lower := Int.emod_nonneg value (b := (2 ^ width : Nat)) (by omega)
    have upper := Int.emod_lt_of_pos value (b := (2 ^ width : Nat)) (by omega)
    omega⟩

/-- An integer that fits in the word keeps its number. -/
theorem ofInt_toNat (value : Int) (lower : 0 ≤ value) (upper : value.toNat < 2 ^ width) :
    (ofInt value : Word width).toNat = value.toNat := by
  have small : value < (2 ^ width : Nat) := by omega
  simp only [ofInt, Int.emod_eq_of_lt lower small]

/-- A wider word holds every value of a narrower word. -/
def widen {wide : Nat} (value : Word width) (fits : width ≤ wide) : Word wide :=
  ⟨value.toNat, lt_of_lt_of_le value.bounded (Nat.pow_le_pow_right (by decide) fits)⟩

/-- A checked result exists only below the machine bound. -/
def checked (value : Nat) : Except Fault (Word width) :=
  if bounded : value < 2 ^ width then .ok ⟨value, bounded⟩ else .error .overflow

def checkedAdd (left right : Word width) : Except Fault (Word width) :=
  checked (left.toNat + right.toNat)

def checkedMul (left right : Word width) : Except Fault (Word width) :=
  checked (left.toNat * right.toNat)

def checkedPow (base exponent : Word width) : Except Fault (Word width) :=
  checked (base.toNat ^ exponent.toNat)

def checkedSub (left right : Word width) : Except Fault (Word width) :=
  if right ≤ left then checked (left.toNat - right.toNat) else .error .overflow

def checkedDiv (left right : Word width) : Except Fault (Word width) :=
  if right.toNat = 0 then .error .divisionByZero else checked (left.toNat / right.toNat)

/-- A checked number succeeds exactly when it fits. -/
theorem checked_eq_ok (value : Nat) (result : Word width) :
    checked value = .ok result ↔ result.toNat = value := by
  unfold checked
  split
  · rw [Except.ok.injEq, eq_iff]
    exact eq_comm
  · have bounded := result.bounded
    simp only [reduceCtorEq, false_iff]
    omega

/-- A checked number that does not fit overflows. -/
theorem checked_of_le {value : Nat} (large : 2 ^ width ≤ value) :
    (checked value : Except Fault (Word width)) = .error .overflow :=
  dif_neg (Nat.not_lt.mpr large)

/-- A checked sum succeeds exactly when it fits. -/
theorem checkedAdd_eq_ok (left right result : Word width) :
    checkedAdd left right = .ok result ↔ result.toNat = left.toNat + right.toNat :=
  checked_eq_ok _ _

/-- A checked sum that does not fit overflows. -/
theorem checkedAdd_of_le {left right : Word width} (large : 2 ^ width ≤ left.toNat + right.toNat) :
    checkedAdd left right = .error .overflow := checked_of_le large

/-- A checked product succeeds exactly when it fits. -/
theorem checkedMul_eq_ok (left right result : Word width) :
    checkedMul left right = .ok result ↔ result.toNat = left.toNat * right.toNat :=
  checked_eq_ok _ _

/-- A checked power succeeds exactly when it fits. -/
theorem checkedPow_eq_ok (base exponent result : Word width) :
    checkedPow base exponent = .ok result ↔ result.toNat = base.toNat ^ exponent.toNat :=
  checked_eq_ok _ _

/-- A checked difference succeeds exactly when it is not negative. -/
theorem checkedSub_eq_ok (left right result : Word width) :
    checkedSub left right = .ok result ↔
      right.toNat ≤ left.toNat ∧ result.toNat = left.toNat - right.toNat := by
  unfold checkedSub
  split
  · rename_i below
    rw [checked_eq_ok, and_iff_right ((le_def _ _).mp below)]
  · rename_i above
    rw [le_def] at above
    simp only [reduceCtorEq, false_iff]
    omega

/-- A checked quotient succeeds exactly when the divisor is not zero. -/
theorem checkedDiv_eq_ok (left right result : Word width) :
    checkedDiv left right = .ok result ↔
      right.toNat ≠ 0 ∧ result.toNat = left.toNat / right.toNat := by
  unfold checkedDiv
  split
  · rename_i zero
    simp [zero]
  · rename_i nonzero
    rw [checked_eq_ok, and_iff_right nonzero]

end Word

/-- A failed requirement stops the call. -/
def require (condition : Prop) [Decidable condition] : Except Fault Unit :=
  if condition then .ok () else .error .requirement

/-- A failed assertion stops the call. -/
def assert (condition : Prop) [Decidable condition] : Except Fault Unit :=
  if condition then .ok () else .error .assertion

/-- A requirement passes exactly when it holds. -/
theorem require_eq_ok (condition : Prop) [Decidable condition] (done : Unit) :
    require condition = .ok done ↔ condition := by
  unfold require
  split <;> simp_all

theorem require_of {condition : Prop} [Decidable condition] (holds : condition) :
    require condition = .ok () := if_pos holds

theorem require_of_not {condition : Prop} [Decidable condition] (fails : ¬ condition) :
    require condition = .error .requirement := if_neg fails

theorem assert_of_not {condition : Prop} [Decidable condition] (fails : ¬ condition) :
    assert condition = .error .assertion := if_neg fails

/-- An assertion passes exactly when it holds. -/
theorem assert_eq_ok (condition : Prop) [Decidable condition] (done : Unit) :
    assert condition = .ok done ↔ condition := by
  unfold assert
  split <;> simp_all

/-- A sequence succeeds exactly when both parts succeed. -/
theorem bind_eq_ok {ε α β : Type} (first : Except ε α) (next : α → Except ε β) (result : β) :
    first >>= next = .ok result ↔ ∃ value, first = .ok value ∧ next value = .ok result := by
  cases first with
  | error fault => simp [bind, Except.bind]
  | ok value => simp [bind, Except.bind]

/-- A computation that succeeds passes its value on. -/
theorem bind_of_ok {ε α β : Type} {first : Except ε α} {value : α} (next : α → Except ε β)
    (succeeds : first = .ok value) : first >>= next = next value := by
  rw [succeeds]
  rfl

/-- A computation that fails ends the sequence. -/
theorem bind_of_error {ε α β : Type} {first : Except ε α} {fault : ε} (next : α → Except ε β)
    (fails : first = .error fault) : first >>= next = .error fault := by
  rw [fails]
  rfl

/-- A mapped computation succeeds with the image of its value. -/
theorem map_eq_ok {ε α β : Type} (first : Except ε α) (change : α → β) (result : β) :
    first.map change = .ok result ↔ ∃ value, first = .ok value ∧ change value = result := by
  cases first with
  | error fault => simp [Except.map]
  | ok value => simp [Except.map]

/-- A decided computation succeeds on its condition and otherwise stops with one fault. -/
def Decides {ε α : Type} (computation : Except ε α) (condition : Prop) (Effect : α → Prop)
    (fault : ε) : Prop :=
  (condition ∧ ∃ result, computation = .ok result ∧ Effect result) ∨
    (¬ condition ∧ computation = .error fault)

section
variable {ε α : Type} {computation : Except ε α} {condition : Prop} {Effect : α → Prop} {fault : ε}

/-- A decided computation succeeds exactly under its condition. -/
theorem Decides.exists_ok_iff (decides : Decides computation condition Effect fault) :
    (∃ result, computation = .ok result) ↔ condition := by
  rcases decides with ⟨holds, result, succeeds, -⟩ | ⟨missed, fails⟩
  · exact iff_of_true ⟨result, succeeds⟩ holds
  · rw [fails]
    exact iff_of_false (fun succeeds => nomatch succeeds) missed

/-- A decided computation that succeeds has its condition and its effect. -/
theorem Decides.effect (decides : Decides computation condition Effect fault) {result : α}
    (succeeds : computation = .ok result) : condition ∧ Effect result := by
  rcases decides with ⟨holds, reached, same, effect⟩ | ⟨-, fails⟩
  · rw [same, Except.ok.injEq] at succeeds
    rw [← succeeds]
    exact ⟨holds, effect⟩
  · rw [fails] at succeeds
    exact nomatch succeeds

/-- A decided computation fails only with its fault. -/
theorem Decides.fault_eq (decides : Decides computation condition Effect fault) {stopped : ε}
    (fails : computation = .error stopped) : stopped = fault := by
  rcases decides with ⟨-, reached, succeeds, -⟩ | ⟨-, same⟩
  · rw [succeeds] at fails
    exact nomatch fails
  · rw [same, Except.error.injEq] at fails
    exact fails.symm

end

theorem exists_of_isOk {ε α : Type} {computation : Except ε α} (succeeds : computation.isOk = true) :
    ∃ result, computation = .ok result := by
  cases computation with
  | error fault => exact absurd succeeds Bool.false_ne_true
  | ok result => exact ⟨result, rfl⟩

theorem pure_eq_ok {ε α : Type} (value result : α) :
    (pure value : Except ε α) = .ok result ↔ value = result := by
  simp [pure, Except.pure]

end Holonus.Machine
