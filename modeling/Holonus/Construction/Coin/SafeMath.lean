/-
This file models the arithmetic library of the coin contracts.
The compiler checks each operation before the library asserts its result.
-/

import Holonus.Construction.Coin.EternalStorage

namespace Holonus.Coin.SafeMath

open Holonus.Machine

def mul (a b : Uint256) : Except Fault Uint256 := do
  if a = 0 then return 0
  let c ← a.checkedMul b
  let quotient ← c.checkedDiv a
  assert (quotient = b)
  return c

def div (a b : Uint256) : Except Fault Uint256 := a.checkedDiv b

def sub (a b : Uint256) : Except Fault Uint256 := do
  assert (b ≤ a)
  a.checkedSub b

def add (a b : Uint256) : Except Fault Uint256 := do
  let c ← a.checkedAdd b
  assert (a ≤ c)
  return c

/-- A product succeeds exactly when it fits in the word. -/
theorem mul_eq_ok (a b c : Uint256) : mul a b = .ok c ↔ c.toNat = a.toNat * b.toNat := by
  unfold mul
  by_cases zero : a = 0
  · subst zero
    simp only [↓reduceIte, pure_eq_ok, Word.eq_iff, Word.toNat_zero, Nat.zero_mul]
    exact eq_comm
  · have positive : 0 < a.toNat := by
      rw [Word.eq_iff, Word.toNat_zero] at zero
      omega
    simp only [zero, ↓reduceIte, bind_eq_ok, pure_eq_ok, assert_eq_ok, Word.checkedMul_eq_ok,
      Word.checkedDiv_eq_ok, Word.eq_iff]
    constructor
    · rintro ⟨product, value, quotient, -, done, -, same⟩
      omega
    · intro value
      refine ⟨c, value, b, ⟨by omega, ?_⟩, (), rfl, rfl⟩
      rw [value, Nat.mul_div_cancel_left _ positive]

/-- A quotient succeeds exactly when the divisor is not zero. -/
theorem div_eq_ok (a b c : Uint256) :
    div a b = .ok c ↔ b.toNat ≠ 0 ∧ c.toNat = a.toNat / b.toNat := Word.checkedDiv_eq_ok a b c

/-- A difference succeeds exactly when it is not negative. -/
theorem sub_eq_ok (a b c : Uint256) :
    sub a b = .ok c ↔ b.toNat ≤ a.toNat ∧ c.toNat = a.toNat - b.toNat := by
  simp only [sub, bind_eq_ok, assert_eq_ok, Word.checkedSub_eq_ok, Word.le_def]
  constructor
  · rintro ⟨done, -, facts⟩
    exact facts
  · intro facts
    exact ⟨(), facts.1, facts⟩

/-- A sum succeeds exactly when it fits in the word. -/
theorem add_eq_ok (a b c : Uint256) : add a b = .ok c ↔ c.toNat = a.toNat + b.toNat := by
  simp only [add, bind_eq_ok, pure_eq_ok, assert_eq_ok, Word.checkedAdd_eq_ok, Word.le_def]
  constructor
  · rintro ⟨total, value, done, -, same⟩
    rw [← same, value]
  · intro value
    exact ⟨c, value, (), by omega, rfl⟩

/-- A sum that does not fit overflows. -/
theorem add_of_le {a b : Uint256} (large : 2 ^ 256 ≤ a.toNat + b.toNat) :
    add a b = .error .overflow :=
  bind_of_error _ (Word.checkedAdd_of_le large)

end Holonus.Coin.SafeMath
