/-
This file states the values that the service computes from the trust graph.
-/

import Holonus.Proof.Coin.SystemView

namespace Holonus.Coin.HolonusCoinService

open Holonus.Machine Holonus.Abstract

/-- The unit of reliability fits in the machine word. -/
theorem reliabilityUnit_eq_ok (value : Uint256) :
    reliabilityUnit = .ok value ↔ value.toNat = unit := by
  have exponent : (reliabilityDecimals.widen (by decide) : Uint256).toNat = 18 := rfl
  have base : (10 : Uint256).toNat = 10 := rfl
  rw [reliabilityUnit, Word.checkedPow_eq_ok, exponent, base, unit]

/-- The unit of the token fits in the machine word. -/
theorem tokenUnit_eq_ok (value : Uint256) :
    Word.checkedPow 10 TokenERC20.decimals = .ok value ↔ value.toNat = unit := by
  have exponent : TokenERC20.decimals.toNat = 18 := rfl
  have base : (10 : Uint256).toNat = 10 := rfl
  rw [Word.checkedPow_eq_ok, exponent, base, unit]

/-- An allowed service reads the full reliability of an account. -/
theorem getFullReliability_eq_ok (system : System) (account : Address) (value : Uint256) :
    getFullReliability system account = .ok value ↔
      system.eternalStorage.allowAccount system.service.address = true ∧
        system.eternalStorage.addrUIntStorage .reliability account = value :=
  EternalStorage.getAddrUIntValue_eq_ok _ _ _ _ _

/-- The getter caps the stored reliability at ten whole levels. -/
theorem getReliability_eq_ok (system : System) (account : Address) (value : Uint256) :
    getReliability system account = .ok value ↔
      system.eternalStorage.allowAccount system.service.address = true ∧
        value.toNat = min (system.graph.reliability account) (10 * unit) := by
  have stored : system.graph.reliability account =
    (system.eternalStorage.addrUIntStorage .reliability account).toNat := rfl
  have base : (10 : Uint256).toNat = 10 := rfl
  have unitWord : ∃ word : Uint256, word.toNat = unit := ⟨⟨unit, by decide⟩, rfl⟩
  have capWord : ∃ word : Uint256, word.toNat = 10 * unit := ⟨⟨10 * unit, by decide⟩, rfl⟩
  obtain ⟨unitWord, unitValue⟩ := unitWord
  obtain ⟨capWord, capValue⟩ := capWord
  have unitRead : reliabilityUnit = .ok unitWord := (reliabilityUnit_eq_ok _).mpr unitValue
  have tokenRead : Word.checkedPow 10 TokenERC20.decimals = .ok unitWord :=
    (tokenUnit_eq_ok _).mpr unitValue
  have capRead : Word.checkedMul 10 unitWord = .ok capWord := by
    rw [Word.checkedMul_eq_ok, base, unitValue, capValue]
  simp only [getReliability, bind_eq_ok, EternalStorage.getAddrUIntValue_eq_ok, unitRead, tokenRead,
    capRead, Except.ok.injEq, and_assoc, exists_and_left, exists_eq_left']
  apply and_congr_right
  intro _
  rw [stored]
  by_cases above : capWord < system.eternalStorage.addrUIntStorage .reliability account
  · rw [if_pos above]
    change Word.checkedMul 10 unitWord = .ok value ↔ _
    rw [capRead, Except.ok.injEq, Word.eq_iff, capValue]
    rw [Word.lt_def, capValue] at above
    omega
  · rw [if_neg above, pure_eq_ok, Word.eq_iff]
    rw [Word.lt_def, capValue] at above
    omega

/-- The capped quotient is the level of the stored reliability. -/
theorem wholeReliability_eq_ok (system : System) (account : Address) (value : Uint256) :
    wholeReliability system account = .ok value ↔
      system.eternalStorage.allowAccount system.service.address = true ∧
        value.toNat = system.graph.level account := by
  have quotient : min (system.graph.reliability account) (10 * unit) / unit =
      system.graph.level account := by
    simp only [TrustGraph.level, levelOf, unit]
    omega
  simp only [wholeReliability, bind_eq_ok, getReliability_eq_ok, reliabilityUnit_eq_ok,
    Word.checkedDiv_eq_ok, and_assoc, exists_and_left]
  apply and_congr_right
  intro _
  constructor
  · intro computed
    obtain ⟨capped, low, divisor, scale, -, same⟩ := computed
    rw [same, low, scale, quotient]
  · intro same
    have positive : unit ≠ 0 := by decide
    have capBound : min (system.graph.reliability account) (10 * unit) < 2 ^ 256 :=
      lt_of_le_of_lt (Nat.min_le_right _ _) (by decide)
    refine ⟨⟨_, capBound⟩, rfl, ⟨unit, by decide⟩, rfl, positive, ?_⟩
    rw [same, quotient]

/-- The consensus weighs the level of the evaluator. -/
theorem reliabilityConsensus_eq_ok (system : System) (evaluator : Address) {trust : Int}
    (allowed : system.eternalStorage.allowAccount system.service.address = true)
    (small : trust.toNat ≤ 5) (value : Uint256) :
    reliabilityConsensus system evaluator trust = .ok value ↔
      value.toNat = weight (system.graph.level evaluator) trust := by
  unfold reliabilityConsensus
  by_cases negative : trust ≤ 0
  · have none : trust.toNat = 0 := by omega
    simp only [negative, ↓reduceIte, pure_eq_ok, Word.eq_iff, Word.toNat_zero, weight, none,
      Nat.zero_mul, Nat.mul_zero]
    exact eq_comm
  · have base : (10 : Uint256).toNat = 10 := rfl
    have decimals (word : Uint8) : reliabilityDecimals.checkedSub 2 = .ok word ↔ word.toNat = 16 := by
      have total : reliabilityDecimals.toNat = 18 := rfl
      have two : (2 : Uint8).toNat = 2 := rfl
      rw [Word.checkedSub_eq_ok, total, two]
      omega
    have converted : (Word.ofInt trust : Uint256).toNat = trust.toNat :=
      Word.ofInt_toNat trust (by omega) (lt_of_le_of_lt small (by decide))
    have low : system.graph.level evaluator ≤ 10 := levelOf_le _
    simp only [negative, ↓reduceIte, bind_eq_ok, wholeReliability_eq_ok, allowed, true_and, decimals,
      Word.checkedPow_eq_ok, Word.checkedMul_eq_ok, SafeMath.mul_eq_ok, base, converted]
    constructor
    · intro computed
      obtain ⟨whole, isLevel, exponent, sixteen, scale, power, param, product, same⟩ := computed
      change scale.toNat = 10 ^ exponent.toNat at power
      rw [same, isLevel, product, power, sixteen, weight]
    · intro same
      refine ⟨⟨_, lt_of_le_of_lt low (by decide)⟩, rfl, ⟨16, by decide⟩, rfl, ⟨10 ^ 16, by decide⟩, rfl,
        ⟨trust.toNat * 10 ^ 16, ?_⟩, rfl, ?_⟩
      · exact lt_of_le_of_lt (Nat.mul_le_mul_right _ small) (by decide)
      · rw [same, weight]

/-- The effective adjustment parameter defaults to one unit. -/
def adjustment (system : System) : Nat :=
  if (system.eternalStorage.uIntStorage .adjustParameter).toNat = 0 then unit
  else (system.eternalStorage.uIntStorage .adjustParameter).toNat

/-- The post factor grows with the square of the evaluator's level. -/
def postFactor (level : Nat) : Nat := ((level + 2) ^ 2 - 4) * 10 ^ 3 / 14

/-- The point of an evaluated post divides by the rounded inverse adjustment. -/
def postPoint (level workPoint adjust : Nat) : Nat :=
  workPoint * postFactor level / (unit / adjust) * 10 ^ 15

/-- The adjustment is positive. -/
theorem adjustment_pos (system : System) : 0 < adjustment system := by
  unfold adjustment
  split
  · decide
  · omega

/-- The adjustment fits in the machine word. -/
theorem adjustment_lt (system : System) : adjustment system < 2 ^ 256 := by
  unfold adjustment
  split
  · decide
  · exact (system.eternalStorage.uIntStorage .adjustParameter).bounded

/-- The adjustment that the service computes is the one of the ledger. -/
theorem getAdjustParameter_eq_ok (system : System) (value : Uint256) :
    getAdjustParameter system = .ok value ↔
      system.eternalStorage.allowAccount system.service.address = true ∧
        value.toNat = adjustment system := by
  have zero : (system.eternalStorage.uIntStorage .adjustParameter = 0) ↔
      (system.eternalStorage.uIntStorage .adjustParameter).toNat = 0 := by
    rw [Word.eq_iff, Word.toNat_zero]
  simp only [getAdjustParameter, bind_eq_ok, EternalStorage.getUIntValue_eq_ok, and_assoc,
    exists_and_left, exists_eq_left', adjustment, zero]
  apply and_congr_right
  intro _
  split
  · exact tokenUnit_eq_ok value
  · rw [pure_eq_ok, Word.eq_iff]
    exact eq_comm

/-- The factor of a post is at most that of the highest level. -/
theorem postFactor_le {level : Nat} (low : level ≤ 10) : postFactor level ≤ 10000 := by
  have square : (level + 2) ^ 2 ≤ 12 ^ 2 := Nat.pow_le_pow_left (by omega) 2
  unfold postFactor
  omega

/-- One work point earns the sender at most ten units. -/
theorem postPoint_le {level : Nat} (low : level ≤ 10) (workPoint adjust : Nat) :
    postPoint level workPoint adjust ≤ workPoint * 10 ^ 19 := by
  have quotient : workPoint * postFactor level / (unit / adjust) ≤ workPoint * 10000 :=
    (Nat.div_le_self _ _).trans (Nat.mul_le_mul_left _ (postFactor_le low))
  unfold postPoint
  omega

/-- The post consensus succeeds exactly when the inverse adjustment is positive. -/
theorem evaluationConsensus_eq_ok (system : System) (evaluator : Address) (workPoint : Uint8)
    (senderPoint ownerPoint : Uint256) :
    evaluationConsensus system evaluator workPoint = .ok (senderPoint, ownerPoint) ↔
      system.eternalStorage.allowAccount system.service.address = true ∧
        adjustment system ≠ 0 ∧ unit / adjustment system ≠ 0 ∧
        senderPoint.toNat =
          postPoint (system.graph.level evaluator) workPoint.toNat (adjustment system) ∧
        ownerPoint.toNat = senderPoint.toNat / 100 := by
  have ten : (10 : Uint256).toNat = 10 := rfl
  have two : (2 : Uint256).toNat = 2 := rfl
  have three : (3 : Uint256).toNat = 3 := rfl
  have four : (4 : Uint256).toNat = 4 := rfl
  have fourteen : (14 : Uint256).toNat = 14 := rfl
  have hundred : (100 : Uint256).toNat = 100 := rfl
  have decimals : TokenERC20.decimals.toNat = 18 := rfl
  have widened : (workPoint.widen (by decide) : Uint256).toNat = workPoint.toNat := rfl
  have low : system.graph.level evaluator ≤ 10 := levelOf_le _
  have factor := postFactor_le low
  have square : (system.graph.level evaluator + 2) ^ 2 ≤ 12 ^ 2 := Nat.pow_le_pow_left (by omega) 2
  have lower : 2 ^ 2 ≤ (system.graph.level evaluator + 2) ^ 2 := Nat.pow_le_pow_left (by omega) 2
  have work := workPoint.bounded
  have product : workPoint.toNat * postFactor (system.graph.level evaluator) ≤ 256 * 10000 :=
    Nat.mul_le_mul (by omega) factor
  have quotient : workPoint.toNat * postFactor (system.graph.level evaluator) /
      (unit / adjustment system) ≤ 256 * 10000 := le_trans (Nat.div_le_self _ _) product
  have word (value : Nat) (small : value ≤ 256 * 10000) : value < 2 ^ 256 :=
    lt_of_le_of_lt small (by decide)
  simp only [evaluationConsensus, bind_eq_ok, pure_eq_ok, wholeReliability_eq_ok,
    getAdjustParameter_eq_ok, Word.checkedDiv_eq_ok, Word.checkedAdd_eq_ok, Word.checkedPow_eq_ok,
    Word.checkedSub_eq_ok, Word.checkedMul_eq_ok, SafeMath.mul_eq_ok, SafeMath.div_eq_ok, ten, two,
    three, four, fourteen, hundred, decimals, widened, Prod.mk.injEq, and_assoc, exists_and_left]
  constructor
  · intro computed
    obtain ⟨allowed, level, isLevel, scale, isUnit, -, adjust, isAdjust, nonzero, inverse, isInverse,
      raised, isRaised, squared, isSquared, -, lowered, isLowered, thousand, isThousand, scaled,
      isScaled, -, fr, isFactor, weighted, isWeighted, positive, v, isQuotient, -, fifteen, isFifteen,
      power, isPower, point, isPoint, -, share, isShare, sameSender, sameOwner⟩ := computed
    subst sameSender sameOwner
    have frValue : fr.toNat = postFactor (system.graph.level evaluator) := by
      rw [isFactor, isScaled, isThousand, isLowered, isSquared, isRaised, isLevel, postFactor]
    have inverseValue : inverse.toNat = unit / adjustment system := by
      rw [isInverse, isUnit, isAdjust, unit]
    refine ⟨allowed, by rw [← isAdjust]; exact nonzero, by rw [← inverseValue]; exact positive, ?_,
      isShare⟩
    rw [isPoint, isQuotient, isWeighted, frValue, inverseValue, isPower, isFifteen, postPoint]
  · intro facts
    obtain ⟨allowed, nonzero, positive, isPoint, isShare⟩ := facts
    refine ⟨allowed, ⟨_, word _ (by omega)⟩, rfl, ⟨10 ^ 18, by decide⟩, rfl, allowed,
      ⟨_, adjustment_lt system⟩, rfl, nonzero,
      ⟨unit / adjustment system, lt_of_le_of_lt (Nat.div_le_self _ _) (by decide)⟩, rfl,
      ⟨system.graph.level evaluator + 2, word _ (by omega)⟩, rfl,
      ⟨(system.graph.level evaluator + 2) ^ 2, word _ (by omega)⟩, rfl, by simpa using lower,
      ⟨(system.graph.level evaluator + 2) ^ 2 - 4, word _ (by omega)⟩, rfl, ⟨10 ^ 3, by decide⟩, rfl,
      ⟨((system.graph.level evaluator + 2) ^ 2 - 4) * 10 ^ 3, word _ (by omega)⟩, rfl, by decide,
      ⟨postFactor (system.graph.level evaluator), word _ (by omega)⟩, rfl, ⟨_, word _ product⟩, rfl,
      positive, ⟨_, word _ quotient⟩, rfl, by decide, ⟨15, by decide⟩, rfl, ⟨10 ^ 15, by decide⟩, rfl,
      senderPoint, ?_, by decide, ownerPoint, isShare, rfl, rfl⟩
    rw [isPoint, postPoint]

/-- A parameter above one unit has no inverse, and the consensus divides by zero. -/
theorem evaluationConsensus_of_large {system : System}
    (allowed : system.eternalStorage.allowAccount system.service.address = true)
    (large : unit < adjustment system) (account : Address) (workPoint : Uint8) :
    evaluationConsensus system account workPoint = .error .divisionByZero := by
  have low : system.graph.level account ≤ 10 := levelOf_le _
  have atMost : (system.graph.level account + 2) ^ 2 ≤ 12 ^ 2 := Nat.pow_le_pow_left (by omega) 2
  have atLeast : 2 ^ 2 ≤ (system.graph.level account + 2) ^ 2 := Nat.pow_le_pow_left (by omega) 2
  have factor := postFactor_le low
  have work := workPoint.bounded
  have product : workPoint.toNat * postFactor (system.graph.level account) ≤ 256 * 10000 :=
    Nat.mul_le_mul (by omega) factor
  have word (value : Nat) (small : value ≤ 256 * 10000) : ∃ result : Uint256, result.toNat = value :=
    ⟨⟨value, lt_of_le_of_lt small (by decide)⟩, rfl⟩
  obtain ⟨level, isLevel⟩ := word (system.graph.level account) (by omega)
  obtain ⟨raised, isRaised⟩ := word (system.graph.level account + 2) (by omega)
  obtain ⟨squared, isSquared⟩ := word ((system.graph.level account + 2) ^ 2) (by omega)
  obtain ⟨lowered, isLowered⟩ := word ((system.graph.level account + 2) ^ 2 - 4) (by omega)
  obtain ⟨scaled, isScaled⟩ := word (((system.graph.level account + 2) ^ 2 - 4) * 10 ^ 3) (by omega)
  obtain ⟨fr, isFactor⟩ := word (postFactor (system.graph.level account)) (by omega)
  obtain ⟨weighted, isWeighted⟩ := word (workPoint.toNat * postFactor (system.graph.level account))
    product
  have whole : wholeReliability system account = .ok level :=
    (wholeReliability_eq_ok _ _ _).mpr ⟨allowed, isLevel⟩
  have oneUnit : Word.checkedPow 10 TokenERC20.decimals = .ok (⟨unit, by decide⟩ : Uint256) :=
    (tokenUnit_eq_ok _).mpr rfl
  have adjust : getAdjustParameter system = .ok ⟨adjustment system, adjustment_lt system⟩ :=
    (getAdjustParameter_eq_ok _ _).mpr ⟨allowed, rfl⟩
  have inverse : (⟨unit, by decide⟩ : Uint256).checkedDiv ⟨adjustment system, adjustment_lt system⟩ =
      .ok 0 :=
    (Word.checkedDiv_eq_ok _ _ _).mpr ⟨(adjustment_pos system).ne', (Nat.div_eq_of_lt large).symm⟩
  have raise : level.checkedAdd 2 = .ok raised :=
    (Word.checkedAdd_eq_ok _ _ _).mpr (by rw [isRaised, isLevel]; rfl)
  have square : raised.checkedPow 2 = .ok squared :=
    (Word.checkedPow_eq_ok _ _ _).mpr (by rw [isSquared, isRaised]; rfl)
  have lower : squared.checkedSub 4 = .ok lowered :=
    (Word.checkedSub_eq_ok _ _ _).mpr (by rw [isLowered, isSquared]; exact ⟨atLeast, rfl⟩)
  have thousand : Word.checkedPow 10 3 = .ok (1000 : Uint256) := (Word.checkedPow_eq_ok _ _ _).mpr rfl
  have scale : lowered.checkedMul 1000 = .ok scaled :=
    (Word.checkedMul_eq_ok _ _ _).mpr (by rw [isScaled, isLowered]; rfl)
  have divide : scaled.checkedDiv 14 = .ok fr :=
    (Word.checkedDiv_eq_ok _ _ _).mpr ⟨by decide, by rw [isFactor, isScaled]; rfl⟩
  have multiply : SafeMath.mul (workPoint.widen (by decide)) fr = .ok weighted :=
    (SafeMath.mul_eq_ok _ _ _).mpr (by rw [isWeighted, isFactor]; rfl)
  unfold evaluationConsensus
  rw [bind_of_ok _ whole, bind_of_ok _ oneUnit, bind_of_ok _ adjust, bind_of_ok _ inverse,
    bind_of_ok _ raise, bind_of_ok _ square, bind_of_ok _ lower, bind_of_ok _ thousand,
    bind_of_ok _ scale, bind_of_ok _ divide, bind_of_ok _ multiply]
  exact bind_of_error _ rfl

/-- The consensus exists exactly for a parameter of at most one unit. -/
theorem exists_evaluationConsensus_iff {system : System}
    (allowed : system.eternalStorage.allowAccount system.service.address = true) (account : Address)
    (workPoint : Uint8) :
    (∃ senderPoint ownerPoint,
        evaluationConsensus system account workPoint = .ok (senderPoint, ownerPoint)) ↔
      adjustment system ≤ unit := by
  have positive := adjustment_pos system
  simp only [evaluationConsensus_eq_ok, allowed, true_and]
  constructor
  · intro exist
    obtain ⟨_, _, -, inverse, -⟩ := exist
    by_contra large
    exact inverse (Nat.div_eq_of_lt (Nat.not_le.mp large))
  · intro small
    have inverse : unit / adjustment system ≠ 0 := (Nat.div_pos small positive).ne'
    have bound : postPoint (system.graph.level account) workPoint.toNat (adjustment system) <
        2 ^ 256 := by
      have point := postPoint_le (levelOf_le (system.graph.reliability account)) workPoint.toNat
        (adjustment system)
      rw [← TrustGraph.level] at point
      have work := workPoint.bounded
      omega
    refine ⟨⟨_, bound⟩, ⟨_, lt_of_le_of_lt (Nat.div_le_self _ 100) bound⟩, positive.ne', inverse, rfl,
      rfl⟩

end Holonus.Coin.HolonusCoinService
