/-
This file proves how the minted points scale and how far the supply can grow.
-/

import Holonus.Abstract.Monotone
import Holonus.Proof.Ledger.Posting
import Holonus.Proof.Ledger.Transfer

namespace Holonus.Coin

open Holonus.Machine Holonus.Abstract HolonusCoinService

section
variable {scale part : Nat} (positive : 0 < part) (small : part ≤ scale) (amount : Nat)
include positive small

/-- Dividing by the rounded inverse equals scaling exactly when the product stays farther below its
next unit than the rounding of the inverse loses on this unit. -/
theorem div_inverse_eq_iff :
    amount / (scale / part) = amount * part / scale ↔
      amount * part % scale + (amount * part / scale + 1) * (scale % part) < scale := by
  have inverse : 0 < scale / part := Nat.div_pos small positive
  have split : part * (scale / part) + scale % part = scale := Nat.div_add_mod scale part
  have whole : scale * (amount * part / scale) + amount * part % scale = amount * part :=
    Nat.div_add_mod (amount * part) scale
  generalize scale / part = divisor at *
  generalize scale % part = lost at *
  generalize amount * part / scale = quotient at *
  generalize amount * part % scale = remainder at *
  have unit : (quotient + 1) * scale = (quotient + 1) * divisor * part + (quotient + 1) * lost := by
    rw [← split]
    ring
  have next : (quotient + 1) * scale = scale * quotient + scale := by ring
  have lower : quotient * divisor ≤ amount := by
    apply Nat.le_of_mul_le_mul_right _ positive
    have below : quotient * divisor * part ≤ scale * quotient := by
      rw [← split]
      calc quotient * divisor * part = part * divisor * quotient := by ring
        _ ≤ (part * divisor + lost) * quotient := Nat.mul_le_mul_right _ (Nat.le_add_right _ _)
    omega
  have upper : amount < (quotient + 1) * divisor ↔
      amount * part < (quotient + 1) * divisor * part :=
    (Nat.mul_lt_mul_right positive).symm
  have parts : (quotient + 1) * divisor = quotient * divisor + divisor := by ring
  rw [Nat.div_eq_iff inverse]
  constructor
  · intro bounds
    have below := upper.mp (by omega)
    omega
  · intro covered
    have below := upper.mpr (by omega)
    omega

/-- A part of the scale has an exact inverse. -/
theorem inverse_exact_of_dvd (divides : part ∣ scale) :
    amount * part % scale + (amount * part / scale + 1) * (scale % part) < scale := by
  rw [Nat.mod_eq_zero_of_dvd divides, Nat.mul_zero, Nat.add_zero]
  exact Nat.mod_lt _ (lt_of_lt_of_le positive small)

omit small in
/-- A product that stays a part below the scale rounds to nothing on both ways. -/
theorem inverse_exact_of_le (few : (amount + 1) * part ≤ scale) :
    amount * part % scale + (amount * part / scale + 1) * (scale % part) < scale := by
  have split : part * (scale / part) + scale % part = scale := Nat.div_add_mod scale part
  have next : (amount + 1) * part = amount * part + part := Nat.succ_mul _ _
  have enough : (amount + 1) * part ≤ part * (scale / part) := by
    rw [Nat.mul_comm part]
    exact Nat.mul_le_mul_right _ ((Nat.le_div_iff_mul_le positive).mpr few)
  have below : amount * part < scale := by omega
  rw [Nat.mod_eq_of_lt below, Nat.div_eq_of_lt below, Nat.zero_add, Nat.one_mul]
  omega

/-- A part between one half and the whole has the inverse one, which scales nothing down. -/
theorem inverse_inexact_of_half (half : scale < 2 * part) (proper : part < scale)
    (nonzero : 0 < amount) :
    ¬ amount * part % scale + (amount * part / scale + 1) * (scale % part) < scale := by
  rw [← div_inverse_eq_iff positive small amount]
  have inverse : scale / part = 1 := Nat.div_eq_of_lt_le (by omega) (by omega)
  have product : amount * part / scale < amount :=
    Nat.div_lt_of_lt_mul (by
      rw [Nat.mul_comm scale]
      exact Nat.mul_lt_mul_of_pos_left proper nonzero)
  rw [inverse, Nat.div_one]
  omega

end

/-- The sender point is the scaled product, rounded down. -/
def PointsScaled (system : System) (owner : Address) (workPoint : Uint8)
    (parameter level : Uint256) : Prop :=
  ∃ senderPoint ownerPoint,
    evaluationConsensus system owner workPoint = .ok (senderPoint, ownerPoint) ∧
      senderPoint.toNat =
        workPoint.toNat * postFactor level.toNat * parameter.toNat / 10 ^ 18 * 10 ^ 15

/-- The sender point rounds the scaled product down exactly when the product stays farther below its
next unit than the rounding of the inverse loses on this unit. This holds for a parameter that divides
the scale and for small products, and it fails for every parameter between one half and one. -/
theorem points_scaled_iff (deployment : Deployment) (transactions : List Transaction) (owner : Address)
    (workPoint : Uint8) (parameter level : Uint256)
    (read : getAdjustParameter (deployment.after transactions) = .ok parameter)
    (positive : 0 < parameter.toNat) (small : parameter.toNat ≤ 10 ^ 18)
    (whole : wholeReliability (deployment.after transactions) owner = .ok level) :
    let scaled := PointsScaled (deployment.after transactions) owner workPoint parameter level
    let amount := workPoint.toNat * postFactor level.toNat
    (scaled ↔ amount * parameter.toNat % 10 ^ 18 +
      (amount * parameter.toNat / 10 ^ 18 + 1) * (10 ^ 18 % parameter.toNat) < 10 ^ 18) ∧
    (parameter.toNat ∣ 10 ^ 18 → scaled) ∧ ((amount + 1) * parameter.toNat ≤ 10 ^ 18 → scaled) ∧
    (10 ^ 18 < 2 * parameter.toNat → parameter.toNat < 10 ^ 18 → 0 < amount → ¬ scaled) := by
  intro scaled amount
  have allowed := (deployment.after_sound transactions).wired.service
  have adjust := ((getAdjustParameter_eq_ok _ _).mp read).2
  have isLevel := ((wholeReliability_eq_ok _ _ _).mp whole).2
  have point : postPoint ((deployment.after transactions).graph.level owner) workPoint.toNat
      (adjustment (deployment.after transactions)) =
        amount / (10 ^ 18 / parameter.toNat) * 10 ^ 15 := by
    rw [← isLevel, ← adjust]
    rfl
  have precise : scaled ↔ amount * parameter.toNat % 10 ^ 18 +
      (amount * parameter.toNat / 10 ^ 18 + 1) * (10 ^ 18 % parameter.toNat) < 10 ^ 18 := by
    rw [← div_inverse_eq_iff positive small]
    constructor
    · rintro ⟨senderPoint, ownerPoint, consensus, isScaled⟩
      obtain ⟨-, -, -, isPoint, -⟩ := (evaluationConsensus_eq_ok _ _ _ _ _).mp consensus
      rw [isPoint, point] at isScaled
      exact Nat.eq_of_mul_eq_mul_right (by decide) isScaled
    · intro equal
      rw [adjust] at small
      obtain ⟨senderPoint, ownerPoint, consensus⟩ :=
        (exists_evaluationConsensus_iff allowed owner workPoint).mpr small
      obtain ⟨-, -, -, isPoint, -⟩ := (evaluationConsensus_eq_ok _ _ _ _ _).mp consensus
      refine ⟨senderPoint, ownerPoint, consensus, ?_⟩
      rw [isPoint, point, equal]
  refine ⟨precise, ?_, ?_, ?_⟩
  · exact fun divides => precise.mpr (inverse_exact_of_dvd positive small amount divides)
  · exact fun few => precise.mpr (inverse_exact_of_le positive amount few)
  · intro half proper nonzero holds
    exact inverse_inexact_of_half positive small amount half proper nonzero (precise.mp holds)

/-- A parameter of one half divides the unit and rounds exactly. -/
theorem halvedRun_scaled :
    ∃ senderPoint ownerPoint,
      evaluationConsensus (Deployment.sample.after halvedRun) 10 5 = .ok (senderPoint, ownerPoint) ∧
        senderPoint.toNat = 5 * postFactor 3 * 500000000000000000 / 10 ^ 18 * 10 ^ 15 := by
  have read : getAdjustParameter (Deployment.sample.after halvedRun) = .ok 500000000000000000 := by
    decide +kernel
  have whole : wholeReliability (Deployment.sample.after halvedRun) 10 = .ok 3 := by decide +kernel
  exact (points_scaled_iff Deployment.sample halvedRun 10 5 500000000000000000 3 read (by decide)
    (by decide) whole).1.mpr (by decide)

/-- A parameter of six tenths has the rounded inverse one and scales nothing down. -/
theorem rounded_inverse_mints_more :
    ∃ deployment transactions owner workPoint parameter level senderPoint ownerPoint,
      getAdjustParameter (Deployment.after deployment transactions) = .ok parameter ∧
        0 < parameter.toNat ∧ parameter.toNat ≤ 10 ^ 18 ∧
        wholeReliability (deployment.after transactions) owner = .ok level ∧
        evaluationConsensus (deployment.after transactions) owner workPoint =
          .ok (senderPoint, ownerPoint) ∧
        workPoint.toNat * postFactor level.toNat * parameter.toNat / 10 ^ 18 * 10 ^ 15 <
          senderPoint.toNat :=
  ⟨Deployment.sample, gradedRun ++ [⟨1, .setAdjustParameter 6 1⟩], 10, 5, 600000000000000000, 3,
    7500000000000000000, 75000000000000000, by decide +kernel, by decide, by decide, by decide +kernel,
    by decide +kernel, by decide⟩

theorem postFactor_mono {low high : Nat} (ordered : low ≤ high) : postFactor low ≤ postFactor high := by
  unfold postFactor
  apply Nat.div_le_div_right
  apply Nat.mul_le_mul_right
  apply Nat.sub_le_sub_right
  exact Nat.pow_le_pow_left (by omega) 2

/-- A higher level, more work and a higher parameter earn at least as many points. -/
theorem postPoint_mono {lowLevel highLevel lowWork highWork lowAdjust highAdjust : Nat}
    (levels : lowLevel ≤ highLevel) (works : lowWork ≤ highWork) (positive : 0 < lowAdjust)
    (adjusts : lowAdjust ≤ highAdjust) (small : highAdjust ≤ unit) :
    postPoint lowLevel lowWork lowAdjust ≤ postPoint highLevel highWork highAdjust := by
  have inverse : unit / highAdjust ≠ 0 :=
    (Nat.div_pos small (lt_of_lt_of_le positive adjusts)).ne'
  have inverses : unit / highAdjust ≤ unit / lowAdjust := Nat.div_le_div_left adjusts positive
  have amounts : lowWork * postFactor lowLevel ≤ highWork * postFactor highLevel :=
    Nat.mul_le_mul works (postFactor_mono levels)
  unfold postPoint
  apply Nat.mul_le_mul_right
  exact Nat.div_le_div amounts inverses inverse

/-- The consensus grows with the reliability, the work and the parameter. -/
theorem evaluationConsensus_mono {left right : System} (leftSound : left.Sound)
    (rightSound : right.Sound) {leftOwner rightOwner : Address} {leftWork rightWork : Uint8}
    (adjusts : adjustment left ≤ adjustment right) (small : adjustment right ≤ unit)
    (reliabilities : left.graph.reliability leftOwner ≤ right.graph.reliability rightOwner)
    (works : leftWork.toNat ≤ rightWork.toNat) :
    ∃ leftPoint leftShare rightPoint rightShare,
      evaluationConsensus left leftOwner leftWork = .ok (leftPoint, leftShare) ∧
        evaluationConsensus right rightOwner rightWork = .ok (rightPoint, rightShare) ∧
        leftPoint ≤ rightPoint ∧ leftShare ≤ rightShare := by
  obtain ⟨leftPoint, leftShare, leftConsensus⟩ := (exists_evaluationConsensus_iff
    leftSound.wired.service leftOwner leftWork).mpr (adjusts.trans small)
  obtain ⟨rightPoint, rightShare, rightConsensus⟩ := (exists_evaluationConsensus_iff
    rightSound.wired.service rightOwner rightWork).mpr small
  obtain ⟨-, -, -, isLeft, isLeftShare⟩ := (evaluationConsensus_eq_ok _ _ _ _ _).mp leftConsensus
  obtain ⟨-, -, -, isRight, isRightShare⟩ := (evaluationConsensus_eq_ok _ _ _ _ _).mp rightConsensus
  have points : leftPoint.toNat ≤ rightPoint.toNat := by
    rw [isLeft, isRight]
    exact postPoint_mono (levelOf_mono reliabilities) works (adjustment_pos left) adjusts small
  refine ⟨leftPoint, leftShare, rightPoint, rightShare, leftConsensus, rightConsensus, points, ?_⟩
  rw [Word.le_def, isLeftShare, isRightShare]
  exact Nat.div_le_div_right points

/-- The owner earns one hundredth, and one work point earns the sender at most ten units. -/
theorem evaluationConsensus_bound {system : System} {owner : Address} {workPoint : Uint8}
    {senderPoint ownerPoint : Uint256}
    (consensus : evaluationConsensus system owner workPoint = .ok (senderPoint, ownerPoint)) :
    ownerPoint.toNat = senderPoint.toNat / 100 ∧ senderPoint.toNat ≤ workPoint.toNat * 10 ^ 19 := by
  obtain ⟨-, -, -, isPoint, isShare⟩ := (evaluationConsensus_eq_ok _ _ _ _ _).mp consensus
  refine ⟨isShare, ?_⟩
  rw [isPoint]
  exact postPoint_le (levelOf_le _) _ _

/-- One post mints at most this amount. -/
def postCap : Nat := 2575500000000000000000

theorem evaluationConsensus_le_postCap {system : System} {owner : Address} {workPoint : Uint8}
    {senderPoint ownerPoint : Uint256}
    (consensus : evaluationConsensus system owner workPoint = .ok (senderPoint, ownerPoint)) :
    senderPoint.toNat + ownerPoint.toNat ≤ postCap := by
  obtain ⟨share, bound⟩ := evaluationConsensus_bound consensus
  have work := workPoint.bounded
  unfold postCap
  omega

/-- One call issues the initial supply or adds at most one post. -/
theorem System.Refines.supply_growth {system next : System} {transaction : Transaction}
    (refines : system.Refines transaction next) :
    next.ledger.supply ≤ 10 ^ 10 ∨ next.ledger.supply ≤ system.ledger.supply + postCap := by
  obtain ⟨msgSender, call⟩ := transaction
  rw [refines.ledger]
  cases call with
  | init =>
      simp only [ledgerAction]
      split
      · exact Or.inl le_rfl
      · exact Or.inr (Nat.le_add_right _ _)
  | callEvaluatePost owner sender workPoint =>
      simp only [ledgerAction]
      split
      · rename_i senderPoint ownerPoint consensus
        have cap := evaluationConsensus_le_postCap consensus
        simp only [Ledger.perform]
        exact Or.inr (by omega)
      · exact Or.inr (Nat.le_add_right _ _)
  | _ => exact Or.inr (Nat.le_add_right _ _)

/-- Every run of this length keeps the supply below the initial supply and its posts. -/
theorem Deployment.supply_le (deployment : Deployment) (transactions : List Transaction) :
    (deployment.after transactions).ledger.supply ≤ 10 ^ 10 + transactions.length * postCap := by
  induction transactions using List.reverseRecOn with
  | nil => exact Nat.zero_le _
  | append_singleton transactions transaction ih =>
      have longer : (transactions.length + 1) * postCap = transactions.length * postCap + postCap :=
        Nat.succ_mul _ _
      rw [deployment.after_append, run_cons, run_nil, List.length_append, List.length_singleton]
      cases outcome : execute (deployment.after transactions) transaction with
      | ok next =>
          rw [settle_ok outcome]
          rcases (execute_refines (deployment.after_sound transactions).represented
            outcome).supply_growth with issued | added
          · omega
          · omega
      | error fault =>
          rw [settle_error outcome]
          omega

/-- This part of a call adds to the supply, to the balances or to the points. -/
def tokenOutcome (system : System) (transaction : Transaction) : Except Fault System :=
  match transaction.call with
  | .transferToken target value => privateTransfer system transaction.msgSender target value
  | .transfer _ _ => execute system transaction
  | .transferFrom _ _ _ => execute system transaction
  | .callEvaluatePost _ _ _ => execute system transaction
  | _ => .ok system

/-- The transaction moves tokens from an account to itself. -/
def Transaction.isSelfTransfer (transaction : Transaction) : Bool :=
  match transaction.call with
  | .transfer target _ => target = transaction.msgSender
  | .transferFrom source target _ => target = source
  | .transferToken target _ => target = transaction.msgSender
  | _ => false

/-- Only a self-transfer can stop at an overflow. -/
theorem rejection_of_ne {ledger : Ledger Address} {source target : Address} (different : target ≠ source)
    (value : Nat) : rejection ledger source target value = .requirement :=
  if_neg fun self => different self.1

/-- A post never overflows while the supply has room for one post. -/
theorem callEvaluatePost_not_overflow {system : System} (sound : system.Sound)
    (backed : system.ledger.Backed) (room : system.ledger.supply + postCap < 2 ^ 256)
    (msgSender owner sender : Address) (workPoint : Uint8) :
    execute system ⟨msgSender, .callEvaluatePost owner sender workPoint⟩ ≠ .error .overflow := by
  intro overflows
  have allowed := sound.wired.service
  by_cases same : owner = sender
  · have refused : execute system ⟨msgSender, .callEvaluatePost owner sender workPoint⟩ =
        .error .requirement := bind_of_error _ (require_of_not (not_not_intro same))
    rw [refused] at overflows
    exact nomatch overflows
  · by_cases small : adjustment system ≤ unit
    · obtain ⟨senderPoint, ownerPoint, consensus⟩ :=
        (exists_evaluationConsensus_iff allowed owner workPoint).mpr small
      have awarded := (system.awarded_eq_some ⟨msgSender, owner, sender, workPoint⟩ _).mpr
        ⟨same, senderPoint, ownerPoint, consensus, rfl⟩
      have cap := evaluationConsensus_le_postCap consensus
      obtain ⟨next, succeeds⟩ := post_succeeds backed awarded
        (lt_of_le_of_lt (Nat.add_le_add_left cap _) room)
      have executed : execute system ⟨msgSender, .callEvaluatePost owner sender workPoint⟩ =
        .ok next := succeeds
      rw [executed] at overflows
      exact nomatch overflows
    · have stopped : execute system ⟨msgSender, .callEvaluatePost owner sender workPoint⟩ =
          .error .divisionByZero :=
        callEvaluatePost_of_large allowed (Nat.not_le.mp small) same workPoint
      rw [stopped] at overflows
      exact nomatch overflows

/-- No addition of tokens overflows while the supply has room for one post. -/
theorem tokenOutcome_not_overflow (deployment : Deployment) (transactions : List Transaction)
    (room : (deployment.after transactions).ledger.supply + postCap < 2 ^ 256)
    {transaction : Transaction} (apart : ¬ transaction.isSelfTransfer) :
    tokenOutcome (deployment.after transactions) transaction ≠ .error .overflow := by
  have sound := deployment.after_sound transactions
  have fits (source target : Address) (different : target ≠ source) :=
    deployment.balances_fit transactions (Ne.symm different)
  obtain ⟨msgSender, call⟩ := transaction
  intro overflows
  cases call with
  | transfer target value =>
      have different : target ≠ msgSender := fun same => apart (decide_eq_true same)
      have stopped := (System.transferTocken_outcome sound.wired.token (fits msgSender target)
        value).fault_eq overflows
      rw [rejection_of_ne different] at stopped
      exact nomatch stopped
  | transferFrom source target value =>
      have different : target ≠ source := fun same => apart (decide_eq_true same)
      have fails : TokenERC20.transferFrom (deployment.after transactions) msgSender source target
          value = .error .overflow := by
        cases outcome : TokenERC20.transferFrom (deployment.after transactions) msgSender source target
          value with
        | ok result =>
            simp only [tokenOutcome, execute, outcome, Except.map] at overflows
            exact nomatch overflows
        | error fault =>
            simp only [tokenOutcome, execute, outcome, Except.map] at overflows
            rw [Except.error.inj overflows]
      have stopped := (TokenERC20.transferFrom_outcome sound.wired.token (fits source target)
        msgSender value).fault_eq fails
      rw [rejection_of_ne different, ite_self] at stopped
      exact nomatch stopped
  | transferToken target value =>
      have different : target ≠ msgSender := fun same => apart (decide_eq_true same)
      have stopped := (System.transferTocken_outcome sound.wired.service (fits msgSender target)
        value).fault_eq overflows
      rw [rejection_of_ne different] at stopped
      exact nomatch stopped
  | callEvaluatePost owner sender workPoint =>
      exact callEvaluatePost_not_overflow sound (deployment.after_backed transactions) room msgSender
        owner sender workPoint overflows
  | _ => exact nomatch overflows

/-- A transfer of an account to itself reverts. -/
theorem execute_of_isSelfTransfer {system next : System} {transaction : Transaction}
    (isSelf : transaction.isSelfTransfer) : execute system transaction ≠ .ok next := by
  intro succeeds
  obtain ⟨msgSender, call⟩ := transaction
  cases executed_of_execute succeeds with
  | transfer different => exact different (of_decide_eq_true isSelf)
  | transferFrom enough different => exact different (of_decide_eq_true isSelf)
  | transferToken owned different => exact different (of_decide_eq_true isSelf)
  | _ => exact Bool.noConfusion isSelf

/-- Minting is monotone and bounded, and no addition of tokens overflows in a run of this length
unless an account transfers to itself, which reverts in any case. -/
theorem minting_bounded :
    (∀ leftDeployment leftRun rightDeployment rightRun leftOwner rightOwner leftWork rightWork
        leftParameter rightParameter leftFull rightFull,
      getAdjustParameter (Deployment.after leftDeployment leftRun) = .ok leftParameter →
      getAdjustParameter (Deployment.after rightDeployment rightRun) = .ok rightParameter →
      getFullReliability (leftDeployment.after leftRun) leftOwner = .ok leftFull →
      getFullReliability (rightDeployment.after rightRun) rightOwner = .ok rightFull →
      leftParameter ≤ rightParameter → rightParameter.toNat ≤ 10 ^ 18 → leftFull ≤ rightFull →
      leftWork ≤ rightWork →
      ∃ leftPoint leftShare rightPoint rightShare,
        evaluationConsensus (leftDeployment.after leftRun) leftOwner leftWork =
            .ok (leftPoint, leftShare) ∧
          evaluationConsensus (rightDeployment.after rightRun) rightOwner rightWork =
            .ok (rightPoint, rightShare) ∧
          leftPoint ≤ rightPoint ∧ leftShare ≤ rightShare ∧
          rightShare.toNat = rightPoint.toNat / 100 ∧
          rightPoint.toNat ≤ rightWork.toNat * 10 ^ 19) ∧
      (∀ deployment transactions, (Deployment.after deployment transactions).ledger.supply ≤
        10 ^ 10 + transactions.length * 2575500000000000000000) ∧
      (∀ deployment before transaction rest,
        (before ++ transaction :: rest).length < 2 ^ 184 → ¬ transaction.isSelfTransfer →
          tokenOutcome (Deployment.after deployment before) transaction ≠ .error .overflow) ∧
      ∀ deployment before transaction next, Transaction.isSelfTransfer transaction →
        execute (Deployment.after deployment before) transaction ≠ .ok next := by
  refine ⟨?_, Deployment.supply_le, ?_, fun _ _ _ _ isSelf => execute_of_isSelfTransfer isSelf⟩
  · intro leftDeployment leftRun rightDeployment rightRun leftOwner rightOwner leftWork rightWork
      leftParameter rightParameter leftFull rightFull leftRead rightRead leftStored rightStored
      parameters small fulls works
    rw [Word.le_def, ((getAdjustParameter_eq_ok _ _).mp leftRead).2,
      ((getAdjustParameter_eq_ok _ _).mp rightRead).2] at parameters
    rw [((getAdjustParameter_eq_ok _ _).mp rightRead).2] at small
    rw [← ((getFullReliability_eq_ok _ _ _).mp leftStored).2,
      ← ((getFullReliability_eq_ok _ _ _).mp rightStored).2] at fulls
    obtain ⟨leftPoint, leftShare, rightPoint, rightShare, leftConsensus, rightConsensus, points,
      shares⟩ := evaluationConsensus_mono (leftDeployment.after_sound leftRun)
        (rightDeployment.after_sound rightRun) parameters small fulls works
    exact ⟨leftPoint, leftShare, rightPoint, rightShare, leftConsensus, rightConsensus, points, shares,
      evaluationConsensus_bound rightConsensus⟩
  · intro deployment before transaction rest short apart
    apply tokenOutcome_not_overflow deployment before _ apart
    have supply := deployment.supply_le before
    rw [List.length_append, List.length_cons] at short
    have few : (before.length + 1) * postCap ≤ 2 ^ 184 * postCap := Nat.mul_le_mul_right _ (by omega)
    have longer : (before.length + 1) * postCap = before.length * postCap + postCap :=
      Nat.succ_mul _ _
    have room : 10 ^ 10 + 2 ^ 184 * postCap < 2 ^ 256 := by decide
    omega

/-- Halving the parameter lowers the points, and a post after it stays in range. -/
theorem halvedRun_bounded :
    (∃ leftPoint leftShare rightPoint rightShare,
      evaluationConsensus (Deployment.sample.after halvedRun) 10 5 = .ok (leftPoint, leftShare) ∧
        evaluationConsensus (Deployment.sample.after gradedRun) 10 7 = .ok (rightPoint, rightShare) ∧
        leftPoint ≤ rightPoint ∧ leftShare ≤ rightShare ∧
        rightShare.toNat = rightPoint.toNat / 100 ∧ rightPoint.toNat ≤ 7 * 10 ^ 19) ∧
      tokenOutcome (Deployment.sample.after halvedRun) ⟨1, .callEvaluatePost 10 11 5⟩ ≠
        .error .overflow :=
  ⟨minting_bounded.1 Deployment.sample halvedRun Deployment.sample gradedRun 10 10 5 7
      500000000000000000 1000000000000000000 3000000000000000000 3000000000000000000
      (by decide +kernel) (by decide +kernel) (by decide +kernel) (by decide +kernel) (by decide)
      (by decide) (by decide) (by decide),
    minting_bounded.2.2.1 Deployment.sample halvedRun ⟨1, .callEvaluatePost 10 11 5⟩ [] (by decide)
      (by decide)⟩

/-- A self-transfer overflows in a run of fewer calls. -/
theorem short_run_overflows :
    ∃ deployment before transaction,
      (before ++ [transaction]).length < 2 ^ 184 ∧
        tokenOutcome (Deployment.after deployment before) transaction = .error .overflow := by
  obtain ⟨count, fits, large, few⟩ := exists_large_count
  refine ⟨Deployment.sample, postRun count, selfTransfer count, ?_, selfTransfer_outcome fits large⟩
  simp only [postRun, List.length_append, List.length_cons, List.length_replicate, List.length_nil]
  omega

end Holonus.Coin
