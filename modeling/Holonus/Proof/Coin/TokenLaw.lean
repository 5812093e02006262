/-
This file states the exact effect of each successful token call.
-/

import Holonus.Proof.Coin.SystemView

namespace Holonus.Coin

open Holonus.Machine Holonus.Abstract

/-- A moved system stores both new balances and emits one event. -/
def System.moved (system : System) (source target : Address) (value lowered raised : Uint256) :
    System :=
  System.emit { system with
    eternalStorage := (system.eternalStorage.putAddrUInt .tocken source lowered).putAddrUInt .tocken
      target raised } (.transfer source target value)

/-- The transfer succeeds exactly for a covered positive value between two accounts. -/
theorem System.transferTocken_eq_ok (system next : System) (self source target : Address)
    (value : Uint256) :
    system.transferTocken self source target value = .ok next ↔
      system.eternalStorage.allowAccount self = true ∧ target ≠ 0 ∧ target ≠ source ∧
        0 < value.toNat ∧ value.toNat ≤ system.ledger.balance source ∧
        system.ledger.balance source + system.ledger.balance target < 2 ^ 256 ∧
        ∃ lowered : Uint256, lowered.toNat = system.ledger.balance source - value.toNat ∧
          ∃ raised : Uint256, raised.toNat = system.ledger.balance target + value.toNat ∧
            system.moved source target value lowered raised = next := by
  have fromBalance : system.ledger.balance source =
    (system.eternalStorage.addrUIntStorage .tocken source).toNat := rfl
  have toBalance : system.ledger.balance target =
    (system.eternalStorage.addrUIntStorage .tocken target).toNat := rfl
  simp only [System.transferTocken, bind_eq_ok, pure_eq_ok, require_eq_ok, assert_eq_ok,
    EternalStorage.getAddrUIntValue_eq_ok, EternalStorage.setAddrUIntValue_eq_ok,
    Word.checkedAdd_eq_ok, SafeMath.add_eq_ok, SafeMath.sub_eq_ok, Word.le_def, Word.lt_def,
    Word.toNat_zero, exists_const, and_assoc, exists_and_left, exists_eq_left',
    System.emit_eternalStorage, EternalStorage.putAddrUInt_allowAccount, EternalStorage.putAddrUInt_self,
    Function.update_self]
  constructor
  · intro succeeds
    obtain ⟨allowed, -, nonzero, covered, positive, -, -, -, previous, sum, -, lowered, low, raised,
      high, -, -, -, -, total, stored, kept, same⟩ := succeeds
    rw [Word.eq_iff] at kept
    have bounded := previous.bounded
    have different : target ≠ source := by
      intro equal
      subst equal
      rw [Function.update_self] at stored
      omega
    exact ⟨allowed, nonzero, different, positive, covered, by omega, lowered, low, raised, high, same⟩
  · intro facts
    obtain ⟨allowed, nonzero, different, positive, covered, fits, lowered, low, raised, high, same⟩ :=
      facts
    refine ⟨allowed, allowed, nonzero, by omega, positive, raised, by omega, by omega,
      ⟨_, fits⟩, rfl, by omega, lowered, by omega, raised, by omega, allowed, allowed, allowed,
      allowed, ⟨_, fits⟩, ?_, rfl, same⟩
    rw [Function.update_of_ne (Ne.symm different), Function.update_self]
    change system.ledger.balance source + system.ledger.balance target = _
    omega

/-- A transfer that misses its first requirement stops there. -/
theorem System.transferTocken_refused {system : System} {self source target : Address}
    {value : Uint256} (allowed : system.eternalStorage.allowAccount self = true)
    (refused : ¬ (target ≠ 0 ∧ 0 < value.toNat ∧ value.toNat ≤ system.ledger.balance source)) :
    system.transferTocken self source target value = .error .requirement := by
  have read (account : Address) := (EternalStorage.getAddrUIntValue_eq_ok system.eternalStorage self
    .tocken account _).mpr ⟨allowed, rfl⟩
  rw [System.transferTocken, bind_of_ok _ (read source), bind_of_ok _ (read target)]
  apply bind_of_error
  apply require_of_not
  intro met
  exact refused ⟨met.1, met.2.2, met.2.1⟩

/-- The last check of a transfer fails when twice the stored balance exceeds the earlier sum. -/
theorem System.doubled_check {raised previous : Uint256} {next : System}
    (exceeds : previous.toNat < 2 * raised.toNat) :
    (do
      let storedBalances ← SafeMath.add raised raised
      assert (storedBalances = previous)
      return next) =
      (.error (if 2 * raised.toNat < 2 ^ 256 then .assertion else .overflow) :
        Except Fault System) := by
  by_cases fits : raised.toNat + raised.toNat < 2 ^ 256
  · have unequal : (⟨raised.toNat + raised.toNat, fits⟩ : Uint256) ≠ previous := by
      rw [Ne, Word.eq_iff]
      show ¬ raised.toNat + raised.toNat = previous.toNat
      omega
    rw [bind_of_ok _ ((SafeMath.add_eq_ok raised raised ⟨_, fits⟩).mpr rfl),
      bind_of_error _ (assert_of_not unequal), if_pos (by omega)]
  · rw [bind_of_error _ (SafeMath.add_of_le (Nat.not_lt.mp fits)), if_neg (by omega)]

/-- A self-transfer doubles its value in the stored sum and never passes the last check. -/
theorem System.transferTocken_self {system : System} {self account : Address} {value : Uint256}
    (allowed : system.eternalStorage.allowAccount self = true) (nonzero : account ≠ 0)
    (positive : 0 < value.toNat) (covered : value.toNat ≤ system.ledger.balance account) :
    system.transferTocken self account account value =
      .error (if 2 * (system.ledger.balance account + value.toNat) < 2 ^ 256 then .assertion
        else .overflow) := by
  have read := (EternalStorage.getAddrUIntValue_eq_ok system.eternalStorage self .tocken account
    _).mpr ⟨allowed, rfl⟩
  generalize held : system.eternalStorage.addrUIntStorage .tocken account = balance at read
  have holds : system.ledger.balance account = balance.toNat := congrArg Word.toNat held
  rw [holds] at covered ⊢
  rw [System.transferTocken, bind_of_ok _ read, bind_of_ok _ read,
    bind_of_ok _ (require_of ⟨nonzero, covered, positive⟩)]
  by_cases sumFits : balance.toNat + value.toNat < 2 ^ 256
  · obtain ⟨raised, sum⟩ : ∃ raised : Uint256, raised.toNat = balance.toNat + value.toNat :=
      ⟨⟨_, sumFits⟩, rfl⟩
    obtain ⟨lowered, rest⟩ : ∃ lowered : Uint256, lowered.toNat = balance.toNat - value.toNat :=
      ⟨⟨balance.toNat - value.toNat, by omega⟩, rfl⟩
    have higher : balance < raised := by
      rw [Word.lt_def, sum]
      exact Nat.lt_add_of_pos_right positive
    rw [bind_of_ok _ ((Word.checkedAdd_eq_ok balance value raised).mpr sum),
      bind_of_ok _ (require_of higher)]
    by_cases doubleFits : balance.toNat + balance.toNat < 2 ^ 256
    · have written : system.eternalStorage.setAddrUIntValue self .tocken account lowered =
          .ok (system.eternalStorage.putAddrUInt .tocken account lowered) :=
        (EternalStorage.setAddrUIntValue_eq_ok _ _ _ _ _ _).mpr ⟨allowed, rfl⟩
      have again : (system.eternalStorage.putAddrUInt .tocken account lowered).setAddrUIntValue self
          .tocken account raised = .ok ((system.eternalStorage.putAddrUInt .tocken account
            lowered).putAddrUInt .tocken account raised) :=
        (EternalStorage.setAddrUIntValue_eq_ok _ _ _ _ _ _).mpr ⟨allowed, rfl⟩
      have stored : ((system.eternalStorage.putAddrUInt .tocken account lowered).putAddrUInt .tocken
          account raised).getAddrUIntValue self .tocken account = .ok raised :=
        (EternalStorage.getAddrUIntValue_eq_ok _ _ _ _ _).mpr ⟨allowed, by simp⟩
      rw [bind_of_ok _ ((SafeMath.add_eq_ok balance balance ⟨_, doubleFits⟩).mpr rfl),
        bind_of_ok _ ((SafeMath.sub_eq_ok balance value lowered).mpr ⟨covered, rest⟩),
        bind_of_ok _ ((SafeMath.add_eq_ok balance value raised).mpr sum), bind_of_ok _ written,
        bind_of_ok _ again]
      show ((system.eternalStorage.putAddrUInt .tocken account lowered).putAddrUInt .tocken account
        raised).getAddrUIntValue self .tocken account >>= _ = _
      rw [bind_of_ok _ stored]
      show ((system.eternalStorage.putAddrUInt .tocken account lowered).putAddrUInt .tocken account
        raised).getAddrUIntValue self .tocken account >>= _ = _
      rw [bind_of_ok _ stored]
      rw [System.doubled_check]
      · rw [sum]
      · show balance.toNat + balance.toNat < 2 * raised.toNat
        omega
    · rw [bind_of_error _ (SafeMath.add_of_le (Nat.not_lt.mp doubleFits)), if_neg (by omega)]
  · rw [bind_of_error _ (Word.checkedAdd_of_le (Nat.not_lt.mp sumFits)), if_neg (by omega)]

/-- The moved system has the moved ledger. -/
theorem System.moved_ledger (system : System) {source target : Address}
    {value lowered raised : Uint256} (low : lowered.toNat = system.ledger.balance source - value.toNat)
    (high : raised.toNat = system.ledger.balance target + value.toNat) :
    (system.moved source target value lowered raised).ledger =
      system.ledger.move source target value.toNat := by
  change ((system.eternalStorage.putAddrUInt .tocken source lowered).putAddrUInt .tocken
    target raised).ledger = _
  rw [EternalStorage.ledger_putTocken, EternalStorage.ledger_putTocken, low, high]
  rfl

namespace TokenERC20

/-- The owner of the token, and nobody else, hands it over. -/
theorem transferOwnership_eq_ok (system next : System) (msgSender newOwner : Address) :
    transferOwnership system msgSender newOwner = .ok next ↔
      msgSender = system.token.owner ∧
        { system with token := { system.token with owner := newOwner } } = next := by
  simp only [transferOwnership, onlyOwner, bind_eq_ok, pure_eq_ok, require_eq_ok, exists_const]

/-- The first issue stores the initial supply for its sender. -/
def issued (system : System) (msgSender : Address) : System :=
  { system with
    eternalStorage := (system.eternalStorage.putAddrUInt .tocken msgSender initialSupply).putUInt
      .totalSupply initialSupply }

/-- The owner initialises the token, which issues the supply only where there is none. -/
theorem init_eq_ok (system next : System) (msgSender : Address) :
    init system msgSender = .ok next ↔
      msgSender = system.token.owner ∧
        system.eternalStorage.allowAccount system.token.address = true ∧
        (if system.ledger.supply = 0 then issued system msgSender else system) = next := by
  simp only [init, onlyOwner, totalSupply, bind_eq_ok, require_eq_ok,
    EternalStorage.getUIntValue_eq_ok, exists_const, and_assoc, exists_and_left, exists_eq_left']
  apply and_congr_right
  intro _
  apply and_congr_right
  intro allowed
  have supply : (system.eternalStorage.uIntStorage .totalSupply ≤ 0) ↔ system.ledger.supply = 0 := by
    rw [Word.le_def, Word.toNat_zero]
    exact Nat.le_zero
  by_cases empty : system.ledger.supply = 0
  · simp only [supply.mpr empty, empty, ↓reduceIte, bind_eq_ok, pure_eq_ok,
      EternalStorage.setAddrUIntValue_eq_ok, EternalStorage.setUIntValue_eq_ok,
      EternalStorage.putAddrUInt_allowAccount, allowed, true_and, exists_eq_left']
    rfl
  · simp only [mt supply.mp empty, empty, ↓reduceIte, pure_eq_ok]

/-- The first initialisation is an issue in the ledger. -/
theorem issued_ledger (system : System) (msgSender : Address) :
    (issued system msgSender).ledger =
      system.ledger.perform (.issue msgSender initialSupply.toNat) := by
  change ((system.eternalStorage.putAddrUInt .tocken msgSender initialSupply).putUInt .totalSupply
    initialSupply).ledger = _
  rw [EternalStorage.ledger_putTotalSupply, EternalStorage.ledger_putTocken]
  rfl

/-- An approval stores the new allowance and emits one event. -/
def approved (system : System) (msgSender spender : Address) (value : Uint256) : System :=
  System.emit { system with
    eternalStorage := system.eternalStorage.putAddrGrpUInt .allowed msgSender spender value }
      (.approval msgSender spender value)

/-- An approval of an allowed token succeeds. -/
theorem approve_eq_ok (system next : System) (msgSender spender : Address) (value : Uint256)
    (success : Bool) :
    approve system msgSender spender value = .ok (next, success) ↔
      system.eternalStorage.allowAccount system.token.address = true ∧
        approved system msgSender spender value = next ∧ true = success := by
  simp only [approve, bind_eq_ok, pure_eq_ok, EternalStorage.setAddrGrpUIntValue_eq_ok, and_assoc,
    exists_and_left, exists_eq_left', Prod.mk.injEq]
  rfl

/-- An approval is an approval in the ledger. -/
theorem approved_ledger (system : System) (msgSender spender : Address) (value : Uint256) :
    (approved system msgSender spender value).ledger =
      system.ledger.perform (.approve msgSender spender value.toNat) := by
  change (system.eternalStorage.putAddrGrpUInt .allowed msgSender spender value).ledger = _
  rw [EternalStorage.ledger_putAllowed]
  rfl

/-- The spender's allowance drops before the balances move. -/
def lowered (system : System) (source spender : Address) (allowed : Uint256) : System :=
  { system with
    eternalStorage := system.eternalStorage.putAddrGrpUInt .allowed source spender allowed }

/-- A transfer from another account succeeds when the allowance covers it and the transfer does. -/
theorem transferFrom_eq_ok (system next : System) (msgSender source target : Address)
    (value : Uint256) (success : Bool) :
    transferFrom system msgSender source target value = .ok (next, success) ↔
      value.toNat ≤ system.ledger.allowance source msgSender ∧
        system.eternalStorage.allowAccount system.token.address = true ∧ target ≠ 0 ∧
        target ≠ source ∧ 0 < value.toNat ∧ value.toNat ≤ system.ledger.balance source ∧
        system.ledger.balance source + system.ledger.balance target < 2 ^ 256 ∧ true = success ∧
        ∃ allowed : Uint256,
          allowed.toNat = system.ledger.allowance source msgSender - value.toNat ∧
        ∃ low : Uint256, low.toNat = system.ledger.balance source - value.toNat ∧
        ∃ high : Uint256, high.toNat = system.ledger.balance target + value.toNat ∧
          (lowered system source msgSender allowed).moved source target value low high = next := by
  simp only [transferFrom, internalTransfer, bind_eq_ok, pure_eq_ok, require_eq_ok,
    EternalStorage.getAddrGrpUIntValue_eq_ok, EternalStorage.setAddrGrpUIntValue_eq_ok,
    Word.checkedSub_eq_ok, Word.le_def, System.transferTocken_eq_ok, Prod.mk.injEq, exists_const,
    and_assoc, exists_and_left, exists_eq_left']
  constructor
  · intro succeeds
    obtain ⟨allow, enough, -, allowed, drop, -, -, nonzero, different, positive, covered, fits, middle,
      ⟨low, isLow, high, isHigh, moved⟩, same, flag⟩ := succeeds
    subst moved
    exact ⟨enough, allow, nonzero, different, positive, covered, fits, flag, allowed, drop, low, isLow,
      high, isHigh, same⟩
  · intro facts
    obtain ⟨enough, allow, nonzero, different, positive, covered, fits, flag, allowed, drop, low, isLow,
      high, isHigh, same⟩ := facts
    exact ⟨allow, enough, enough, allowed, drop, allow, allow, nonzero, different, positive, covered,
      fits, _, ⟨low, isLow, high, isHigh, rfl⟩, same, flag⟩

/-- A transfer from another account is a spending in the ledger. -/
theorem spent_ledger {system : System} {spender source target : Address}
    {value allowed low high : Uint256}
    (drop : allowed.toNat = system.ledger.allowance source spender - value.toNat)
    (isLow : low.toNat = system.ledger.balance source - value.toNat)
    (isHigh : high.toNat = system.ledger.balance target + value.toNat) :
    ((lowered system source spender allowed).moved source target value low high).ledger =
      system.ledger.perform (.spend spender source target value.toNat) := by
  have first : (lowered system source spender allowed).ledger =
      { system.ledger with
        allowance := writePair system.ledger.allowance source spender allowed.toNat } :=
    system.eternalStorage.ledger_putAllowed source spender allowed
  rw [System.moved_ledger (lowered system source spender allowed) isLow isHigh, first, drop]
  rfl

end TokenERC20

end Holonus.Coin
