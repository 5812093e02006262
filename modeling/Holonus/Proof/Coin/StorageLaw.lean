/-
This file states when each storage access succeeds and what it returns.
-/

import Holonus.Construction.Coin.ManageStorage
import Holonus.Machine.OrderedSet

namespace Holonus.Coin

open Holonus.Machine

namespace EternalStorage

variable (storage : EternalStorage) (self : Address) (record : Record) (owner spender : Address)

/-- The check passes exactly for the allowed accounts. -/
theorem isAllow_eq_ok (done : Unit) :
    storage.isAllow self = .ok done ↔ storage.allowAccount self = true := require_eq_ok _ _

/-- An allowed account, and no other, reads a record. -/
theorem getAddrUIntValue_eq_ok (value : Uint256) :
    storage.getAddrUIntValue self record owner = .ok value ↔
      storage.allowAccount self = true ∧ storage.addrUIntStorage record owner = value := by
  simp only [getAddrUIntValue, bind_eq_ok, pure_eq_ok, isAllow_eq_ok, exists_const]

/-- An allowed account, and no other, writes a record. -/
theorem setAddrUIntValue_eq_ok (value : Uint256) (next : EternalStorage) :
    storage.setAddrUIntValue self record owner value = .ok next ↔
      storage.allowAccount self = true ∧ storage.putAddrUInt record owner value = next := by
  simp only [setAddrUIntValue, bind_eq_ok, pure_eq_ok, isAllow_eq_ok, exists_const]

/-- An allowed account, and no other, reads a total. -/
theorem getUIntValue_eq_ok (value : Uint256) :
    storage.getUIntValue self record = .ok value ↔
      storage.allowAccount self = true ∧ storage.uIntStorage record = value := by
  simp only [getUIntValue, bind_eq_ok, pure_eq_ok, isAllow_eq_ok, exists_const]

/-- An allowed account, and no other, writes a total. -/
theorem setUIntValue_eq_ok (value : Uint256) (next : EternalStorage) :
    storage.setUIntValue self record value = .ok next ↔
      storage.allowAccount self = true ∧ storage.putUInt record value = next := by
  simp only [setUIntValue, bind_eq_ok, pure_eq_ok, isAllow_eq_ok, exists_const]

/-- An allowed account, and no other, reads the record of a pair. -/
theorem getAddrGrpUIntValue_eq_ok (value : Uint256) :
    storage.getAddrGrpUIntValue self record owner spender = .ok value ↔
      storage.allowAccount self = true ∧ storage.addrGrpUIntStorage record owner spender = value := by
  simp only [getAddrGrpUIntValue, bind_eq_ok, pure_eq_ok, isAllow_eq_ok, exists_const]

/-- An allowed account, and no other, writes the record of a pair. -/
theorem setAddrGrpUIntValue_eq_ok (value : Uint256) (next : EternalStorage) :
    storage.setAddrGrpUIntValue self record owner spender value = .ok next ↔
      storage.allowAccount self = true ∧
        storage.putAddrGrpUInt record owner spender value = next := by
  simp only [setAddrGrpUIntValue, bind_eq_ok, pure_eq_ok, isAllow_eq_ok, exists_const]

/-- An allowed account, and no other, reads an evaluation. -/
theorem getAddrUserInfo_eq_ok (info : UserInfo) :
    storage.getAddrUserInfo self record owner spender = .ok info ↔
      storage.allowAccount self = true ∧
        storage.addrGrpUserInfoStorage record owner spender = info := by
  simp only [getAddrUserInfo, bind_eq_ok, pure_eq_ok, isAllow_eq_ok, exists_const]

/-- An allowed account, and no other, writes an evaluation, which names its spender. -/
theorem setAddrUserInfo_eq_ok (intVal : Int) (uintVal : Uint256) (next : EternalStorage) :
    storage.setAddrUserInfo self record owner spender intVal uintVal = .ok next ↔
      storage.allowAccount self = true ∧
        storage.putAddrGrpUserInfo record owner spender ⟨spender, intVal, uintVal⟩ = next := by
  simp only [setAddrUserInfo, bind_eq_ok, pure_eq_ok, isAllow_eq_ok, exists_const]

/-- Writing a record keeps the allowed accounts. -/
@[simp] theorem putAddrUInt_allowAccount (value : Uint256) :
    (storage.putAddrUInt record owner value).allowAccount = storage.allowAccount := rfl

@[simp] theorem putAddrUInt_addrGrpUIntStorage (value : Uint256) :
    (storage.putAddrUInt record owner value).addrGrpUIntStorage = storage.addrGrpUIntStorage := rfl

@[simp] theorem putAddrUInt_addrGrpUserInfoStorage (value : Uint256) :
    (storage.putAddrUInt record owner value).addrGrpUserInfoStorage =
      storage.addrGrpUserInfoStorage := rfl

@[simp] theorem putAddrUInt_uIntStorage (value : Uint256) :
    (storage.putAddrUInt record owner value).uIntStorage = storage.uIntStorage := rfl

/-- A written record shows its value. -/
@[simp] theorem putAddrUInt_self (value : Uint256) :
    (storage.putAddrUInt record owner value).addrUIntStorage record =
      Function.update (storage.addrUIntStorage record) owner value := Function.update_self _ _ _

/-- A written record keeps the others. -/
@[simp] theorem putAddrUInt_of_ne (value : Uint256) {other : Record} (different : other ≠ record) :
    (storage.putAddrUInt record owner value).addrUIntStorage other =
      storage.addrUIntStorage other := Function.update_of_ne different _ _

/-- Writing the value that is there changes nothing. -/
theorem putAddrUInt_eq_self :
    storage.putAddrUInt record owner (storage.addrUIntStorage record owner) = storage := by
  simp only [putAddrUInt, Function.update_eq_self]

/-- Writing the evaluation that is there changes nothing. -/
theorem putAddrGrpUserInfo_eq_self :
    storage.putAddrGrpUserInfo record owner spender
      (storage.addrGrpUserInfoStorage record owner spender) = storage := by
  simp only [putAddrGrpUserInfo, Function.update_eq_self]

/-- Writing a total keeps the allowed accounts. -/
@[simp] theorem putUInt_allowAccount (value : Uint256) :
    (storage.putUInt record value).allowAccount = storage.allowAccount := rfl

@[simp] theorem putUInt_addrGrpUserInfoStorage (value : Uint256) :
    (storage.putUInt record value).addrGrpUserInfoStorage = storage.addrGrpUserInfoStorage := rfl

@[simp] theorem putUInt_addrUIntStorage (value : Uint256) :
    (storage.putUInt record value).addrUIntStorage = storage.addrUIntStorage := rfl

/-- A written total shows its value. -/
@[simp] theorem putUInt_self (value : Uint256) :
    (storage.putUInt record value).uIntStorage record = value := Function.update_self _ _ _

/-- A written total keeps the others. -/
@[simp] theorem putUInt_of_ne (value : Uint256) {other : Record} (different : other ≠ record) :
    (storage.putUInt record value).uIntStorage other = storage.uIntStorage other :=
  Function.update_of_ne different _ _

end EternalStorage

/-- A list without repetitions is no longer than there are addresses. -/
theorem length_le_of_nodup {accounts : List Address} (distinct : accounts.Nodup) :
    accounts.length ≤ 2 ^ 160 := by
  have bound := distinct.length_le_card
  rw [Fintype.card_fin] at bound
  exact bound

namespace ManageStorage

variable {Key : Type} (storage : ManageStorage Key) (self : Address) (record : Key)
  (owner sender : Address)

/-- The counted slots of one owner form its account list. -/
def accounts : List Address :=
  slots (storage.accountCount record owner).toNat (storage.accountIndex record owner)

/-- The check of the lists passes exactly for the allowed accounts. -/
theorem isAllow_eq_ok (done : Unit) :
    storage.isAllow self = .ok done ↔ storage.allowAccount self = true := require_eq_ok _ _

/-- The owner of the lists, and nobody else, hands them over. -/
theorem transferOwnership_eq_ok (newOwner : Address) (next : ManageStorage Key) :
    storage.transferOwnership self newOwner = .ok next ↔
      self = storage.owner ∧ { storage with owner := newOwner } = next := by
  simp only [transferOwnership, onlyOwner, bind_eq_ok, pure_eq_ok, require_eq_ok, exists_const]

/-- The owner of the lists, and nobody else, allows an account. -/
theorem enableAllowAccount_eq_ok (account : Address) (enable : Bool) (next : ManageStorage Key) :
    storage.enableAllowAccount self account enable = .ok next ↔
      self = storage.owner ∧ { storage with
        allowAccount := Function.update storage.allowAccount account enable } = next := by
  simp only [enableAllowAccount, onlyOwner, bind_eq_ok, pure_eq_ok, require_eq_ok, exists_const]

/-- An allowed account, and no other, reads the entry of a list. -/
theorem getAccountIndex_eq_ok (index : Nat) (account : Address) :
    storage.getAccountIndex self record owner index = .ok account ↔
      storage.allowAccount self = true ∧ storage.accountIndex record owner index = account := by
  simp only [getAccountIndex, bind_eq_ok, pure_eq_ok, isAllow_eq_ok, exists_const]

/-- An allowed account, and no other, reads the length of a list. -/
theorem getAccountCount_eq_ok (count : Uint256) :
    storage.getAccountCount self record owner = .ok count ↔
      storage.allowAccount self = true ∧ storage.accountCount record owner = count := by
  simp only [getAccountCount, bind_eq_ok, pure_eq_ok, isAllow_eq_ok, exists_const]

theorem accounts_length :
    (storage.accounts record owner).length = (storage.accountCount record owner).toNat :=
  slots_length _ _

/-- The search loop decides membership in the searched slots. -/
theorem findAccount_of_allowed (allowed : storage.allowAccount self = true) (indices : List Nat) :
    storage.findAccount self record owner sender indices =
      .ok (decide (sender ∈ indices.map (storage.accountIndex record owner))) := by
  induction indices with
  | nil => rfl
  | cons index rest ih =>
      have read : storage.getAccountIndex self record owner index =
          .ok (storage.accountIndex record owner index) :=
        (getAccountIndex_eq_ok storage self record owner index _).mpr ⟨allowed, rfl⟩
      simp only [findAccount, read, ih, bind, Except.bind]
      by_cases same : storage.accountIndex record owner index = sender
      · simp [same, pure, Except.pure]
      · simp [same, Ne.symm same]

variable [DecidableEq Key]

/-- The call appends a new sender and keeps a listed sender. -/
theorem addManageAccount_eq_ok (next : ManageStorage Key) :
    storage.addManageAccount self record owner sender = .ok next ↔
      storage.allowAccount self = true ∧
        if sender ∈ storage.accounts record owner then storage = next
        else ∃ count : Uint256, count.toNat = (storage.accountCount record owner).toNat + 1 ∧
          storage.append record owner sender count (storage.accountCount record owner).toNat =
            next := by
  by_cases allowed : storage.allowAccount self = true
  · have found := storage.findAccount_of_allowed self record owner sender allowed
      (List.range (storage.accountCount record owner).toNat)
    change _ = Except.ok (decide (sender ∈ storage.accounts record owner)) at found
    simp only [addManageAccount, bind_eq_ok, isAllow_eq_ok, getAccountCount_eq_ok, allowed,
      true_and, exists_const, exists_eq_left', found, Except.ok.injEq]
    by_cases listed : sender ∈ storage.accounts record owner
    · simp only [listed, decide_true, reduceCtorEq, ↓reduceIte, pure_eq_ok]
    · simp only [listed, decide_false, ↓reduceIte, bind_eq_ok, pure_eq_ok, SafeMath.add_eq_ok,
        Word.checkedSub_eq_ok]
      have one : (1 : Uint256).toNat = 1 := rfl
      constructor
      · intro appended
        obtain ⟨count, raised, last, lowered, same⟩ := appended
        refine ⟨count, by omega, ?_⟩
        rw [← same]
        congr 1
        omega
      · intro appended
        obtain ⟨count, raised, same⟩ := appended
        refine ⟨count, by omega, storage.accountCount record owner, by omega, same⟩
  · simp only [addManageAccount, bind_eq_ok, isAllow_eq_ok, allowed, Bool.false_eq_true, false_and,
      exists_false]

variable {storage self record owner sender}

/-- A successful call leaves the counters and the slots of other lists alone. -/
theorem others_of_addManageAccount {next : ManageStorage Key}
    (added : storage.addManageAccount self record owner sender = .ok next)
    {other : Key} {holder : Address} (different : ¬ (other = record ∧ holder = owner)) :
    next.accountCount other holder = storage.accountCount other holder ∧
      next.accountIndex other holder = storage.accountIndex other holder := by
  obtain ⟨-, outcome⟩ := (addManageAccount_eq_ok storage self record owner sender next).mp added
  split at outcome
  · rw [outcome]
    exact ⟨rfl, rfl⟩
  · obtain ⟨count, -, same⟩ := outcome
    rw [← same]
    by_cases key : other = record
    · subst key
      have row : holder ≠ owner := fun equal => different ⟨rfl, equal⟩
      simp [append, row]
    · simp [append, key]

/-- A successful call writes no slot from the new count on. -/
theorem above_of_addManageAccount {next : ManageStorage Key}
    (added : storage.addManageAccount self record owner sender = .ok next) {index : Nat}
    (above : (next.accountCount record owner).toNat ≤ index) :
    (storage.accountCount record owner).toNat ≤ index ∧
      next.accountIndex record owner index = storage.accountIndex record owner index := by
  obtain ⟨-, outcome⟩ := (addManageAccount_eq_ok storage self record owner sender next).mp added
  split at outcome
  · rw [← outcome] at above ⊢
    exact ⟨above, rfl⟩
  · obtain ⟨count, raised, same⟩ := outcome
    subst same
    simp only [append, Function.update_self] at above ⊢
    exact ⟨by omega, Function.update_of_ne (by omega) _ _⟩

/-- A successful call adds the sender once to exactly one account list. -/
theorem accounts_of_addManageAccount {next : ManageStorage Key}
    (added : storage.addManageAccount self record owner sender = .ok next)
    (other : Key) (holder : Address) :
    next.accounts other holder =
      if other = record ∧ holder = owner then addOnce (storage.accounts record owner) sender
      else storage.accounts other holder := by
  split
  · rename_i here
    obtain ⟨key, row⟩ := here
    subst key row
    obtain ⟨-, outcome⟩ := (addManageAccount_eq_ok storage self other holder sender next).mp added
    split at outcome
    · rename_i listed
      rw [addOnce_of_mem listed, outcome]
    · rename_i fresh
      obtain ⟨count, raised, same⟩ := outcome
      rw [addOnce_of_not_mem fresh, ← same]
      simp only [accounts, append, Function.update_self, raised, slots_update]
  · rename_i different
    obtain ⟨counts, slots⟩ := others_of_addManageAccount added different
    rw [accounts, accounts, counts, slots]

/-- A listed sender leaves the storage alone. -/
theorem eq_of_addManageAccount {next : ManageStorage Key}
    (added : storage.addManageAccount self record owner sender = .ok next)
    (listed : sender ∈ storage.accounts record owner) : next = storage := by
  obtain ⟨-, outcome⟩ := (addManageAccount_eq_ok storage self record owner sender next).mp added
  rw [if_pos listed] at outcome
  exact outcome.symm

/-- Adding a listed account changes nothing. -/
theorem addManageAccount_of_mem (allowed : storage.allowAccount self = true)
    (listed : sender ∈ storage.accounts record owner) :
    storage.addManageAccount self record owner sender = .ok storage := by
  apply (addManageAccount_eq_ok storage self record owner sender storage).mpr
  rw [if_pos listed]
  exact ⟨allowed, rfl⟩

/-- Adding an account keeps the allowed ones. -/
theorem allowAccount_of_addManageAccount {next : ManageStorage Key}
    (added : storage.addManageAccount self record owner sender = .ok next) :
    next.allowAccount = storage.allowAccount := by
  obtain ⟨-, outcome⟩ := (addManageAccount_eq_ok storage self record owner sender next).mp added
  split at outcome
  · rw [outcome]
  · obtain ⟨count, -, same⟩ := outcome
    rw [← same]
    rfl

/-- The call succeeds while the counter has room. -/
theorem exists_addManageAccount (allowed : storage.allowAccount self = true)
    (room : (storage.accounts record owner).length + 1 < 2 ^ 256) :
    ∃ next, storage.addManageAccount self record owner sender = .ok next := by
  simp only [addManageAccount_eq_ok, allowed, true_and]
  by_cases listed : sender ∈ storage.accounts record owner
  · exact ⟨storage, by simp [listed]⟩
  · rw [accounts, slots_length] at room
    refine ⟨storage.append record owner sender ⟨_, room⟩ (storage.accountCount record owner).toNat, ?_⟩
    simp only [listed, ↓reduceIte]
    exact ⟨⟨_, room⟩, rfl, rfl⟩

/-- There are fewer addresses than the counter can count. -/
theorem exists_addManageAccount_of_nodup (allowed : storage.allowAccount self = true)
    (distinct : (storage.accounts record owner).Nodup) :
    ∃ next, storage.addManageAccount self record owner sender = .ok next := by
  apply exists_addManageAccount allowed
  have few := length_le_of_nodup distinct
  omega

end ManageStorage

end Holonus.Coin
