/-
This file states the exact effect of each successful service call on the token records.
-/

import Holonus.Proof.Coin.ServiceLaw
import Holonus.Proof.Coin.TokenLaw

namespace Holonus.Coin.HolonusCoinService

open Holonus.Machine Holonus.Abstract

/-- The owner of the service, and nobody else, hands it over. -/
theorem transferOwnership_eq_ok (system next : System) (msgSender newOwner : Address) :
    transferOwnership system msgSender newOwner = .ok next ↔
      msgSender = system.service.owner ∧
        { system with service := { system.service with owner := newOwner } } = next := by
  simp only [transferOwnership, onlyOwner, bind_eq_ok, pure_eq_ok, require_eq_ok, exists_const]

/-- The owner of an allowed service, and nobody else, sets a reliability. -/
theorem setReliability_eq_ok (system next : System) (msgSender owner : Address)
    (reliability : Uint256) :
    setReliability system msgSender owner reliability = .ok next ↔
      msgSender = system.service.owner ∧
        system.eternalStorage.allowAccount system.service.address = true ∧
        { system with
          eternalStorage := system.eternalStorage.putAddrUInt .reliability owner reliability } =
            next := by
  simp only [setReliability, onlyOwner, bind_eq_ok, pure_eq_ok, require_eq_ok,
    EternalStorage.setAddrUIntValue_eq_ok, exists_const, and_assoc, exists_and_left,
    exists_eq_left']

/-- The stored parameter scales the given value to eighteen decimals. -/
theorem setAdjustParameter_eq_ok (system next : System) (msgSender : Address) (value : Uint256)
    (decimals : Uint8) :
    setAdjustParameter system msgSender value decimals = .ok next ↔
      msgSender = system.service.owner ∧ decimals.toNat ≤ 18 ∧
        ∃ scaled : Uint256, scaled.toNat = value.toNat * 10 ^ (18 - decimals.toNat) ∧
          system.eternalStorage.allowAccount system.service.address = true ∧
          { system with
            eternalStorage := system.eternalStorage.putUInt .adjustParameter scaled } = next := by
  have total : TokenERC20.decimals.toNat = 18 := rfl
  have ten : (10 : Uint256).toNat = 10 := rfl
  have widened : (decimals.widen (by decide) : Uint256).toNat = decimals.toNat := rfl
  simp only [setAdjustParameter, onlyOwner, bind_eq_ok, pure_eq_ok, require_eq_ok,
    EternalStorage.setUIntValue_eq_ok, Word.checkedSub_eq_ok, Word.checkedPow_eq_ok,
    SafeMath.mul_eq_ok, total, ten, widened, exists_const, and_assoc, exists_and_left,
    exists_eq_left']
  constructor
  · intro succeeds
    obtain ⟨owner, small, exponent, isExponent, power, isPower, scaled, product, allowed, same⟩ :=
      succeeds
    exact ⟨owner, small, scaled, by rw [product, isPower, isExponent], allowed, same⟩
  · intro facts
    obtain ⟨owner, small, scaled, product, allowed, same⟩ := facts
    have bound : 10 ^ (18 - decimals.toNat) < 2 ^ 256 :=
      lt_of_le_of_lt (Nat.pow_le_pow_right (by decide) (Nat.sub_le 18 decimals.toNat)) (by decide)
    exact ⟨owner, small, ⟨18 - decimals.toNat, lt_of_le_of_lt (Nat.sub_le _ _) (by decide)⟩, rfl,
      ⟨_, bound⟩, rfl, scaled, product, allowed, same⟩

/-- An evaluated post stores both balances, the supply and both totals. -/
def posted (system : System) (owner sender : Address)
    (senderToken ownerToken totalToken minted senderTotal ownerTotal : Uint256) : System :=
  { system with
    eternalStorage := ((((system.eternalStorage.putAddrUInt .tocken sender senderToken).putAddrUInt
      .tocken owner ownerToken).putUInt .totalSupply totalToken).putAddrUInt
      .accumulationPoint sender senderTotal).putAddrUInt .accumulationPoint owner ownerTotal
    events := system.events ++ [.transfer 0 system.service.address minted] ++
      [.transfer system.service.address sender senderToken] ++
      [.transfer system.service.address owner ownerToken] }

/-- A post succeeds when its points and the four sums fit in the machine word. -/
theorem callEvaluatePost_eq_ok (system next : System) (owner sender : Address) (workPoint : Uint8) :
    callEvaluatePost system owner sender workPoint = .ok next ↔
      owner ≠ sender ∧ ∃ senderPoint ownerPoint : Uint256,
        evaluationConsensus system owner workPoint = .ok (senderPoint, ownerPoint) ∧
        ∃ senderToken : Uint256,
          senderToken.toNat = system.ledger.balance sender + senderPoint.toNat ∧
        ∃ ownerToken : Uint256,
          ownerToken.toNat = system.ledger.balance owner + ownerPoint.toNat ∧
        ∃ totalToken : Uint256,
          totalToken.toNat = system.ledger.supply + senderPoint.toNat + ownerPoint.toNat ∧
        ∃ minted : Uint256, minted.toNat = senderToken.toNat + ownerToken.toNat ∧
        ∃ senderTotal : Uint256,
          senderTotal.toNat = system.ledger.points sender + senderPoint.toNat ∧
        ∃ ownerTotal : Uint256,
          ownerTotal.toNat = system.ledger.points owner + ownerPoint.toNat ∧
          posted system owner sender senderToken ownerToken totalToken minted senderTotal
            ownerTotal = next := by
  simp only [callEvaluatePost, bind_eq_ok, pure_eq_ok, require_eq_ok, assert_eq_ok,
    EternalStorage.getAddrUIntValue_eq_ok, EternalStorage.setAddrUIntValue_eq_ok,
    EternalStorage.getUIntValue_eq_ok, EternalStorage.setUIntValue_eq_ok, SafeMath.add_eq_ok,
    EternalStorage.putAddrUInt_allowAccount, EternalStorage.putUInt_allowAccount,
    EternalStorage.putAddrUInt_self, EternalStorage.putUInt_addrUIntStorage, Function.update_self,
    Prod.exists, exists_const, and_assoc, exists_and_left, exists_eq_left']
  have senderPoints (first second : Uint256) :
      (((system.eternalStorage.putAddrUInt .tocken sender first).putAddrUInt .tocken owner
        second).addrUIntStorage .accumulationPoint sender).toNat = system.ledger.points sender := rfl
  have ownerPoints (first second : Uint256) :
      (((system.eternalStorage.putAddrUInt .tocken sender first).putAddrUInt .tocken owner
        second).addrUIntStorage .accumulationPoint owner).toNat = system.ledger.points owner := rfl
  apply and_congr_right
  intro different
  constructor
  · intro succeeds
    obtain ⟨senderPoint, ownerPoint, consensus, -, -, -, senderToken, senderSum, ownerToken, ownerSum,
      half, halfSum, totalToken, totalSum, -, -, -, minted, mintedSum, -, -, -, -, -, -, senderTotal,
      senderTotalSum, -, -, -, ownerTotal, ownerTotalSum, -, -, -, same⟩ := succeeds
    exact ⟨senderPoint, ownerPoint, consensus, senderToken, senderSum, ownerToken, ownerSum, totalToken,
      by rw [totalSum, halfSum]; rfl, minted, mintedSum, senderTotal,
      by rw [senderTotalSum, senderPoints], ownerTotal, by rw [ownerTotalSum, ownerPoints], same⟩
  · intro facts
    obtain ⟨senderPoint, ownerPoint, consensus, senderToken, senderSum, ownerToken, ownerSum, totalToken,
      totalSum, minted, mintedSum, senderTotal, senderTotalSum, ownerTotal, ownerTotalSum, same⟩ := facts
    have allowed := ((evaluationConsensus_eq_ok system owner workPoint senderPoint ownerPoint).mp
      consensus).1
    have bounded := totalToken.bounded
    refine ⟨senderPoint, ownerPoint, consensus, allowed, allowed, allowed, senderToken, senderSum,
      ownerToken, ownerSum, ⟨system.ledger.supply + senderPoint.toNat, by omega⟩, rfl, totalToken,
      totalSum, allowed, allowed, allowed, minted, mintedSum, allowed, ?_, allowed, trivial, allowed,
      allowed, senderTotal, senderTotalSum, allowed, allowed, trivial, ownerTotal, ownerTotalSum,
      allowed, allowed, trivial, same⟩
    rw [Function.update_of_ne (Ne.symm different), Function.update_self]

/-- A post is an award in the ledger. -/
theorem posted_ledger {system : System} {owner sender : Address}
    {senderToken ownerToken totalToken senderTotal ownerTotal : Uint256} (minted : Uint256)
    {senderPoint ownerPoint : Nat}
    (senderSum : senderToken.toNat = system.ledger.balance sender + senderPoint)
    (ownerSum : ownerToken.toNat = system.ledger.balance owner + ownerPoint)
    (totalSum : totalToken.toNat = system.ledger.supply + senderPoint + ownerPoint)
    (senderTotalSum : senderTotal.toNat = system.ledger.points sender + senderPoint)
    (ownerTotalSum : ownerTotal.toNat = system.ledger.points owner + ownerPoint) :
    (posted system owner sender senderToken ownerToken totalToken minted senderTotal
      ownerTotal).ledger = system.ledger.perform (.mint owner sender senderPoint ownerPoint) := by
  change (((((system.eternalStorage.putAddrUInt .tocken sender senderToken).putAddrUInt
      .tocken owner ownerToken).putUInt .totalSupply totalToken).putAddrUInt
      .accumulationPoint sender senderTotal).putAddrUInt .accumulationPoint owner ownerTotal).ledger = _
  rw [EternalStorage.ledger_putAccumulationPoint, EternalStorage.ledger_putAccumulationPoint,
    EternalStorage.ledger_putTotalSupply, EternalStorage.ledger_putTocken,
    EternalStorage.ledger_putTocken, senderSum, ownerSum, totalSum, senderTotalSum, ownerTotalSum]
  rfl

/-- A post keeps the trust graph. -/
theorem posted_graph (system : System) (owner sender : Address)
    (senderToken ownerToken totalToken minted senderTotal ownerTotal : Uint256) :
    (posted system owner sender senderToken ownerToken totalToken minted senderTotal
      ownerTotal).graph = system.graph := by
  change trustGraph (((((system.eternalStorage.putAddrUInt .tocken sender senderToken).putAddrUInt
    .tocken owner ownerToken).putUInt .totalSupply totalToken).putAddrUInt .accumulationPoint sender
      senderTotal).putAddrUInt .accumulationPoint owner ownerTotal) system.manageStorage = system.graph
  rw [trustGraph_putAddrUInt _ _ (by decide), trustGraph_putAddrUInt _ _ (by decide),
    trustGraph_putUInt, trustGraph_putAddrUInt _ _ (by decide),
    trustGraph_putAddrUInt _ _ (by decide)]
  rfl

/-- A post keeps the adjustment of the next one. -/
theorem posted_adjustment (system : System) (owner sender : Address)
    (senderToken ownerToken totalToken minted senderTotal ownerTotal : Uint256) :
    adjustment (posted system owner sender senderToken ownerToken totalToken minted senderTotal
      ownerTotal) = adjustment system := by
  simp [adjustment, posted]

/-- A reflection stores the raised record and the lowered balance. -/
def reflected (system : System) (sender : Address) (value raised lowered : Uint256) : System :=
  System.emit { system with
    eternalStorage := (system.eternalStorage.putAddrUInt .reflectTocken sender raised).putAddrUInt
      .tocken sender lowered } (.transfer sender sender value)

/-- A reflection succeeds when the balance covers it and the sum fits in the machine word. -/
theorem reflectToken_eq_ok (system next : System) (msgSender sender : Address) (value : Uint256) :
    reflectToken system msgSender sender value = .ok next ↔
      msgSender = system.service.owner ∧
        system.eternalStorage.allowAccount system.service.address = true ∧
        system.ledger.balance sender ≠ 0 ∧ value.toNat ≤ system.ledger.balance sender ∧
        ∃ raised : Uint256, raised.toNat = system.ledger.reflected sender + value.toNat ∧
        ∃ lowered : Uint256, lowered.toNat = system.ledger.balance sender - value.toNat ∧
          reflected system sender value raised lowered = next := by
  simp only [reflectToken, onlyOwner, bind_eq_ok, pure_eq_ok, require_eq_ok, assert_eq_ok,
    EternalStorage.getAddrUIntValue_eq_ok, EternalStorage.setAddrUIntValue_eq_ok,
    SafeMath.add_eq_ok, SafeMath.sub_eq_ok, Word.le_def, EternalStorage.putAddrUInt_allowAccount,
    EternalStorage.putAddrUInt_self, Function.update_self, exists_const, and_assoc,
    exists_and_left, exists_eq_left']
  have nonzero : system.eternalStorage.addrUIntStorage .tocken sender ≠ 0 ↔
      system.ledger.balance sender ≠ 0 := by
    rw [ne_eq, Word.eq_iff, Word.toNat_zero]
    rfl
  have kept (raised : Uint256) : ((system.eternalStorage.putAddrUInt .reflectTocken sender
      raised).addrUIntStorage .tocken sender).toNat = system.ledger.balance sender := rfl
  constructor
  · intro succeeds
    obtain ⟨owner, allowed, -, positive, covered, raised, high, -, -, -, -, -, -, -, lowered, low, -, -,
      -, -, -, -, same⟩ := succeeds
    exact ⟨owner, allowed, nonzero.mp positive, covered, raised, high, lowered, by rw [low, kept], same⟩
  · intro facts
    obtain ⟨owner, allowed, positive, covered, raised, high, lowered, low, same⟩ := facts
    exact ⟨owner, allowed, allowed, nonzero.mpr positive, covered, raised, high, allowed, allowed, raised,
      high, rfl, allowed, covered, lowered, low, allowed, allowed, covered, lowered, low, rfl, same⟩

/-- A reflection is a reflection in the ledger. -/
theorem reflected_ledger {system : System} {sender : Address} {value raised lowered : Uint256}
    (high : raised.toNat = system.ledger.reflected sender + value.toNat)
    (low : lowered.toNat = system.ledger.balance sender - value.toNat) :
    (reflected system sender value raised lowered).ledger =
      system.ledger.perform (.reflect sender value.toNat) := by
  change ((system.eternalStorage.putAddrUInt .reflectTocken sender raised).putAddrUInt .tocken sender
    lowered).ledger = _
  rw [EternalStorage.ledger_putTocken, EternalStorage.ledger_putReflectTocken, high, low]
  rfl

/-- A hand-over moves the balance and then raises the reflected record. -/
def handedOver (system : System) (source target : Address)
    (value lowered raised reflected : Uint256) : System :=
  { system.moved source target value lowered raised with
    eternalStorage := (system.moved source target value lowered raised).eternalStorage.putAddrUInt
      .reflectTocken target reflected }

/-- A transfer by the owner succeeds when the balance covers it and the sums fit. -/
theorem transferToken_eq_ok (system next : System) (msgSender target : Address) (value : Uint256) :
    transferToken system msgSender target value = .ok next ↔
      msgSender = system.service.owner ∧
        system.eternalStorage.allowAccount system.service.address = true ∧ target ≠ 0 ∧
        target ≠ msgSender ∧ 0 < value.toNat ∧ value.toNat ≤ system.ledger.balance msgSender ∧
        system.ledger.balance msgSender + system.ledger.balance target < 2 ^ 256 ∧
        ∃ lowered : Uint256, lowered.toNat = system.ledger.balance msgSender - value.toNat ∧
        ∃ raised : Uint256, raised.toNat = system.ledger.balance target + value.toNat ∧
        ∃ reflected : Uint256, reflected.toNat = system.ledger.reflected target + value.toNat ∧
          handedOver system msgSender target value lowered raised reflected = next := by
  simp only [transferToken, onlyOwner, privateTransfer, bind_eq_ok, pure_eq_ok, require_eq_ok,
    assert_eq_ok, System.transferTocken_eq_ok, EternalStorage.getAddrUIntValue_eq_ok,
    EternalStorage.setAddrUIntValue_eq_ok, SafeMath.add_eq_ok,
    EternalStorage.putAddrUInt_allowAccount, EternalStorage.putAddrUInt_self, Function.update_self,
    exists_const, and_assoc, exists_and_left, exists_eq_left']
  constructor
  · intro succeeds
    obtain ⟨owner, allowed, nonzero, different, positive, covered, fits, middle,
      ⟨lowered, low, raised, high, moved⟩, -, reflected, more, -, -, -, -, -, same⟩ := succeeds
    subst moved
    exact ⟨owner, allowed, nonzero, different, positive, covered, fits, lowered, low, raised, high,
      reflected, more, same⟩
  · intro facts
    obtain ⟨owner, allowed, nonzero, different, positive, covered, fits, lowered, low, raised, high,
      reflected, more, same⟩ := facts
    exact ⟨owner, allowed, nonzero, different, positive, covered, fits, _,
      ⟨lowered, low, raised, high, rfl⟩, allowed, reflected, more, allowed, allowed, reflected, more,
      rfl, same⟩

/-- A transfer by the owner is a handover in the ledger. -/
theorem handedOver_ledger {system : System} {source target : Address}
    {value lowered raised reflected : Uint256}
    (low : lowered.toNat = system.ledger.balance source - value.toNat)
    (high : raised.toNat = system.ledger.balance target + value.toNat)
    (more : reflected.toNat = system.ledger.reflected target + value.toNat) :
    (handedOver system source target value lowered raised reflected).ledger =
      system.ledger.perform (.handOver source target value.toNat) := by
  change ((system.moved source target value lowered raised).eternalStorage.putAddrUInt
    .reflectTocken target reflected).ledger = _
  rw [EternalStorage.ledger_putReflectTocken]
  change { (system.moved source target value lowered raised).ledger with
    reflected := Function.update system.ledger.reflected target reflected.toNat } = _
  rw [system.moved_ledger low high, more]
  rfl

end Holonus.Coin.HolonusCoinService
