/-
This file models the coin service contract.
-/

import Holonus.Construction.Coin.TokenERC20

namespace Holonus.Coin.HolonusCoinService

open Holonus.Machine

def reliabilityDecimals : Uint8 := 18

def onlyOwner (system : System) (msgSender : Address) : Except Fault Unit :=
  require (msgSender = system.service.owner)

def transferOwnership (system : System) (msgSender newOwner : Address) : Except Fault System := do
  onlyOwner system msgSender
  return { system with service := { system.service with owner := newOwner } }

def setReliability (system : System) (msgSender owner : Address) (reliability : Uint256) :
    Except Fault System := do
  onlyOwner system msgSender
  let storage ← system.eternalStorage.setAddrUIntValue system.service.address .reliability
    owner reliability
  return { system with eternalStorage := storage }

/-- The contract computes `10 ** uint256(reliabilityDecimals)` in each place. -/
def reliabilityUnit : Except Fault Uint256 :=
  Word.checkedPow 10 (reliabilityDecimals.widen (by decide))

/-- The cap takes its scale from the token decimals. -/
def getReliability (system : System) (owner : Address) : Except Fault Uint256 := do
  let reliability ← system.eternalStorage.getAddrUIntValue system.service.address .reliability owner
  let cap ← Word.checkedMul 10 (← reliabilityUnit)
  if cap < reliability then
    Word.checkedMul 10 (← Word.checkedPow 10 TokenERC20.decimals)
  else return reliability

def getFullReliability (system : System) (owner : Address) : Except Fault Uint256 :=
  system.eternalStorage.getAddrUIntValue system.service.address .reliability owner

def getEvaAccountCnt (system : System) (owner : Address) : Except Fault Uint256 :=
  system.manageStorage.getAccountCount system.service.address .evaAccount owner

def getTrustworthy (system : System) (msgSender sender : Address) : Except Fault UserInfo :=
  system.eternalStorage.getAddrUserInfo system.service.address .evaAccount sender msgSender

/-- The whole-number reliability drops the decimals of the capped value. -/
def wholeReliability (system : System) (owner : Address) : Except Fault Uint256 := do
  let reliability ← getReliability system owner
  reliability.checkedDiv (← reliabilityUnit)

def reliabilityConsensus (system : System) (sender : Address) (trustworthy : Int) :
    Except Fault Uint256 := do
  if trustworthy ≤ 0 then return 0
  let reliability ← wholeReliability system sender
  let decimals ← reliabilityDecimals.checkedSub 2
  let scale ← Word.checkedPow 10 (decimals.widen (by decide))
  let param ← (Word.ofInt trustworthy).checkedMul scale
  SafeMath.mul reliability param

/-- The zero address marks a record without an old contribution. -/
def withdrawContribution (info : UserInfo) (senderReliability : Uint256) : Except Fault Uint256 :=
  if info.sender ≠ 0 then SafeMath.sub senderReliability info.uintValue else return senderReliability

/-- A zero trust value keeps the stored trust value. -/
def fcUpdateReliability (system : System) (owner sender : Address) (trustworthy : Int) :
    Except Fault System := do
  let info ← system.eternalStorage.getAddrUserInfo system.service.address .evaAccount sender owner
  let trustworthy := if trustworthy = 0 then info.intValue else trustworthy
  let senderReliability ← getFullReliability system sender
  let reliability ← reliabilityConsensus system owner trustworthy
  let senderReliability ← withdrawContribution info senderReliability
  let senderReliability ← SafeMath.add senderReliability reliability
  let storage ← system.eternalStorage.setAddrUIntValue system.service.address .reliability
    sender senderReliability
  let stored ← getFullReliability { system with eternalStorage := storage } sender
  require (stored = senderReliability)
  let manage ← system.manageStorage.addManageAccount system.service.address .evaAccount sender owner
  let manage ← manage.addManageAccount system.service.address .accountEvaList owner sender
  let storage ← storage.setAddrUserInfo system.service.address .evaAccount sender owner
    trustworthy reliability
  return { system with eternalStorage := storage, manageStorage := manage }

/-- The loop refreshes the evaluation that `sender` gave at each index. -/
def refreshEvaluations (sender : Address) : List Nat → System → Except Fault System
  | [], system => return system
  | index :: rest, system => do
      let account ← system.manageStorage.getAccountIndex system.service.address .accountEvaList
        sender index
      let system ← fcUpdateReliability system sender account 0
      refreshEvaluations sender rest system

/-- The source calls this function `CallEvaluateReliability`. -/
def callEvaluateReliability (system : System) (owner sender : Address) (trustworthy : Int) :
    Except Fault System := do
  require (trustworthy = -1 ∨ (1 ≤ trustworthy ∧ trustworthy ≤ 5))
  let oldReliability ← wholeReliability system sender
  let system ← fcUpdateReliability system owner sender trustworthy
  let nowReliability ← wholeReliability system sender
  if oldReliability ≠ nowReliability then
    let cnt ← system.manageStorage.getAccountCount system.service.address .accountEvaList sender
    refreshEvaluations sender (List.range cnt.toNat) system
  else return system

def setAdjustParameter (system : System) (msgSender : Address) (value : Uint256) (decimals : Uint8) :
    Except Fault System := do
  onlyOwner system msgSender
  let exponent ← TokenERC20.decimals.checkedSub (decimals.widen (by decide))
  let mulValue ← Word.checkedPow 10 exponent
  let storage ← system.eternalStorage.setUIntValue system.service.address .adjustParameter
    (← SafeMath.mul value mulValue)
  return { system with eternalStorage := storage }

def getAdjustParameter (system : System) : Except Fault Uint256 := do
  let param ← system.eternalStorage.getUIntValue system.service.address .adjustParameter
  if param = 0 then Word.checkedPow 10 TokenERC20.decimals else return param

def evaluationConsensus (system : System) (sender : Address) (workPoint : Uint8) :
    Except Fault (Uint256 × Uint256) := do
  let reliability ← wholeReliability system sender
  let adjustParam ← (← Word.checkedPow 10 TokenERC20.decimals).checkedDiv
    (← getAdjustParameter system)
  let decimalPoint : Uint256 := 3
  let square ← (← reliability.checkedAdd 2).checkedPow 2
  let scaled ← (← square.checkedSub 4).checkedMul (← Word.checkedPow 10 decimalPoint)
  let fr ← scaled.checkedDiv 14
  let fw := workPoint.widen (by decide)
  let v ← SafeMath.div (← SafeMath.mul fw fr) adjustParam
  let scale ← Word.checkedPow 10 (← TokenERC20.decimals.checkedSub decimalPoint)
  let evaluationPoint ← SafeMath.mul v scale
  let ownerPoint ← SafeMath.div evaluationPoint 100
  return (evaluationPoint, ownerPoint)

def getTotalPoint (system : System) (owner : Address) : Except Fault Uint256 :=
  system.eternalStorage.getAddrUIntValue system.service.address .accumulationPoint owner

def getPoint (system : System) (owner : Address) : Except Fault Uint256 :=
  TokenERC20.balanceOf system owner

def getReflectToken (system : System) (owner : Address) : Except Fault Uint256 :=
  system.eternalStorage.getAddrUIntValue system.service.address .reflectTocken owner

/-- The source calls this function `CallEvaluatePost`. -/
def callEvaluatePost (system : System) (owner sender : Address) (workPoint : Uint8) :
    Except Fault System := do
  require (owner ≠ sender)
  let self := system.service.address
  let (senderpoint, ownerpoint) ← evaluationConsensus system owner workPoint
  let storage := system.eternalStorage
  let senderToken ← storage.getAddrUIntValue self .tocken sender
  let ownerToken ← storage.getAddrUIntValue self .tocken owner
  let totalToken ← storage.getUIntValue self .totalSupply
  let senderToken ← SafeMath.add senderToken senderpoint
  let ownerToken ← SafeMath.add ownerToken ownerpoint
  let totalToken ← SafeMath.add (← SafeMath.add totalToken senderpoint) ownerpoint
  let storage ← storage.setAddrUIntValue self .tocken sender senderToken
  let storage ← storage.setAddrUIntValue self .tocken owner ownerToken
  let storage ← storage.setUIntValue self .totalSupply totalToken
  let minted ← SafeMath.add senderToken ownerToken
  let system := { system with eternalStorage := storage }.emit (.transfer 0 self minted)
  let system := system.emit (.transfer self sender senderToken)
  let system := system.emit (.transfer self owner ownerToken)
  require ((← storage.getAddrUIntValue self .tocken sender) = senderToken)
  require ((← storage.getAddrUIntValue self .tocken owner) = ownerToken)
  let sederTotalPoint ← storage.getAddrUIntValue self .accumulationPoint sender
  let ownerTotalPoint ← storage.getAddrUIntValue self .accumulationPoint owner
  let sederTotalPoint ← SafeMath.add sederTotalPoint senderpoint
  let storage ← storage.setAddrUIntValue self .accumulationPoint sender sederTotalPoint
  assert ((← storage.getAddrUIntValue self .accumulationPoint sender) = sederTotalPoint)
  let ownerTotalPoint ← SafeMath.add ownerTotalPoint ownerpoint
  let storage ← storage.setAddrUIntValue self .accumulationPoint owner ownerTotalPoint
  assert ((← storage.getAddrUIntValue self .accumulationPoint owner) = ownerTotalPoint)
  return { system with eternalStorage := storage }

def reflectToken (system : System) (msgSender sender : Address) (value : Uint256) :
    Except Fault System := do
  onlyOwner system msgSender
  let self := system.service.address
  let reflectPoint ← system.eternalStorage.getAddrUIntValue self .reflectTocken sender
  let senderpoint ← system.eternalStorage.getAddrUIntValue self .tocken sender
  require (senderpoint ≠ 0)
  require (value ≤ senderpoint)
  let raised ← SafeMath.add reflectPoint value
  let storage ← system.eternalStorage.setAddrUIntValue self .reflectTocken sender raised
  require ((← storage.getAddrUIntValue self .reflectTocken sender) = (← SafeMath.add reflectPoint value))
  let subPoint ← storage.getAddrUIntValue self .tocken sender
  let lowered ← SafeMath.sub subPoint value
  let storage ← storage.setAddrUIntValue self .tocken sender lowered
  let system := { system with eternalStorage := storage }.emit (.transfer sender sender value)
  assert ((← storage.getAddrUIntValue self .tocken sender) = (← SafeMath.sub subPoint value))
  return system

/-- The source calls this function `_transfer`. -/
def privateTransfer (system : System) (source target : Address) (value : Uint256) :
    Except Fault System :=
  system.transferTocken system.service.address source target value

def transferToken (system : System) (msgSender target : Address) (value : Uint256) :
    Except Fault System := do
  onlyOwner system msgSender
  let self := system.service.address
  let system ← privateTransfer system msgSender target value
  let reflectPoint ← system.eternalStorage.getAddrUIntValue self .reflectTocken target
  let raised ← SafeMath.add reflectPoint value
  let storage ← system.eternalStorage.setAddrUIntValue self .reflectTocken target raised
  assert ((← storage.getAddrUIntValue self .reflectTocken target) = (← SafeMath.add reflectPoint value))
  return { system with eternalStorage := storage }

end Holonus.Coin.HolonusCoinService
