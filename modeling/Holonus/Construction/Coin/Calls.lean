/-
This file executes the public calls of the coin contracts from their deployment.
-/

import Holonus.Construction.Coin.HolonusCoinService
import Holonus.Machine.AtomicRun

namespace Holonus.Coin

open Holonus.Machine

/-- These calls change the state of the token contract or of the service contract. -/
inductive Call where
  | init
  | transfer (target : Address) (value : Uint256)
  | transferFrom (source target : Address) (value : Uint256)
  | approve (spender : Address) (value : Uint256)
  | transferTokenOwnership (newOwner : Address)
  | setReliability (owner : Address) (reliability : Uint256)
  | callEvaluateReliability (owner sender : Address) (trustworthy : Int)
  | setAdjustParameter (value : Uint256) (decimals : Uint8)
  | callEvaluatePost (owner sender : Address) (workPoint : Uint8)
  | reflectToken (sender : Address) (value : Uint256)
  | transferToken (target : Address) (value : Uint256)
  | transferServiceOwnership (newOwner : Address)
  deriving DecidableEq, Repr

/-- A transaction names the account that sends the call. -/
structure Transaction where
  msgSender : Address
  call : Call
  deriving DecidableEq, Repr

def execute (system : System) (transaction : Transaction) : Except Fault System :=
  match transaction.call with
  | .init => TokenERC20.init system transaction.msgSender
  | .transfer target value => TokenERC20.transfer system transaction.msgSender target value
  | .transferFrom source target value =>
      (TokenERC20.transferFrom system transaction.msgSender source target value).map Prod.fst
  | .approve spender value =>
      (TokenERC20.approve system transaction.msgSender spender value).map Prod.fst
  | .transferTokenOwnership newOwner =>
      TokenERC20.transferOwnership system transaction.msgSender newOwner
  | .setReliability owner reliability =>
      HolonusCoinService.setReliability system transaction.msgSender owner reliability
  | .callEvaluateReliability owner sender trustworthy =>
      HolonusCoinService.callEvaluateReliability system owner sender trustworthy
  | .setAdjustParameter value decimals =>
      HolonusCoinService.setAdjustParameter system transaction.msgSender value decimals
  | .callEvaluatePost owner sender workPoint =>
      HolonusCoinService.callEvaluatePost system owner sender workPoint
  | .reflectToken sender value =>
      HolonusCoinService.reflectToken system transaction.msgSender sender value
  | .transferToken target value =>
      HolonusCoinService.transferToken system transaction.msgSender target value
  | .transferServiceOwnership newOwner =>
      HolonusCoinService.transferOwnership system transaction.msgSender newOwner

/-- A deployment fixes the deployer and the addresses of both contracts. -/
structure Deployment where
  deployer : Address
  token : Address
  service : Address

/-- The migrations allow the deployer and the calling contracts on each empty storage. -/
def Deployment.system (deployment : Deployment) : System where
  eternalStorage := {
    owner := deployment.deployer
    allowAccount := fun account => decide (account = deployment.deployer ∨
      account = deployment.token ∨ account = deployment.service)
    addrGrpUIntStorage := fun _ _ _ => 0
    addrGrpUserInfoStorage := fun _ _ _ => ⟨0, 0, 0⟩
    addrUIntStorage := fun _ _ => 0
    uIntStorage := fun _ => 0 }
  manageStorage := {
    owner := deployment.deployer
    allowAccount := fun account => decide (account = deployment.deployer ∨
      account = deployment.service)
    accountIndex := fun _ _ _ => 0
    accountCount := fun _ _ => 0 }
  token := ⟨deployment.token, deployment.deployer⟩
  service := ⟨deployment.service, deployment.deployer⟩
  events := []

end Holonus.Coin
