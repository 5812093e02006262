/-
This file models the token contract.
-/

import Holonus.Construction.Coin.System

namespace Holonus.Coin.TokenERC20

open Holonus.Machine

def decimals : Uint256 := 18

def initialSupply : Uint256 := 10000000000

def onlyOwner (system : System) (msgSender : Address) : Except Fault Unit :=
  require (msgSender = system.token.owner)

def transferOwnership (system : System) (msgSender newOwner : Address) : Except Fault System := do
  onlyOwner system msgSender
  return { system with token := { system.token with owner := newOwner } }

def totalSupply (system : System) : Except Fault Uint256 :=
  system.eternalStorage.getUIntValue system.token.address .totalSupply

def balanceOf (system : System) (owner : Address) : Except Fault Uint256 :=
  system.eternalStorage.getAddrUIntValue system.token.address .tocken owner

def allowance (system : System) (owner spender : Address) : Except Fault Uint256 :=
  system.eternalStorage.getAddrGrpUIntValue system.token.address .allowed owner spender

/-- The source calls this function `Init`. -/
def init (system : System) (msgSender : Address) : Except Fault System := do
  onlyOwner system msgSender
  let supply ← totalSupply system
  if supply ≤ 0 then
    let storage ← system.eternalStorage.setAddrUIntValue system.token.address .tocken
      msgSender initialSupply
    let storage ← storage.setUIntValue system.token.address .totalSupply initialSupply
    return { system with eternalStorage := storage }
  else return system

/-- The source calls this function `_transfer`. -/
def internalTransfer (system : System) (source target : Address) (value : Uint256) :
    Except Fault System :=
  system.transferTocken system.token.address source target value

def transfer (system : System) (msgSender target : Address) (value : Uint256) :
    Except Fault System :=
  internalTransfer system msgSender target value

def transferFrom (system : System) (msgSender source target : Address) (value : Uint256) :
    Except Fault (System × Bool) := do
  let allowed ← system.eternalStorage.getAddrGrpUIntValue system.token.address .allowed
    source msgSender
  require (value ≤ allowed)
  let allowed ← allowed.checkedSub value
  let storage ← system.eternalStorage.setAddrGrpUIntValue system.token.address .allowed
    source msgSender allowed
  let system ← internalTransfer { system with eternalStorage := storage } source target value
  return (system, true)

def approve (system : System) (msgSender spender : Address) (value : Uint256) :
    Except Fault (System × Bool) := do
  let storage ← system.eternalStorage.setAddrGrpUIntValue system.token.address .allowed
    msgSender spender value
  return ({ system with eternalStorage := storage }.emit (.approval msgSender spender value), true)

end Holonus.Coin.TokenERC20
