/-
This file joins the token, the service and their storages in one state.
-/

import Holonus.Construction.Coin.ManageStorage

namespace Holonus.Coin

open Holonus.Machine

/-- Both coin contracts emit these events. -/
inductive Event where
  | transfer (source target : Address) (value : Uint256)
  | approval (tokenOwner spender : Address) (tokens : Uint256)
  deriving DecidableEq, Repr

/-- A deployed contract has a fixed address and a current owner. -/
structure Contract where
  address : Address
  owner : Address

/-- The system state holds both storages, both contracts and their event log. -/
structure System where
  eternalStorage : EternalStorage
  manageStorage : ManageStorage Record
  token : Contract
  service : Contract
  events : List Event

namespace System

def emit (system : System) (event : Event) : System :=
  { system with events := system.events ++ [event] }

/-- Both contracts hold the same `_transfer` body and differ only in the storage caller. -/
def transferTocken (system : System) (self source target : Address) (value : Uint256) :
    Except Fault System := do
  let fromBalances ← system.eternalStorage.getAddrUIntValue self .tocken source
  let toBalances ← system.eternalStorage.getAddrUIntValue self .tocken target
  require (target ≠ 0 ∧ value ≤ fromBalances ∧ 0 < value)
  let raised ← toBalances.checkedAdd value
  require (toBalances < raised)
  let previousBalances ← SafeMath.add fromBalances toBalances
  let fromBalances ← SafeMath.sub fromBalances value
  let toBalances ← SafeMath.add toBalances value
  let storage ← system.eternalStorage.setAddrUIntValue self .tocken source fromBalances
  let storage ← storage.setAddrUIntValue self .tocken target toBalances
  let system := { system with eternalStorage := storage }.emit (.transfer source target value)
  let fromStored ← system.eternalStorage.getAddrUIntValue self .tocken source
  let toStored ← system.eternalStorage.getAddrUIntValue self .tocken target
  let storedBalances ← SafeMath.add fromStored toStored
  assert (storedBalances = previousBalances)
  return system

end System

end Holonus.Coin
