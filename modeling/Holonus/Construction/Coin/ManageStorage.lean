/-
This file models the indexed account lists of the coin contracts.
-/

import Holonus.Construction.Coin.SafeMath

namespace Holonus.Coin

open Holonus.Machine

/-- The storage contract keeps one counted account list for each record key and owner. -/
structure ManageStorage (Key : Type) where
  owner : Address
  allowAccount : Address → Bool
  accountIndex : Key → Address → Nat → Address
  accountCount : Key → Address → Uint256

namespace ManageStorage

section
variable {Key : Type}

/-- The constructors name the deployer as owner and allow it. -/
def deployed (msgSender : Address) : ManageStorage Key where
  owner := msgSender
  allowAccount := fun account => decide (account = msgSender)
  accountIndex := fun _ _ _ => 0
  accountCount := fun _ _ => 0

def onlyOwner (storage : ManageStorage Key) (msgSender : Address) : Except Fault Unit :=
  require (msgSender = storage.owner)

def transferOwnership (storage : ManageStorage Key) (msgSender newOwner : Address) :
    Except Fault (ManageStorage Key) := do
  storage.onlyOwner msgSender
  return { storage with owner := newOwner }

def enableAllowAccount (storage : ManageStorage Key) (msgSender account : Address)
    (enable : Bool) : Except Fault (ManageStorage Key) := do
  storage.onlyOwner msgSender
  return { storage with allowAccount := Function.update storage.allowAccount account enable }

/-- The modifier stops every caller outside the allow list. -/
def isAllow (storage : ManageStorage Key) (user : Address) : Except Fault Unit :=
  require (storage.allowAccount user = true)

def getAccountIndex (storage : ManageStorage Key) (msgSender : Address) (record : Key)
    (owner : Address) (index : Nat) : Except Fault Address := do
  storage.isAllow msgSender
  return storage.accountIndex record owner index

def getAccountCount (storage : ManageStorage Key) (msgSender : Address) (record : Key)
    (owner : Address) : Except Fault Uint256 := do
  storage.isAllow msgSender
  return storage.accountCount record owner

/-- The search loop stops at the first matching index. -/
def findAccount (storage : ManageStorage Key) (msgSender : Address) (record : Key)
    (owner sender : Address) : List Nat → Except Fault Bool
  | [] => return false
  | index :: rest => do
      let addr ← storage.getAccountIndex msgSender record owner index
      if addr ≠ sender then storage.findAccount msgSender record owner sender rest
      else return true

variable [DecidableEq Key]

/-- The append writes the count and the slot below it. -/
def append (storage : ManageStorage Key) (record : Key) (owner sender : Address) (count : Uint256)
    (last : Nat) : ManageStorage Key :=
  { storage with
    accountCount := Function.update storage.accountCount record
      (Function.update (storage.accountCount record) owner count)
    accountIndex := Function.update storage.accountIndex record
      (Function.update (storage.accountIndex record) owner
        (Function.update (storage.accountIndex record owner) last sender)) }

def addManageAccount (storage : ManageStorage Key) (msgSender : Address) (record : Key)
    (owner sender : Address) : Except Fault (ManageStorage Key) := do
  storage.isAllow msgSender
  let count ← storage.getAccountCount msgSender record owner
  let find ← storage.findAccount msgSender record owner sender (List.range count.toNat)
  if find = false then
    let count ← SafeMath.add count 1
    let last ← count.checkedSub 1
    return storage.append record owner sender count last.toNat
  else return storage

end

end ManageStorage

/-- These calls change the state of the storage contract. -/
inductive ManageCall (Key : Type) where
  | enableAllowAccount (account : Address) (enable : Bool)
  | transferOwnership (newOwner : Address)
  | addManageAccount (record : Key) (owner sender : Address)

/-- A transaction names the account that sends the call. -/
structure ManageTransaction (Key : Type) where
  msgSender : Address
  call : ManageCall Key

def ManageStorage.execute {Key : Type} [DecidableEq Key] (storage : ManageStorage Key)
    (transaction : ManageTransaction Key) : Except Fault (ManageStorage Key) :=
  match transaction.call with
  | .enableAllowAccount account enable =>
      storage.enableAllowAccount transaction.msgSender account enable
  | .transferOwnership newOwner => storage.transferOwnership transaction.msgSender newOwner
  | .addManageAccount record owner sender =>
      storage.addManageAccount transaction.msgSender record owner sender

end Holonus.Coin
