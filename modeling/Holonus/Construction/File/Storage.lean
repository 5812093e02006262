/-
This file models the guarded text storages of the file contracts.
-/

import Holonus.Construction.Coin.EternalStorage

namespace Holonus.File

open Holonus.Machine Holonus.Coin

/-- The base contracts keep an owner, an allow list and a lock. -/
@[ext] structure Guard where
  owner : Address
  allowAccount : Address → Bool
  isLocked : Bool

namespace Guard

def onlyOwner (guard : Guard) (msgSender : Address) : Except Fault Unit :=
  require (msgSender = guard.owner)

def isAllow (guard : Guard) (msgSender : Address) : Except Fault Unit :=
  require (guard.allowAccount msgSender = true)

def isUnlocked (guard : Guard) : Except Fault Unit :=
  require (guard.isLocked = false)

def transferOwnership (guard : Guard) (msgSender newOwner : Address) : Except Fault Guard := do
  guard.onlyOwner msgSender
  return { guard with owner := newOwner }

def enableAllowAccount (guard : Guard) (msgSender account : Address) (enable : Bool) :
    Except Fault Guard := do
  guard.onlyOwner msgSender
  return { guard with allowAccount := Function.update guard.allowAccount account enable }

def setLocked (guard : Guard) (msgSender : Address) : Except Fault Guard := do
  guard.onlyOwner msgSender
  return { guard with isLocked := true }

def setUnlocked (guard : Guard) (msgSender : Address) : Except Fault Guard := do
  guard.onlyOwner msgSender
  return { guard with isLocked := false }

/-- The constructors name the deployer as owner and allow it. -/
def deployed (msgSender : Address) : Guard where
  owner := msgSender
  allowAccount := fun account => decide (account = msgSender)
  isLocked := false

end Guard

/-- Both storages keep a text together with its identifier. -/
structure StoredText where
  id : String
  value : String
  deriving DecidableEq, Repr

/-- A missing entry reads as two empty texts. -/
def StoredText.empty : StoredText := ⟨"", ""⟩

/-- The storages differ only in the names of their fields. -/
structure TextStorage where
  guard : Guard
  entries : String → StoredText

namespace TextStorage

def put (storage : TextStorage) (id value : String) : TextStorage :=
  { storage with entries := Function.update storage.entries id ⟨id, value⟩ }

def set (storage : TextStorage) (msgSender : Address) (id value : String) :
    Except Fault TextStorage := do
  storage.guard.isAllow msgSender
  storage.guard.isUnlocked
  return storage.put id value

def get (storage : TextStorage) (msgSender : Address) (id : String) : Except Fault StoredText := do
  storage.guard.isAllow msgSender
  storage.guard.isUnlocked
  return storage.entries id

def deployed (msgSender : Address) : TextStorage :=
  ⟨Guard.deployed msgSender, fun _ => StoredText.empty⟩

end TextStorage

abbrev FileStorage := TextStorage

def FileStorage.set (storage : FileStorage) (msgSender : Address) (fileId hash : String) :
    Except Fault FileStorage :=
  TextStorage.set storage msgSender fileId hash

def FileStorage.get (storage : FileStorage) (msgSender : Address) (fileId : String) :
    Except Fault StoredText :=
  TextStorage.get storage msgSender fileId

abbrev KeyStorage := TextStorage

def KeyStorage.set (storage : KeyStorage) (msgSender : Address) (publickeyId publicKey : String) :
    Except Fault KeyStorage :=
  TextStorage.set storage msgSender publickeyId publicKey

def KeyStorage.get (storage : KeyStorage) (msgSender : Address) (publickeyId : String) :
    Except Fault StoredText :=
  TextStorage.get storage msgSender publickeyId

end Holonus.File
