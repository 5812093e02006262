/-
This file models the file service over its two storages and executes their public calls.
-/

import Holonus.Construction.File.Storage

namespace Holonus.File

open Holonus.Machine Holonus.Coin

/-- The service calls both storages under its own address. -/
structure System where
  fileStorage : FileStorage
  keyStorage : KeyStorage
  service : Guard
  address : Address

namespace HolonusFileService

def setFile (system : System) (msgSender : Address) (fileId hash : String) :
    Except Fault System := do
  system.service.isAllow msgSender
  system.service.isUnlocked
  let fileStorage ← FileStorage.set system.fileStorage system.address fileId hash
  return { system with fileStorage := fileStorage }

def getFile (system : System) (msgSender : Address) (fileId : String) :
    Except Fault StoredText := do
  system.service.isAllow msgSender
  system.service.isUnlocked
  FileStorage.get system.fileStorage system.address fileId

def setKey (system : System) (msgSender : Address) (publickeyId publicKey : String) :
    Except Fault System := do
  system.service.isAllow msgSender
  system.service.isUnlocked
  let keyStorage ← KeyStorage.set system.keyStorage system.address publickeyId publicKey
  return { system with keyStorage := keyStorage }

def getKey (system : System) (msgSender : Address) (publickeyId : String) :
    Except Fault StoredText := do
  system.service.isAllow msgSender
  system.service.isUnlocked
  KeyStorage.get system.keyStorage system.address publickeyId

end HolonusFileService

/-- Every contract inherits these calls. -/
inductive Administration where
  | transferOwnership (newOwner : Address)
  | enableAllowAccount (account : Address) (enable : Bool)
  | setLocked
  | setUnlocked
  deriving DecidableEq, Repr

def Guard.administer (guard : Guard) (msgSender : Address) :
    Administration → Except Fault Guard
  | .transferOwnership newOwner => guard.transferOwnership msgSender newOwner
  | .enableAllowAccount account enable => guard.enableAllowAccount msgSender account enable
  | .setLocked => guard.setLocked msgSender
  | .setUnlocked => guard.setUnlocked msgSender

/-- The deployment has three contracts. -/
inductive Party where
  | fileStorage
  | keyStorage
  | service
  deriving DecidableEq, Repr

def System.guard (system : System) : Party → Guard
  | .fileStorage => system.fileStorage.guard
  | .keyStorage => system.keyStorage.guard
  | .service => system.service

def System.withGuard (system : System) (party : Party) (guard : Guard) : System :=
  match party with
  | .fileStorage => { system with fileStorage := { system.fileStorage with guard := guard } }
  | .keyStorage => { system with keyStorage := { system.keyStorage with guard := guard } }
  | .service => { system with service := guard }

/-- These calls change the state of one of the three contracts. -/
inductive Call where
  | administer (party : Party) (administration : Administration)
  | setFile (fileId hash : String)
  | setKey (publickeyId publicKey : String)
  | storeFile (fileId hash : String)
  | storeKey (publickeyId publicKey : String)
  deriving DecidableEq, Repr

/-- A transaction names the account that sends the call. -/
structure Transaction where
  msgSender : Address
  call : Call
  deriving DecidableEq, Repr

def execute (system : System) (transaction : Transaction) : Except Fault System :=
  match transaction.call with
  | .administer party administration => do
      let guard ← (system.guard party).administer transaction.msgSender administration
      return system.withGuard party guard
  | .setFile fileId hash =>
      HolonusFileService.setFile system transaction.msgSender fileId hash
  | .setKey publickeyId publicKey =>
      HolonusFileService.setKey system transaction.msgSender publickeyId publicKey
  | .storeFile fileId hash => do
      let fileStorage ← FileStorage.set system.fileStorage transaction.msgSender fileId hash
      return { system with fileStorage := fileStorage }
  | .storeKey publickeyId publicKey => do
      let keyStorage ← KeyStorage.set system.keyStorage transaction.msgSender publickeyId publicKey
      return { system with keyStorage := keyStorage }

/-- The migrations deploy the three contracts from one account. -/
structure Deployment where
  deployer : Address
  service : Address

def Deployment.system (deployment : Deployment) : System where
  fileStorage := TextStorage.deployed deployment.deployer
  keyStorage := TextStorage.deployed deployment.deployer
  service := Guard.deployed deployment.deployer
  address := deployment.service

end Holonus.File
