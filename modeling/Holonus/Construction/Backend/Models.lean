/-
This file models the database, chain, network and cryptography modules that the requests call.
-/

import Holonus.Construction.Backend.Operations

namespace Holonus.Backend

open Holonus.Machine

/-- A backend function awaits operations and may throw. -/
abbrev Task (Id PublicKey Value : Type) := Program (Op Id) (Reply PublicKey) Failure Value

section
variable {Operation : Type} {Answered : Operation → Type} {Value : Type}

/-- The catch block passes `boom` errors on and replaces every other error. -/
def guarded (message : String) (body : Program Operation Answered Failure Value) :
    Program Operation Answered Failure Value :=
  tryCatch body fun err => throw (err.orElse message)

/-- Reading a field of a missing document is a type error. -/
def present : Option Value → Program Operation Answered Failure Value
  | some value => return value
  | none => throw (.other false)

def failIf (condition : Bool) (failure : Failure) : Program Operation Answered Failure Unit :=
  if condition then throw failure else return

end

section
variable {Id PublicKey : Type}

def ask (query : Query Id) : Task Id PublicKey (Answer query) := Program.call (Op.ask query)

def tell (command : Command Id) : Task Id PublicKey (Result PublicKey command) :=
  Program.call (Op.act command)

/-- A check of existence throws for a missing document. -/
def checkFound (message : String) (find : Task Id PublicKey Bool) : Task Id PublicKey Unit :=
  guarded Messages.userUpdateError do
    let found ← find
    failIf (!found) (.notFound message)

/-- A check of the lock throws for a locked document. -/
def checkUnlocked (message : String) (find : Task Id PublicKey (Option Bool)) :
    Task Id PublicKey Unit :=
  guarded Messages.userUpdateError do
    let isLocked ← present (← find)
    failIf isLocked (.badRequest message)

namespace UsersModel

def checkNotFound (userId : String) : Task Id PublicKey Unit :=
  checkFound Messages.userNotfoundError (ask (.usersExists userId))

def findOne (userId : String) : Task Id PublicKey (Option User) :=
  guarded Messages.userFindError (ask (.usersFindOne userId))

def checkLocked (userId : String) : Task Id PublicKey Unit :=
  checkUnlocked "user is locked" do
    let user : Option User ← ask (.usersFindOne userId)
    return user.map User.isLocked

def updateOne (userId : String) (keysId : Option String) : Task Id PublicKey Bool :=
  guarded Messages.userUpdateError (tell (.usersUpdateOne userId keysId))

end UsersModel

namespace FilesModel

def create (userId fileName mimeType hash : String) : Task Id PublicKey Id :=
  guarded Messages.fileCreateError (tell (.filesCreate userId fileName mimeType hash))

def findOne (fileId : String) (userId : Option String) : Task Id PublicKey (Option (FileRow Id)) :=
  guarded Messages.fileFindError (ask (.filesFindOne fileId userId))

def updateOne (fileId userId fileName mimeType : String) : Task Id PublicKey Bool :=
  guarded Messages.fileUpdateError (tell (.filesUpdateOne fileId userId fileName mimeType))

/-- The source drops the session option and rethrows every error. -/
def deleteOne (fileId userId : String) : Task Id PublicKey Bool :=
  tell (.filesDeleteOne fileId userId)

def checkNotFound (fileId userId : String) : Task Id PublicKey Unit :=
  checkFound Messages.fileNotfoundError (ask (.filesExists fileId userId))

def checkLocked (fileId : String) : Task Id PublicKey Unit :=
  checkUnlocked "file is locked" do
    let file : Option (FileRow Id) ← ask (.filesFindOne fileId none)
    return file.map FileRow.isLocked

end FilesModel

namespace KeysModel

def create (userId : String) : Task Id PublicKey Id :=
  guarded Messages.keyCreateError (tell (.keysCreate userId))

def findOne (condition : KeyCondition Id) : Task Id PublicKey (Option (KeyRow Id)) :=
  guarded Messages.keyFindError (ask (.keysFindOne condition))

/-- The source rethrows every error. -/
def deleteOne (condition : KeyCondition Id) : Task Id PublicKey Bool :=
  tell (.keysDeleteOne condition)

def checkNotFound (condition : KeyCondition Id) : Task Id PublicKey Unit :=
  checkFound Messages.keyNotfoundError (ask (.keysExists condition))

def checkLocked (id : Ref Id) : Task Id PublicKey Unit :=
  checkUnlocked "key is locked" do
    let key : Option (KeyRow Id) ← ask (.keysFindOne ⟨some id, none, false⟩)
    return key.map KeyRow.isLocked

def checkConflict (condition : KeyCondition Id) : Task Id PublicKey Unit :=
  guarded Messages.userUpdateError do
    let found : Bool ← ask (.keysExists condition)
    failIf found (.conflict Messages.keyConflictError)

end KeysModel

namespace TransactionLogsModel

def create : Task Id PublicKey Unit := tell .logsCreate

end TransactionLogsModel

namespace HolonusFileService

def setFile (fileId hash : String) : Task Id PublicKey Unit :=
  guarded Messages.chainFileSetError (tell (.chainSetFile fileId hash))

/-- The contract returns two empty texts for a missing entry. -/
def getFile (fileId : String) : Task Id PublicKey File.StoredText :=
  guarded Messages.chainFileGetError do
    let stored : File.StoredText ← ask (.chainGetFile fileId)
    failIf (stored.id = "") (.notFound Messages.chainFileNotfoundError)
    return stored

def setKey (publicKeyId publicKey : String) : Task Id PublicKey Unit :=
  guarded Messages.chainKeySetError (tell (.chainSetKey publicKeyId publicKey))

def getKey (publicKeyId : String) : Task Id PublicKey File.StoredText :=
  guarded Messages.chainKeyGetError do
    let stored : File.StoredText ← ask (.chainGetKey publicKeyId)
    failIf (stored.id = "") (.notFound Messages.chainKeyNotfoundError)
    return stored

end HolonusFileService

namespace IpfsUtil

def add (data : Bytes) : Task Id PublicKey String :=
  tryCatch (tell (.ipfsAdd data)) fun _ => throw (.notAcceptable Messages.ipfsAddError)

def cat (hash : String) : Task Id PublicKey Bytes :=
  tryCatch (ask (.ipfsCat hash)) fun err =>
    if err = .timeout then throw (.notFound Messages.ipfsNotfoundError)
    else throw (.notAcceptable Messages.ipfsGetError)

end IpfsUtil

/-- The key argument of the cryptography module is a text or another object. -/
inductive KeySource where
  | text (pem : String)
  | object
  deriving DecidableEq, Repr

namespace CryptoUtil

/-- The constructor imports a text and draws a fresh key for another object. -/
def pem2der (platform : Platform Id PublicKey) : KeySource → Task Id PublicKey Bytes
  | .text pem =>
      match platform.importPem pem with
      | some key => return platform.exportDer key
      | none => throw (.other false)
  | .object => do
      let key : PublicKey ← tell .generateKey
      return platform.exportDer key

def encrypt (platform : Platform Id PublicKey) (publicKey buffer : Bytes) :
    Task Id PublicKey Bytes :=
  match platform.importDer publicKey with
  | some key => return platform.encrypt key buffer
  | none => throw (.other false)

end CryptoUtil

namespace DbUtil

/-- The driver commits after the callback and aborts after its failure. -/
def attemptTransaction {Value : Type} (exec : Task Id PublicKey Value)
    (retry : Failure → Task Id PublicKey Value) : Task Id PublicKey Value := do
  let _ ← tell .startTransaction
  match ← exec.settled with
  | .ok value =>
      match ← (tell .commitTransaction : Task Id PublicKey Unit).settled with
      | .ok _ => return value
      | .error err => retry err
  | .error err => do
      let _ ← tell .abortTransaction
      retry err

/-- The driver repeats the callback on transient errors until its time is over. -/
def withTransaction {Value : Type} (exec : Task Id PublicKey Value) :
    Nat → Task Id PublicKey Value
  | 0 => attemptTransaction exec throw
  | attempts + 1 => attemptTransaction exec fun err =>
      if err.isTransient then withTransaction exec attempts else throw err

def transaction {Value : Type} (attempts : Nat) (exec : Task Id PublicKey Value) :
    Task Id PublicKey Value := do
  let _ ← tell .startSession
  (withTransaction exec attempts).andFinally (tell .endSession)

end DbUtil

end

end Holonus.Backend
