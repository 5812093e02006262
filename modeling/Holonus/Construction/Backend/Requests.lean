/-
This file models the file and key requests and runs them interleaved at their awaits.
-/

import Holonus.Construction.Backend.Models

namespace Holonus.Backend

open Holonus.Machine

/-- An authenticated request carries the identifier of its user. -/
inductive Body (Id : Type) where
  | postFile (userId : String) (publicKeyId : Ref Id) (fileName mimeType : String)
      (attachement : Bytes)
  | getFile (userId fileId : String)
  | putFile (userId fileId fileName mimeType : String) (attachement : Bytes)
  | deleteFile (userId fileId : String)
  | postKey (userId : String) (publicKey : Option String)
  | getKey (userId publicKeyId : String)
  | putKey (userId publicKeyId : String) (publicKey : Option String)
  | deleteKey (userId publicKeyId : String)
  deriving DecidableEq, Repr

/-- The driver repeats the transaction of a request at most this often. -/
structure Request (Id : Type) where
  attempts : Nat
  body : Body Id
  deriving DecidableEq, Repr

/-- The core functions return these values. -/
inductive Response (Id : Type) where
  | nothing
  | fileId (id : Id)
  | file (fileName mimeType : String) (attachement : Bytes)
  | publicKeyId (id : Id)
  | publicKeyText (publicKeyId : String)
  | key (publicKeyId : Option Id) (publicKey : Option String)
  deriving DecidableEq, Repr

section
variable {Id PublicKey : Type}

def Body.userId : Body Id → String
  | .postFile userId _ _ _ _ => userId
  | .getFile userId _ => userId
  | .putFile userId _ _ _ _ => userId
  | .deleteFile userId _ => userId
  | .postKey userId _ => userId
  | .getKey userId _ => userId
  | .putKey userId _ _ => userId
  | .deleteKey userId _ => userId

namespace KeysCore

/-- The requests on one key exclude recovery keys. -/
def condition (userId : String) (publicKeyId : Ref Id) : KeyCondition Id :=
  ⟨some publicKeyId, some userId, true⟩

def postKey (platform : Platform Id PublicKey) (attempts : Nat) (userId : String)
    (publicKey : Option String) : Task Id PublicKey Id :=
  DbUtil.transaction attempts do
    KeysModel.checkConflict ⟨none, some userId, true⟩
    let publicKeyId ← KeysModel.create userId
    let ok ← UsersModel.updateOne userId (some (platform.idText publicKeyId))
    failIf (!ok) (.internal "updating user information failed")
    let publicKey ← present publicKey
    HolonusFileService.setKey (platform.idText publicKeyId) publicKey
    TransactionLogsModel.create
    return publicKeyId

/-- Every failure of the lookup gives two null values. -/
def getKey (platform : Platform Id PublicKey) (userId : String) (publicKeyId : Ref Id) :
    Task Id PublicKey (Option (Id × String)) :=
  tryCatch (do
    KeysModel.checkNotFound (condition userId publicKeyId)
    KeysModel.checkLocked publicKeyId
    let dbKey ← present (← KeysModel.findOne (condition userId publicKeyId))
    let bcKey ← HolonusFileService.getKey (platform.idText dbKey.id)
    return some (dbKey.id, bcKey.value))
    fun _ => return none

def putKey (userId publicKeyId : String) (publicKey : Option String) :
    Task Id PublicKey String := do
  KeysModel.checkNotFound (condition userId (.text publicKeyId))
  KeysModel.checkLocked (.text publicKeyId)
  let publicKey ← present publicKey
  HolonusFileService.setKey publicKeyId publicKey
  return publicKeyId

def deleteKey (attempts : Nat) (userId publicKeyId : String) : Task Id PublicKey Unit :=
  DbUtil.transaction attempts do
    KeysModel.checkNotFound (condition userId (.text publicKeyId))
    KeysModel.checkLocked (.text publicKeyId)
    let _ ← KeysModel.deleteOne (condition userId (.text publicKeyId))
    let ok ← UsersModel.updateOne userId none
    failIf (!ok) (.internal "updating user information failed")

end KeysCore

namespace FilesCore

def getTargetUser (userId : String) : Task Id PublicKey User := do
  UsersModel.checkNotFound userId
  present (← UsersModel.findOne userId)

def postFile (platform : Platform Id PublicKey) (attempts : Nat) (userId : String)
    (publicKeyId : Ref Id) (fileName mimeType : String) (attachement : Bytes) :
    Task Id PublicKey Id :=
  DbUtil.transaction attempts do
    let user ← getTargetUser userId
    UsersModel.checkLocked user.userId
    let publicKey ← KeysCore.getKey platform userId publicKeyId
    let (_, publicKey) ← present publicKey
    let derPublicKey ← CryptoUtil.pem2der platform (.text publicKey)
    let ipfsData ← CryptoUtil.encrypt platform derPublicKey attachement
    let ipfsPath ← IpfsUtil.add ipfsData
    let fileId ← FilesModel.create user.userId fileName mimeType ipfsPath
    HolonusFileService.setFile (platform.idText fileId) ipfsPath
    TransactionLogsModel.create
    return fileId

def getFile (userId fileId : String) : Task Id PublicKey (String × String × Bytes) := do
  let user ← getTargetUser userId
  UsersModel.checkLocked user.userId
  FilesModel.checkNotFound fileId user.userId
  FilesModel.checkLocked fileId
  let fileinfo ← FilesModel.findOne fileId (some user.userId)
  let bcData ← HolonusFileService.getFile fileId
  let ipfsData ← IpfsUtil.cat bcData.value
  let fileinfo ← present fileinfo
  return (fileinfo.fileName, fileinfo.mimeType, ipfsData)

/-- The source does not await the key lookup, so that the key is a promise. -/
def putFile (platform : Platform Id PublicKey) (attempts : Nat)
    (userId fileId fileName mimeType : String) (attachement : Bytes) : Task Id PublicKey Unit :=
  DbUtil.transaction attempts do
    let user ← getTargetUser userId
    let publicKey := KeySource.object
    FilesModel.checkNotFound fileId user.userId
    FilesModel.checkLocked fileId
    let derPublicKey ← CryptoUtil.pem2der platform publicKey
    let ipfsData ← CryptoUtil.encrypt platform derPublicKey attachement
    let ipfsPath ← IpfsUtil.add ipfsData
    let ok ← FilesModel.updateOne fileId user.userId fileName mimeType
    failIf (!ok) (.notFound "update failed")
    HolonusFileService.setFile fileId ipfsPath
    TransactionLogsModel.create

def deleteFile (attempts : Nat) (userId fileId : String) : Task Id PublicKey Unit :=
  DbUtil.transaction attempts do
    let user ← getTargetUser userId
    let _ ← FilesModel.findOne fileId none
    FilesModel.checkNotFound fileId user.userId
    FilesModel.checkLocked fileId
    let ok ← FilesModel.deleteOne fileId user.userId
    failIf (!ok) (.notFound "delete failed")

end FilesCore

def Request.program (platform : Platform Id PublicKey) (request : Request Id) :
    Task Id PublicKey (Response Id) :=
  match request.body with
  | .postFile userId publicKeyId fileName mimeType attachement => do
      return .fileId (← FilesCore.postFile platform request.attempts userId publicKeyId fileName
        mimeType attachement)
  | .getFile userId fileId => do
      let (fileName, mimeType, attachement) ← FilesCore.getFile userId fileId
      return .file fileName mimeType attachement
  | .putFile userId fileId fileName mimeType attachement => do
      FilesCore.putFile platform request.attempts userId fileId fileName mimeType attachement
      return .nothing
  | .deleteFile userId fileId => do
      FilesCore.deleteFile request.attempts userId fileId
      return .nothing
  | .postKey userId publicKey => do
      return .publicKeyId (← KeysCore.postKey platform request.attempts userId publicKey)
  | .getKey userId publicKeyId => do
      let found ← KeysCore.getKey platform userId (.text publicKeyId)
      return .key (found.map Prod.fst) (found.map Prod.snd)
  | .putKey userId publicKeyId publicKey => do
      return .publicKeyText (← KeysCore.putKey userId publicKeyId publicKey)
  | .deleteKey userId publicKeyId => do
      KeysCore.deleteKey request.attempts userId publicKeyId
      return .nothing

/-- An event records an operation that replied and the length of the commit log before it. -/
structure Event (Id PublicKey : Type) where
  op : Op Id
  reply : Reply PublicKey op
  moment : Nat

/-- A running request has its own session, and its trail records its events, the latest first. -/
structure Local (Id PublicKey : Type) where
  request : Request Id
  session : Option (Session Id)
  trail : List (Event Id PublicKey)

structure World (Id PublicKey : Type) where
  store : Store Id
  locals : Nat → Option (Local Id PublicKey)

/-- Only an operation that replied leaves an event. -/
def Local.after (task : Local Id PublicKey) (session : Option (Session Id)) (moment : Nat) (op : Op Id) :
    Except Failure (Reply PublicKey op) → Local Id PublicKey
  | .ok reply => ⟨task.request, session, ⟨op, reply, moment⟩ :: task.trail⟩
  | .error _ => ⟨task.request, session, task.trail⟩

variable [DecidableEq Id]

/-- The task with an index performs one operation. -/
def World.perform (platform : Platform Id PublicKey) (index : Nat) (op : Op Id)
    (choice : Choice Id PublicKey) (world : World Id PublicKey) :
    Option (Except Failure (Reply PublicKey op) × World Id PublicKey) :=
  match world.locals index with
  | none => none
  | some task =>
      match respond platform world.store task.session op choice with
      | none => none
      | some (reply, store, session) =>
          some (reply, ⟨store, Function.update world.locals index
            (some (task.after session world.store.log.length op reply))⟩)

def runtime (platform : Platform Id PublicKey) :
    Runtime (Op Id) (Reply PublicKey) Failure (Response Id) (World Id PublicKey)
      (Choice Id PublicKey) (Request Id) where
  perform := World.perform platform
  program := Request.program platform
  free index world := (world.locals index).isNone
  enroll index request world :=
    { world with locals := Function.update world.locals index (some ⟨request, none, []⟩) }

/-- A request is served alone, with the choices of its awaited operations. -/
def serve (platform : Platform Id PublicKey) (store : Store Id) (request : Request Id)
    (choices : List (Choice Id PublicKey)) :
    Option (Except Failure (Response Id) × Store Id) :=
  ((request.program platform).alone (World.perform platform 0) choices
    ⟨store, Function.update (fun _ => none) 0 (some ⟨request, none, []⟩)⟩).map
      fun served => (served.1, served.2.store)

/-- No request has started. -/
def resting (store : Store Id) :
    Pool (Op Id) (Reply PublicKey) Failure (Response Id) (World Id PublicKey) :=
  ⟨⟨store, fun _ => none⟩, fun _ => none⟩

/-- The requests start and interleave at their awaits as the moves say. -/
def reached (platform : Platform Id PublicKey) (store : Store Id)
    (moves : List (Move (Choice Id PublicKey) (Request Id))) :
    Pool (Op Id) (Reply PublicKey) Failure (Response Id) (World Id PublicKey) :=
  run (runtime platform).advance (resting store) moves

end

end Holonus.Backend
