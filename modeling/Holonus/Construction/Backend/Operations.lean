/-
This file models the operations that the backend awaits.
Queries read the latest committed data, and commands change a store or the session of a request.
-/

import Holonus.Construction.Backend.Database
import Holonus.Machine.Interleaving

namespace Holonus.Backend

open Holonus.Machine Holonus.File

inductive Query (Id : Type) where
  | usersExists (userId : String)
  | usersFindOne (userId : String)
  | filesExists (fileId userId : String)
  | filesFindOne (fileId : String) (userId : Option String)
  | keysExists (condition : KeyCondition Id)
  | keysFindOne (condition : KeyCondition Id)
  | chainGetFile (fileId : String)
  | chainGetKey (publicKeyId : String)
  | ipfsCat (hash : String)
  deriving DecidableEq, Repr

/-- The writes of files, keys and users other than the file deletion belong to the session. -/
inductive Command (Id : Type) where
  | startSession
  | startTransaction
  | commitTransaction
  | abortTransaction
  | endSession
  | usersUpdateOne (userId : String) (keysId : Option String)
  | filesCreate (userId fileName mimeType hash : String)
  | filesUpdateOne (fileId userId fileName mimeType : String)
  | filesDeleteOne (fileId userId : String)
  | keysCreate (userId : String)
  | keysDeleteOne (condition : KeyCondition Id)
  | logsCreate
  | chainSetFile (fileId hash : String)
  | chainSetKey (publicKeyId publicKey : String)
  | ipfsAdd (data : Bytes)
  | generateKey
  deriving DecidableEq, Repr

inductive Op (Id : Type) where
  | ask (query : Query Id)
  | act (command : Command Id)
  deriving DecidableEq, Repr

section
variable {Id PublicKey : Type}

def Answer : Query Id → Type
  | .usersExists _ => Bool
  | .usersFindOne _ => Option User
  | .filesExists _ _ => Bool
  | .filesFindOne _ _ => Option (FileRow Id)
  | .keysExists _ => Bool
  | .keysFindOne _ => Option (KeyRow Id)
  | .chainGetFile _ => StoredText
  | .chainGetKey _ => StoredText
  | .ipfsCat _ => Bytes

/-- The driver resolves an update and a deletion with the flag `ok`. -/
def Result (PublicKey : Type) : Command Id → Type
  | .usersUpdateOne _ _ => Bool
  | .filesCreate _ _ _ _ => Id
  | .filesUpdateOne _ _ _ _ => Bool
  | .filesDeleteOne _ _ => Bool
  | .keysCreate _ => Id
  | .keysDeleteOne _ => Bool
  | .ipfsAdd _ => String
  | .generateKey => PublicKey
  | _ => Unit

def Reply (PublicKey : Type) : Op Id → Type
  | .ask query => Answer query
  | .act command => Result PublicKey command

/-- An awaited operation proceeds, draws an identifier or a key, or fails. -/
inductive Choice (Id PublicKey : Type) where
  | proceed
  | draw (id : Id)
  | generate (key : PublicKey)
  | fail (failure : Failure)

variable [DecidableEq Id]

def fromChain {Value : Type} : Except Machine.Fault Value → Except Failure Value
  | .ok value => .ok value
  | .error _ => .error (.other false)

def answer (platform : Platform Id PublicKey) (store : Store Id) :
    (query : Query Id) → Except Failure (Answer query)
  | .usersExists userId => .ok (store.database.findUser userId).isSome
  | .usersFindOne userId => .ok (store.database.findUser userId)
  | .filesExists fileId userId =>
      (store.database.findFile platform fileId (some userId)).map Option.isSome
  | .filesFindOne fileId userId => store.database.findFile platform fileId userId
  | .keysExists condition => (store.database.findKey platform condition).map Option.isSome
  | .keysFindOne condition => store.database.findKey platform condition
  | .chainGetFile fileId =>
      fromChain (HolonusFileService.getFile store.chain platform.callAddress fileId)
  | .chainGetKey publicKeyId =>
      fromChain (HolonusFileService.getKey store.chain platform.callAddress publicKeyId)
  | .ipfsCat hash =>
      match store.ipfs.find? fun data => platform.address data = hash with
      | some data => .ok data
      | none => .error .timeout

/-- The outcome of a command comes with the new store and the new session. -/
abbrev Effect (Id Value : Type) := Except Failure Value × Store Id × Option (Session Id)

/-- A session write outside a transaction does not occur in the source. -/
def staged {Value : Type} (store : Store Id) (session : Option (Session Id)) (value : Value)
    (plan : Database Id → Option (Write Id)) : Effect Id Value :=
  match session with
  | none => (.error (.other false), store, none)
  | some session => (.ok value, store, some (session.stage store plan))

/-- A write whose identifier does not cast fails. -/
def stagedFound {Row : Type} (store : Store Id) (session : Option (Session Id))
    (find : Database Id → Except Failure (Option Row)) (write : Row → Write Id) :
    Effect Id Bool :=
  match find store.database with
  | .error failure => (.error failure, store, session)
  | .ok _ => staged store session true fun database =>
      ((find database).toOption.join).map write

def sentToChain (store : Store Id) (session : Option (Session Id)) (transaction : File.Transaction) :
    Effect Id Unit :=
  match File.execute store.chain transaction with
  | .ok chain => (.ok (), { store with chain := chain }, session)
  | .error _ => (.error (.other false), store, session)

/-- The drawn identifier has not been drawn before. -/
def Store.isFresh (store : Store Id) (id : Id) : Bool :=
  store.drawn.all fun entry => entry.1 ≠ id

/-- A created row belongs to the user for whom its identifier is drawn. -/
def drawnInto (store : Store Id) (session : Option (Session Id)) (id : Id) (userId : String)
    (write : Write Id) : Option (Effect Id Id) :=
  match session with
  | none => some (.error (.other false), store, none)
  | some session =>
      if store.isFresh id then
        some (.ok id, { store with drawn := (id, userId) :: store.drawn },
          some (session.stage store fun _ => some write))
      else none

def proceeding {Value : Type} (effect : Effect Id Value) :
    Choice Id PublicKey → Option (Effect Id Value)
  | .proceed => some effect
  | _ => none

def drawing {Value : Type} (effect : Id → Option (Effect Id Value)) :
    Choice Id PublicKey → Option (Effect Id Value)
  | .draw id => effect id
  | _ => none

def generating (store : Store Id) (session : Option (Session Id)) :
    Choice Id PublicKey → Option (Effect Id PublicKey)
  | .generate key => some (.ok key, store, session)
  | _ => none

/-- A commit takes all writes of the session or none. -/
def committing (store : Store Id) : Option (Session Id) → Effect Id Unit
  | none => (.error (.other false), store, none)
  | some session =>
      if session.conflicts store.log then (.error (.other true), store, none)
      else (.ok (), store.commit session.writes, none)

def deletingFile (store : Store Id) (session : Option (Session Id)) :
    Except Failure (Option (FileRow Id)) → Effect Id Bool
  | .error failure => (.error failure, store, session)
  | .ok none => (.ok true, store, session)
  | .ok (some row) => (.ok true, store.commit [.deleteFile row.id], session)

def act (platform : Platform Id PublicKey) (store : Store Id) (session : Option (Session Id)) :
    (command : Command Id) → Choice Id PublicKey → Option (Effect Id (Result PublicKey command))
  | .startSession => proceeding (.ok (), store, session)
  | .startTransaction => proceeding (.ok (), store, some Session.empty)
  | .commitTransaction => proceeding (committing store session)
  | .abortTransaction => proceeding (.ok (), store, none)
  | .endSession => proceeding (.ok (), store, none)
  | .usersUpdateOne userId keysId =>
      proceeding (staged store session true fun database =>
        (database.findUser userId).map fun user => .updateUser user.userId keysId)
  | .filesCreate userId fileName mimeType hash =>
      drawing fun id => drawnInto store session id userId
        (.insertFile ⟨id, userId, fileName, mimeType, hash, false⟩)
  | .filesUpdateOne fileId userId fileName mimeType =>
      proceeding (stagedFound store session
        (fun database => database.findFile platform fileId (some userId))
        fun row => .updateFile row.id fileName mimeType)
  | .filesDeleteOne fileId userId =>
      proceeding (deletingFile store session
        (store.database.findFile platform fileId (some userId)))
  | .keysCreate userId =>
      drawing fun id => drawnInto store session id userId (.insertKey ⟨id, userId, false, false⟩)
  | .keysDeleteOne condition =>
      proceeding (stagedFound store session (fun database => database.findKey platform condition)
        fun row => .deleteKey row.id)
  | .logsCreate => proceeding (.ok (), store, session)
  | .chainSetFile fileId hash =>
      proceeding (sentToChain store session ⟨platform.manageAddress, .setFile fileId hash⟩)
  | .chainSetKey publicKeyId publicKey =>
      proceeding (sentToChain store session ⟨platform.manageAddress, .setKey publicKeyId publicKey⟩)
  | .ipfsAdd data =>
      proceeding (.ok (platform.address data), { store with ipfs := store.ipfs ++ [data] }, session)
  | .generateKey => generating store session

/-- A failed commit and a failed end leave no open transaction. -/
def Op.closes : Op Id → Bool
  | .act .commitTransaction => true
  | .act .endSession => true
  | _ => false

/-- The driver ignores the errors of an abort, and drawing a key cannot fail. -/
def Op.canFail : Op Id → Bool
  | .act .startTransaction => false
  | .act .abortTransaction => false
  | .act .generateKey => false
  | _ => true

def failing {Value : Type} (store : Store Id) (session : Option (Session Id)) (op : Op Id)
    (failure : Failure) : Option (Effect Id Value) :=
  if op.canFail then some (.error failure, store, if op.closes then none else session) else none

def respond (platform : Platform Id PublicKey) (store : Store Id) (session : Option (Session Id))
    (op : Op Id) : Choice Id PublicKey → Option (Effect Id (Reply PublicKey op))
  | .fail failure => failing store session op failure
  | choice =>
      match op with
      | .ask query => proceeding (answer platform store query, store, session) choice
      | .act command => act platform store session command choice

end

end Holonus.Backend
