/-
This file models the stores of the backend: the database with its sessions, the file contracts
and the content-addressed network.
-/

import Holonus.Construction.Backend.Failure
import Holonus.Construction.File.Service

namespace Holonus.Backend

open Holonus.Coin

abbrev Bytes := List UInt8

/-- The packages and the configuration are known by their documented laws only. -/
structure Platform (Id PublicKey : Type) where
  idText : Id → String
  castId : String → Option Id
  castId_idText : ∀ id, castId (idText id) = some id
  idText_ne_empty : ∀ id, idText id ≠ ""
  importPem : String → Option PublicKey
  exportDer : PublicKey → Bytes
  importDer : Bytes → Option PublicKey
  importDer_exportDer : ∀ key, importDer (exportDer key) = some key
  encrypt : PublicKey → Bytes → Bytes
  address : Bytes → String
  address_injective : Function.Injective address
  manageAddress : Address
  callAddress : Address

/-- The users collection keeps the lock and the key reference of each user. -/
structure User where
  userId : String
  isLocked : Bool
  keysId : Option String
  deriving DecidableEq, Repr

structure FileRow (Id : Type) where
  id : Id
  userId : String
  fileName : String
  mimeType : String
  hash : String
  isLocked : Bool
  deriving DecidableEq, Repr

structure KeyRow (Id : Type) where
  id : Id
  userId : String
  forRecovery : Bool
  isLocked : Bool
  deriving DecidableEq, Repr

structure Database (Id : Type) where
  users : List User
  files : List (FileRow Id)
  keys : List (KeyRow Id)

/-- A document is what two transactions can conflict on. -/
inductive Document (Id : Type) where
  | user (userId : String)
  | file (id : Id)
  | key (id : Id)
  deriving DecidableEq, Repr

instance lawfulBEq_document {Id : Type} [DecidableEq Id] : LawfulBEq (Document Id) := inferInstance

/-- A write has found its document. -/
inductive Write (Id : Type) where
  | insertFile (row : FileRow Id)
  | updateFile (id : Id) (fileName mimeType : String)
  | deleteFile (id : Id)
  | insertKey (row : KeyRow Id)
  | deleteKey (id : Id)
  | updateUser (userId : String) (keysId : Option String)

section
variable {Id PublicKey : Type}

def Write.document : Write Id → Document Id
  | .insertFile row => .file row.id
  | .updateFile id _ _ => .file id
  | .deleteFile id => .file id
  | .insertKey row => .key row.id
  | .deleteKey id => .key id
  | .updateUser userId _ => .user userId

/-- A condition names an identifier by its text, by its document or not at all. -/
inductive Ref (Id : Type) where
  | missing
  | text (value : String)
  | document (id : Id)
  deriving DecidableEq, Repr

/-- A text that is no identifier fails to cast, and a missing identifier matches nothing. -/
def Ref.resolve (platform : Platform Id PublicKey) : Ref Id → Except Failure (Option Id)
  | .missing => .ok none
  | .document id => .ok (some id)
  | .text value =>
      match platform.castId value with
      | none => .error (.other false)
      | some id => .ok (some id)

/-- A condition on keys leaves out the fields that it does not restrict. -/
structure KeyCondition (Id : Type) where
  id : Option (Ref Id)
  userId : Option String
  notForRecovery : Bool
  deriving DecidableEq, Repr

variable [DecidableEq Id]

namespace Database

def apply (database : Database Id) : Write Id → Database Id
  | .insertFile row => { database with files := database.files ++ [row] }
  | .updateFile id fileName mimeType =>
      { database with
        files := database.files.map fun row =>
          if row.id = id then { row with fileName := fileName, mimeType := mimeType } else row }
  | .deleteFile id =>
      { database with files := database.files.filter fun row => row.id ≠ id }
  | .insertKey row => { database with keys := database.keys ++ [row] }
  | .deleteKey id =>
      { database with keys := database.keys.filter fun row => row.id ≠ id }
  | .updateUser userId keysId =>
      { database with
        users := database.users.map fun user =>
          if user.userId = userId then { user with keysId := keysId } else user }

def applyAll (database : Database Id) (writes : List (Write Id)) : Database Id :=
  writes.foldl apply database

def findUser (database : Database Id) (userId : String) : Option User :=
  database.users.find? fun user => user.userId = userId

def findFile (platform : Platform Id PublicKey) (database : Database Id) (fileId : String)
    (userId : Option String) : Except Failure (Option (FileRow Id)) :=
  match platform.castId fileId with
  | none => .error (.other false)
  | some id => .ok (database.files.find? fun row =>
      row.id = id ∧ (userId = none ∨ userId = some row.userId))

def KeyCondition.Matches (condition : KeyCondition Id) (id : Option Id) (row : KeyRow Id) : Prop :=
  (condition.id = none ∨ id = some row.id) ∧
    (condition.userId = none ∨ condition.userId = some row.userId) ∧
    (condition.notForRecovery = true → row.forRecovery = false)

instance (condition : KeyCondition Id) (id : Option Id) (row : KeyRow Id) :
    Decidable (KeyCondition.Matches condition id row) :=
  inferInstanceAs (Decidable (_ ∧ _ ∧ _))

def findKey (platform : Platform Id PublicKey) (database : Database Id)
    (condition : KeyCondition Id) : Except Failure (Option (KeyRow Id)) := do
  let id ← (condition.id.getD .missing).resolve platform
  return database.keys.find? fun row => KeyCondition.Matches condition id row

end Database

/-- The snapshot of a transaction is taken at its first write. -/
structure Session (Id : Type) where
  snapshot : Option (Database Id × Nat)
  writes : List (Write Id)

/-- The log lists the modified documents in the order of their commits. -/
structure Store (Id : Type) where
  database : Database Id
  log : List (Document Id)
  drawn : List (Id × String)
  ipfs : List Bytes
  chain : File.System

namespace Session

def empty : Session Id := ⟨none, []⟩

/-- A write looks for its document in the snapshot and in the earlier writes of the session. -/
def stage (session : Session Id) (store : Store Id) (plan : Database Id → Option (Write Id)) :
    Session Id :=
  let start := session.snapshot.getD (store.database, store.log.length)
  ⟨some start, session.writes ++ (plan (start.1.applyAll session.writes)).toList⟩

/-- Another commit has modified a document of the session since its snapshot. -/
def conflicts (session : Session Id) (log : List (Document Id)) : Bool :=
  match session.snapshot with
  | none => false
  | some start => session.writes.any fun write => write.document ∈ log.drop start.2

end Session

def Store.commit (store : Store Id) (writes : List (Write Id)) : Store Id :=
  { store with
    database := store.database.applyAll writes
    log := store.log ++ writes.map Write.document }

end

end Holonus.Backend
