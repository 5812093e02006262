/-
This file models the errors that the backend throws and their message texts.
-/

import Mathlib.Tactic

namespace Holonus.Backend

/-- A thrown error is a `boom` error, a timeout or another error, which may carry the label of a
transient transaction error. -/
inductive Failure where
  | boom (statusCode : Nat) (message : String)
  | timeout
  | other (transient : Bool)
  deriving DecidableEq, Repr

namespace Failure

def isBoom : Failure → Bool
  | boom _ _ => true
  | _ => false

def isTransient : Failure → Bool
  | other transient => transient
  | _ => false

def badRequest (message : String) : Failure := boom 400 message

def unauthorized (message : String) : Failure := boom 401 message

def notFound (message : String) : Failure := boom 404 message

def notAcceptable (message : String) : Failure := boom 406 message

def conflict (message : String) : Failure := boom 409 message

def internal (message : String) : Failure := boom 500 message

/-- The catch blocks pass a `boom` error on and replace every other error. -/
def orElse (failure : Failure) (message : String) : Failure :=
  if failure.isBoom then failure else notAcceptable message

end Failure

namespace Messages

def fileCreateError : String := "File create failure in database"

def fileFindError : String := "File find failure in database"

def fileUpdateError : String := "File update failure in database"

def fileNotfoundError : String := "File is not found in database"

def keyCreateError : String := "Key create failure in database"

def keyFindError : String := "Key find failure in database"

def keyConflictError : String := "Key is conflict in database"

def keyNotfoundError : String := "Key is not found in database"

def userFindError : String := "User find failure in database"

def userUpdateError : String := "User update failure in database"

def userNotfoundError : String := "User is not found in database"

def chainFileSetError : String := "File set failure in blockchain"

def chainFileGetError : String := "File get failure in blockchain"

def chainFileNotfoundError : String := "File is not found in blockchain"

def chainKeySetError : String := "Key set failure in blockchain"

def chainKeyGetError : String := "Key get failure in blockchain"

def chainKeyNotfoundError : String := "Key is not found in blockchain"

def coinTransferError : String := "Transferring coin failed during blockchain process"

def ipfsAddError : String := "File add failure in ipfs"

def ipfsGetError : String := "File get failure in ipfs"

def ipfsNotfoundError : String := "File is not found in ipfs"

end Messages

end Holonus.Backend
