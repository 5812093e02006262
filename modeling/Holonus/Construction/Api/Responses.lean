/-
This file models the responses of the service and its error handler.
-/

import Holonus.Construction.Backend.Database

namespace Holonus.Api

open Holonus.Backend

/-- The data of a response shows identifiers as texts. -/
inductive Data where
  | login (userId authorization accessExpire : String)
  | fileId (fileId : String)
  | publicKeyId (publicKeyId : String)
  | key (publicKeyId publicKey : Option String)
  | balance (account : String) (balance : Nat)
  | transfer (source target amount : String)
  deriving DecidableEq, Repr

inductive Content where
  | json (success : Bool) (message : Option String) (data : Option Data)
  | message (text : String)
  | attachement (fileName mimeType : String) (data : Bytes)
  | empty
  deriving DecidableEq, Repr

/-- The names of a file are sent in headers, which stay when the body is left out. -/
def Content.bare : Content → Content
  | .attachement fileName mimeType _ => .attachement fileName mimeType []
  | _ => .empty

structure Response where
  statusCode : Nat
  content : Content
  deriving DecidableEq, Repr

/-- An empty message is left out. -/
def generateResponseData (success : Bool) (message : Option String) (data : Option Data) : Content :=
  .json success (message.filter (· ≠ "")) data

/-- The error handler shows the status and the message of a `boom` error only. -/
def shown : Failure → Nat × String
  | .boom statusCode message => (statusCode, message)
  | _ => (500, "Internal Server Error")

def errorHandler (err : Failure) : Response :=
  ⟨(shown err).1, generateResponseData false (some (shown err).2) none⟩

def notFoundHandler : Response :=
  ⟨404, generateResponseData false (some "Not Found") none⟩

/-- The answer of `cors` to a request for the options of a path. -/
def preflight : Response := ⟨204, .empty⟩

/-- The log keeps the value of a body that parses as JSON, here by what was sent or by its text, and
any other body as its text. -/
inductive LogMessage where
  | sent (content : Content)
  | parsed (body : String)
  | text (body : String)
  deriving DecidableEq, Repr

end Holonus.Api
