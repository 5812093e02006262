/-
This file models the HTTP requests of the service, its routes and the checks of their inputs.
-/

import Holonus.Construction.Api.Responses
import Holonus.Construction.Auth.LoginBody
import Holonus.Construction.Backend.CoinTransfer
import Holonus.Construction.Backend.Requests

namespace Holonus.Api

open Holonus.Machine Holonus.Backend Holonus.Auth

inductive Method where
  | get
  | head
  | post
  | put
  | delete
  | options
  | other
  deriving DecidableEq, Repr

/-- The handlers of GET serve HEAD as well. -/
def Method.handled : Method → Method
  | .head => .get
  | method => method

/-- A part of the path stands with the text that its escapes decode to, if they do. -/
structure Segment where
  text : String
  value : Option String
  deriving DecidableEq, Repr

/-- The router compares names without their case. -/
def Segment.name (segment : Segment) : String :=
  String.ofList (segment.text.toList.map Char.toLower)

/-- The fields of an uploaded file, as far as they are texts or missing. -/
structure FileFields where
  fileName : Option String
  mimeType : Option String
  attachement : Option String
  deriving DecidableEq, Repr

/-- The handlers read a parsed body through these views; the fields stand in their order with the
text of their value, and a null value has no text. -/
structure Body where
  login : LoginBody
  file : Option FileFields
  fields : List (String × Option String)

/-- The path and the URL are those below `/api/v1`, and a last slash of the path does not count. The
request is fresh if its conditional headers match the entity tag of the response. -/
structure Request where
  method : Method
  path : List Segment
  url : String
  contentType : Option String
  headers : Headers
  fresh : Bool
  body : Body
  attempts : Nat

/-- The packages and the configuration are known by these functions only. -/
structure Gateway where
  validator : Validator
  isMongoId : String → Bool
  isEthereumAddress : String → Bool
  isInt : String → Bool
  address : String → Coin.Address
  amount : String → Option Coin.Uint256
  utf8 : String → Bytes
  utf8Text : Bytes → String
  isJson : String → Bool
  encodeURI : String → Option String
  isHeaderValue : String → Bool
  account : Option Coin.Address
  accounts : List Coin.Address

structure Service (Id PublicKey : Type) where
  platform : Platform Id PublicKey
  tokens : TokenPlatform Json
  gateway : Gateway

inductive Route where
  | postLogin
  | deleteLogin
  | getCoins (account : String)
  | postCoins (source target amount : String)
  | postFile
  | getFile (fileId : String)
  | putFile (fileId : String)
  | deleteFile (fileId : String)
  | postKey
  | getKey (publicKeyId : String)
  | putKey (publicKeyId : String)
  | deleteKey (publicKeyId : String)
  deriving DecidableEq, Repr

/-- The paths that have a handler, with their parameters. -/
inductive Resource where
  | login
  | balance (account : String)
  | transfer (source target amount : String)
  | files
  | file (fileId : String)
  | keys
  | key (publicKeyId : String)
  deriving DecidableEq, Repr

/-- The router matches the path before the method, and a parameter that cannot be decoded throws. -/
def resource (path : List Segment) : Except Failure (Option Resource) :=
  if path.any fun segment => segment.text = "" then .ok none
  else
    match path.map Segment.name, path.map Segment.value with
    | ["auth", "login"], _ => .ok (some .login)
    | ["coins", _], [_, some account] => .ok (some (.balance account))
    | ["coins", _], _ => .error (.other false)
    | ["coins", _, _, _], [_, some source, some target, some amount] =>
        .ok (some (.transfer source target amount))
    | ["coins", _, _, _], _ => .error (.other false)
    | ["files"], _ => .ok (some .files)
    | ["files", _], [_, some fileId] => .ok (some (.file fileId))
    | ["files", _], _ => .error (.other false)
    | ["keys"], _ => .ok (some .keys)
    | ["keys", _], [_, some publicKeyId] => .ok (some (.key publicKeyId))
    | ["keys", _], _ => .error (.other false)
    | _, _ => .ok none

def route : Method → Resource → Option Route
  | .post, .login => some .postLogin
  | .delete, .login => some .deleteLogin
  | .get, .balance account => some (.getCoins account)
  | .post, .transfer source target amount => some (.postCoins source target amount)
  | .post, .files => some .postFile
  | .get, .file fileId => some (.getFile fileId)
  | .put, .file fileId => some (.putFile fileId)
  | .delete, .file fileId => some (.deleteFile fileId)
  | .post, .keys => some .postKey
  | .get, .key publicKeyId => some (.getKey publicKeyId)
  | .put, .key publicKeyId => some (.putKey publicKeyId)
  | .delete, .key publicKeyId => some (.deleteKey publicKeyId)
  | _, _ => none

def Request.route (request : Request) : Option Route :=
  match resource request.path with
  | .ok (some resource) => Api.route request.method.handled resource
  | _ => none

/-- A success that the client already has is sent as not modified. -/
def Request.status (request : Request) (statusCode : Nat) : Nat :=
  if request.fresh ∧ request.method.handled = .get ∧ 200 ≤ statusCode ∧ statusCode < 300 then 304
  else statusCode

/-- Some responses are sent without their body. -/
def Request.send (request : Request) (response : Response) : Response :=
  let statusCode := request.status response.statusCode
  if request.method = .head ∨ statusCode = 204 ∨ statusCode = 304 then
    ⟨statusCode, response.content.bare⟩
  else ⟨statusCode, response.content⟩

/-- The body of an attachement is parsed like any other one. -/
def logMessage (gateway : Gateway) : Content → LogMessage
  | .attachement _ _ data =>
      let body := gateway.utf8Text data
      if gateway.isJson body then .parsed body else .text body
  | .empty => .text ""
  | content => .sent content

/-- The first input that is not valid is named. -/
def checkInputValue : List (String × Bool) → Except Failure Unit
  | [] => .ok ()
  | (param, isValid) :: rest =>
      if isValid then checkInputValue rest
      else .error (.badRequest (param ++ " is Invalid value"))

def notEmpty (field : Option String) : Bool := field.any (· ≠ "")

def contentTypeValid (request : Request) : List (String × Bool) :=
  [("content-type",
    decide ("application/json".toList <:+: (request.contentType.getD "").toList))]

def Request.fileField (request : Request) (field : FileFields → Option String) : Option String :=
  request.body.file.bind field

namespace FilesProcess

def postFileValid (request : Request) : List (String × Bool) :=
  [("file", request.body.file.isSome),
    ("file.fileName", notEmpty (request.fileField FileFields.fileName)),
    ("file.mimeType", notEmpty (request.fileField FileFields.mimeType)),
    ("file.attachement", notEmpty (request.fileField FileFields.attachement))]

def getFileValid (gateway : Gateway) (fileId : String) : List (String × Bool) :=
  [("fileId", gateway.isMongoId fileId)]

def putFileValid (gateway : Gateway) (fileId : String) (request : Request) :
    List (String × Bool) :=
  [("fileId", gateway.isMongoId fileId),
    ("file.fileName", notEmpty (request.fileField FileFields.fileName)),
    ("file.mimeType", notEmpty (request.fileField FileFields.mimeType)),
    ("file.attachement", notEmpty (request.fileField FileFields.attachement))]

def deleteFileValid (gateway : Gateway) (fileId : String) : List (String × Bool) :=
  [("fileId", gateway.isMongoId fileId)]

end FilesProcess

namespace KeysProcess

def postKeyValid2 (request : Request) (userId : String) : Except Failure Unit :=
  match request.body.fields with
  | [] => .error (.badRequest "Invalid parameter")
  | (name, _) :: _ => if name = userId then .ok () else .error (.badRequest "Invalid parameter")

def getKeyValid (gateway : Gateway) (publicKeyId : String) : List (String × Bool) :=
  [("publicKeyId", gateway.isMongoId publicKeyId)]

def deleteKeyValid (gateway : Gateway) (publicKeyId : String) : List (String × Bool) :=
  [("publicKeyId", gateway.isMongoId publicKeyId)]

def putKeyValid2 (request : Request) : Except Failure Unit :=
  if request.body.fields.isEmpty then .error (.badRequest "body is Invalid value") else .ok ()

end KeysProcess

namespace CoinsProcess

def getCoinsValid (gateway : Gateway) (account : String) : List (String × Bool) :=
  [("account", gateway.isEthereumAddress account)]

def postCoinsValid (gateway : Gateway) (source target amount : String) : List (String × Bool) :=
  [("from", gateway.isEthereumAddress source), ("to", gateway.isEthereumAddress target),
    ("amount", gateway.isInt amount)]

end CoinsProcess

end Holonus.Api
