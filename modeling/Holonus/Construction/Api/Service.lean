/-
This file models the handlers of the service and runs the exchanges interleaved at their awaits.
-/

import Holonus.Construction.Api.Requests
import Holonus.Machine.Hosting

namespace Holonus.Api

open Holonus.Machine Holonus.Backend Holonus.Auth

/-- The authorization attributes a request to a user and to the document of the user's key. -/
structure LoginUser (Id : Type) where
  userId : String
  userName : String
  publicKeyId : Ref Id
  deriving DecidableEq, Repr

/-- A row of the response log. -/
structure LogRow where
  userId : String
  date : String
  endpoint : String
  role : String
  statusCode : Nat
  message : LogMessage
  deriving DecidableEq, Repr

/-- Besides the operations of the files and keys an exchange awaits these. -/
inductive Own where
  | auth (op : Auth.Op Json)
  | populate (keysId : String)
  | findUser (userId : String)
  | createLog (row : LogRow)
  | finish (response : Response)
  | balanceOf (account : Coin.Address)
  | getAccounts
  | unlockAccount (account : Coin.Address)
  | estimateGas (transaction : Coin.Transaction)
  | send (transaction : Coin.Transaction)

section
variable {Id PublicKey : Type}

/-- The log reads the identifier and the role of a user. -/
def Answer (Id : Type) : Own → Type
  | .auth op => Auth.Reply op
  | .populate _ => Option Id
  | .findUser _ => Option (String × String)
  | .balanceOf _ => Nat
  | .getAccounts => List Coin.Address
  | _ => Unit

abbrev Op (Id : Type) := HostOp (Backend.Op Id) (Backend.Request Id) Own

abbrev Reply (Id PublicKey : Type) : Op Id → Type :=
  HostOp.Reply (Backend.Reply PublicKey) (Answer Id)

/-- An exchange awaits operations and may throw. -/
abbrev Task (Id PublicKey Value : Type) := Program (Op Id) (Reply Id PublicKey) Failure Value

def call (op : Own) : Task Id PublicKey (Answer Id op) := Program.call (HostOp.own op)

def authenticate {Value : Type} (program : Auth.Task Json Value) : Task Id PublicKey Value :=
  program.through fun op => HostOp.own (Own.auth op)

/-- The core function of a file or key request runs as the request does alone. -/
def core (platform : Platform Id PublicKey) (request : Backend.Request Id) :
    Task Id PublicKey (Backend.Response Id) := do
  Program.call (HostOp.enter request)
  (request.program platform).through HostOp.inner

/-- The lookup of a user replaces the reference to the key by its document. -/
def populate : Option String → Task Id PublicKey (Ref Id)
  | none => return .missing
  | some keysId => do
      match ← guarded Messages.userFindError (call (.populate keysId)) with
      | some id => return .document id
      | none => return .missing

def useAuthorization (tokens : TokenPlatform Json) (headers : Headers) :
    Task Id PublicKey (LoginUser Id) := do
  let (loginUser, _) ← authenticate (Auth.useAuthorization tokens headers)
  let publicKeyId ← populate loginUser.publicKeyId
  return ⟨loginUser.userId, loginUser.userName, publicKeyId⟩

def acknowledge (statusCode : Nat) (message : String) (data : Data) : Except Failure Response :=
  .ok ⟨statusCode, generateResponseData true (some message) (some data)⟩

/-- The file and key handlers show the results of their core functions; the names of a file are sent
in headers, and no core function returns a result of another kind. -/
def render (service : Service Id PublicKey) :
    Route → Backend.Response Id → Except Failure Response
  | .postFile, .fileId id => acknowledge 201 "created" (.fileId (service.platform.idText id))
  | .getFile _, .file fileName mimeType attachement =>
      match service.gateway.encodeURI fileName with
      | none => .error (.other false)
      | some encoded =>
          if service.gateway.isHeaderValue mimeType then
            .ok ⟨200, .attachement encoded mimeType attachement⟩
          else .error (.other false)
  | .putFile fileId, .nothing => acknowledge 201 "replaced" (.fileId fileId)
  | .deleteFile fileId, .nothing => acknowledge 200 "deleted" (.fileId fileId)
  | .postKey, .publicKeyId id =>
      acknowledge 201 "registered" (.publicKeyId (service.platform.idText id))
  | .getKey _, .key publicKeyId publicKey =>
      .ok ⟨200, generateResponseData true none
        (some (.key (publicKeyId.map service.platform.idText) publicKey))⟩
  | .putKey _, .publicKeyText publicKeyId => acknowledge 200 "replaced" (.publicKeyId publicKeyId)
  | .deleteKey publicKeyId, .nothing => acknowledge 200 "deleted" (.publicKeyId publicKeyId)
  | _, _ => .error (.other false)

/-- A file or key handler checks its inputs, calls its core function and shows the result. -/
def answering (service : Service Id PublicKey) (request : Request) (route : Route)
    (check : Except Failure Unit) (body : Backend.Body Id) : Task Id PublicKey Response := do
  Program.done check
  let result ← core service.platform ⟨request.attempts, body⟩
  Program.done (render service route result)

namespace FilesProcess

variable (service : Service Id PublicKey) (request : Request) (loginUser : LoginUser Id)

def postFile : Task Id PublicKey Response :=
  answering service request .postFile (checkInputValue (postFileValid request))
    (.postFile loginUser.userId loginUser.publicKeyId
      ((request.fileField FileFields.fileName).getD "")
      ((request.fileField FileFields.mimeType).getD "")
      (service.gateway.utf8 ((request.fileField FileFields.attachement).getD "")))

def getFile (fileId : String) : Task Id PublicKey Response :=
  answering service request (.getFile fileId)
    (checkInputValue (getFileValid service.gateway fileId)) (.getFile loginUser.userId fileId)

def putFile (fileId : String) : Task Id PublicKey Response :=
  answering service request (.putFile fileId)
    (checkInputValue (putFileValid service.gateway fileId request))
    (.putFile loginUser.userId fileId
      ((request.fileField FileFields.fileName).getD "")
      ((request.fileField FileFields.mimeType).getD "")
      (service.gateway.utf8 ((request.fileField FileFields.attachement).getD "")))

def deleteFile (fileId : String) : Task Id PublicKey Response :=
  answering service request (.deleteFile fileId)
    (checkInputValue (deleteFileValid service.gateway fileId))
    (.deleteFile loginUser.userId fileId)

end FilesProcess

namespace KeysProcess

variable (service : Service Id PublicKey) (request : Request) (loginUser : LoginUser Id)

/-- The first field of the body holds the key. -/
def firstValue : Option String := request.body.fields.head?.bind Prod.snd

/-- The first field of the body names the user. -/
def postKey : Task Id PublicKey Response :=
  answering service request .postKey (postKeyValid2 request loginUser.userId)
    (.postKey ((request.body.fields.head?.map Prod.fst).getD "") (firstValue request))

def getKey (publicKeyId : String) : Task Id PublicKey Response :=
  answering service request (.getKey publicKeyId)
    (checkInputValue (getKeyValid service.gateway publicKeyId))
    (.getKey loginUser.userId publicKeyId)

def putKey (publicKeyId : String) : Task Id PublicKey Response :=
  answering service request (.putKey publicKeyId) (putKeyValid2 request)
    (.putKey loginUser.userId publicKeyId (firstValue request))

def deleteKey (publicKeyId : String) : Task Id PublicKey Response :=
  answering service request (.deleteKey publicKeyId)
    (checkInputValue (deleteKeyValid service.gateway publicKeyId))
    (.deleteKey loginUser.userId publicKeyId)

end KeysProcess

namespace CoinService

def coinGetError : String := "Getting balance failed during blockchain process"

def getBalance (account : Coin.Address) : Task Id PublicKey Nat :=
  guarded coinGetError (call (.balanceOf account))

def getManageAccount (gateway : Gateway) : Task Id PublicKey (Option Coin.Address) :=
  match gateway.account with
  | some account => return some account
  | none => do
      let accounts : List Coin.Address ← call .getAccounts
      return accounts.head?

/-- The source compares the promise of the check, and a promise never equals `false`. -/
def allowExecution : Task Id PublicKey Unit :=
  failIf CallResult.promise.equalsFalse (.other false)

/-- An amount that does not fit fails when the first call is encoded. -/
def transfer (gateway : Gateway) (source target : Coin.Address) (amount : Option Coin.Uint256) :
    Task Id PublicKey Unit :=
  guarded Messages.coinTransferError do
    let manageAddress ← getManageAccount gateway
    failIf manageAddress.isNone (.other false)
    allowExecution
    call (.unlockAccount source)
    let amount ← present amount
    call (.estimateGas ⟨source, .approve target amount⟩)
    call (.send ⟨source, .approve target amount⟩)
    call (.estimateGas ⟨source, .transfer target amount⟩)
    call (.send ⟨source, .transfer target amount⟩)

end CoinService

namespace CoinsProcess

variable (service : Service Id PublicKey)

def getCoins (account : String) : Task Id PublicKey Response := do
  Program.done (checkInputValue (getCoinsValid service.gateway account))
  let balance ← CoinService.getBalance (service.gateway.address account)
  return ⟨200, generateResponseData true none (some (.balance account balance))⟩

/-- The transaction info has no field `hash`, so that the response shows none. -/
def postCoins (source target amount : String) : Task Id PublicKey Response := do
  Program.done (checkInputValue (postCoinsValid service.gateway source target amount))
  CoinService.transfer service.gateway (service.gateway.address source)
    (service.gateway.address target) (service.gateway.amount amount)
  return ⟨200, generateResponseData true none (some (.transfer source target amount))⟩

end CoinsProcess

namespace AuthProcess

variable (service : Service Id PublicKey)

def postLogin (request : Request) : Task Id PublicKey Response := do
  match ← authenticate (Auth.AuthProcess.postLogin service.tokens
    (request.body.login.data service.gateway.validator)) with
  | .login userId authorization accessExpire =>
      return ⟨200, generateResponseData true none
        (some (.login userId authorization accessExpire))⟩
  | .noContent => throw (.other false)

/-- The handler passes only the token on. -/
def deleteLogin : Task Id PublicKey Response := do
  let _ ← authenticate (Auth.AuthCore.deleteLogin service.tokens ⟨.missing, .missing⟩)
  return ⟨204, .message "Deleting record succeed"⟩

end AuthProcess

/-- The handler of each route; the login is the only one without an authorized user. -/
def handler (service : Service Id PublicKey) (request : Request) (loginUser : LoginUser Id) :
    Route → Task Id PublicKey Response
  | .postLogin => AuthProcess.postLogin service request
  | .deleteLogin => AuthProcess.deleteLogin service
  | .getCoins account => CoinsProcess.getCoins service account
  | .postCoins source target amount => CoinsProcess.postCoins service source target amount
  | .postFile => FilesProcess.postFile service request loginUser
  | .getFile fileId => FilesProcess.getFile service request loginUser fileId
  | .putFile fileId => FilesProcess.putFile service request loginUser fileId
  | .deleteFile fileId => FilesProcess.deleteFile service request loginUser fileId
  | .postKey => KeysProcess.postKey service request loginUser
  | .getKey publicKeyId => KeysProcess.getKey service request loginUser publicKeyId
  | .putKey publicKeyId => KeysProcess.putKey service request loginUser publicKeyId
  | .deleteKey publicKeyId => KeysProcess.deleteKey service request loginUser publicKeyId

/-- An error is shown by the error handler. -/
def shownAs : Except Failure Response → Response
  | .ok response => response
  | .error err => errorHandler err

/-- The router checks the content type, finds the route, authorizes the user and calls the handler.
The user is known once the authorization has succeeded. -/
def router (service : Service Id PublicKey) (request : Request) :
    Task Id PublicKey (Option (LoginUser Id) × Response) :=
  match checkInputValue (contentTypeValid request) with
  | .error err => return (none, errorHandler err)
  | .ok _ =>
      match resource request.path with
      | .error err => return (none, errorHandler err)
      | .ok _ =>
          match request.route with
          | none => return (none, notFoundHandler)
          | some .postLogin => do
              let outcome ← (AuthProcess.postLogin service request).settled
              return (none, shownAs outcome)
          | some route => do
              match ← (useAuthorization service.tokens request.headers).settled with
              | .error err => return (none, errorHandler err)
              | .ok loginUser => do
                  let outcome ← (handler service request loginUser route).settled
                  return (some loginUser, shownAs outcome)

/-- The log names the authorized user, and an error of the log is only printed. -/
def logResponse (service : Service Id PublicKey) (request : Request)
    (loginUser : Option (LoginUser Id)) (response : Response) : Task Id PublicKey Unit :=
  tryCatch (do
    let now : Nat ← call (.auth .readClock)
    let row : LogRow := ⟨"", service.tokens.formatDateTime now, request.url, "",
      response.statusCode, logMessage service.gateway response.content⟩
    match loginUser with
    | none => call (.createLog row)
    | some loginUser => do
        let user ← present (← guarded Messages.userFindError (call (.findUser loginUser.userId)))
        call (.createLog { row with userId := user.1, role := user.2 }))
    fun _ => return

def finish (response : Response) : Task Id PublicKey Unit := call (.finish response)

/-- The response is sent before it is logged; `cors` answers a request for options, and that answer is
not logged. -/
def exchange (service : Service Id PublicKey) (request : Request) : Task Id PublicKey Unit :=
  if request.method = .options then finish preflight
  else do
    let (loginUser, response) ← router service request
    finish response
    logResponse service request loginUser (request.send response)

/-- An exchange keeps its request, the response of its handler and the transactions that were executed
for it, the latest first. -/
structure Exchange where
  request : Request
  response : Option Response
  sent : List Coin.Transaction

/-- What the client gets. -/
def Exchange.answer (exchange : Exchange) : Option Response :=
  exchange.response.map exchange.request.send

/-- The users collection is split between the two parts, which hold different fields of it. A stored
token and a row of the log stand with the index of their exchange. -/
structure World (Id PublicKey : Type) where
  backend : Backend.World Id PublicKey
  auth : Auth.World
  coin : Coin.System
  role : String → String
  exchanges : Nat → Option Exchange
  issues : List (Nat × String × String)
  logs : List (Nat × LogRow)

/-- Time passes before an operation of the service proceeds, fails or takes effect without a
reply. -/
inductive Choice (Id PublicKey : Type) where
  | backend (choice : Backend.Choice Id PublicKey)
  | proceed (elapsed : Nat)
  | fail (failure : Failure) (elapsed : Nat)
  | lose (failure : Failure) (elapsed : Nat)

/-- Reading the clock and sending the response cannot fail. -/
def Own.canFail : Own → Bool
  | .auth .readClock => false
  | .finish _ => false
  | _ => true

variable [DecidableEq Id]

/-- The reference to the key stands in the part of the files and keys. -/
def withKeysId (database : Database Id) (account : Account) : Account :=
  { account with keysId := (database.findUser account.userId).bind User.keysId }

def authReply (database : Database Id) : (op : Auth.Op Json) → Auth.Reply op → Auth.Reply op
  | .findByLogin _ _, found => Option.map (withKeysId database) found
  | .findByToken _, found => Option.map (withKeysId database) found
  | .updateToken _ _, ok => ok
  | .readClock, now => now

/-- The token that an operation of the exchange stores, with its user. -/
def issued (index : Nat) : Auth.Op Json → List (Nat × String × String)
  | .updateToken userId accessToken => [(index, userId, accessToken)]
  | _ => []

def World.record (world : World Id PublicKey) (index : Nat) (update : Exchange → Exchange) :
    World Id PublicKey :=
  { world with
    exchanges := Function.update world.exchanges index ((world.exchanges index).map update) }

/-- A call that reverts throws. -/
def fromNode {Value : Type} : Except Machine.Fault Value → Except Failure Value
  | .ok value => .ok value
  | .error _ => .error (.other false)

def World.respond (service : Service Id PublicKey) (world : World Id PublicKey) (index : Nat) :
    (op : Own) → Except Failure (Answer Id op) × World Id PublicKey
  | .auth op =>
      let (reply, auth) := world.auth.respond service.tokens op
      (.ok (authReply world.backend.store.database op reply),
        { world with auth := auth, issues := issued index op ++ world.issues })
  | .populate keysId =>
      (match service.platform.castId keysId with
      | none => .error (.other false)
      | some id =>
          .ok ((world.backend.store.database.keys.find? fun row => row.id = id).map KeyRow.id),
        world)
  | .findUser userId =>
      (.ok ((world.auth.accounts.find? fun account => account.userId = userId).map
        fun account => (account.userId, world.role account.userId)), world)
  | .createLog row => (.ok (), { world with logs := world.logs ++ [(index, row)] })
  | .finish response =>
      (.ok (), world.record index fun exchange => { exchange with response := some response })
  | .balanceOf account =>
      (fromNode ((Coin.TokenERC20.balanceOf world.coin account).map fun balance => balance.toNat),
        world)
  | .getAccounts => (.ok service.gateway.accounts, world)
  | .unlockAccount _ => (.ok (), world)
  | .estimateGas transaction =>
      (fromNode ((Coin.execute world.coin transaction).map fun _ => ()), world)
  | .send transaction =>
      match Coin.execute world.coin transaction with
      | .error _ => (.error (.other false), world)
      | .ok coin => (.ok (), { world with coin := coin }.record index fun exchange =>
          { exchange with sent := transaction :: exchange.sent })

def World.elapse (world : World Id PublicKey) (elapsed : Nat) : World Id PublicKey :=
  { world with auth := { world.auth with clock := world.auth.clock + elapsed } }

/-- The exchange with an index performs one operation. -/
def World.perform (service : Service Id PublicKey) (index : Nat) (op : Op Id)
    (choice : Choice Id PublicKey) (world : World Id PublicKey) :
    Option (Except Failure (Reply Id PublicKey op) × World Id PublicKey) :=
  match op, choice with
  | .inner op, .backend choice =>
      (world.backend.perform service.platform index op choice).map fun performed =>
        (performed.1, { world with backend := performed.2 })
  | .enter request, .proceed _ =>
      if (Backend.runtime service.platform).free index world.backend then
        some (.ok (), { world with
          backend := (Backend.runtime service.platform).enroll index request world.backend })
      else none
  | .own op, .proceed elapsed => some ((world.elapse elapsed).respond service index op)
  | .own op, .fail failure elapsed =>
      if op.canFail then some (.error failure, world.elapse elapsed) else none
  | .own op, .lose failure elapsed =>
      if op.canFail then some (.error failure, ((world.elapse elapsed).respond service index op).2)
      else none
  | _, _ => none

def runtime (service : Service Id PublicKey) :
    Runtime (Op Id) (Reply Id PublicKey) Failure Unit (World Id PublicKey) (Choice Id PublicKey)
      Request where
  perform := World.perform service
  program := exchange service
  free index world := (world.exchanges index).isNone
  enroll index request world :=
    { world with exchanges := Function.update world.exchanges index (some ⟨request, none, []⟩) }

/-- What the service finds when it starts. -/
structure Initial (Id : Type) where
  store : Store Id
  accounts : List Account
  clock : Nat
  coin : Coin.System
  role : String → String

/-- No exchange has started. -/
def Initial.world (initial : Initial Id) : World Id PublicKey where
  backend := ⟨initial.store, fun _ => none⟩
  auth := ⟨initial.accounts, initial.clock, []⟩
  coin := initial.coin
  role := initial.role
  exchanges := fun _ => none
  issues := []
  logs := []

/-- The exchanges start and interleave at their awaits as the moves say. -/
def reached (service : Service Id PublicKey) (initial : Initial Id)
    (moves : List (Move (Choice Id PublicKey) Request)) :
    Pool (Op Id) (Reply Id PublicKey) Failure Unit (World Id PublicKey) :=
  run (runtime service).advance ⟨initial.world, fun _ => none⟩ moves

end

end Holonus.Api
