/-
This file models the login and logout requests, the authorization of a header and their runs.
-/

import Holonus.Construction.Backend.Models
import Holonus.Machine.Interleaving

namespace Holonus.Auth

open Holonus.Machine Holonus.Backend

/-- A decoded token may carry an expiry in seconds. -/
structure Claims where
  exp : Option Nat
  deriving DecidableEq, Repr

/-- The decoding throws on a token of type JWT whose payload is no JSON. -/
inductive Decoded where
  | claims (value : Claims)
  | nothing
  | thrown
  deriving DecidableEq, Repr

def Decoded.found : Decoded → Option Claims
  | .claims value => some value
  | _ => none

/-- The packages are known by their documented laws only; a token expires after 24 hours, and
times are in milliseconds. -/
structure TokenPlatform (Selector : Type) where
  hash : String → String
  sign : String → Nat → String
  decode : String → Decoded
  decode_sign : ∀ userId time, decode (sign userId time) = .claims ⟨some (time / 1000 + 86400)⟩
  selects : Option Selector → String → Bool
  formatDateTime : Nat → String

/-- The body of a login request may name the user by a text or by a query object. -/
inductive LoginId (Selector : Type) where
  | missing
  | text (value : String)
  | query (selector : Selector)
  deriving DecidableEq, Repr

inductive Password where
  | missing
  | text (value : String)
  | other
  deriving DecidableEq, Repr

structure LoginData (Selector : Type) where
  loginId : LoginId Selector
  password : Password
  deriving DecidableEq, Repr

/-- The users collection keeps the latest token of each user. -/
structure Account where
  userId : String
  userName : String
  password : String
  accessToken : String
  keysId : Option String
  deriving DecidableEq, Repr

/-- The authorization attributes a request to a user. -/
structure LoginUser where
  userId : String
  userName : String
  publicKeyId : Option String
  deriving DecidableEq, Repr

structure Headers where
  authorization : Option String
  remoteAddress : String
  deriving DecidableEq, Repr

inductive Op (Selector : Type) where
  | findByLogin (loginId : LoginId Selector) (password : String)
  | findByToken (accessToken : String)
  | updateToken (userId accessToken : String)
  | readClock
  deriving DecidableEq, Repr

section
variable {Selector : Type}

def Reply : Op Selector → Type
  | .findByLogin _ _ => Option Account
  | .findByToken _ => Option Account
  | .updateToken _ _ => Bool
  | .readClock => Nat

/-- A request awaits operations and may throw. -/
abbrev Task (Selector Value : Type) := Program (Op Selector) Reply Failure Value

def call (op : Op Selector) : Task Selector (Reply op) := Program.call op

namespace UsersModel

def findByLogin (loginId : LoginId Selector) (password : String) :
    Task Selector (Option Account) :=
  guarded Messages.userFindError (call (.findByLogin loginId password))

def findByToken (accessToken : String) : Task Selector (Option Account) :=
  guarded Messages.userFindError (call (.findByToken accessToken))

def updateToken (userId accessToken : String) : Task Selector Bool :=
  guarded Messages.userUpdateError (call (.updateToken userId accessToken))

end UsersModel

/-- The hash update throws on an argument that is no text. -/
def getHash (platform : TokenPlatform Selector) : Password → Task Selector String
  | .text value => return platform.hash value
  | .missing => throw (.other false)
  | .other => throw (.other false)

def makeNewAccessToken (platform : TokenPlatform Selector) (userId : String) :
    Task Selector String := do
  let time : Nat ← call .readClock
  return platform.sign userId time

namespace AuthUtil

/-- The header is split at its spaces. -/
def words (authorization : String) : List String :=
  (authorization.toList.splitOn ' ').map String.ofList

def getAccessTokenFromHeader (headers : Headers) : Except Failure String :=
  match headers.authorization with
  | none => .error (.badRequest ("authorization is invalid, remote=" ++ headers.remoteAddress))
  | some authorization =>
      if authorization = "" then
        .error (.badRequest ("authorization is invalid, remote=" ++ headers.remoteAddress))
      else
        match words authorization with
        | "Bearer" :: accessToken :: _ =>
            if accessToken = "" then .error (.badRequest "authorization is invalid")
            else .ok accessToken
        | _ => .error (.badRequest "authorization is invalid")

/-- A token without an expiry never expires. -/
def isExpired (claims : Claims) (now : Nat) : Bool :=
  match claims.exp with
  | none => false
  | some exp => exp * 1000 < now

def checkAccessTokenExpiry (platform : TokenPlatform Selector) (accessToken : String) :
    Task Selector Unit := do
  match platform.decode accessToken with
  | .thrown => throw (.other false)
  | .nothing => throw (.badRequest "authorization is invalid")
  | .claims claims => do
      let now : Nat ← call .readClock
      failIf (isExpired claims now) (.unauthorized "authorization is invalid")

def getUserByAccessToken (accessToken : String) : Task Selector Account := do
  match ← UsersModel.findByToken accessToken with
  | some userInfo => return userInfo
  | none => throw (.unauthorized "authorization is invalid")

end AuthUtil

/-- The authorized request keeps its user and its token. -/
def authorizationDefault (platform : TokenPlatform Selector) (headers : Headers) :
    Task Selector (LoginUser × String) := do
  let accessToken ← Program.done (AuthUtil.getAccessTokenFromHeader headers)
  AuthUtil.checkAccessTokenExpiry platform accessToken
  let userInfo ← AuthUtil.getUserByAccessToken accessToken
  return (⟨userInfo.userId, userInfo.userName, userInfo.keysId⟩, accessToken)

def useAuthorization (platform : TokenPlatform Selector) (headers : Headers) :
    Task Selector (LoginUser × String) := do
  failIf (headers.authorization = none ∨ headers.authorization = some "")
    (.badRequest "authorization is invalid")
  authorizationDefault platform headers

inductive Response where
  | login (userId authorization accessExpire : String)
  | noContent
  deriving DecidableEq, Repr

namespace AuthCore

def updateAccessToken (platform : TokenPlatform Selector) (userInfo : Account) :
    Task Selector String := do
  let accessToken ← makeNewAccessToken platform userInfo.userId
  let ok ← UsersModel.updateToken userInfo.userId accessToken
  failIf (!ok) (.internal "update accesstoken failed")
  return accessToken

/-- Login and logout have the same body. -/
def login (platform : TokenPlatform Selector) (data : LoginData Selector) :
    Task Selector Response := do
  let password ← getHash platform data.password
  match ← UsersModel.findByLogin data.loginId password with
  | none => throw (.unauthorized "login incorrect")
  | some userInfo => do
      let accessToken ← updateAccessToken platform userInfo
      let decodedData ← present (platform.decode accessToken).found
      return .login userInfo.userId ("Bearer" ++ " " ++ accessToken)
        (platform.formatDateTime ((decodedData.exp.getD 0) * 1000))

def postLogin (platform : TokenPlatform Selector) (data : LoginData Selector) :
    Task Selector Response :=
  login platform data

def deleteLogin (platform : TokenPlatform Selector) (data : LoginData Selector) :
    Task Selector Response :=
  login platform data

end AuthCore

namespace AuthProcess

def checkInputValue (data : LoginData Selector) : Except Failure Unit :=
  match data.loginId, data.password with
  | .missing, _ => .error (.badRequest "loginId is Invalid value")
  | .text "", _ => .error (.badRequest "loginId is Invalid value")
  | _, .missing => .error (.badRequest "password is Invalid value")
  | _, .text "" => .error (.badRequest "password is Invalid value")
  | _, _ => .ok ()

def postLogin (platform : TokenPlatform Selector) (data : LoginData Selector) :
    Task Selector Response := do
  Program.done (checkInputValue data)
  AuthCore.postLogin platform data

/-- The logout passes only the token on. -/
def deleteLogin (platform : TokenPlatform Selector) (headers : Headers) :
    Task Selector Response := do
  let _ ← useAuthorization platform headers
  let _ ← AuthCore.deleteLogin platform ⟨.missing, .missing⟩
  return .noContent

end AuthProcess

inductive Request (Selector : Type) where
  | postLogin (data : LoginData Selector)
  | deleteLogin (headers : Headers)
  deriving DecidableEq, Repr

def Request.program (platform : TokenPlatform Selector) :
    Request Selector → Task Selector Response
  | .postLogin data => AuthProcess.postLogin platform data
  | .deleteLogin headers => AuthProcess.deleteLogin platform headers

/-- The record keeps the stored tokens and the logout requests. -/
inductive Record where
  | issued (userId accessToken : String)
  | deleted (accessToken : String)
  deriving DecidableEq, Repr

/-- The latest record comes first. -/
structure World where
  accounts : List Account
  clock : Nat
  records : List Record

/-- Time passes before an awaited operation proceeds or fails. -/
inductive Choice where
  | proceed (elapsed : Nat)
  | fail (failure : Failure) (elapsed : Nat)

def LoginId.selects (platform : TokenPlatform Selector) : LoginId Selector → String → Bool
  | .text value, userId => value = userId
  | .query selector, userId => platform.selects (some selector) userId
  | .missing, userId => platform.selects none userId

def Account.store (userId accessToken : String) (account : Account) : Account :=
  if account.userId = userId then { account with accessToken := accessToken } else account

def World.respond (platform : TokenPlatform Selector) (world : World) :
    (op : Op Selector) → Reply op × World
  | .findByLogin loginId password =>
      (world.accounts.find? fun account =>
        loginId.selects platform account.userId ∧ account.password = password, world)
  | .findByToken accessToken =>
      (world.accounts.find? fun account => account.accessToken = accessToken, world)
  | .updateToken userId accessToken =>
      (true, { world with
        accounts := world.accounts.map (Account.store userId accessToken)
        records := .issued userId accessToken :: world.records })
  | .readClock => (world.clock, world)

/-- Reading the clock cannot fail. -/
def World.perform (platform : TokenPlatform Selector) (_ : Nat) (op : Op Selector)
    (choice : Choice) (world : World) : Option (Except Failure (Reply op) × World) :=
  match choice with
  | .proceed elapsed =>
      let (reply, next) := respond platform { world with clock := world.clock + elapsed } op
      some (.ok reply, next)
  | .fail failure elapsed =>
      match op with
      | .readClock => none
      | _ => some (.error failure, { world with clock := world.clock + elapsed })

/-- A logout request is recorded with the token that its header carries. -/
def World.enroll (request : Request Selector) (world : World) : World :=
  match request with
  | .postLogin _ => world
  | .deleteLogin headers =>
      match AuthUtil.getAccessTokenFromHeader headers with
      | .ok accessToken => { world with records := .deleted accessToken :: world.records }
      | .error _ => world

def runtime (platform : TokenPlatform Selector) :
    Runtime (Op Selector) Reply Failure Response World Choice (Request Selector) where
  perform := World.perform platform
  program := Request.program platform
  free _ _ := true
  enroll _ request world := world.enroll request

/-- The run of the requests from the given accounts. -/
def reached (platform : TokenPlatform Selector) (accounts : List Account) (clock : Nat)
    (moves : List (Move Choice (Request Selector))) :
    Pool (Op Selector) Reply Failure Response World :=
  run (runtime platform).advance ⟨⟨accounts, clock, []⟩, fun _ => none⟩ moves

/-- At the moment the header is authorized for the user. -/
def Authorizes (platform : TokenPlatform Selector) (world : World) (now : Nat) (headers : Headers)
    (loginUser : LoginUser) : Prop :=
  ∃ accessToken next, (authorizationDefault platform headers).alone (World.perform platform 0)
    [.proceed 0, .proceed 0] { world with clock := now } =
      some (.ok (loginUser, accessToken), next)

end

end Holonus.Auth
