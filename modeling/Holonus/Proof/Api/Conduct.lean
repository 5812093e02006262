/-
This file states which operations each exchange awaits and how it responds.
-/

import Holonus.Construction.Api.Service
import Holonus.Proof.Backend.Obedience

namespace Holonus.Api

open Holonus.Machine Holonus.Backend Holonus.Auth

namespace Errors

def contentType : List (Nat × String) := [(400, "content-type is Invalid value")]

def authorization : List (Nat × String) :=
  [(400, "authorization is invalid"), (401, "authorization is invalid"),
    (406, Messages.userFindError), crash]

def inputs (params : List String) : List (Nat × String) :=
  params.map fun param => (400, param ++ " is Invalid value")

def postLogin : List (Nat × String) :=
  inputs ["loginId", "password"] ++ [(401, "login incorrect"), (406, Messages.userFindError),
    (406, Messages.userUpdateError), crash]

def deleteLogin : List (Nat × String) := authorization

def getCoins : List (Nat × String) :=
  authorization ++ inputs ["account"] ++ [(406, CoinService.coinGetError)]

def postCoins : List (Nat × String) :=
  authorization ++ inputs ["from", "to", "amount"] ++ [(406, Messages.coinTransferError)]

end Errors

/-- The errors that an exchange on the route can show. -/
def Route.errors : Route → List (Nat × String)
  | .postLogin => Errors.postLogin
  | .deleteLogin => Errors.deleteLogin
  | .getCoins _ => Errors.getCoins
  | .postCoins _ _ _ => Errors.postCoins
  | .postFile => Errors.authorization ++
      Errors.inputs ["file", "file.fileName", "file.mimeType", "file.attachement"] ++
        Backend.Errors.postFile
  | .getFile _ => Errors.authorization ++ Errors.inputs ["fileId"] ++ Backend.Errors.getFile
  | .putFile _ => Errors.authorization ++
      Errors.inputs ["fileId", "file.fileName", "file.mimeType", "file.attachement"] ++
        Backend.Errors.putFile
  | .deleteFile _ => Errors.authorization ++ Errors.inputs ["fileId"] ++ Backend.Errors.deleteFile
  | .postKey => Errors.authorization ++ [(400, "Invalid parameter")] ++ Backend.Errors.postKey
  | .getKey _ => Errors.authorization ++ Errors.inputs ["publicKeyId"]
  | .putKey _ => Errors.authorization ++ Errors.inputs ["body"] ++ Backend.Errors.putKey
  | .deleteKey _ => Errors.authorization ++ Errors.inputs ["publicKeyId"] ++ Backend.Errors.deleteKey

/-- A path that cannot be decoded has the error of a crash only. -/
def Request.errors (request : Request) : List (Nat × String) :=
  Errors.contentType ++
    match resource request.path, request.route with
    | .error _, _ => [crash]
    | .ok _, none => [(404, "Not Found")]
    | .ok _, some route => route.errors

/-- What the replies of a run say about the users, the balances and the transactions. -/
structure Facts where
  Foreign : Failure → Prop
  Authorized : String → Account → Prop
  Matched : LoginId Json → String → Account → Prop
  Read : Coin.Address → Nat → Prop
  Sent : Coin.Transaction → Prop

/-- The header carries a token of the user. -/
def Bears (facts : Facts) (request : Request) (userId : String) : Prop :=
  ∃ token account, AuthUtil.getAccessTokenFromHeader request.headers = .ok token ∧
    facts.Authorized token account ∧ account.userId = userId

section
variable {Id PublicKey : Type}

/-- The body of a login selects the user and has the password of the user. -/
def LogsIn (service : Service Id PublicKey) (facts : Facts) (request : Request) (userId : String) :
    Prop :=
  request.route = some .postLogin ∧
    ∃ password account,
      (request.body.login.data service.gateway.validator).password = .text password ∧
      facts.Matched (request.body.login.data service.gateway.validator).loginId
        (service.tokens.hash password) account ∧
      account.userId = userId

/-- The transaction is one of the two that the route asks for. -/
def Transfers (service : Service Id PublicKey) (request : Request)
    (transaction : Coin.Transaction) : Prop :=
  ∃ source target amount value, request.route = some (.postCoins source target amount) ∧
    service.gateway.amount amount = some value ∧
    (transaction = ⟨service.gateway.address source,
        .approve (service.gateway.address target) value⟩ ∨
      transaction = ⟨service.gateway.address source,
        .transfer (service.gateway.address target) value⟩)

/-- A bearer may send the transactions of the route. -/
def Transacts (service : Service Id PublicKey) (facts : Facts) (request : Request)
    (transaction : Coin.Transaction) : Prop :=
  Transfers service request transaction ∧ ∃ userId, Bears facts request userId

/-- The uploaded file of the request. -/
def Uploads (service : Service Id PublicKey) (request : Request) (fileName mimeType : String)
    (attachement : Bytes) : Prop :=
  (request.fileField FileFields.fileName).getD "" = fileName ∧
    (request.fileField FileFields.mimeType).getD "" = mimeType ∧
    service.gateway.utf8 ((request.fileField FileFields.attachement).getD "") = attachement

/-- The route of the request calls its core function with this body. -/
def Serves (service : Service Id PublicKey) (request : Request) : Route → Backend.Body Id → Prop
  | .postFile, .postFile _ _ fileName mimeType attachement =>
      Uploads service request fileName mimeType attachement
  | .getFile fileId, .getFile _ named => named = fileId
  | .putFile fileId, .putFile _ named fileName mimeType attachement =>
      named = fileId ∧ Uploads service request fileName mimeType attachement
  | .deleteFile fileId, .deleteFile _ named => named = fileId
  | .postKey, .postKey _ publicKey => publicKey = KeysProcess.firstValue request
  | .getKey publicKeyId, .getKey _ named => named = publicKeyId
  | .putKey publicKeyId, .putKey _ named publicKey =>
      named = publicKeyId ∧ publicKey = KeysProcess.firstValue request
  | .deleteKey publicKeyId, .deleteKey _ named => named = publicKeyId
  | _, _ => False

/-- The request asks for the core function on behalf of a bearer. -/
structure Calls (service : Service Id PublicKey) (facts : Facts) (request : Request)
    (core : Backend.Request Id) : Prop where
  attempts : core.attempts = request.attempts
  bears : Bears facts request core.body.userId
  serves : ∃ route, request.route = some route ∧ Serves service request route core.body

/-- The exchange responds with a success of its route. -/
def Succeeds (service : Service Id PublicKey) (facts : Facts) (response : Response) :
    Route → Prop
  | .postLogin => ∃ userId authorization accessExpire, response =
      ⟨200, generateResponseData true none (some (.login userId authorization accessExpire))⟩
  | .deleteLogin => False
  | .getCoins account => ∃ balance, facts.Read (service.gateway.address account) balance ∧
      response = ⟨200, generateResponseData true none (some (.balance account balance))⟩
  | .postCoins source target amount =>
      response = ⟨200, generateResponseData true none (some (.transfer source target amount))⟩ ∧
      ∃ value, service.gateway.amount amount = some value ∧
        facts.Sent ⟨service.gateway.address source,
          .approve (service.gateway.address target) value⟩ ∧
        facts.Sent ⟨service.gateway.address source,
          .transfer (service.gateway.address target) value⟩
  | route => ∃ result, render service route result = .ok response

/-- The exchange responds with a listed error, with a success of its route or with the options. -/
def Responds (service : Service Id PublicKey) (facts : Facts) (request : Request)
    (response : Response) : Prop :=
  (∃ err, response = errorHandler err ∧ Listed facts.Foreign request.errors err) ∨
    (∃ route, request.route = some route ∧ Succeeds service facts response route) ∨
    request.method = .options ∧ response = preflight

/-- The operations of the login and of the authorization; only users of one kind get a token. -/
def signing (facts : Facts) (Stores : String → Prop) :
    Protocol (Auth.Op Json) Auth.Reply Failure where
  Allows op :=
    match op with
    | .updateToken userId _ => Stores userId
    | _ => True
  Answers op reply :=
    match op, reply with
    | .readClock, .ok _ => True
    | .readClock, .error _ => False
    | _, .error failure => Raw facts.Foreign failure
    | .findByToken token, .ok found =>
        ∀ account, found = some account → facts.Authorized token account
    | .findByLogin loginId password, .ok found =>
        ∀ account, found = some account → facts.Matched loginId password account
    | .updateToken _ _, .ok ok => ok = true

/-- The operations that the service awaits besides core functions, responses and logs. -/
def asides (service : Service Id PublicKey) (facts : Facts) (request : Request)
    (Sends : Coin.Transaction → Prop) : Protocol (Op Id) (Reply Id PublicKey) Failure where
  Allows op :=
    match op with
    | .own (.finish _) | .own (.createLog _) => False
    | .own (.auth op) => (signing facts (LogsIn service facts request)).Allows op
    | .own (.send transaction) => Sends transaction
    | .own _ => True
    | _ => False
  Answers op reply :=
    match op, reply with
    | .own (.auth op), reply => (signing facts (LogsIn service facts request)).Answers op reply
    | .own _, .error failure => Raw facts.Foreign failure
    | .own (.findUser userId), .ok found =>
        ∀ user : String × String, found = some user → user.1 = userId
    | .own (.balanceOf account), .ok balance => facts.Read account balance
    | .own (.send transaction), .ok _ => facts.Sent transaction
    | _, _ => True

/-- The operations that an exchange awaits for its response. -/
def serving (service : Service Id PublicKey) (facts : Facts) (request : Request)
    (Sends : Coin.Transaction → Prop) : Protocol (Op Id) (Reply Id PublicKey) Failure where
  Allows op :=
    match op with
    | .inner _ => True
    | .enter core => Calls service facts request core
    | op => (asides service facts request Sends).Allows op
  Answers op reply :=
    match op, reply with
    | .inner op, .ok value => @Truthful Id PublicKey Evidence.any op value
    | .inner _, .error failure => Raw facts.Foreign failure
    | .enter _, .ok _ => True
    | .enter _, .error _ => False
    | op, reply => (asides service facts request Sends).Answers op reply

/-- The operations that an exchange awaits after its response. -/
def closing (service : Service Id PublicKey) (facts : Facts) (request : Request)
    (Logs : LogRow → Prop) : Protocol (Op Id) (Reply Id PublicKey) Failure where
  Allows op :=
    match op with
    | .own (.createLog row) => Logs row
    | op => (asides service facts request fun _ => False).Allows op
  Answers := (asides service facts request fun _ => False).Answers

/-- The operations of a whole exchange. -/
def conduct (service : Service Id PublicKey) (facts : Facts) (request : Request) :
    Protocol (Op Id) (Reply Id PublicKey) Failure where
  Allows op :=
    match op with
    | .own (.finish response) => Responds service facts request response
    | .own (.createLog row) => row.userId = "" ∨ Bears facts request row.userId
    | op => (serving service facts request (Transacts service facts request)).Allows op
  Answers op reply :=
    match op, reply with
    | .own (.finish _), .error _ => False
    | op, reply => (serving service facts request (Transacts service facts request)).Answers op reply

end

section
variable {facts : Facts} {Stores : String → Prop} {table : List (Nat × String)}

/-- A listed error is listed in a wider table. -/
theorem listed_subset {Foreign : Failure → Prop} {wider : List (Nat × String)} {failure : Failure}
    (listed : Listed Foreign table failure) (subset : table ⊆ wider) :
    Listed Foreign wider failure := by
  rcases listed with member | foreign
  · exact .inl (subset member)
  · exact .inr foreign

/-- The user found by a token is authorised by it. -/
theorem findByToken_obeys {token : String} (error : (406, Messages.userFindError) ∈ table) :
    (UsersModel.findByToken token : Auth.Task Json (Option Account)).Obeys (signing facts Stores)
      (fun found => ∀ account, found = some account → facts.Authorized token account)
      (Listed facts.Foreign table) := by
  apply guarded_obeys _ error
  exact Program.Obeys.call trivial (fun _ found => found) fun _ raw => Raw.passed raw

/-- The user found by a login matches it. -/
theorem findByLogin_obeys {loginId : LoginId Json} {password : String}
    (error : (406, Messages.userFindError) ∈ table) :
    (UsersModel.findByLogin loginId password : Auth.Task Json (Option Account)).Obeys
      (signing facts Stores)
      (fun found => ∀ account, found = some account → facts.Matched loginId password account)
      (Listed facts.Foreign table) := by
  apply guarded_obeys _ error
  exact Program.Obeys.call trivial (fun _ found => found) fun _ raw => Raw.passed raw

/-- A stored token is one that may be stored. -/
theorem updateToken_obeys {userId token : String} (stores : Stores userId)
    (error : (406, Messages.userUpdateError) ∈ table) :
    (UsersModel.updateToken userId token : Auth.Task Json Bool).Obeys (signing facts Stores)
      (· = true) (Listed facts.Foreign table) := by
  apply guarded_obeys _ error
  exact Program.Obeys.call stores (fun _ ok => ok) fun _ raw => Raw.passed raw

theorem readClock_obeys {Thrown : Failure → Prop} :
    (Auth.call .readClock : Auth.Task Json Nat).Obeys (signing facts Stores) (fun _ => True)
      Thrown :=
  Program.Obeys.call trivial (fun _ _ => trivial) fun _ never => never.elim

/-- The header carries the token. -/
theorem authorizationDefault_obeys {tokens : TokenPlatform Json} {headers : Headers}
    (given : headers.authorization ≠ none ∧ headers.authorization ≠ some "") :
    (authorizationDefault tokens headers).Obeys (signing facts Stores)
      (fun authorized => ∃ account, AuthUtil.getAccessTokenFromHeader headers = .ok authorized.2 ∧
        facts.Authorized authorized.2 account ∧ account.userId = authorized.1.userId)
      (Listed facts.Foreign Errors.authorization) := by
  have reads : (Program.done (AuthUtil.getAccessTokenFromHeader headers) :
      Auth.Task Json String).Obeys (signing facts Stores)
      (fun token => AuthUtil.getAccessTokenFromHeader headers = .ok token)
      (Listed facts.Foreign Errors.authorization) := by
    obtain ⟨authorization, remoteAddress⟩ := headers
    cases authorization with
    | none => exact absurd rfl given.1
    | some authorization =>
        have nonempty : authorization ≠ "" := fun empty => given.2 (congrArg some empty)
        simp only [AuthUtil.getAccessTokenFromHeader, nonempty, if_false]
        split
        · split
          · exact Program.Obeys.throw (.inl (by decide))
          · exact Program.Obeys.pure rfl
        · exact Program.Obeys.throw (.inl (by decide))
  apply Program.Obeys.bind reads
  intro token carried
  have unexpired : (AuthUtil.checkAccessTokenExpiry tokens token).Obeys (signing facts Stores)
      (fun _ => True) (Listed facts.Foreign Errors.authorization) := by
    rw [AuthUtil.checkAccessTokenExpiry]
    split
    · exact Program.Obeys.throw (.inl (by decide))
    · exact Program.Obeys.throw (.inl (by decide))
    · apply Program.Obeys.bind readClock_obeys
      intro now _
      exact (failIf_obeys (.inl (by decide))).conseq (fun _ _ => trivial) fun _ listed => listed
  apply Program.Obeys.bind unexpired
  intro _ _
  have finds : (AuthUtil.getUserByAccessToken token : Auth.Task Json Account).Obeys
      (signing facts Stores) (facts.Authorized token)
      (Listed facts.Foreign Errors.authorization) := by
    apply Program.Obeys.bind (findByToken_obeys (by decide))
    intro found authorized
    cases found with
    | none => exact Program.Obeys.throw (.inl (by decide))
    | some account => exact Program.Obeys.pure (authorized account rfl)
  apply Program.Obeys.bind finds
  intro account authorized
  exact Program.Obeys.pure ⟨account, carried, authorized, rfl⟩

/-- An authorised request carries a token of the user. -/
theorem authorization_obeys {tokens : TokenPlatform Json} {headers : Headers} :
    (Auth.useAuthorization tokens headers).Obeys (signing facts Stores)
      (fun authorized => ∃ account, AuthUtil.getAccessTokenFromHeader headers = .ok authorized.2 ∧
        facts.Authorized authorized.2 account ∧ account.userId = authorized.1.userId)
      (Listed facts.Foreign Errors.authorization) := by
  apply Program.Obeys.bind (failIf_obeys (.inl (by decide)))
  intro _ given
  apply authorizationDefault_obeys
  simpa only [decide_eq_false_iff_not, not_or] using given

/-- Making a token throws nothing. -/
theorem makeNewAccessToken_obeys {tokens : TokenPlatform Json} {userId : String}
    {Thrown : Failure → Prop} :
    (makeNewAccessToken tokens userId).Obeys (signing facts Stores) (fun _ => True) Thrown := by
  apply Program.Obeys.bind readClock_obeys
  intro time _
  exact Program.Obeys.pure trivial

/-- A login stores a token only for a user that its condition selects and whose password it has. -/
theorem login_obeys {tokens : TokenPlatform Json} {data : LoginData Json}
    (stores : ∀ password account, data.password = .text password →
      facts.Matched data.loginId (tokens.hash password) account → Stores account.userId) :
    (AuthCore.postLogin tokens data).Obeys (signing facts Stores)
      (fun response => ∃ userId authorization accessExpire,
        response = .login userId authorization accessExpire)
      (Listed facts.Foreign Errors.postLogin) := by
  have hashes : (getHash tokens data.password).Obeys (signing facts Stores)
      (fun hash => ∃ password, data.password = .text password ∧ tokens.hash password = hash)
      (Listed facts.Foreign Errors.postLogin) := by
    cases data.password with
    | text password => exact Program.Obeys.pure ⟨password, rfl, rfl⟩
    | missing => exact Program.Obeys.throw (.inl (by decide))
    | other => exact Program.Obeys.throw (.inl (by decide))
  apply Program.Obeys.bind hashes
  rintro _ ⟨password, isText, rfl⟩
  apply Program.Obeys.bind (findByLogin_obeys (by decide))
  intro found matched
  cases found with
  | none => exact Program.Obeys.throw (.inl (by decide))
  | some account =>
      have updates : (AuthCore.updateAccessToken tokens account).Obeys (signing facts Stores)
          (fun _ => True) (Listed facts.Foreign Errors.postLogin) := by
        apply Program.Obeys.bind makeNewAccessToken_obeys
        intro token _
        apply Program.Obeys.bind (updateToken_obeys
          (stores password account isText (matched account rfl)) (by decide))
        intro ok updated
        apply Program.Obeys.bind (checkOk_obeys updated)
        intro _ _
        exact Program.Obeys.pure trivial
      apply Program.Obeys.bind updates
      intro token _
      apply Program.Obeys.bind (present_obeys (fun _ _ => trivial) (.inl (by decide)))
      intro decoded _
      exact Program.Obeys.pure ⟨_, _, _, rfl⟩

/-- A login stores a token only for a user that matches it. -/
theorem postLogin_obeys {tokens : TokenPlatform Json} {data : LoginData Json}
    (stores : ∀ password account, data.password = .text password →
      facts.Matched data.loginId (tokens.hash password) account → Stores account.userId) :
    (Auth.AuthProcess.postLogin tokens data).Obeys (signing facts Stores)
      (fun response => ∃ userId authorization accessExpire,
        response = .login userId authorization accessExpire)
      (Listed facts.Foreign Errors.postLogin) := by
  have checks : (Program.done (Auth.AuthProcess.checkInputValue data) : Auth.Task Json Unit).Obeys
      (signing facts Stores) (fun _ => True) (Listed facts.Foreign Errors.postLogin) := by
    rw [Auth.AuthProcess.checkInputValue]
    split <;> first | exact trivial | exact Program.Obeys.throw (.inl (by decide))
  apply Program.Obeys.bind checks
  intro _ _
  exact login_obeys stores

end

section
variable {Id PublicKey Value : Type} {service : Service Id PublicKey} {facts : Facts}
  {request : Request} {table : List (Nat × String)} {Sends : Coin.Transaction → Prop}

/-- A call that is not judged is passed on by the catch blocks. -/
theorem call_passes {op : Own} (allowed : (asides service facts request Sends).Allows (.own op))
    (plain : ∀ inner, op ≠ .auth inner) :
    (call op : Task Id PublicKey (Answer Id op)).Obeys (asides service facts request Sends)
      (fun value => (asides service facts request Sends).Answers (.own op) (.ok value))
      (Passed facts.Foreign table) := by
  apply Program.Obeys.call allowed (fun _ answered => answered)
  intro failure answered
  cases op with
  | auth inner => exact absurd rfl (plain inner)
  | _ => exact Raw.passed answered

/-- Reading the keys of a user throws only the errors of an authorisation. -/
theorem populate_obeys (keysId : Option String) :
    (populate keysId : Task Id PublicKey (Ref Id)).Obeys (asides service facts request Sends)
      (fun _ => True) (Listed facts.Foreign Errors.authorization) := by
  cases keysId with
  | none => exact Program.Obeys.pure trivial
  | some keysId =>
      apply Program.Obeys.bind (guarded_obeys (call_passes (by exact trivial) (by simp)) (by decide))
      intro found _
      cases found with
      | none => exact Program.Obeys.pure trivial
      | some id => exact Program.Obeys.pure trivial

/-- A request that passes the authorisation bears a token of the user. -/
theorem useAuthorization_obeys :
    (useAuthorization service.tokens request.headers : Task Id PublicKey (LoginUser Id)).Obeys
      (asides service facts request Sends) (fun loginUser => Bears facts request loginUser.userId)
      (Listed facts.Foreign Errors.authorization) := by
  apply Program.Obeys.bind (Program.Obeys.through authorization_obeys)
  rintro ⟨loginUser, token⟩ ⟨account, carried, authorized, same⟩
  apply Program.Obeys.bind (populate_obeys loginUser.publicKeyId)
  intro publicKeyId _
  exact Program.Obeys.pure ⟨token, account, carried, authorized, same⟩

/-- A missing input is reported under its name. -/
theorem checkInputValue_listed {inputs : List (String × Bool)} {failure : Failure}
    (failed : checkInputValue inputs = .error failure) :
    shown failure ∈ Errors.inputs (inputs.map Prod.fst) := by
  induction inputs with
  | nil => cases failed
  | cons input rest ih =>
      obtain ⟨param, isValid⟩ := input
      cases isValid with
      | true =>
          rw [checkInputValue, if_pos rfl] at failed
          exact List.mem_cons_of_mem _ (ih failed)
      | false =>
          rw [checkInputValue, if_neg Bool.false_ne_true] at failed
          cases failed
          exact List.mem_cons_self

/-- A check that throws only listed errors follows every protocol. -/
theorem check_obeys {protocol : Protocol (Op Id) (Reply Id PublicKey) Failure}
    {check : Except Failure Unit} (listed : ∀ failure, check = .error failure → shown failure ∈ table) :
    (Program.done check : Task Id PublicKey Unit).Obeys protocol (fun _ => check = .ok ())
      (Listed facts.Foreign table) := by
  cases check with
  | ok _ => exact Program.Obeys.pure rfl
  | error failure => exact Program.Obeys.throw (.inl (listed failure rfl))

/-- The check of the inputs follows every protocol. -/
theorem inputs_obeys {protocol : Protocol (Op Id) (Reply Id PublicKey) Failure}
    {inputs : List (String × Bool)} (errors : Errors.inputs (inputs.map Prod.fst) ⊆ table) :
    (Program.done (checkInputValue inputs) : Task Id PublicKey Unit).Obeys protocol
      (fun _ => checkInputValue inputs = .ok ()) (Listed facts.Foreign table) :=
  check_obeys fun _ failed => errors (checkInputValue_listed failed)

/-- Reading coins follows the protocol and answers with the route's success. -/
theorem getCoins_obeys {account : String} :
    (CoinsProcess.getCoins service account).Obeys (asides service facts request Sends)
      (fun response => Succeeds service facts response (.getCoins account))
      (Listed facts.Foreign Errors.getCoins) := by
  have errors : Errors.inputs ["account"] ⊆ Errors.getCoins := by decide
  apply Program.Obeys.bind (inputs_obeys errors)
  intro _ _
  apply Program.Obeys.bind (guarded_obeys (call_passes (by exact trivial) (by simp)) (by decide))
  intro balance read
  exact Program.Obeys.pure ⟨balance, read, rfl⟩

theorem getManageAccount_obeys :
    (CoinService.getManageAccount service.gateway : Task Id PublicKey _).Obeys
      (asides service facts request Sends) (fun _ => True) (Passed facts.Foreign table) := by
  rw [CoinService.getManageAccount]
  cases service.gateway.account with
  | some account => exact Program.Obeys.pure trivial
  | none =>
      apply Program.Obeys.bind (call_passes (by exact trivial) (by simp))
      intro accounts _
      exact Program.Obeys.pure trivial

/-- A transfer that ends has sent an approval and then the transfer itself. -/
theorem transfer_obeys {source target amount : String}
    (asked : request.route = some (.postCoins source target amount))
    (permits : ∀ transaction, Transfers service request transaction → Sends transaction)
    (error : (406, Messages.coinTransferError) ∈ table) :
    (CoinService.transfer service.gateway (service.gateway.address source)
      (service.gateway.address target) (service.gateway.amount amount) :
        Task Id PublicKey Unit).Obeys (asides service facts request Sends)
      (fun _ => ∃ value, service.gateway.amount amount = some value ∧
        facts.Sent ⟨service.gateway.address source,
          .approve (service.gateway.address target) value⟩ ∧
        facts.Sent ⟨service.gateway.address source,
          .transfer (service.gateway.address target) value⟩)
      (Listed facts.Foreign table) := by
  have other : Passed facts.Foreign table (.other false) := fun isBoom => by cases isBoom
  apply guarded_obeys _ error
  apply Program.Obeys.bind getManageAccount_obeys
  intro manageAddress _
  apply Program.Obeys.bind (failIf_obeys other)
  intro _ _
  apply Program.Obeys.bind (failIf_obeys other)
  intro _ _
  apply Program.Obeys.bind (call_passes (by exact trivial) (by simp))
  intro _ _
  apply Program.Obeys.bind (present_obeys (fun _ same => same) other)
  intro value same
  apply Program.Obeys.bind (call_passes (by exact trivial) (by simp))
  intro _ _
  apply Program.Obeys.bind
    (call_passes (by exact permits _ ⟨_, _, _, value, asked, same, .inl rfl⟩) (by simp))
  intro _ approved
  apply Program.Obeys.bind (call_passes (by exact trivial) (by simp))
  intro _ _
  apply (call_passes (by exact permits _ ⟨_, _, _, value, asked, same, .inr rfl⟩) (by simp)).conseq _
    fun _ passed => passed
  intro _ sent
  exact ⟨value, same, approved, sent⟩

/-- Posting coins follows the protocol and sends only its own transactions. -/
theorem postCoins_obeys {source target amount : String}
    (asked : request.route = some (.postCoins source target amount))
    (permits : ∀ transaction, Transfers service request transaction → Sends transaction) :
    (CoinsProcess.postCoins service source target amount).Obeys (asides service facts request Sends)
      (fun response => Succeeds service facts response (.postCoins source target amount))
      (Listed facts.Foreign Errors.postCoins) := by
  have errors : Errors.inputs ["from", "to", "amount"] ⊆ Errors.postCoins := by decide
  apply Program.Obeys.bind (inputs_obeys errors)
  intro _ _
  apply Program.Obeys.bind (transfer_obeys asked permits (by decide))
  intro _ sent
  exact Program.Obeys.pure ⟨rfl, sent⟩

/-- Logging in answers with the route's success. -/
theorem postLogin_responds (asked : request.route = some .postLogin) :
    (AuthProcess.postLogin service request).Obeys (asides service facts request Sends)
      (fun response => Succeeds service facts response .postLogin)
      (Listed facts.Foreign Errors.postLogin) := by
  have stores : ∀ password account,
      (request.body.login.data service.gateway.validator).password = .text password →
      facts.Matched (request.body.login.data service.gateway.validator).loginId
        (service.tokens.hash password) account → LogsIn service facts request account.userId :=
    fun password account isText matched => ⟨asked, password, account, isText, matched, rfl⟩
  apply Program.Obeys.bind (Program.Obeys.through (postLogin_obeys stores))
  rintro _ ⟨userId, authorization, accessExpire, rfl⟩
  exact Program.Obeys.pure ⟨userId, authorization, accessExpire, rfl⟩

/-- The logout reads no password and therefore always throws. -/
theorem deleteLogin_responds :
    (AuthProcess.deleteLogin service : Task Id PublicKey Response).Obeys
      (asides service facts request Sends)
      (fun response => Succeeds service facts response .deleteLogin)
      (Listed facts.Foreign Errors.deleteLogin) :=
  .inl (by decide)

/-- What asides allow, serving allows. -/
theorem serving_of_asides {program : Task Id PublicKey Value} {After : Value → Prop}
    {Thrown : Failure → Prop}
    (obeys : program.Obeys (asides service facts request Sends) After Thrown) :
    program.Obeys (serving service facts request Sends) After Thrown := by
  apply obeys.widen
  · intro op allowed
    cases op with
    | inner op => exact allowed.elim
    | enter core => exact allowed.elim
    | own op => exact allowed
  · intro op reply allowed answered
    cases op with
    | inner op => exact allowed.elim
    | enter core => exact allowed.elim
    | own op => exact answered

/-- What serving allows, the conduct allows. -/
theorem conduct_of_serving {program : Task Id PublicKey Value} {After : Value → Prop}
    {Thrown : Failure → Prop}
    (obeys : program.Obeys (serving service facts request (Transacts service facts request)) After
      Thrown) :
    program.Obeys (conduct service facts request) After Thrown := by
  apply obeys.widen
  · intro op allowed
    cases op with
    | inner op => exact allowed
    | enter core => exact allowed
    | own op =>
        cases op with
        | finish response => exact allowed.elim
        | createLog row => exact allowed.elim
        | _ => exact allowed
  · intro op reply allowed answered
    cases op with
    | inner op => exact answered
    | enter core => exact answered
    | own op =>
        cases op with
        | finish response => exact allowed.elim
        | _ => exact answered

/-- The core function that is asked for ends with a suitable result or with one of its errors. -/
theorem core_obeys {core : Backend.Request Id} (calls : Calls service facts request core) :
    (Api.core service.platform core).Obeys (serving service facts request Sends)
      (core.body.Suits service.platform Evidence.any) (Listed facts.Foreign core.body.errors) := by
  have enters : (Program.call (HostOp.enter core) : Task Id PublicKey Unit).Obeys
      (serving service facts request Sends) (fun _ => True)
      (Listed facts.Foreign core.body.errors) :=
    Program.Obeys.call calls (fun _ _ => trivial) fun _ never => never.elim
  apply Program.Obeys.bind enters
  intro _ _
  apply Program.Obeys.through
  have obeys : (core.program service.platform).Obeys
      (Backend.protocol service.platform Evidence.any facts.Foreign core.body)
      (core.body.Suits service.platform Evidence.any) (Listed facts.Foreign core.body.errors) :=
    program_obeys service.platform core
  apply obeys.widen (fun _ _ => trivial)
  intro op reply _ answered
  cases reply with
  | ok value => exact answered
  | error failure => exact answered

/-- The errors of a hosted request are listed for its route. -/
theorem errors_of_serves {route : Route} {body : Backend.Body Id}
    (serves : Serves service request route body) :
    body.errors ⊆ route.errors := by
  cases route <;> cases body <;> first
    | exact serves.elim
    | exact List.subset_append_right _ _
    | exact List.nil_subset _

/-- A suitable result is shown; only the headers of a file may be refused. -/
theorem render_listed {route : Route} {body : Backend.Body Id} {result : Backend.Response Id}
    (serves : Serves service request route body) (suits : body.Suits service.platform Evidence.any result)
    {failure : Failure}
    (failed : render service route result = .error failure) : shown failure ∈ route.errors := by
  cases route <;> cases body <;> first
    | exact serves.elim
    | cases result <;> first
        | exact suits.elim
        | cases failed
        | skip
  rename_i fileName mimeType attachement
  simp only [render] at failed
  split at failed
  · cases failed
    exact List.mem_append_right _ (by decide)
  · split at failed
    · cases failed
    · cases failed
      exact List.mem_append_right _ (by decide)

/-- A file or key handler shows the result of its core function. -/
theorem answering_obeys {route : Route} {check : Except Failure Unit} {body : Backend.Body Id}
    (asked : request.route = some route) (serves : Serves service request route body)
    (listed : ∀ failure, check = .error failure → shown failure ∈ route.errors)
    (bears : check = .ok () → Bears facts request body.userId) :
    (answering service request route check body).Obeys (serving service facts request Sends)
      (fun response => ∃ result, render service route result = .ok response)
      (Listed facts.Foreign route.errors) := by
  apply Program.Obeys.bind (check_obeys listed)
  intro _ checked
  have calls : Calls service facts request ⟨request.attempts, body⟩ :=
    ⟨rfl, bears checked, route, asked, serves⟩
  apply Program.Obeys.bind ((core_obeys calls).conseq (fun _ suits => suits)
    fun _ thrown => listed_subset thrown (errors_of_serves serves))
  intro result suits
  cases rendered : render service route result with
  | ok response => exact Program.Obeys.pure ⟨result, rendered⟩
  | error failure => exact Program.Obeys.throw (.inl (render_listed serves suits rendered))

/-- A missing input is listed among the errors of a route. -/
theorem inputs_listed {inputs : List (String × Bool)} {names : List String}
    {rest : List (Nat × String)} (same : inputs.map Prod.fst = names) (failure : Failure)
    (failed : checkInputValue inputs = .error failure) :
    shown failure ∈ Errors.authorization ++ Errors.inputs names ++ rest := by
  have listed := checkInputValue_listed failed
  rw [same] at listed
  exact List.mem_append_left _ (List.mem_append_right _ listed)

/-- The first field of the body names the user that the header authorizes. -/
theorem postKeyValid2_ok {userId : String}
    (checked : KeysProcess.postKeyValid2 request userId = .ok ()) :
    (request.body.fields.head?.map Prod.fst).getD "" = userId := by
  unfold KeysProcess.postKeyValid2 at checked
  split at checked
  · cases checked
  · rename_i name value rest fields
    split at checked
    · rename_i same
      rw [fields]
      exact same
    · cases checked

/-- The second check of a posted key throws only listed errors. -/
theorem postKeyValid2_listed {userId : String} (failure : Failure)
    (failed : KeysProcess.postKeyValid2 request userId = .error failure) :
    shown failure ∈ Route.postKey.errors := by
  unfold KeysProcess.postKeyValid2 at failed
  split at failed
  · cases failed
    decide
  · split at failed
    · cases failed
    · cases failed
      decide

/-- The second check of an updated key throws only listed errors. -/
theorem putKeyValid2_listed {publicKeyId : String} (failure : Failure)
    (failed : KeysProcess.putKeyValid2 request = .error failure) :
    shown failure ∈ (Route.putKey publicKeyId).errors := by
  unfold KeysProcess.putKeyValid2 at failed
  split at failed
  · cases failed
    exact List.mem_append_left _ (by decide)
  · cases failed

/-- Every handler responds with a success of its route or throws one of its errors. -/
theorem handler_obeys {loginUser : LoginUser Id} {route : Route}
    (asked : request.route = some route) (bears : Bears facts request loginUser.userId)
    (permits : ∀ transaction, Transfers service request transaction → Sends transaction) :
    (handler service request loginUser route).Obeys (serving service facts request Sends)
      (fun response => Succeeds service facts response route)
      (Listed facts.Foreign route.errors) := by
  cases route with
  | postLogin => exact serving_of_asides (postLogin_responds asked)
  | deleteLogin => exact serving_of_asides deleteLogin_responds
  | getCoins account => exact serving_of_asides getCoins_obeys
  | postCoins source target amount => exact serving_of_asides (postCoins_obeys asked permits)
  | postFile => exact answering_obeys asked ⟨rfl, rfl, rfl⟩ (inputs_listed rfl) fun _ => bears
  | getFile fileId => exact answering_obeys asked rfl (inputs_listed rfl) fun _ => bears
  | putFile fileId =>
      exact answering_obeys asked ⟨rfl, rfl, rfl, rfl⟩ (inputs_listed rfl) fun _ => bears
  | deleteFile fileId => exact answering_obeys asked rfl (inputs_listed rfl) fun _ => bears
  | postKey =>
      apply answering_obeys asked (by exact rfl) postKeyValid2_listed
      intro checked
      rw [Body.userId, postKeyValid2_ok checked]
      exact bears
  | getKey publicKeyId =>
      have listed (failure : Failure) (failed : checkInputValue
          (KeysProcess.getKeyValid service.gateway publicKeyId) = .error failure) :
          shown failure ∈ (Route.getKey publicKeyId).errors :=
        List.mem_append_right _ (checkInputValue_listed failed)
      exact answering_obeys asked rfl listed fun _ => bears
  | putKey publicKeyId =>
      exact answering_obeys asked ⟨rfl, rfl⟩ putKeyValid2_listed fun _ => bears
  | deleteKey publicKeyId => exact answering_obeys asked rfl (inputs_listed rfl) fun _ => bears

/-- What the router leaves to the end of the exchange. -/
structure Routed (service : Service Id PublicKey) (facts : Facts) (request : Request)
    (routed : Option (LoginUser Id) × Response) : Prop where
  responds : Responds service facts request routed.2
  bears : ∀ loginUser, routed.1 = some loginUser → Bears facts request loginUser.userId

/-- A listed error is one of the responses. -/
theorem responds_error {err : Failure} (listed : Listed facts.Foreign request.errors err) :
    Responds service facts request (errorHandler err) :=
  .inl ⟨err, rfl, listed⟩

/-- A request with a route has the errors of the route. -/
theorem errors_of_route {route : Route} (asked : request.route = some route) :
    request.errors = Errors.contentType ++ route.errors := by
  have decodes : ∃ found, resource request.path = .ok found := by
    rw [Request.route] at asked
    split at asked
    · rename_i found present
      exact ⟨some found, present⟩
    · cases asked
  obtain ⟨found, present⟩ := decodes
  rw [Request.errors, present, asked]

/-- An error of the route is one of the request. -/
theorem responds_listed {route : Route} (asked : request.route = some route) {err : Failure}
    (listed : Listed facts.Foreign route.errors err) :
    Responds service facts request (errorHandler err) := by
  apply responds_error
  apply listed_subset listed
  rw [errors_of_route asked]
  exact List.subset_append_right _ _

/-- The outcome of a handler is shown as a response of its route. -/
theorem shownAs_obeys {route : Route} (asked : request.route = some route)
    {program : Task Id PublicKey Response} {loginUser : Option (LoginUser Id)}
    {Thrown : Failure → Prop}
    (obeys : program.Obeys (serving service facts request Sends)
      (fun response => Succeeds service facts response route) (Listed facts.Foreign route.errors))
    (bears : ∀ user, loginUser = some user → Bears facts request user.userId) :
    (do
      let outcome ← program.settled
      return (loginUser, shownAs outcome)).Obeys (serving service facts request Sends)
      (Routed service facts request) Thrown := by
  apply Program.Obeys.bind (Program.Obeys.settled obeys)
  intro outcome ends
  cases outcome with
  | ok response => exact Program.Obeys.pure ⟨.inr (.inl ⟨route, asked, ends⟩), bears⟩
  | error failure => exact Program.Obeys.pure ⟨responds_listed asked ends, bears⟩

/-- Every route but the login lists the errors of an authorisation. -/
theorem authorization_subset {route : Route} (authorizes : route ≠ .postLogin) :
    Errors.authorization ⊆ route.errors := by
  cases route with
  | postLogin => exact absurd rfl authorizes
  | deleteLogin => exact List.Subset.refl _
  | getKey publicKeyId => exact List.subset_append_left _ _
  | _ => exact List.subset_append_of_subset_left _ (List.subset_append_left _ _)

/-- A path that cannot be decoded throws a plain error. -/
theorem resource_listed {path : List Segment} {err : Failure} (failed : resource path = .error err) :
    shown err ∈ [crash] := by
  unfold resource at failed
  split at failed
  · cases failed
  · split at failed <;> cases failed <;> exact List.mem_singleton_self _

/-- The router responds with a success of the route or with a listed error. -/
theorem router_obeys {Thrown : Failure → Prop}
    (permits : ∀ userId transaction, Bears facts request userId →
      Transfers service request transaction → Sends transaction) :
    (router service request).Obeys (serving service facts request Sends)
      (Routed service facts request) Thrown := by
  have alone {response : Response} (responds : Responds service facts request response) :
      (pure (none, response) : Task Id PublicKey (Option (LoginUser Id) × Response)).Obeys
        (serving service facts request Sends) (Routed service facts request) Thrown :=
    Program.Obeys.pure ⟨responds, fun loginUser same => by cases same⟩
  rw [router]
  split
  · rename_i err failed
    apply alone
    apply responds_error
    exact .inl (List.mem_append_left _ (checkInputValue_listed failed))
  · split
    · rename_i err failed
      apply alone
      apply responds_error
      rw [Request.errors, failed]
      exact .inl (List.mem_append_right _ (resource_listed failed))
    · rename_i found present
      split
      · rename_i missing
        apply alone
        refine .inl ⟨.notFound "Not Found", rfl, .inl ?_⟩
        rw [Request.errors, present, missing]
        exact List.mem_append_right _ List.mem_cons_self
      · rename_i asked
        exact shownAs_obeys asked (serving_of_asides (postLogin_responds asked))
          fun user same => by cases same
      · rename_i route authorizes asked
        apply Program.Obeys.bind (Program.Obeys.settled (serving_of_asides useAuthorization_obeys))
        intro authorized ends
        cases authorized with
        | error err =>
            exact alone (responds_listed asked
              (listed_subset ends (authorization_subset authorizes)))
        | ok loginUser =>
            apply shownAs_obeys asked
              (handler_obeys asked ends fun transaction => permits _ transaction ends)
            intro user same
            cases same
            exact ends

/-- The log names no user or the one that is logged in. -/
theorem logResponse_obeys {Logs : LogRow → Prop} {loginUser : Option (LoginUser Id)}
    {response : Response} {Thrown : Failure → Prop}
    (anonymous : ∀ row, row.userId = "" → Logs row)
    (named : ∀ user row, loginUser = some user → row.userId = user.userId → Logs row) :
    (logResponse service request loginUser response).Obeys
      (closing service facts request Logs) (fun _ => True) Thrown := by
  have swallowed : ∀ failure, (fun _ : Failure => True) failure →
      (pure () : Task Id PublicKey Unit).Obeys (closing service facts request Logs) (fun _ => True)
        Thrown :=
    fun _ _ => Program.Obeys.pure trivial
  have creates {row : LogRow} (logs : Logs row) :
      (call (.createLog row) : Task Id PublicKey Unit).Obeys (closing service facts request Logs)
        (fun _ => True) fun _ => True :=
    Program.Obeys.call logs (fun _ _ => trivial) fun _ _ => trivial
  have reads : (call (.auth .readClock) : Task Id PublicKey Nat).Obeys
      (closing service facts request Logs) (fun _ => True) fun _ => True :=
    Program.Obeys.call trivial (fun _ _ => trivial) fun _ _ => trivial
  apply Program.Obeys.handle _ swallowed
  apply Program.Obeys.bind reads
  intro now _
  cases loginUser with
  | none => exact creates (anonymous _ rfl)
  | some loginUser =>
      have finds : (guarded Messages.userFindError (call (.findUser loginUser.userId)) :
          Task Id PublicKey (Option (String × String))).Obeys (closing service facts request Logs)
          (fun found => ∀ user, found = some user → user.1 = loginUser.userId) fun _ => True := by
        apply Program.Obeys.handle
          (Program.Obeys.call trivial (fun _ found => found) fun _ _ => trivial)
        intro failure _
        exact Program.Obeys.throw trivial
      apply Program.Obeys.bind finds
      intro found isUser
      apply Program.Obeys.bind (present_obeys isUser trivial)
      intro user same
      exact creates (named loginUser _ rfl same)

/-- What closing allows, the conduct allows. -/
theorem conduct_of_closing {program : Task Id PublicKey Value} {After : Value → Prop}
    {Thrown : Failure → Prop}
    (obeys : program.Obeys (closing service facts request fun row =>
      row.userId = "" ∨ Bears facts request row.userId) After Thrown) :
    program.Obeys (conduct service facts request) After Thrown := by
  apply obeys.widen
  · intro op allowed
    cases op with
    | inner op => exact allowed.elim
    | enter core => exact allowed.elim
    | own op =>
        cases op with
        | finish response => exact allowed.elim
        | send transaction => exact allowed.elim
        | _ => exact allowed
  · intro op reply allowed answered
    cases op with
    | inner op => exact allowed.elim
    | enter core => exact allowed.elim
    | own op =>
        cases op with
        | finish response => exact allowed.elim
        | _ => exact answered

/-- Every exchange follows its protocol and never throws. -/
theorem exchange_obeys (service : Service Id PublicKey) (facts : Facts) (request : Request) :
    (exchange service request).Obeys (conduct service facts request) (fun _ => True)
      fun _ => False := by
  have finishes {response : Response} (responds : Responds service facts request response) :
      (finish response : Task Id PublicKey Unit).Obeys (conduct service facts request)
        (fun _ => True) fun _ => False :=
    Program.Obeys.call responds (fun _ _ => trivial) fun _ never => never
  by_cases isOptions : request.method = .options
  · rw [exchange, if_pos isOptions]
    exact finishes (.inr (.inr ⟨isOptions, rfl⟩))
  · rw [exchange, if_neg isOptions]
    apply Program.Obeys.bind (conduct_of_serving (router_obeys fun userId _ bears transfers =>
      ⟨transfers, userId, bears⟩))
    rintro ⟨loginUser, response⟩ routed
    apply Program.Obeys.bind (finishes routed.responds)
    intro _ _
    apply conduct_of_closing
    apply logResponse_obeys fun _ empty => .inl empty
    intro user row same named
    right
    rw [named]
    exact routed.bears user same

end

end Holonus.Api
