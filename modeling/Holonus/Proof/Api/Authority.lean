/-
This file proves on whose behalf the service acts and how it responds.
-/

import Holonus.Construction.Backend.PlainPlatform
import Holonus.Proof.Api.Runs
import Holonus.Proof.Auth.Login
import Holonus.Proof.Coin.Reachable

namespace Holonus.Api

open Holonus.Machine Holonus.Backend Holonus.Auth

section
variable {Id PublicKey : Type}

/-- A request that was asked stays asked. -/
theorem Later.asked {world last : World Id PublicKey} (later : Later world last) {index : Nat}
    {request : Request} (asked : world.asked index = some request) :
    last.asked index = some request := by
  obtain ⟨exchange, found, same⟩ := Option.map_eq_some_iff.mp asked
  obtain ⟨last, present, kept, -⟩ := later.exchanges index exchange found
  rw [World.asked, present, Option.map_some, kept, same]

variable [DecidableEq Id] (service : Service Id PublicKey) (initial : Initial Id)

/-- The user had the token at the start, or it was stored by a login whose condition selects the user
and whose password is the user's. -/
def Entitled (last : World Id PublicKey) (userId accessToken : String) : Prop :=
  (∃ first ∈ initial.accounts, first.userId = userId ∧ first.accessToken = accessToken) ∨
    ∃ index request password,
      (index, userId, accessToken) ∈ last.issues ∧ last.asked index = some request ∧
        request.route = some .postLogin ∧
        (request.body.login.data service.gateway.validator).password = .text password ∧
        LoginId.selects service.tokens (request.body.login.data service.gateway.validator).loginId
          userId = true ∧
        ∃ first ∈ initial.accounts, first.userId = userId ∧
          first.password = service.tokens.hash password

/-- Every core function is asked for by a bearer, and every token was stored by a login. -/
structure Accredited (facts : Nat → Facts) (world : World Id PublicKey) : Prop where
  entered : ∀ index core, world.backend.requested index = some core → ∃ request,
    world.asked index = some request ∧ Calls service (facts index) request core
  issued : ∀ index userId accessToken, (index, userId, accessToken) ∈ world.issues →
    ∃ request, world.asked index = some request ∧ LogsIn service (facts index) request userId

variable {service initial} {facts : Nat → Facts}

omit [DecidableEq Id] in
/-- A step that starts no core function and stores no token keeps the evidence. -/
theorem Accredited.later {world next : World Id PublicKey}
    (accredited : Accredited service facts world) (later : Later world next)
    (requested : next.backend.requested = world.backend.requested)
    (issues : next.issues = world.issues) : Accredited service facts next where
  entered index core begun := by
    rw [requested] at begun
    obtain ⟨request, asked, calls⟩ := accredited.entered index core begun
    exact ⟨request, later.asked asked, calls⟩
  issued index userId accessToken member := by
    rw [issues] at member
    obtain ⟨request, asked, logsIn⟩ := accredited.issued index userId accessToken member
    exact ⟨request, later.asked asked, logsIn⟩

/-- An allowed change keeps every exchange accredited. -/
theorem Accredited.changes {world next : World Id PublicKey} {index : Nat} {op : Op Id}
    {exchange : Exchange} (found : world.exchanges index = some exchange)
    (allowed : (conduct service (facts index) exchange.request).Allows op)
    (changes : Changes service index world op next) (accredited : Accredited service facts world) :
    Accredited service facts next := by
  have asked : world.asked index = some exchange.request := by
    rw [World.asked, found, Option.map_some]
  have later := changes.later
  cases changes with
  | performed op choice reply backend performs =>
      exact accredited.later later
        ((Backend.remembers service.platform).performed index op choice _ reply backend performs) rfl
  | entered core free =>
      have enrolled := (Backend.remembers service.platform).enrolled index core world.backend
      refine ⟨?_, accredited.issued⟩
      · intro other begun present
        rw [enrolled] at present
        by_cases same : other = index
        · subst same
          rw [Function.update_self, Option.some.injEq] at present
          subst present
          exact ⟨exchange.request, asked, allowed⟩
        · rw [Function.update_of_ne same] at present
          exact accredited.entered other begun present
  | stored userId accessToken elapsed =>
      refine ⟨accredited.entered, ?_⟩
      intro other owner token member
      rcases List.mem_cons.mp member with isNew | old
      · cases isNew
        exact ⟨exchange.request, asked, allowed⟩
      · exact accredited.issued other owner token old
  | ticked op elapsed => exact accredited.later later rfl rfl
  | logged row elapsed => exact accredited.later later rfl rfl
  | finished response elapsed => exact accredited.later later rfl rfl
  | sent transaction coin elapsed executed => exact accredited.later later rfl rfl

/-- Every exchange that is reached is accredited. -/
theorem reached_accredited (moves : List (Move (Choice Id PublicKey) Request)) :
    Accredited service
      (factsOf service initial moves fun _ => True)
      (reached service initial moves).world := by
  apply reached_keeps (fun _ _ _ _ _ => .inr trivial)
  · refine ⟨?_, fun _ _ _ member => ?_⟩
    · intro index core begun
      cases begun
    · cases member
  · intro index request world free accredited
    exact accredited.later (later_enroll service request free) rfl rfl
  · intro index op world next exchange found allowed changes accredited
    exact accredited.changes found allowed changes

/-- A bearer is entitled to its token. -/
theorem Accredited.entitled {moves : List (Move (Choice Id PublicKey) Request)} {index : Nat}
    {request : Request} {userId : String}
    (accredited : Accredited service (factsOf service initial moves fun _ => True)
      (reached service initial moves).world)
    (bears : Bears (factsOf service initial moves (fun _ => True) index) request userId) :
    ∃ accessToken, AuthUtil.getAccessTokenFromHeader request.headers = .ok accessToken ∧
      Entitled service initial (reached service initial moves).world userId accessToken := by
  obtain ⟨token, account, carried, authorized, same⟩ := bears
  refine ⟨token, carried, ?_⟩
  rw [← same]
  rcases authorized with given | issued
  · exact .inl given
  · obtain ⟨other, stored⟩ := issued
    obtain ⟨login, present, isLogin, password, matched, isText, ⟨selected, first, isFirst, named,
      secret⟩, isUser⟩ := accredited.issued other _ _ stored
    rw [isUser] at selected named
    exact .inr ⟨other, login, password, stored, present, isLogin, isText, selected, first, isFirst,
      named, secret⟩

/-- Over every run, a core function runs only with the inputs of its exchange and acts for a user
only if the header carries a token that the user had at the start or that a login with the user's
password stored. -/
theorem requests_authorized (moves : List (Move (Choice Id PublicKey) Request)) (index : Nat)
    {core : Backend.Request Id}
    (begun : (reached service initial moves).world.backend.requested index = some core) :
    let last := (reached service initial moves).world
    ∃ request route accessToken, last.asked index = some request ∧
      request.route = some route ∧ Serves service request route core.body ∧
      AuthUtil.getAccessTokenFromHeader request.headers = .ok accessToken ∧
      Entitled service initial last core.body.userId accessToken := by
  have accredited : Accredited service (factsOf service initial moves fun _ => True)
      (reached service initial moves).world := reached_accredited moves
  obtain ⟨request, asked, calls⟩ := accredited.entered index core begun
  obtain ⟨route, routed, serves⟩ := calls.serves
  obtain ⟨token, carried, entitled⟩ := accredited.entitled calls.bears
  exact ⟨request, route, token, asked, routed, serves, carried, entitled⟩

/-- Every response that was sent is one of its request. -/
def Responding (service : Service Id PublicKey) (facts : Nat → Facts)
    (world : World Id PublicKey) : Prop :=
  ∀ index exchange, world.exchanges index = some exchange → ∀ response,
    exchange.response = some response → Responds service (facts index) exchange.request response

/-- An allowed change keeps every response a listed one. -/
theorem Responding.changes {world next : World Id PublicKey} {index : Nat} {op : Op Id}
    {exchange : Exchange} (found : world.exchanges index = some exchange)
    (allowed : (conduct service (facts index) exchange.request).Allows op)
    (changes : Changes service index world op next) (responding : Responding service facts world) :
    Responding service facts next := by
  cases changes with
  | finished response elapsed =>
      have present : (world.elapse elapsed).exchanges index = some exchange := found
      rw [Responding, record_exchanges present]
      apply forall_update_some
      · intro shown same
        cases same
        exact allowed
      · intro other current _ present
        exact responding other current present
  | sent transaction coin elapsed executed =>
      have present : ((world.elapse elapsed).withCoin coin).exchanges index = some exchange := found
      rw [Responding, record_exchanges present]
      apply forall_update_some
      · exact responding index exchange found
      · intro other current _ present
        exact responding other current present
  | _ => exact responding

/-- The check of the connection throws this error. -/
def Disconnected (failure : Failure) : Prop :=
  ∃ state, failure = .notAcceptable ("Not connected to database (" ++ state ++ ")")

/-- Over every run, an answer sends an error that its request lists, the missing connection to the
database, a success of its route or the options. -/
theorem responses_listed {moves : List (Move (Choice Id PublicKey) Request)}
    (foreseen : Foreseen Disconnected moves) (index : Nat) {exchange : Exchange}
    {answer : Response}
    (found : (reached service initial moves).world.exchanges index = some exchange)
    (answered : exchange.answer = some answer) :
    ∃ response, answer = exchange.request.send response ∧
      ((∃ err, response = errorHandler err ∧
        (shown err ∈ exchange.request.errors ∨ Disconnected err)) ∨
      (∃ route, exchange.request.route = some route ∧
        Succeeds service (factsOf service initial moves Disconnected index) response route) ∨
      exchange.request.method = .options ∧ response = preflight) := by
  have responding : Responding service
      (factsOf service initial moves Disconnected)
      (reached service initial moves).world := by
    apply reached_keeps foreseen
    · intro index exchange present
      cases present
    · intro index request world _ before
      apply forall_update_some
      · intro shown same
        cases same
      · intro other current _ present
        exact before other current present
    · intro index op world next exchange present allowed changes before
      exact before.changes present allowed changes
  obtain ⟨response, responded, isAnswer⟩ := Option.map_eq_some_iff.mp answered
  exact ⟨response, isAnswer.symm, responding index exchange found response responded⟩

end

/-- A gateway whose addresses are the lengths of their texts. -/
def plainGateway : Gateway where
  validator := plainValidator
  isMongoId text := text ≠ ""
  isEthereumAddress text := text ≠ ""
  isInt text := text ≠ ""
  address text := Fin.ofNat (2 ^ 160) text.length
  amount text := some ⟨text.length % 2 ^ 256, Nat.mod_lt _ (by decide)⟩
  utf8 text := text.toList.map fun letter => UInt8.ofNat letter.toNat
  utf8Text data := String.ofList (data.map fun byte => Char.ofNat byte.toNat)
  isJson _ := false
  encodeURI text := some text
  isHeaderValue _ := true
  account := some 1
  accounts := []

def plainService : Service PlainId UInt8 := ⟨plain, plainQueries, plainGateway⟩

def plainInitial : Initial PlainId :=
  ⟨plainStore, [plainAccount], 0, Coin.Deployment.sample.system, fun _ => "user"⟩

/-- A path without escapes. -/
def plainPath (names : List String) : List Segment := names.map fun name => ⟨name, some name⟩

def loginRequest : Request where
  method := .post
  path := plainPath ["auth", "login"]
  url := "/auth/login"
  contentType := some "application/json"
  headers := ⟨none, ""⟩
  fresh := false
  body := ⟨⟨some (.string "u"), some (.string "p")⟩, none, []⟩
  attempts := 0

def keyRequest : Request where
  method := .post
  path := plainPath ["keys"]
  url := "/keys"
  contentType := some "application/json"
  headers := plainHeaders
  fresh := false
  body := ⟨⟨none, none⟩, none, [("u", some "pem")]⟩
  attempts := 0

def serves (index count : Nat) : List (Move (Choice PlainId UInt8) Request) :=
  List.replicate count (.step index (.proceed 0))

/-- The user logs in. -/
def loggedIn : List (Move (Choice PlainId UInt8) Request) :=
  [.start 0 loginRequest] ++ serves 0 1 ++ [.step 0 (.proceed 1)] ++ serves 0 4

/-- The user registers a key. -/
def registered : List (Move (Choice PlainId UInt8) Request) :=
  loggedIn ++ [.start 1 keyRequest] ++ serves 1 3 ++
    List.replicate 3 (.step 1 (.backend .proceed)) ++ [.step 1 (.backend (.draw plainKey))] ++
    List.replicate 5 (.step 1 (.backend .proceed)) ++ serves 1 4

theorem requests_authorized_registered :
    let last := (reached plainService plainInitial registered).world
    last.backend.requested 1 = some ⟨0, .postKey "u" (some "pem")⟩ ∧
    ∃ request route accessToken, last.asked 1 = some request ∧
      request.route = some route ∧ Serves plainService request route (.postKey "u" (some "pem")) ∧
      AuthUtil.getAccessTokenFromHeader request.headers = .ok accessToken ∧
      Entitled plainService plainInitial last "u" accessToken := by
  have begun : (reached plainService plainInitial registered).world.backend.requested 1 =
      some ⟨0, .postKey "u" (some "pem")⟩ := by decide +kernel
  exact ⟨begun, requests_authorized registered 1 begun⟩

theorem registered_foreseen (Foreign : Failure → Prop) : Foreseen Foreign registered := by
  intro index choice member failure injects
  simp [registered, loggedIn, serves] at member
  rcases member with ⟨-, rfl⟩ | ⟨-, rfl⟩ | ⟨-, rfl⟩ | ⟨-, rfl⟩ | ⟨-, rfl⟩ | ⟨-, rfl⟩ | ⟨-, rfl⟩ |
    ⟨-, rfl⟩
  all_goals cases injects

/-- A body that was sent as JSON is the one of the handler. -/
theorem content_of_send {request : Request} {response : Response} {success : Bool}
    {message : Option String} {data : Option Data}
    (sent : (request.send response).content = .json success message data) :
    response.content = .json success message data := by
  simp only [Request.send] at sent
  split at sent
  · cases isContent : response.content <;> rw [isContent] at sent <;> cases sent
  · exact sent

/-- The response to the registered key is a listed one. -/
theorem responses_listed_registered :
    let last := (reached plainService plainInitial registered).world
    let answer : Response := ⟨201, .json true (some "registered") (some (.publicKeyId "k"))⟩
    ∃ exchange, last.exchanges 1 = some exchange ∧ exchange.answer = some answer ∧
      ∃ response route, answer = exchange.request.send response ∧
        exchange.request.route = some route ∧
        Succeeds plainService (factsOf plainService plainInitial registered Disconnected 1)
          response route := by
  intro last answer
  have answered : (last.exchanges 1).bind Exchange.answer = some answer := by decide +kernel
  obtain ⟨exchange, found, shows⟩ := Option.bind_eq_some_iff.mp answered
  refine ⟨exchange, found, shows, ?_⟩
  obtain ⟨response, isAnswer, listed⟩ :=
    responses_listed (registered_foreseen Disconnected) 1 found shows
  have isContent := content_of_send (congrArg Response.content isAnswer).symm
  rcases listed with ⟨err, rfl, -⟩ | ⟨route, asked, succeeds⟩ | ⟨-, rfl⟩
  · cases isContent
  · exact ⟨response, route, isAnswer, asked, succeeds⟩
  · cases isContent

end Holonus.Api
