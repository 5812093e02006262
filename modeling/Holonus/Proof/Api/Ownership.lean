/-
This file proves that the service shows stored values only to their owner and only as the owner stored
them.
-/

import Holonus.Proof.Api.Authority
import Holonus.Proof.Api.Refinement
import Holonus.Proof.Backend.Provenance

namespace Holonus.Api

open Holonus.Machine Holonus.Abstract Holonus.Backend Holonus.Auth

section
variable {Id PublicKey : Type}

/-- The response shows the value that the chain has under the text. -/
inductive Discloses (service : Service Id PublicKey) :
    Route → Response → Shelf → String → String → Prop
  | file (fileId fileName mimeType : String) (attachement : Bytes) :
      Discloses service (.getFile fileId) ⟨200, .attachement fileName mimeType attachement⟩ .files
        fileId (service.platform.address attachement)
  | key (publicKeyId text publicKey : String) :
      Discloses service (.getKey publicKeyId)
        ⟨200, generateResponseData true none (some (.key (some text) (some publicKey)))⟩ .keys text
        publicKey

/-- The request sends the value for the text; an attachement is stored in encrypted form. -/
def Supplies (service : Service Id PublicKey) (request : Request) (text value : String) :
    Shelf → Prop
  | .files => (request.route = some .postFile ∨ request.route = some (.putFile text)) ∧
      ∃ key, service.platform.address (service.platform.encrypt key
        (service.gateway.utf8 ((request.fileField FileFields.attachement).getD ""))) = value
  | .keys => (request.route = some .postKey ∨ request.route = some (.putKey text)) ∧
      KeysProcess.firstValue request = some value

/-- A core function writes what its exchange sends. -/
theorem supplies_of_serves {service : Service Id PublicKey} {request : Request} {route : Route}
    {body : Backend.Body Id} {userId text value : String} {shelf : Shelf}
    (asked : request.route = some route) (serves : Serves service request route body)
    (writes : body.Writes service.platform userId text value shelf) :
    Supplies service request text value shelf := by
  cases shelf with
  | files =>
      obtain ⟨key, attachement, isValue, ⟨publicKeyId, fileName, mimeType, rfl⟩ |
        ⟨fileName, mimeType, rfl⟩⟩ := writes
      · cases route with
        | postFile =>
            obtain ⟨-, -, isContent⟩ := serves
            exact ⟨.inl asked, key, isContent ▸ isValue⟩
        | _ => exact serves.elim
      · cases route with
        | putFile fileId =>
            obtain ⟨rfl, -, -, isContent⟩ := serves
            exact ⟨.inr asked, key, isContent ▸ isValue⟩
        | _ => exact serves.elim
  | keys =>
      rcases writes with rfl | rfl
      · cases route with
        | postKey => exact ⟨.inl asked, serves.symm⟩
        | _ => exact serves.elim
      · cases route with
        | putKey publicKeyId =>
            obtain ⟨rfl, isKey⟩ := serves
            exact ⟨.inr asked, isKey.symm⟩
        | _ => exact serves.elim

/-- A response that discloses a value renders a result that displays it. -/
theorem Discloses.displays {service : Service Id PublicKey} {request : Request} {route : Route}
    {response : Response} {shelf : Shelf} {text value : String} {body : Backend.Body Id}
    {result : Backend.Response Id} (serves : Serves service request route body)
    (rendered : render service route result = .ok response)
    (discloses : Discloses service route response shelf text value) :
    Displays service.platform body result shelf text value := by
  cases discloses with
  | file fileId fileName mimeType attachement =>
      cases body with
      | getFile userId named =>
          cases serves
          cases result with
          | file name type content =>
              simp only [render] at rendered
              split at rendered
              · cases rendered
              · split at rendered
                · cases rendered
                  exact .file userId _ name mimeType attachement
                · cases rendered
          | _ => cases rendered
      | _ => exact serves.elim
  | key publicKeyId text publicKey =>
      cases body with
      | getKey userId named =>
          cases serves
          cases result with
          | key id shownKey =>
              cases id with
              | none => cases rendered
              | some id =>
                  cases rendered
                  exact .key userId _ id _
          | _ => cases rendered
      | _ => exact serves.elim

/-- No error discloses a value. -/
theorem Discloses.ne_errorHandler {service : Service Id PublicKey} {route : Route}
    {response : Response} {shelf : Shelf} {text value : String}
    (discloses : Discloses service route response shelf text value) (err : Failure) :
    response ≠ errorHandler err := by
  intro same
  have contents := congrArg Response.content same
  cases discloses with
  | file => cases contents
  | key => cases contents

/-- A response that discloses a value shows the result of its core function. -/
theorem Discloses.rendered {service : Service Id PublicKey} {request : Request} {route : Route}
    {response : Response} {shelf : Shelf} {text value : String}
    {phase : Option (Backend.Task Id PublicKey (Backend.Response Id))}
    (asked : request.route = some route) (reports : Reports service request phase response)
    (discloses : Discloses service route response shelf text value) :
    ∃ result, phase = some (.done (.ok result)) ∧ render service route result = .ok response := by
  have hosted : route.isHosted = true := by
    cases discloses with
    | file => rfl
    | key => rfl
  obtain ⟨outcome, isShown, shows⟩ := reports route asked hosted
  cases outcome with
  | error err => exact absurd isShown (discloses.ne_errorHandler err)
  | ok shown =>
      cases isShown
      cases phase with
      | none =>
          obtain ⟨err, failed⟩ := shows
          cases failed
      | some program =>
          cases program with
          | await op resume => exact shows.elim
          | done ended =>
              cases ended with
              | error failure => cases shows
              | ok result => exact ⟨result, rfl, shows.symm⟩

variable [DecidableEq Id] (service : Service Id PublicKey) (initial : Initial Id)

/-- The header of the request carries a token that the user is entitled to. -/
def Vouched (last : World Id PublicKey) (index : Nat) (request : Request) (userId : String) : Prop :=
  last.asked index = some request ∧
    ∃ accessToken, AuthUtil.getAccessTokenFromHeader request.headers = .ok accessToken ∧
      Entitled service initial last userId accessToken

variable {service initial}

/-- Every core function has the inputs of a vouched request. -/
theorem reached_vouched {moves : List (Move (Choice Id PublicKey) Request)} {index : Nat}
    {core : Backend.Request Id}
    (begun : (reached service initial moves).world.backend.requested index = some core) :
    ∃ request route,
      Vouched service initial (reached service initial moves).world index request core.body.userId ∧
      request.route = some route ∧ Serves service request route core.body := by
  have accredited : Accredited service (factsOf service initial moves fun _ => True)
      (reached service initial moves).world := reached_accredited moves
  obtain ⟨request, asked, calls⟩ := accredited.entered index core begun
  obtain ⟨route, routed, serves⟩ := calls.serves
  exact ⟨request, route, ⟨asked, accredited.entitled calls.bears⟩, routed, serves⟩

/-- Over every run, a value that the service shows stands under an identifier of a user whose token
the request carries, and it was there at the start or a request with a token of the same user sent
it. -/
theorem disclosures_owned (established : Established service.platform initial.store)
    (moves : List (Move (Choice Id PublicKey) Request)) (index : Nat) {exchange : Exchange}
    {response : Response} {route : Route} {shelf : Shelf} {text value : String}
    (found : (reached service initial moves).world.exchanges index = some exchange)
    (responded : exchange.response = some response)
    (routed : exchange.request.route = some route)
    (discloses : Discloses service route response shelf text value) :
    let last := (reached service initial moves).world
    ∃ userId, Vouched service initial last index exchange.request userId ∧
      Belongs service.platform last.backend.store userId text ∧
      ((((initial.store.chain.storage shelf).entries text).id ≠ "" ∧
          ((initial.store.chain.storage shelf).entries text).value = value) ∨
        ∃ other request, Vouched service initial last other request userId ∧
          Supplies service request text value shelf) := by
  intro last
  obtain ⟨inner, mirrors⟩ := reached_mirrors service initial moves
  have isWorld : (Backend.reached service.platform initial.store inner).world = last.backend :=
    mirrors.linked.world
  obtain ⟨result, ended, rendered⟩ :=
    discloses.rendered routed (mirrors.reports index exchange found response responded)
  have outcome : (Backend.reached service.platform initial.store inner).outcome index =
      some (.ok result) := by
    rw [Pool.outcome, ended]
  obtain ⟨core, begun, -⟩ := (Backend.reached_obedient (List.prefix_refl inner)).finished outcome
  rw [isWorld] at begun
  obtain ⟨request, served, vouched, asked, serves⟩ := reached_vouched begun
  have isRequest : exchange.request = request := by
    have both := vouched.1
    rw [World.asked, found] at both
    exact Option.some.inj both
  subst isRequest
  rw [routed, Option.some.injEq] at asked
  subst asked
  have displays := discloses.displays serves rendered
  rw [← isWorld] at begun
  obtain ⟨belongs, stems⟩ := displays_stems established inner index begun outcome displays
  rw [isWorld] at belongs stems
  refine ⟨core.body.userId, vouched, belongs, ?_⟩
  rcases stems with atStart | ⟨other, writer, wrote, writes⟩
  · exact .inl atStart
  · obtain ⟨request, route, vouched, asked, serves⟩ := reached_vouched wrote
    rw [writes.userId] at vouched
    exact .inr ⟨other, request, vouched, supplies_of_serves asked serves writes⟩

end

def readRequest : Request where
  method := .get
  path := plainPath ["keys", "k"]
  url := "/keys/k"
  contentType := some "application/json"
  headers := plainHeaders
  fresh := false
  body := ⟨⟨none, none⟩, none, []⟩
  attempts := 0

/-- The user reads the registered key. -/
def readBack : List (Move (Choice PlainId UInt8) Request) :=
  registered ++ [.start 2 readRequest] ++ serves 2 4 ++
    List.replicate 4 (.step 2 (.backend .proceed)) ++ serves 2 4

theorem disclosures_owned_readBack :
    let last := (reached plainService plainInitial readBack).world
    ∃ exchange, last.exchanges 2 = some exchange ∧
      exchange.response =
        some ⟨200, generateResponseData true none (some (.key (some "k") (some "pem")))⟩ ∧
      ∃ userId, Vouched plainService plainInitial last 2 exchange.request userId ∧
        Belongs plain last.backend.store userId "k" ∧
        ∃ other request, Vouched plainService plainInitial last other request userId ∧
          Supplies plainService request "k" "pem" .keys := by
  have responded : ((reached plainService plainInitial readBack).world.exchanges 2).bind
      Exchange.response =
        some ⟨200, generateResponseData true none (some (.key (some "k") (some "pem")))⟩ := by
    decide +kernel
  have routed : ((reached plainService plainInitial readBack).world.exchanges 2).bind
      (fun exchange => exchange.request.route) = some (.getKey "k") := by
    decide +kernel
  obtain ⟨exchange, found, shows⟩ := Option.bind_eq_some_iff.mp responded
  rw [found, Option.bind_some] at routed
  have established : Established plainService.platform plainInitial.store := plainStore_established
  have discloses : Discloses plainService (.getKey "k")
      ⟨200, generateResponseData true none (some (.key (some "k") (some "pem")))⟩ .keys "k" "pem" :=
    .key "k" "k" "pem"
  obtain ⟨userId, vouched, belongs, atStart | sent⟩ :=
    disclosures_owned established readBack 2 found shows routed discloses
  · have unused : ((plainInitial.store.chain.storage .keys).entries "k").id = "" := rfl
    exact absurd unused atStart.1
  · exact ⟨exchange, found, shows, userId, vouched, belongs, sent⟩

end Holonus.Api
