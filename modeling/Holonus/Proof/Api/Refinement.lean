/-
This file proves that every run of the service shows a run of its file and key requests.
-/

import Holonus.Proof.Api.Progress

namespace Holonus.Api

open Holonus.Machine Holonus.Backend Holonus.Auth

section
variable {Id PublicKey : Type}

/-- These routes have a core function on files or keys. -/
def Route.isHosted : Route → Bool
  | .postLogin | .deleteLogin | .getCoins _ | .postCoins _ _ _ => false
  | _ => true

/-- A handler fails before its core function starts, or it shows how its core function ended. -/
def Shows (service : Service Id PublicKey) (route : Route)
    (phase : Option (Backend.Task Id PublicKey (Backend.Response Id)))
    (outcome : Except Failure Response) : Prop :=
  match phase with
  | none => ∃ err, outcome = .error err
  | some (.done result) => outcome = result.bind (render service route)
  | some (.await _ _) => False

/-- The response of a file or key exchange shows the outcome of its handler. -/
def Reports (service : Service Id PublicKey) (request : Request)
    (phase : Option (Backend.Task Id PublicKey (Backend.Response Id))) (response : Response) :
    Prop :=
  ∀ route, request.route = some route → route.isHosted = true →
    ∃ outcome, response = shownAs outcome ∧ Shows service route phase outcome

/-- The response is sent when the core function has ended. -/
def Finishes (service : Service Id PublicKey) (request : Request)
    (phase : Option (Backend.Task Id PublicKey (Backend.Response Id))) : Own → Prop
  | .finish response => Reports service request phase response
  | _ => True

/-- The replies that every exchange gets. -/
def Replies (service : Service Id PublicKey) (op : Op Id)
    (reply : Except Failure (Reply Id PublicKey op)) : Prop :=
  ∀ request, (serving service Facts.any request fun _ => True).Answers op reply

section
variable {Value : Type} {service : Service Id PublicKey} {request : Request}
  {phase : Option (Backend.Task Id PublicKey (Backend.Response Id))}

/-- A program without core functions leaves the core function of its exchange where it is. -/
theorem visits_of_obeys {protocol : Protocol (Op Id) (Reply Id PublicKey) Failure}
    {After : Value → Prop} {Thrown : Failure → Prop} {program : Task Id PublicKey Value}
    (owns : ∀ op, protocol.Allows op → ∃ own, op = .own own ∧ ∀ response, own ≠ .finish response)
    (answers : ∀ op reply, protocol.Allows op →
      (serving service Facts.any request fun _ => True).Answers op reply →
        protocol.Answers op reply)
    (obeys : program.Obeys protocol After Thrown) :
    program.Visits (Backend.Request.program service.platform) (Finishes service request)
      (Replies service) (fun value later => After value ∧ later = phase)
      (fun failure later => Thrown failure ∧ later = phase) phase := by
  refine Program.Visits.own ?_ (fun op reply allowed replied =>
    answers op reply allowed (replied request)) (obeys.conseq (fun _ after => ⟨after, rfl⟩)
      fun _ thrown => ⟨thrown, rfl⟩)
  intro op allowed
  obtain ⟨own, same, unfinished⟩ := owns op allowed
  refine ⟨own, same, ?_⟩
  cases own with
  | finish response => exact absurd rfl (unfinished response)
  | _ => exact trivial

/-- Asides visit no hosted request. -/
theorem asides_visits {After : Value → Prop} {Thrown : Failure → Prop}
    {program : Task Id PublicKey Value}
    (obeys : program.Obeys (asides service Facts.any request fun _ => True) After Thrown) :
    program.Visits (Backend.Request.program service.platform) (Finishes service request)
      (Replies service) (fun value later => After value ∧ later = phase)
      (fun failure later => Thrown failure ∧ later = phase) phase := by
  apply visits_of_obeys _ _ obeys
  · intro op allowed
    cases op with
    | inner op => exact allowed.elim
    | enter core => exact allowed.elim
    | own op =>
        refine ⟨op, rfl, ?_⟩
        rintro response rfl
        exact allowed
  · intro op reply allowed answered
    cases op with
    | inner op => exact allowed.elim
    | enter core => exact allowed.elim
    | own op => exact answered

/-- The log leaves the core function of its exchange where it is. -/
theorem logResponse_visits {loginUser : Option (LoginUser Id)} {response : Response} :
    (logResponse service request loginUser response).Visits
      (Backend.Request.program service.platform) (Finishes service request) (Replies service)
      (fun _ _ => True) (fun _ _ => True) phase := by
  have obeys : (logResponse service request loginUser response :
      Task Id PublicKey Unit).Obeys (closing service Facts.any request fun _ => True)
      (fun _ => True) fun _ => True :=
    logResponse_obeys (fun _ _ => trivial) fun _ _ _ _ => trivial
  apply (visits_of_obeys _ _ obeys).conseq (fun _ _ _ => trivial) fun _ _ _ => trivial
  · intro op allowed
    cases op with
    | inner op => exact allowed.elim
    | enter core => exact allowed.elim
    | own op =>
        refine ⟨op, rfl, ?_⟩
        rintro response rfl
        exact allowed
  · intro op reply allowed answered
    cases op with
    | inner op => exact allowed.elim
    | enter core => exact allowed.elim
    | own op => exact answered

/-- The core function of an exchange runs to its end. -/
theorem core_visits (core : Backend.Request Id) :
    (Api.core service.platform core).Visits (Backend.Request.program service.platform)
      (Finishes service request) (Replies service)
      (fun result later => later = some (.done (.ok result)))
      (fun failure later => later = some (.done (.error failure))) none := by
  apply Program.Visits.bind (Program.Visits.enter fun _ replied => replied request)
  rintro _ _ rfl
  exact Program.Visits.inner _

/-- A file or key handler shows how its core function ended. -/
theorem answering_visits {route : Route} {check : Except Failure Unit} {body : Backend.Body Id} :
    (answering service request route check body).Visits (Backend.Request.program service.platform)
      (Finishes service request) (Replies service)
      (fun response later => Shows service route later (.ok response))
      (fun failure later => Shows service route later (.error failure)) none := by
  cases check with
  | error failure => exact ⟨failure, rfl⟩
  | ok _ =>
      have ends : (Api.core service.platform ⟨request.attempts, body⟩).Visits
          (Backend.Request.program service.platform) (Finishes service request) (Replies service)
          (fun result later => later = some (.done (.ok result)))
          (fun failure later => Shows service route later (.error failure)) none := by
        apply (core_visits _).conseq fun _ _ ended => ended
        rintro failure _ rfl
        exact rfl
      apply Program.Visits.bind ends
      rintro result _ rfl
      cases rendered : render service route result with
      | ok response => exact rendered.symm
      | error failure => exact rendered.symm

/-- A handler without a core function has nothing to show. -/
theorem unhosted_visits {route : Route} (unhosted : route.isHosted = false)
    {program : Task Id PublicKey Response} {After : Response → Prop} {Thrown : Failure → Prop}
    (obeys : program.Obeys (asides service Facts.any request fun _ => True) After Thrown) :
    program.Visits (Backend.Request.program service.platform) (Finishes service request)
      (Replies service)
      (fun response later => route.isHosted = true → Shows service route later (.ok response))
      (fun failure later => route.isHosted = true → Shows service route later (.error failure))
      none := by
  apply (asides_visits obeys).conseq
  · intro response later _ hosted
    rw [unhosted] at hosted
    cases hosted
  · intro failure later _ hosted
    rw [unhosted] at hosted
    cases hosted

/-- A handler hosts the request of its route and shows its response. -/
theorem handler_visits {loginUser : LoginUser Id} {route : Route}
    (asked : request.route = some route) :
    (handler service request loginUser route).Visits (Backend.Request.program service.platform)
      (Finishes service request) (Replies service)
      (fun response later => route.isHosted = true → Shows service route later (.ok response))
      (fun failure later => route.isHosted = true → Shows service route later (.error failure))
      none := by
  cases route with
  | postLogin => exact unhosted_visits rfl (postLogin_responds asked)
  | deleteLogin => exact unhosted_visits rfl deleteLogin_responds
  | getCoins account => exact unhosted_visits rfl getCoins_obeys
  | postCoins source target amount =>
      exact unhosted_visits rfl (postCoins_obeys asked fun _ _ => trivial)
  | _ => exact answering_visits.conseq (fun _ _ shows _ => shows) fun _ _ shows _ => shows

/-- The response shows the outcome of its handler. -/
theorem shownAs_visits {route : Route} (asked : request.route = some route)
    {program : Task Id PublicKey Response} {loginUser : Option (LoginUser Id)}
    {Thrown : Failure → Option (Backend.Task Id PublicKey (Backend.Response Id)) → Prop}
    (visits : program.Visits (Backend.Request.program service.platform)
      (Finishes service request) (Replies service)
      (fun response later => route.isHosted = true → Shows service route later (.ok response))
      (fun failure later => route.isHosted = true → Shows service route later (.error failure))
      none) :
    (do
      let outcome ← program.settled
      return (loginUser, shownAs outcome) : Task Id PublicKey (Option (LoginUser Id) × Response)).Visits
      (Backend.Request.program service.platform) (Finishes service request) (Replies service)
      (fun routed later => Reports service request later routed.2) Thrown none := by
  apply Program.Visits.bind (Program.Visits.settled visits)
  intro outcome later ends
  apply Program.Visits.pure
  intro other same hosted
  rw [asked, Option.some.injEq] at same
  subst same
  refine ⟨outcome, rfl, ?_⟩
  cases outcome with
  | ok response => exact ends hosted
  | error failure => exact ends hosted

theorem reports_error (err : Failure) : Reports service request none (errorHandler err) :=
  fun _ _ _ => ⟨.error err, rfl, err, rfl⟩

/-- A request without a route has nothing to report. -/
theorem reports_missing {response : Response} (missing : request.route = none) :
    Reports service request phase response := by
  intro route asked
  rw [missing] at asked
  cases asked

/-- There is no route for options. -/
theorem route_of_options (isOptions : request.method = .options) : request.route = none := by
  rw [Request.route, isOptions]
  split
  · rfl
  · rfl

/-- The router hosts at most one request and reports its response. -/
theorem router_visits
    {Thrown : Failure → Option (Backend.Task Id PublicKey (Backend.Response Id)) → Prop} :
    (router service request).Visits (Backend.Request.program service.platform)
      (Finishes service request) (Replies service)
      (fun routed later => Reports service request later routed.2) Thrown none := by
  rw [router]
  split
  · exact Program.Visits.pure (reports_error _)
  · split
    · exact Program.Visits.pure (reports_error _)
    · split
      · rename_i missing
        exact Program.Visits.pure (reports_missing missing)
      · rename_i asked
        exact shownAs_visits asked (unhosted_visits rfl (postLogin_responds asked))
      · rename_i route _ asked
        apply Program.Visits.bind (Program.Visits.settled (asides_visits useAuthorization_obeys))
        intro authorized later ends
        cases authorized with
        | error err =>
            obtain ⟨-, rfl⟩ := ends
            exact Program.Visits.pure (reports_error _)
        | ok loginUser =>
            obtain ⟨-, rfl⟩ := ends
            exact shownAs_visits asked (handler_visits asked)

/-- An exchange runs at most one core function and responds when that one has ended. -/
theorem exchange_visits (service : Service Id PublicKey) (request : Request) :
    (exchange service request).Visits (Backend.Request.program service.platform)
      (Finishes service request) (Replies service) (fun _ _ => True) (fun _ _ => True) none := by
  have finishes {phase : Option (Backend.Task Id PublicKey (Backend.Response Id))}
      {response : Response} (reports : Reports service request phase response) :
      (finish response : Task Id PublicKey Unit).Visits (Backend.Request.program service.platform)
        (Finishes service request) (Replies service) (fun _ _ => True) (fun _ _ => True) phase := by
    refine ⟨_, .own phase (Own.finish response) reports, ?_⟩
    intro reply _
    cases reply with
    | ok _ => exact trivial
    | error failure => exact trivial
  by_cases isOptions : request.method = .options
  · rw [exchange, if_pos isOptions]
    exact finishes (reports_missing (route_of_options isOptions))
  · rw [exchange, if_neg isOptions]
    apply Program.Visits.bind router_visits
    rintro ⟨loginUser, response⟩ later reports
    apply Program.Visits.bind (finishes reports)
    intro _ later _
    exact logResponse_visits

end

variable [DecidableEq Id]

/-- The service hosts the runtime of the backend. -/
theorem hosts (service : Service Id PublicKey) :
    (runtime service).Hosts (Backend.runtime service.platform) World.backend where
  performs index op choice world reply next performed := by
    cases choice with
    | backend choice =>
        obtain ⟨⟨answer, backend⟩, performs, same⟩ := Option.map_eq_some_iff.mp performed
        cases same
        exact ⟨choice, performs⟩
    | _ => cases performed
  enters index core choice world reply next performed := by
    cases perform_changes performed with
    | entered core free => exact ⟨free, rfl⟩
  keeps index op choice world reply next performed := by
    cases perform_changes performed with
    | _ => rfl
  enrolls _ _ _ := rfl

/-- A response was sent now or earlier. -/
theorem Changes.responded {service : Service Id PublicKey} {index : Nat} {op : Op Id}
    {world next : World Id PublicKey} {exchange : Exchange} {response : Response}
    (changes : Changes service index world op next)
    (found : next.exchanges index = some exchange)
    (responded : exchange.response = some response) :
    ∃ before, world.exchanges index = some before ∧ before.request = exchange.request ∧
      (op = .own (.finish response) ∨ before.response = some response) := by
  cases changes with
  | finished shown elapsed =>
      obtain ⟨before, present, rfl⟩ := Option.map_eq_some_iff.mp
        ((Function.update_self index _ _).symm.trans found)
      cases responded
      exact ⟨before, present, rfl, .inl rfl⟩
  | sent transaction coin elapsed executed =>
      obtain ⟨before, present, rfl⟩ := Option.map_eq_some_iff.mp
        ((Function.update_self index _ _).symm.trans found)
      exact ⟨before, present, rfl, .inr responded⟩
  | _ => exact ⟨exchange, found, rfl, .inr responded⟩

/-- Each exchange is as far as its core function, and each response shows how that one ended. -/
structure Mirrors (service : Service Id PublicKey)
    (pool : Pool (Op Id) (Reply Id PublicKey) Failure Unit (World Id PublicKey))
    (mine : Pool (Backend.Op Id) (Backend.Reply PublicKey) Failure (Backend.Response Id)
      (Backend.World Id PublicKey)) : Prop where
  linked : Linked (Backend.Request.program service.platform) World.backend World.asked
    (Finishes service) (Replies service) pool mine
  reports : ∀ index exchange, pool.world.exchanges index = some exchange → ∀ response,
    exchange.response = some response →
      Reports service exchange.request (mine.tasks index) response

section
variable {service : Service Id PublicKey}
  {pool next : Pool (Op Id) (Reply Id PublicKey) Failure Unit (World Id PublicKey)}
  {mine : Pool (Backend.Op Id) (Backend.Reply PublicKey) Failure (Backend.Response Id)
    (Backend.World Id PublicKey)}

/-- Starting an exchange keeps the mirror. -/
theorem Mirrors.start (mirrors : Mirrors service pool mine) {index : Nat} {request : Request}
    (advanced : (runtime service).advance pool (.start index request) = .ok next) :
    Mirrors service next mine := by
  refine ⟨mirrors.linked.start (hosts service) (remembers service) (exchange_visits service)
    advanced, ?_⟩
  obtain ⟨-, started⟩ := (runtime service).advance_start advanced
  rw [started]
  apply forall_update_some
  · intro response responded
    cases responded
  · exact fun other exchange _ found => mirrors.reports other exchange found

/-- A step of the service is matched by a step of the core functions or by none. -/
theorem Mirrors.step (mirrors : Mirrors service pool mine)
    (kept : (runtime service).Kept (orderly service) (fun _ _ _ => True) pool) {index : Nat}
    {choice : Choice Id PublicKey}
    (advanced : (runtime service).advance pool (.step index choice) = .ok next) :
    ∃ moves, Mirrors service next
      (run (Backend.runtime service.platform).advance mine moves) := by
  obtain ⟨op, resume, reply, world, task, performed, stepped⟩ :=
    (runtime service).advance_step advanced
  have owes : Owes service index pool.world op :=
    kept.demands (orderly_sound service).rely_refl task
  have replies : Replies service op reply := fun _ => any_answers performed
  obtain ⟨moves, request, later, asked, turns, tasks, linked⟩ :=
    mirrors.linked.step (hosts service) (remembers service) task performed replies
  rw [stepped]
  refine ⟨moves, linked, ?_⟩
  have changes := perform_changes performed
  intro other exchange found response responded
  rw [tasks]
  by_cases same : other = index
  · subst same
    rw [Function.update_self]
    obtain ⟨before, present, isRequest, shown⟩ := changes.responded found responded
    rw [← isRequest]
    rcases shown with now | earlier
    · subst now
      obtain ⟨reports, unmoved⟩ := turns.of_own
      rw [unmoved reply]
      rw [World.asked, present, Option.map_some, Option.some.injEq] at asked
      rw [asked]
      exact reports
    · -- A core function only moves on before the response is sent.
      have moved : ¬ ∃ request sent, Stands other ⟨request, none, sent⟩ pool.world := by
        rintro ⟨request, sent, stands, -⟩
        rw [present, Option.some.injEq] at stands
        rw [stands] at earlier
        cases earlier
      cases op with
      | inner op => exact absurd owes moved
      | enter core => exact absurd owes moved
      | own op =>
          rw [turns.of_own.2 reply]
          exact mirrors.reports other before present response earlier
  · rw [Function.update_of_ne same]
    have earlier : pool.world.exchanges other = some exchange :=
      (changes.spares same).1.symm.trans found
    exact mirrors.reports other exchange earlier response responded

/-- Every run of the service mirrors a run of its core functions. -/
theorem reached_mirrors (service : Service Id PublicKey) (initial : Initial Id)
    (moves : List (Move (Choice Id PublicKey) Request)) :
    ∃ inner, Mirrors service (reached service initial moves)
      (Backend.reached service.platform initial.store inner) := by
  apply run_invariant
    (fun entry => (runtime service).Kept (orderly service) (fun _ _ _ => True) entry.1)
    (fun pool => ∃ inner, Mirrors service pool
      (Backend.reached service.platform initial.store inner))
  · refine ⟨[], ⟨rfl, fun _ _ => rfl, ?_⟩, ?_⟩
    · intro index program found
      cases found
    · intro index exchange found
      cases found
  · rintro pool move next kept ⟨inner, mirrors⟩ advanced
    cases move with
    | start index request => exact ⟨inner, mirrors.start advanced⟩
    | step index choice =>
        obtain ⟨more, matched⟩ := mirrors.step kept advanced
        refine ⟨inner ++ more, ?_⟩
        rw [Backend.reached, run_append]
        exact matched
  · intro entry member
    obtain ⟨first, rest, next, -, ran, -, -⟩ := split_of_history member
    rw [← ran]
    exact reached_kept service initial first

/-- Over every run of the service, some run of the core functions has the same stores, and every
response of a file or key exchange shows how the core function with the same index ended there, or it
is an error and there is no such core function. -/
theorem exchanges_refine (service : Service Id PublicKey) (initial : Initial Id)
    (moves : List (Move (Choice Id PublicKey) Request)) :
    let last := (reached service initial moves).world
    ∃ inner, let mine := Backend.reached service.platform initial.store inner
      mine.world = last.backend ∧
      ∀ index exchange response route, last.exchanges index = some exchange →
        exchange.response = some response → exchange.request.route = some route →
        route.isHosted = true →
          (mine.tasks index = none ∧ ∃ err, response = errorHandler err) ∨
          ∃ outcome, mine.outcome index = some outcome ∧
            response = shownAs (outcome.bind (render service route)) := by
  intro last
  obtain ⟨inner, mirrors⟩ := reached_mirrors service initial moves
  refine ⟨inner, mirrors.linked.world, ?_⟩
  intro index exchange response route found responded asked hosted
  obtain ⟨outcome, rfl, shows⟩ :=
    mirrors.reports index exchange found response responded route asked hosted
  generalize isPhase : (Backend.reached service.platform initial.store inner).tasks index = phase
    at shows
  cases phase with
  | none =>
      obtain ⟨err, rfl⟩ := shows
      exact .inl ⟨rfl, err, rfl⟩
  | some program =>
      cases program with
      | await op resume => exact shows.elim
      | done result =>
          refine .inr ⟨result, ?_, congrArg shownAs shows⟩
          rw [Pool.outcome, isPhase]

end

end

end Holonus.Api
