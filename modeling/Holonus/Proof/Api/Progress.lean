/-
This file proves that each exchange sends its transactions, its response and its log row in order and
at most once.
-/

import Holonus.Proof.Api.Authority

namespace Holonus.Api

open Holonus.Machine Holonus.Backend Holonus.Auth

section
variable {Id PublicKey : Type}

/-- The rows of the log that belong to the exchange. -/
def World.rows (world : World Id PublicKey) (index : Nat) : List LogRow :=
  (world.logs.filter fun entry => entry.1 = index).map Prod.snd

/-- The row shows the answer to the request. -/
structure Describes (service : Service Id PublicKey) (request : Request) (row : LogRow)
    (answer : Response) : Prop where
  statusCode : row.statusCode = answer.statusCode
  message : row.message = logMessage service.gateway answer.content
  endpoint : row.endpoint = request.url

/-- The two transactions of a transfer, the latest first. -/
def Transferred (service : Service Id PublicKey) (request : Request)
    (sent : List Coin.Transaction) : Prop :=
  ∃ source target amount value, request.route = some (.postCoins source target amount) ∧
    service.gateway.amount amount = some value ∧
    sent = [⟨service.gateway.address source, .transfer (service.gateway.address target) value⟩,
      ⟨service.gateway.address source, .approve (service.gateway.address target) value⟩]

/-- The request sent the last transactions of a transfer or none. -/
def Ordered (service : Service Id PublicKey) (request : Request)
    (sent : List Coin.Transaction) : Prop :=
  sent = [] ∨ ∃ whole, Transferred service request whole ∧ sent <:+ whole

/-- A response that shows a transfer follows both transactions. -/
def Settles (service : Service Id PublicKey) (request : Request) (response : Response)
    (sent : List Coin.Transaction) : Prop :=
  ∀ source target amount, request.route = some (.postCoins source target amount) →
    response.content = generateResponseData true none (some (.transfer source target amount)) →
      Transferred service request sent

/-- The exchange is this far and has no row in the log. -/
def Stands (index : Nat) (exchange : Exchange) (world : World Id PublicKey) : Prop :=
  world.exchanges index = some exchange ∧ world.rows index = []

/-- An exchange in order. -/
def Orderly (service : Service Id PublicKey) (rows : List LogRow) : Option Exchange → Prop
  | none => rows = []
  | some exchange => Ordered service exchange.request exchange.sent ∧
      match exchange.response with
      | none => rows = []
      | some response => Settles service exchange.request response exchange.sent ∧
          (rows = [] ∨ ∃ row, rows = [row] ∧
            Describes service exchange.request row (exchange.request.send response))

/-- What an operation owes to keep its exchange in order. -/
def Owes (service : Service Id PublicKey) (index : Nat) (world : World Id PublicKey) :
    Op Id → Prop
  | .own (.finish response) => ∃ request sent, Stands index ⟨request, none, sent⟩ world ∧
      Settles service request response sent
  | .own (.createLog row) => ∃ request response sent,
      Stands index ⟨request, some response, sent⟩ world ∧
        Describes service request row (request.send response)
  | .own (.send transaction) => ∃ request sent, Stands index ⟨request, none, sent⟩ world ∧
      Ordered service request (transaction :: sent)
  | .inner _ | .enter _ => ∃ request sent, Stands index ⟨request, none, sent⟩ world
  | _ => True

/-- Every exchange is in order, and no exchange touches another one. -/
def orderly (service : Service Id PublicKey) :
    Discipline (Op Id) (World Id PublicKey) (Choice Id PublicKey) where
  Invariant world := ∀ index, Orderly service (world.rows index) (world.exchanges index)
  Rely index world next :=
    next.exchanges index = world.exchanges index ∧ next.rows index = world.rows index
  Admits _ _ _ _ := True
  Demands index op world := Owes service index world op

/-- A logged row is added to the rows of its exchange. -/
theorem rows_log (world : World Id PublicKey) (index : Nat) (row : LogRow) (other : Nat) :
    (world.log index row).rows other =
      if other = index then world.rows other ++ [row] else world.rows other := by
  by_cases same : other = index
  · subst same
    simp [World.rows, World.log]
  · have different : ¬ index = other := fun equal => same equal.symm
    simp [World.rows, World.log, same, different]

variable [DecidableEq Id] {service : Service Id PublicKey} {index : Nat} {op : Op Id}
  {world next : World Id PublicKey}

/-- A change keeps the exchanges and rows of the others. -/
theorem Changes.spares {other : Nat} (different : other ≠ index)
    (changes : Changes service index world op next) :
    next.exchanges other = world.exchanges other ∧ next.rows other = world.rows other := by
  cases changes with
  | logged row elapsed =>
      refine ⟨rfl, ?_⟩
      rw [rows_log, if_neg different]
      rfl
  | finished response elapsed => exact ⟨Function.update_of_ne different _ _, rfl⟩
  | sent transaction coin elapsed executed => exact ⟨Function.update_of_ne different _ _, rfl⟩
  | _ => exact ⟨rfl, rfl⟩

/-- A change that is owed keeps the exchange orderly. -/
theorem Changes.orderly (owes : Owes service index world op)
    (changes : Changes service index world op next)
    (invariant : Orderly service (world.rows index) (world.exchanges index)) :
    Orderly service (next.rows index) (next.exchanges index) := by
  cases changes with
  | logged row elapsed =>
      obtain ⟨request, response, sent, ⟨found, empty⟩, describes⟩ := owes
      have present : (world.elapse elapsed).rows index = [] := empty
      rw [found] at invariant
      rw [rows_log, if_pos rfl, present]
      show Orderly service [row] (world.exchanges index)
      rw [found]
      exact ⟨invariant.1, invariant.2.1, .inr ⟨row, rfl, describes⟩⟩
  | finished response elapsed =>
      obtain ⟨request, sent, ⟨found, empty⟩, settles⟩ := owes
      have present : (world.elapse elapsed).exchanges index = some ⟨request, none, sent⟩ := found
      rw [record_exchanges present, Function.update_self]
      rw [found] at invariant
      exact ⟨invariant.1, settles, .inl empty⟩
  | sent transaction coin elapsed executed =>
      obtain ⟨request, sent, ⟨found, empty⟩, ordered⟩ := owes
      have present : ((world.elapse elapsed).withCoin coin).exchanges index =
          some ⟨request, none, sent⟩ := found
      rw [record_exchanges present, Function.update_self]
      exact ⟨ordered, empty⟩
  | _ => exact invariant

/-- Every operation keeps the exchanges orderly. -/
theorem orderly_sound (service : Service Id PublicKey) :
    (orderly service).Sound (World.perform service) where
  rely_refl _ _ := ⟨rfl, rfl⟩
  rely_trans _ _ _ _ first second := ⟨second.1.trans first.1, second.2.trans first.2⟩
  keeps index op choice world reply next invariant owes _ performed := by
    intro other
    by_cases same : other = index
    · subst same
      exact (perform_changes performed).orderly owes (invariant other)
    · obtain ⟨exchanges, rows⟩ := (perform_changes performed).spares same
      rw [exchanges, rows]
      exact invariant other
  spares index other op choice world reply next different _ _ _ performed :=
    (perform_changes performed).spares different

/-- Nothing is assumed about the replies. -/
def Facts.any : Facts where
  Foreign _ := True
  Authorized _ _ := True
  Matched _ _ _ := True
  Read _ _ := True
  Sent _ := True

section
variable {Value : Type} {request : Request} {exchange : Exchange}

omit [DecidableEq Id] in
/-- Where an exchange stands is kept by the others. -/
theorem stands_stable (index : Nat) (exchange : Exchange) :
    (orderly service).Stable index (Stands index exchange) := by
  intro world current relied _ stands
  exact ⟨relied.1.trans stands.1, relied.2.trans stands.2⟩

/-- An operation for the response leaves its exchange where it stands. -/
theorem Changes.stands
    (allowed : (serving service Facts.any request fun _ => False).Allows op)
    (changes : Changes service index world op next) (stands : Stands index exchange world) :
    Stands index exchange next := by
  cases changes with
  | logged row elapsed => exact allowed.elim
  | finished response elapsed => exact allowed.elim
  | sent transaction coin elapsed executed => exact allowed.elim
  | _ => exact stands

theorem any_answers {Sends : Coin.Transaction → Prop} {choice : Choice Id PublicKey}
    {reply : Except Failure (Reply Id PublicKey op)}
    (performed : world.perform service index op choice = some (reply, next)) :
    (serving service Facts.any request Sends).Answers op reply :=
  perform_answers ⟨fun _ _ _ => trivial, fun _ _ _ _ _ => trivial, fun _ _ _ => trivial⟩
    (fun _ _ => .inr trivial) (fun _ _ _ _ _ => trivial) performed

/-- A program that sends nothing leaves its exchange where it stands. -/
theorem asides_triple {program : Task Id PublicKey Value} {After : Value → Prop}
    {Thrown : Failure → Prop}
    (obeys : program.Obeys (asides service Facts.any request fun _ => False) After Thrown) :
    Triple (World.perform service) (orderly service) index (Stands index exchange) program
      (fun value world => After value ∧ Stands index exchange world)
      fun failure world => Thrown failure ∧ Stands index exchange world := by
  apply obeys.triple (stands_stable index exchange)
  · intro op world allowed _ _
    cases op with
    | own op =>
        cases op with
        | finish response => exact allowed.elim
        | createLog row => exact allowed.elim
        | send transaction => exact allowed.elim
        | _ => exact trivial
    | inner op => exact allowed.elim
    | enter core => exact allowed.elim
  · intro op choice world reply next allowed _ stands _ performed _
    cases op with
    | own op =>
        have serves : (serving service Facts.any request fun _ => False).Allows (.own op) := allowed
        have answers : (serving service Facts.any request fun _ => False).Answers (.own op) reply :=
          any_answers performed
        exact ⟨answers, (perform_changes performed).stands serves stands⟩
    | inner op => exact allowed.elim
    | enter core => exact allowed.elim

/-- A program for the response leaves its exchange where it stands. -/
theorem serving_triple {program : Task Id PublicKey Value} {After : Value → Prop}
    {Thrown : Failure → Prop} {asked : Request} {sent : List Coin.Transaction}
    (obeys : program.Obeys (serving service Facts.any request fun _ => False) After Thrown) :
    Triple (World.perform service) (orderly service) index (Stands index ⟨asked, none, sent⟩)
      program (fun value world => After value ∧ Stands index ⟨asked, none, sent⟩ world)
      fun failure world => Thrown failure ∧ Stands index ⟨asked, none, sent⟩ world := by
  apply obeys.triple (stands_stable index _)
  · intro op world allowed _ stands
    cases op with
    | own op =>
        cases op with
        | finish response => exact allowed.elim
        | createLog row => exact allowed.elim
        | send transaction => exact allowed.elim
        | _ => exact trivial
    | inner op => exact ⟨asked, sent, stands⟩
    | enter core => exact ⟨asked, sent, stands⟩
  · intro op choice world reply next allowed _ stands _ performed _
    exact ⟨any_answers performed, (perform_changes performed).stands allowed stands⟩

omit [DecidableEq Id] in
/-- A recorded update moves where the exchange stands. -/
theorem Stands.record {update : Exchange → Exchange} (stands : Stands index exchange world) :
    Stands index (update exchange) (world.record index update) := by
  refine ⟨?_, stands.2⟩
  rw [record_exchanges stands.1, Function.update_self]

/-- A sent transaction is kept even when its reply is lost. -/
theorem send_triple {transaction : Coin.Transaction} {sent : List Coin.Transaction}
    (ordered : Ordered service request (transaction :: sent)) :
    Triple (World.perform service) (orderly service) index (Stands index ⟨request, none, sent⟩)
      (call (.send transaction))
      (fun _ => Stands index ⟨request, none, transaction :: sent⟩)
      fun _ world => Stands index ⟨request, none, sent⟩ world ∨
        Stands index ⟨request, none, transaction :: sent⟩ world := by
  apply Triple.call (stands_stable index _)
  · intro world _ stands
    exact ⟨request, sent, stands, ordered⟩
  · intro world choice reply next _ stands _ performed _
    have after {coin : Coin.System} {elapsed : Nat} : Stands index
        ⟨request, none, transaction :: sent⟩
        (((world.elapse elapsed).withCoin coin).record index (Exchange.send transaction)) :=
      Stands.record stands
    obtain ⟨changes, answered⟩ := perform_own performed
    cases reply with
    | ok value =>
        rcases answered with ⟨elapsed, responded⟩ | ⟨failure, -, -, failed⟩
        · simp only [World.respond] at responded
          split at responded
          · cases responded
          · cases responded
            exact after
        · cases failed
    | error failure =>
        cases changes with
        | ticked op elapsed => exact .inl stands
        | sent transaction coin elapsed executed => exact .inr after

/-- Finishing answers with the response it is given. -/
theorem finish_triple {response : Response} {sent : List Coin.Transaction}
    {Thrown : Failure → World Id PublicKey → Prop} (settles : Settles service request response sent) :
    Triple (World.perform service) (orderly service) index (Stands index ⟨request, none, sent⟩)
      (finish response) (fun _ => Stands index ⟨request, some response, sent⟩) Thrown := by
  apply Triple.call (stands_stable index _)
  · intro world _ stands
    exact ⟨request, sent, stands, settles⟩
  · intro world choice reply next _ stands _ performed _
    rcases (perform_own performed).2 with ⟨elapsed, responded⟩ | ⟨failure, -, can, -⟩
    · cases responded
      exact Stands.record stands
    · cases can

/-- A row that describes the answer may be logged after it. -/
theorem createLog_triple {row : LogRow} {response : Response} {sent : List Coin.Transaction}
    (describes : Describes service request row (request.send response)) :
    Triple (World.perform service) (orderly service) index
      (Stands index ⟨request, some response, sent⟩) (call (.createLog row)) (fun _ _ => True)
      fun _ _ => True := by
  apply Triple.call (stands_stable index _)
  · intro world _ stands
    exact ⟨request, response, sent, stands, describes⟩
  · intro world choice reply next _ _ _ _ _
    cases reply <;> exact trivial

/-- After the response at most one row is logged. -/
theorem logResponse_triple {loginUser : Option (LoginUser Id)} {response : Response}
    {sent : List Coin.Transaction} :
    Triple (World.perform service) (orderly service) index
      (Stands index ⟨request, some response, sent⟩)
      (logResponse service request loginUser (request.send response)) (fun _ _ => True)
      fun _ _ => True := by
  have swallowed : ∀ _ : Failure, Triple (World.perform service) (orderly service) index
      (fun _ => True) (pure () : Task Id PublicKey Unit) (fun _ _ => True) fun _ _ => True :=
    fun _ => Triple.pure fun _ _ _ => trivial
  have quiet {Value : Type} {program : Task Id PublicKey Value}
      (obeys : program.Obeys (asides service Facts.any request fun _ => False) (fun _ => True)
        fun _ => True) :
      Triple (World.perform service) (orderly service) index
        (Stands index ⟨request, some response, sent⟩) program
        (fun _ => Stands index ⟨request, some response, sent⟩) fun _ _ => True :=
    (asides_triple obeys).conseq (fun _ _ before => before) (fun _ _ _ after => after.2)
      fun _ _ _ _ => trivial
  have reads : (call (.auth .readClock) : Task Id PublicKey Nat).Obeys
      (asides service Facts.any request fun _ => False) (fun _ => True) fun _ => True :=
    Program.Obeys.call trivial (fun _ _ => trivial) fun _ _ => trivial
  apply Triple.handle _ swallowed
  apply Triple.bind (quiet reads)
  intro now
  cases loginUser with
  | none => exact createLog_triple ⟨rfl, rfl, rfl⟩
  | some loginUser =>
      have finds : (guarded Messages.userFindError (call (.findUser loginUser.userId)) :
          Task Id PublicKey (Option (String × String))).Obeys
          (asides service Facts.any request fun _ => False) (fun _ => True) fun _ => True := by
        apply Program.Obeys.handle
          (Program.Obeys.call trivial (fun _ _ => trivial) fun _ _ => trivial)
        intro failure _
        exact Program.Obeys.throw trivial
      apply Triple.bind (quiet finds)
      intro found
      apply Triple.bind (quiet (present_obeys (fun _ _ => trivial) trivial))
      intro user
      exact createLog_triple ⟨rfl, rfl, rfl⟩

/-- A request that is no transfer of coins sends no transaction. -/
theorem router_triple (other : ∀ source target amount,
      request.route ≠ some (.postCoins source target amount)) :
    Triple (World.perform service) (orderly service) index (Stands index ⟨request, none, []⟩)
      (router service request)
      (fun routed world => ∃ sent, Settles service request routed.2 sent ∧
        Stands index ⟨request, none, sent⟩ world)
      fun _ _ => False := by
  have obeys : (router service request).Obeys (serving service Facts.any request fun _ => False)
      (Routed service Facts.any request) fun _ => False := by
    apply router_obeys
    rintro userId transaction _ ⟨source, target, amount, value, asked, -⟩
    exact other source target amount asked
  apply (serving_triple obeys).conseq (fun _ _ before => before) _ fun _ _ _ thrown => thrown.1
  intro routed world _ after
  refine ⟨[], ?_, after.2⟩
  intro source target amount asked
  exact absurd asked (other source target amount)

/-- A program that sends nothing keeps what was sent before it. -/
theorem pending_triple {program : Task Id PublicKey Value} {sent : List Coin.Transaction}
    {After : Value → Prop}
    (obeys : program.Obeys (asides service Facts.any request fun _ => False) After fun _ => True) :
    Triple (World.perform service) (orderly service) index (Stands index ⟨request, none, sent⟩)
      program (fun value world => After value ∧ Stands index ⟨request, none, sent⟩ world)
      fun _ world => ∃ sent, Stands index ⟨request, none, sent⟩ world :=
  (asides_triple obeys).conseq (fun _ _ before => before) (fun _ _ _ after => after)
    fun _ _ _ thrown => ⟨sent, thrown.2⟩

/-- An operation that sends nothing keeps what was sent before it. -/
theorem call_pending {op : Own} {sent : List Coin.Transaction}
    (allowed : (asides service Facts.any request fun _ => False).Allows (.own op)) :
    Triple (World.perform service) (orderly service) index (Stands index ⟨request, none, sent⟩)
      (call op : Task Id PublicKey (Answer Id op))
      (fun _ => Stands index ⟨request, none, sent⟩)
      fun _ world => ∃ sent, Stands index ⟨request, none, sent⟩ world :=
  (pending_triple (Program.Obeys.call allowed (fun _ _ => trivial) fun _ _ => trivial)).conseq
    (fun _ _ before => before) (fun _ _ _ after => after.2) fun _ _ _ thrown => thrown

/-- A transaction of its turn is sent, or it throws before or after it was. -/
theorem send_pending {transaction : Coin.Transaction} {sent : List Coin.Transaction}
    (ordered : Ordered service request (transaction :: sent)) :
    Triple (World.perform service) (orderly service) index (Stands index ⟨request, none, sent⟩)
      (call (.send transaction) : Task Id PublicKey Unit)
      (fun _ => Stands index ⟨request, none, transaction :: sent⟩)
      fun _ world => ∃ sent, Stands index ⟨request, none, sent⟩ world := by
  apply (send_triple ordered).conseq (fun _ _ before => before) (fun _ _ _ after => after)
  rintro failure world _ (before | after)
  · exact ⟨sent, before⟩
  · exact ⟨transaction :: sent, after⟩

/-- The approval is sent before the transfer. -/
theorem transactions_triple {approval transfer : Coin.Transaction}
    (whole : Transferred service request [transfer, approval]) :
    Triple (World.perform service) (orderly service) index (Stands index ⟨request, none, []⟩)
      (do
        call (.estimateGas approval)
        call (.send approval)
        call (.estimateGas transfer)
        call (.send transfer) : Task Id PublicKey Unit)
      (fun _ world => ∃ sent, Transferred service request sent ∧
        Stands index ⟨request, none, sent⟩ world)
      fun _ world => ∃ sent, Stands index ⟨request, none, sent⟩ world := by
  apply Triple.bind (call_pending (by exact trivial))
  intro _
  apply Triple.bind (send_pending (.inr ⟨_, whole, List.suffix_cons _ _⟩))
  intro _
  apply Triple.bind (call_pending (by exact trivial))
  intro _
  apply (send_pending (.inr ⟨_, whole, List.suffix_refl _⟩)).conseq (fun _ _ before => before) _
    fun _ _ _ thrown => thrown
  intro _ world _ stands
  exact ⟨_, whole, stands⟩

/-- A transfer sends its two transactions in their order, or it throws on the way. -/
theorem transfer_triple {source target amount : String}
    (asked : request.route = some (.postCoins source target amount)) :
    Triple (World.perform service) (orderly service) index (Stands index ⟨request, none, []⟩)
      (CoinService.transfer service.gateway (service.gateway.address source)
        (service.gateway.address target) (service.gateway.amount amount))
      (fun _ world => ∃ sent, Transferred service request sent ∧
        Stands index ⟨request, none, sent⟩ world)
      fun _ world => ∃ sent, Stands index ⟨request, none, sent⟩ world := by
  have rethrown (failure : Failure) : Triple (World.perform service) (orderly service) index
      (fun world => ∃ sent, Stands index ⟨request, none, sent⟩ world)
      (throw (failure.orElse Messages.coinTransferError) : Task Id PublicKey Unit)
      (fun _ world => ∃ sent, Transferred service request sent ∧
        Stands index ⟨request, none, sent⟩ world)
      fun _ world => ∃ sent, Stands index ⟨request, none, sent⟩ world :=
    Triple.throw fun _ _ stands => stands
  have manages : (CoinService.getManageAccount service.gateway : Task Id PublicKey _).Obeys
      (asides service Facts.any request fun _ => False) (fun _ => True)
      (Passed Facts.any.Foreign []) := getManageAccount_obeys
  apply Triple.handle _ rethrown
  apply Triple.bind (pending_triple (manages.conseq (fun _ after => after) fun _ _ => trivial))
  intro manageAddress
  apply Triple.assume
  intro _
  apply Triple.bind (pending_triple (failIf_obeys trivial))
  intro _
  apply Triple.assume
  intro _
  apply Triple.bind (pending_triple (failIf_obeys trivial))
  intro _
  apply Triple.assume
  intro _
  apply Triple.bind (call_pending (by exact trivial))
  intro _
  apply Triple.bind (pending_triple (present_obeys (fun _ same => same) trivial))
  intro value
  apply Triple.assume
  intro same
  exact transactions_triple ⟨source, target, amount, value, asked, same, rfl⟩

/-- Posting coins stands with what it sent. -/
theorem postCoins_triple {source target amount : String}
    (asked : request.route = some (.postCoins source target amount)) :
    Triple (World.perform service) (orderly service) index (Stands index ⟨request, none, []⟩)
      (CoinsProcess.postCoins service source target amount)
      (fun _ world => ∃ sent, Transferred service request sent ∧
        Stands index ⟨request, none, sent⟩ world)
      fun _ world => ∃ sent, Stands index ⟨request, none, sent⟩ world := by
  have errors : Errors.inputs ["from", "to", "amount"] ⊆ Errors.postCoins := by decide
  have checks : (Program.done (checkInputValue (CoinsProcess.postCoinsValid service.gateway source
      target amount)) : Task Id PublicKey Unit).Obeys
      (serving service Facts.any request fun _ => False) (fun _ => True)
      (Listed Facts.any.Foreign Errors.postCoins) :=
    (inputs_obeys errors).conseq (fun _ _ => trivial) fun _ listed => listed
  apply Triple.bind ((serving_triple checks).conseq (fun _ _ before => before)
    (fun _ _ _ after => after.2) fun _ _ _ thrown => ⟨[], thrown.2⟩)
  intro _
  apply Triple.bind (transfer_triple asked)
  intro _
  exact Triple.pure fun _ _ sent => sent

omit [DecidableEq Id] in
/-- An error shows no transfer. -/
theorem settles_error {err : Failure} {sent : List Coin.Transaction} :
    Settles service request (errorHandler err) sent := by
  intro source target amount _ shows
  simp [errorHandler, generateResponseData] at shows

omit [DecidableEq Id] in
/-- The options show no transfer. -/
theorem settles_preflight {sent : List Coin.Transaction} :
    Settles service request preflight sent := by
  intro source target amount _ shows
  cases shows

/-- The response to a transfer of coins follows its transactions. -/
theorem coins_triple {source target amount : String}
    (asked : request.route = some (.postCoins source target amount)) :
    Triple (World.perform service) (orderly service) index (Stands index ⟨request, none, []⟩)
      (router service request)
      (fun routed world => ∃ sent, Settles service request routed.2 sent ∧
        Stands index ⟨request, none, sent⟩ world)
      fun _ _ => False := by
  have refused {err : Failure} : Triple (World.perform service) (orderly service) index
      (Stands index ⟨request, none, []⟩)
      (pure (none, errorHandler err) : Task Id PublicKey (Option (LoginUser Id) × Response))
      (fun routed world => ∃ sent, Settles service request routed.2 sent ∧
        Stands index ⟨request, none, sent⟩ world)
      fun _ _ => False :=
    Triple.pure fun _ _ stands => ⟨[], settles_error, stands⟩
  rw [router]
  split
  · exact refused
  · split
    · exact refused
    · simp only [asked]
      apply Triple.bind (Triple.settled (asides_triple useAuthorization_obeys))
      intro authorized
      cases authorized with
      | error err => exact Triple.pure fun _ _ after => ⟨[], settles_error, after.2⟩
      | ok loginUser =>
          apply Triple.assume
          intro _
          apply Triple.bind (Triple.settled (postCoins_triple asked))
          intro outcome
          cases outcome with
          | ok response =>
              apply Triple.pure
              rintro world _ ⟨sent, transferred, stands⟩
              exact ⟨sent, fun _ _ _ _ _ => transferred, stands⟩
          | error failure =>
              apply Triple.pure
              rintro world _ ⟨sent, stands⟩
              exact ⟨sent, settles_error, stands⟩

/-- Every exchange stays in order. -/
theorem exchange_triple (service : Service Id PublicKey) (index : Nat) (request : Request) :
    Triple (World.perform service) (orderly service) index (Stands index ⟨request, none, []⟩)
      (Api.exchange service request) (fun _ _ => True) fun _ _ => True := by
  have routes : Triple (World.perform service) (orderly service) index
      (Stands index ⟨request, none, []⟩) (router service request)
      (fun routed world => ∃ sent, Settles service request routed.2 sent ∧
        Stands index ⟨request, none, sent⟩ world)
      fun _ _ => True := by
    by_cases coins : ∃ source target amount, request.route = some (.postCoins source target amount)
    · obtain ⟨source, target, amount, asked⟩ := coins
      exact (coins_triple asked).conseq (fun _ _ before => before) (fun _ _ _ after => after)
        fun _ _ _ thrown => thrown.elim
    · apply (router_triple _).conseq (fun _ _ before => before) (fun _ _ _ after => after)
        fun _ _ _ thrown => thrown.elim
      intro source target amount asked
      exact coins ⟨source, target, amount, asked⟩
  by_cases isOptions : request.method = .options
  · rw [Api.exchange, if_pos isOptions]
    exact (finish_triple settles_preflight).conseq (fun _ _ before => before)
      (fun _ _ _ _ => trivial) fun _ _ _ thrown => thrown
  · rw [Api.exchange, if_neg isOptions]
    apply Triple.bind routes
    rintro ⟨loginUser, response⟩
    apply Triple.choose
    intro sent
    apply Triple.assume
    intro settles
    apply Triple.bind (finish_triple settles)
    intro _
    exact logResponse_triple

end

/-- Every exchange starts orderly. -/
theorem orderly_starts (service : Service Id PublicKey) :
    (orderly service).Starts (runtime service) (fun _ _ _ => True) fun _ => True where
  invariant index request world _ free invariant := by
    intro other
    have enrolled : ((runtime service).enroll index request world).exchanges other =
        Function.update world.exchanges index (some ⟨request, none, []⟩) other := rfl
    by_cases same : other = index
    · subst same
      have empty := invariant other
      rw [Option.isNone_iff_eq_none.mp free] at empty
      rw [enrolled, Function.update_self]
      exact ⟨.inl rfl, empty⟩
    · rw [enrolled, Function.update_of_ne same]
      exact invariant other
  spares index other request world different _ _ :=
    ⟨Function.update_of_ne different _ _, rfl⟩
  safe index request world _ free invariant := by
    have found : ((runtime service).enroll index request world).exchanges index =
        some ⟨request, none, []⟩ := Function.update_self _ _ _
    have here := invariant index
    rw [found] at here
    apply Safe.mono _ invariant (exchange_triple service index request _ invariant ⟨found, here.2⟩)
    intro _ _ _ _
    trivial
  stable _ _ _ _ _ _ _ := trivial

/-- Every run keeps every exchange in order. -/
theorem reached_kept (service : Service Id PublicKey) (initial : Initial Id)
    (moves : List (Move (Choice Id PublicKey) Request)) :
    (runtime service).Kept (orderly service) (fun _ _ _ => True)
      (reached service initial moves) := by
  apply Runtime.Kept.run_any (orderly_sound service) (orderly_starts service)
    (fun _ _ _ _ => trivial) fun _ => trivial
  constructor
  · intro other
    rfl
  · intro other program found
    cases found

/-- Every reached exchange is orderly. -/
theorem reached_orderly (service : Service Id PublicKey) (initial : Initial Id)
    (moves : List (Move (Choice Id PublicKey) Request)) (index : Nat) :
    Orderly service ((reached service initial moves).world.rows index)
      ((reached service initial moves).world.exchanges index) :=
  (reached_kept service initial moves).invariant index

/-- Every row of the log names no user or a bearer. -/
def Signed (facts : Nat → Facts) (world : World Id PublicKey) : Prop :=
  ∀ entry ∈ world.logs, ∃ request, world.asked entry.1 = some request ∧
    (entry.2.userId = "" ∨ Bears (facts entry.1) request entry.2.userId)

omit [DecidableEq Id] in
/-- Rows that are signed stay signed while no row is added. -/
theorem Signed.later {facts : Nat → Facts} (signed : Signed facts world) (later : Later world next)
    (logs : next.logs = world.logs) : Signed facts next := by
  intro entry member
  rw [logs] at member
  obtain ⟨request, asked, named⟩ := signed entry member
  exact ⟨request, later.asked asked, named⟩

end

end Holonus.Api
