/-
This file states what one step of an exchange can change and what its replies say.
-/

import Holonus.Proof.Api.Conduct

namespace Holonus.Api

open Holonus.Machine Holonus.Backend Holonus.Auth

section
variable {Id PublicKey : Type}

/-- The choice makes the operation throw the failure. -/
def Choice.Injects (failure : Failure) : Choice Id PublicKey → Prop
  | .backend (.fail injected) | .fail injected _ | .lose injected _ => injected = failure
  | _ => False

/-- The exchange with an index stores the token of the user. -/
def World.store (world : World Id PublicKey) (index : Nat) (userId accessToken : String) :
    World Id PublicKey :=
  { world with
    auth := { world.auth with
      accounts := world.auth.accounts.map (Account.store userId accessToken)
      records := .issued userId accessToken :: world.auth.records }
    issues := (index, userId, accessToken) :: world.issues }

def World.log (world : World Id PublicKey) (index : Nat) (row : LogRow) : World Id PublicKey :=
  { world with logs := world.logs ++ [(index, row)] }

def World.withCoin (world : World Id PublicKey) (coin : Coin.System) : World Id PublicKey :=
  { world with coin := coin }

def Exchange.send (transaction : Coin.Transaction) (exchange : Exchange) : Exchange :=
  { exchange with sent := transaction :: exchange.sent }

def Exchange.finish (response : Response) (exchange : Exchange) : Exchange :=
  { exchange with response := some response }

def World.asked (world : World Id PublicKey) (index : Nat) : Option Request :=
  (world.exchanges index).map Exchange.request

/-- A recorded update changes the one exchange. -/
theorem record_exchanges {world : World Id PublicKey} {index : Nat} {exchange : Exchange}
    (found : world.exchanges index = some exchange) (update : Exchange → Exchange) :
    (world.record index update).exchanges =
      Function.update world.exchanges index (some (update exchange)) := by
  rw [World.record, found, Option.map_some]

variable [DecidableEq Id] {service : Service Id PublicKey} {index : Nat}
  {world next : World Id PublicKey}

/-- What an operation of the exchange with an index makes of the world. -/
inductive Changes (service : Service Id PublicKey) (index : Nat) (world : World Id PublicKey) :
    Op Id → World Id PublicKey → Prop where
  | performed (op : Backend.Op Id) (choice : Backend.Choice Id PublicKey)
      (reply : Except Failure (Backend.Reply PublicKey op)) (backend : Backend.World Id PublicKey)
      (performs : world.backend.perform service.platform index op choice = some (reply, backend)) :
      Changes service index world (.inner op) { world with backend := backend }
  | entered (core : Backend.Request Id)
      (free : (Backend.runtime service.platform).free index world.backend = true) :
      Changes service index world (.enter core) { world with
        backend := (Backend.runtime service.platform).enroll index core world.backend }
  | ticked (op : Own) (elapsed : Nat) : Changes service index world (.own op) (world.elapse elapsed)
  | stored (userId accessToken : String) (elapsed : Nat) :
      Changes service index world (.own (.auth (.updateToken userId accessToken)))
        ((world.elapse elapsed).store index userId accessToken)
  | logged (row : LogRow) (elapsed : Nat) : Changes service index world (.own (.createLog row))
      ((world.elapse elapsed).log index row)
  | finished (response : Response) (elapsed : Nat) :
      Changes service index world (.own (.finish response))
        ((world.elapse elapsed).record index (Exchange.finish response))
  | sent (transaction : Coin.Transaction) (coin : Coin.System) (elapsed : Nat)
      (executed : Coin.execute world.coin transaction = .ok coin) :
      Changes service index world (.own (.send transaction))
        (((world.elapse elapsed).withCoin coin).record index (Exchange.send transaction))

/-- Every own operation makes one of the listed changes. -/
theorem changes_of_respond (op : Own) (elapsed : Nat) :
    Changes service index world (.own op)
      ((world.elapse elapsed).respond service index op).2 := by
  cases op with
  | auth op =>
      cases op with
      | updateToken userId accessToken => exact .stored userId accessToken elapsed
      | _ => exact .ticked _ elapsed
  | createLog row => exact .logged row elapsed
  | finish response => exact .finished response elapsed
  | send transaction =>
      simp only [World.respond]
      cases executed : Coin.execute (world.elapse elapsed).coin transaction with
      | error fault => exact .ticked _ elapsed
      | ok coin => exact .sent transaction coin elapsed executed
  | _ => exact .ticked _ elapsed

/-- An operation of the service answers from the world, or it throws what the choice injects. -/
theorem perform_own {op : Own} {choice : Choice Id PublicKey}
    {reply : Except Failure (Answer Id op)}
    (performed : world.perform service index (.own op) choice = some (reply, next)) :
    Changes service index world (.own op) next ∧
      ((∃ elapsed, (world.elapse elapsed).respond service index op = (reply, next)) ∨
        ∃ failure, choice.Injects failure ∧ op.canFail = true ∧ reply = .error failure) := by
  cases choice with
  | backend choice => cases performed
  | proceed elapsed =>
      have responded := Option.some.inj performed
      refine ⟨?_, .inl ⟨elapsed, responded⟩⟩
      have changes : Changes service index world (.own op)
          ((world.elapse elapsed).respond service index op).2 := changes_of_respond op elapsed
      rw [responded] at changes
      exact changes
  | fail failure elapsed =>
      simp only [World.perform] at performed
      split at performed
      · rename_i can
        cases performed
        exact ⟨.ticked op elapsed, .inr ⟨failure, rfl, can, rfl⟩⟩
      · cases performed
  | lose failure elapsed =>
      simp only [World.perform] at performed
      split at performed
      · rename_i can
        cases performed
        exact ⟨changes_of_respond op elapsed, .inr ⟨failure, rfl, can, rfl⟩⟩
      · cases performed

/-- Every operation changes the world in one of these ways. -/
theorem perform_changes {op : Op Id} {choice : Choice Id PublicKey}
    {reply : Except Failure (Reply Id PublicKey op)}
    (performed : world.perform service index op choice = some (reply, next)) :
    Changes service index world op next := by
  cases op with
  | inner op =>
      cases choice with
      | backend choice =>
          obtain ⟨⟨answer, backend⟩, performs, same⟩ := Option.map_eq_some_iff.mp performed
          cases same
          exact .performed op choice answer backend performs
      | _ => cases performed
  | enter core =>
      cases choice with
      | proceed elapsed =>
          simp only [World.perform] at performed
          split at performed
          · rename_i free
            cases performed
            exact .entered core free
          · cases performed
      | _ => cases performed
  | own op => exact (perform_own performed).1

theorem remembers (service : Service Id PublicKey) :
    (runtime service).Remembers World.asked where
  enrolled index request world := by
    funext other
    simp only [World.asked, runtime]
    by_cases same : other = index
    · subst same
      simp only [Function.update_self, Option.map_some]
    · simp only [Function.update_of_ne same, World.asked]
  performed index op choice world reply next performed := by
    have recorded (world : World Id PublicKey) (update : Exchange → Exchange)
        (keeps : ∀ exchange, (update exchange).request = exchange.request) :
        (world.record index update).asked = world.asked := by
      funext other
      simp only [World.asked, World.record]
      by_cases same : other = index
      · subst same
        rw [Function.update_self, Option.map_map]
        congr 1
        funext exchange
        exact keeps exchange
      · rw [Function.update_of_ne same]
    cases perform_changes performed with
    | finished response elapsed => exact recorded _ _ fun _ => rfl
    | sent transaction coin elapsed executed => exact recorded _ _ fun _ => rfl
    | _ => rfl

/-- What the facts must say about the world for the replies to be answered. -/
structure Knows (service : Service Id PublicKey) (facts : Facts) (world : World Id PublicKey) :
    Prop where
  authorized : ∀ account ∈ world.auth.accounts, ∀ keysId,
    facts.Authorized account.accessToken { account with keysId := keysId }
  matched : ∀ account ∈ world.auth.accounts, ∀ loginId keysId,
    LoginId.selects service.tokens loginId account.userId = true →
      facts.Matched loginId account.password { account with keysId := keysId }
  read : ∀ account balance, Coin.TokenERC20.balanceOf world.coin account = .ok balance →
    facts.Read account balance.toNat

section
variable {facts : Facts} {request : Request} {Sends : Coin.Transaction → Prop}

/-- The answers about accounts agree with the facts. -/
theorem auth_answers {op : Auth.Op Json} (Stores : String → Prop)
    (knows : Knows service facts world) (elapsed : Nat) :
    (signing facts Stores).Answers op
      (((world.elapse elapsed).respond service index (.auth op)).1) := by
  cases op with
  | findByLogin loginId password =>
      intro account found
      obtain ⟨stored, search, same⟩ := Option.map_eq_some_iff.mp found
      have matched := List.find?_some search
      have selected := of_decide_eq_true matched
      rw [← same, ← selected.2]
      exact knows.matched stored (List.mem_of_find?_eq_some search) loginId _ selected.1
  | findByToken accessToken =>
      intro account found
      obtain ⟨stored, search, same⟩ := Option.map_eq_some_iff.mp found
      have matched := List.find?_some search
      rw [← same, ← of_decide_eq_true matched]
      exact knows.authorized stored (List.mem_of_find?_eq_some search) _
  | updateToken userId accessToken => exact rfl
  | readClock => exact trivial

/-- An operation of the service replies as its protocol says. -/
theorem own_answers {op : Own} (knows : Knows service facts world) (elapsed : Nat)
    (sent : ∀ transaction coin, op = .send transaction →
      Coin.execute world.coin transaction = .ok coin → facts.Sent transaction) :
    (asides service facts request Sends).Answers (.own op)
      ((world.elapse elapsed).respond service index op).1 := by
  cases op with
  | auth op => exact auth_answers (LogsIn service facts request) knows elapsed
  | populate keysId =>
      simp only [World.respond]
      cases service.platform.castId keysId with
      | none => exact .inl rfl
      | some id => exact trivial
  | findUser userId =>
      intro user found
      obtain ⟨account, search, same⟩ := Option.map_eq_some_iff.mp found
      have matched := List.find?_some search
      rw [← same]
      exact of_decide_eq_true matched
  | createLog row => exact trivial
  | finish response => exact trivial
  | balanceOf account =>
      simp only [World.respond]
      cases reads : Coin.TokenERC20.balanceOf (world.elapse elapsed).coin account with
      | ok balance => exact knows.read account balance reads
      | error fault => exact .inl rfl
  | getAccounts => exact trivial
  | unlockAccount account => exact trivial
  | estimateGas transaction =>
      simp only [World.respond]
      cases Coin.execute (world.elapse elapsed).coin transaction with
      | ok coin => exact trivial
      | error fault => exact .inl rfl
  | send transaction =>
      simp only [World.respond]
      cases executed : Coin.execute (world.elapse elapsed).coin transaction with
      | ok coin => exact sent transaction coin rfl executed
      | error fault => exact .inl rfl

omit [DecidableEq Id] in
/-- An injected failure is answered by every operation that can fail. -/
theorem injected_answers (Sends : Coin.Transaction → Prop) {op : Own} {failure : Failure}
    (can : op.canFail = true) (raw : Raw facts.Foreign failure) :
    (asides service facts request Sends).Answers (.own op) (.error failure) := by
  cases op with
  | auth op =>
      cases op with
      | readClock => cases can
      | _ => exact raw
  | _ => exact raw

/-- Every reply is one that the protocol of the exchange answers. -/
theorem perform_answers {op : Op Id} {choice : Choice Id PublicKey}
    {reply : Except Failure (Reply Id PublicKey op)} (knows : Knows service facts world)
    (raw : ∀ failure, choice.Injects failure → Raw facts.Foreign failure)
    (sent : ∀ transaction coin elapsed, op = .own (.send transaction) →
      next = ((world.elapse elapsed).withCoin coin).record index (Exchange.send transaction) →
        facts.Sent transaction)
    (performed : world.perform service index op choice = some (reply, next)) :
    (serving service facts request Sends).Answers op reply := by
  cases op with
  | inner op =>
      cases choice with
      | backend choice =>
          obtain ⟨⟨answer, backend⟩, performs, same⟩ := Option.map_eq_some_iff.mp performed
          cases same
          obtain ⟨before, session, -, responded, -⟩ := perform_inv performs
          cases answer with
          | ok value =>
              exact truthful_of_respond (Evidence.any_knows service.platform _) responded
                fun _ _ => trivial
          | error failure =>
              rcases raw_of_respond responded with injected | other
              · rw [injected] at raw
                exact raw failure rfl
              · exact .inl other
      | _ => cases performed
  | enter core =>
      cases choice with
      | proceed elapsed =>
          simp only [World.perform] at performed
          split at performed
          · cases performed
            exact trivial
          · cases performed
      | _ => cases performed
  | own op =>
      rcases (perform_own performed).2 with responds | injects
      · obtain ⟨elapsed, responded⟩ := responds
        have answers : (asides service facts request Sends).Answers (.own op)
            ((world.elapse elapsed).respond service index op).1 := by
          apply own_answers knows elapsed
          intro transaction coin isSend executed
          subst isSend
          have isNext := congrArg Prod.snd responded
          simp only [World.respond] at isNext
          rw [show (world.elapse elapsed).coin = world.coin from rfl, executed] at isNext
          exact sent transaction coin elapsed rfl isNext.symm
        rw [responded] at answers
        exact answers
      · obtain ⟨failure, injected, can, failed⟩ := injects
        rw [failed]
        exact injected_answers Sends can (raw failure injected)

/-- Sending the response never fails. -/
theorem conduct_answers {op : Op Id} {choice : Choice Id PublicKey}
    {reply : Except Failure (Reply Id PublicKey op)}
    (performed : world.perform service index op choice = some (reply, next))
    (answers : (serving service facts request (Transacts service facts request)).Answers op reply) :
    (conduct service facts request).Answers op reply := by
  cases op with
  | own op =>
      cases op with
      | finish response =>
          rcases (perform_own performed).2 with responds | injects
          · obtain ⟨elapsed, responded⟩ := responds
            have isOk := congrArg Prod.fst responded
            cases isOk
            exact trivial
          · obtain ⟨failure, -, can, -⟩ := injects
            cases can
      | _ => exact answers
  | inner op => exact answers
  | enter core => exact answers

end

end

end Holonus.Api
