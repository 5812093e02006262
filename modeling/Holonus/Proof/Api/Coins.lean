/-
This file explains the state of the coin contracts by the transfers that the service executed.
-/

import Holonus.Proof.Api.Progress

namespace Holonus.Api

open Holonus.Machine Holonus.Backend Holonus.Auth

/-- What the transaction pays to the account. -/
def paid (account : Coin.Address) (transaction : Coin.Transaction) : Int :=
  match transaction.call with
  | .transfer target value =>
      (if target = account then (value.toNat : Int) else 0) -
        if transaction.msgSender = account then (value.toNat : Int) else 0
  | _ => 0

/-- Approvals and transfers only move balances. -/
theorem paid_of_execute {system next : Coin.System} {transaction : Coin.Transaction}
    (sound : system.Sound) (executed : Coin.execute system transaction = .ok next)
    (sends : ∃ target value, transaction.call = .approve target value ∨
      transaction.call = .transfer target value) :
    next.Sound ∧ next.ledger.supply = system.ledger.supply ∧
      ∀ account, (next.ledger.balance account : Int) =
        system.ledger.balance account + paid account transaction := by
  have refines := Coin.execute_refines sound.represented executed
  refine ⟨Coin.execute_sound sound executed, ?_⟩
  obtain ⟨msgSender, call⟩ := transaction
  obtain ⟨target, value, approves | transfers⟩ := sends
  · cases approves
    rw [refines.ledger]
    refine ⟨rfl, fun account => ?_⟩
    exact (Int.add_zero _).symm
  · cases transfers
    have enabled : target ≠ msgSender ∧ value.toNat ≤ system.ledger.balance msgSender :=
      refines.enabled
    have moved := system.ledger.moved_move enabled.1 enabled.2
    rw [refines.ledger]
    refine ⟨rfl, fun account => ?_⟩
    show ((system.ledger.move msgSender target value.toNat).balance account : Int) =
      system.ledger.balance account + ((if target = account then (value.toNat : Int) else 0) -
        if msgSender = account then (value.toNat : Int) else 0)
    by_cases isTarget : target = account
    · subst isTarget
      have raised := moved.raised
      rw [if_pos rfl, if_neg enabled.1.symm]
      omega
    · by_cases isSource : msgSender = account
      · subst isSource
        have lowered := moved.lowered
        rw [if_neg isTarget, if_pos rfl]
        omega
      · have others := moved.others account (Ne.symm isSource) (Ne.symm isTarget)
        rw [if_neg isTarget, if_neg isSource]
        omega

section
variable {Id PublicKey : Type}

def World.sent (world : World Id PublicKey) (index : Nat) : List Coin.Transaction :=
  ((world.exchanges index).map Exchange.sent).getD []

/-- The trace lists the executed transactions with their exchanges, and it explains the state of the
contracts. -/
structure Explains (first : Coin.System) (world : World Id PublicKey)
    (trace : List (Nat × Coin.Transaction)) : Prop where
  parts : ∀ index, (trace.filter fun entry => entry.1 = index).map Prod.snd =
    (world.sent index).reverse
  executed : (trace.map Prod.snd).foldlM Coin.execute first = .ok world.coin
  sound : world.coin.Sound
  supply : world.coin.ledger.supply = first.ledger.supply
  balance : ∀ account, (world.coin.ledger.balance account : Int) =
    first.ledger.balance account + ((trace.map Prod.snd).map (paid account)).sum

/-- A change outside the coins keeps their explanation. -/
theorem Explains.same {first : Coin.System} {world next : World Id PublicKey}
    {trace : List (Nat × Coin.Transaction)} (explains : Explains first world trace)
    (coin : next.coin = world.coin) (sent : next.sent = world.sent) : Explains first next trace := by
  obtain ⟨parts, executed, sound, supply, balance⟩ := explains
  rw [← sent] at parts
  rw [← coin] at executed sound supply balance
  exact ⟨parts, executed, sound, supply, balance⟩

/-- Some trace explains the state of the contracts. -/
def Explained (first : Coin.System) (world : World Id PublicKey) : Prop :=
  ∃ trace, Explains first world trace

/-- An executed transaction of an exchange extends the trace. -/
theorem Explains.send {first coin : Coin.System} {world : World Id PublicKey}
    {trace : List (Nat × Coin.Transaction)} {index elapsed : Nat} {exchange : Exchange}
    {transaction : Coin.Transaction} (explains : Explains first world trace)
    (found : world.exchanges index = some exchange)
    (executed : Coin.execute world.coin transaction = .ok coin)
    (sends : ∃ target value, transaction.call = .approve target value ∨
      transaction.call = .transfer target value) :
    Explains first
      (((world.elapse elapsed).withCoin coin).record index (Exchange.send transaction))
      (trace ++ [(index, transaction)]) := by
  obtain ⟨sound, supply, balance⟩ := paid_of_execute explains.sound executed sends
  have present : ((world.elapse elapsed).withCoin coin).exchanges index = some exchange := found
  refine ⟨?_, ?_, sound, supply.trans explains.supply, ?_⟩
  · intro other
    have earlier := explains.parts other
    rw [World.sent, record_exchanges present]
    by_cases same : other = index
    · subst same
      rw [World.sent, found] at earlier
      rw [Function.update_self, List.filter_append, List.map_append, earlier]
      simp [Exchange.send]
    · have different : ¬ index = other := fun equal => same equal.symm
      rw [Function.update_of_ne same, List.filter_append, List.map_append, earlier]
      simp [different, World.sent, World.withCoin, World.elapse]
  · rw [List.map_append, List.foldlM_append, explains.executed]
    show (Coin.execute world.coin transaction >>= fun next => pure next) = .ok coin
    rw [executed]
    rfl
  · intro account
    rw [List.map_append, List.map_append, List.sum_append]
    have before := explains.balance account
    have after : (coin.ledger.balance account : Int) =
      world.coin.ledger.balance account + paid account transaction := balance account
    simp only [List.map_cons, List.map_nil, List.sum_cons, List.sum_nil]
    show (coin.ledger.balance account : Int) = _
    omega

variable [DecidableEq Id] {service : Service Id PublicKey} {initial : Initial Id}

/-- The coins of every reached world are explained by what was sent. -/
theorem reached_explains (sound : initial.coin.Sound)
    (moves : List (Move (Choice Id PublicKey) Request)) :
    Explained initial.coin (reached service initial moves).world := by
  have foreseen : Foreseen (fun _ => True) moves := fun _ _ _ _ _ => .inr trivial
  apply reached_keeps foreseen
  · exact ⟨[], fun _ => rfl, rfl, sound, rfl, fun account => (Int.add_zero _).symm⟩
  · rintro index request world free ⟨trace, explains⟩
    refine ⟨trace, explains.same rfl ?_⟩
    funext other
    have enrolled : ((runtime service).enroll index request world).exchanges other =
        Function.update world.exchanges index (some ⟨request, none, []⟩) other := rfl
    rw [World.sent, World.sent, enrolled]
    by_cases same : other = index
    · subst same
      rw [Function.update_self, free]
      rfl
    · rw [Function.update_of_ne same]
  · rintro index op world next exchange found allowed changes ⟨trace, explains⟩
    cases changes with
    | sent transaction coin elapsed executed =>
        have sends : ∃ target value, transaction.call = .approve target value ∨
            transaction.call = .transfer target value := by
          obtain ⟨⟨source, target, amount, value, -, -, same | same⟩, -⟩ := allowed
          · exact ⟨_, value, .inl (congrArg Coin.Transaction.call same)⟩
          · exact ⟨_, value, .inr (congrArg Coin.Transaction.call same)⟩
        exact ⟨_, explains.send found executed sends⟩
    | finished response elapsed =>
        refine ⟨trace, explains.same rfl ?_⟩
        have present : (world.elapse elapsed).exchanges index = some exchange := found
        funext other
        rw [World.sent, World.sent, record_exchanges present]
        by_cases same : other = index
        · subst same
          rw [Function.update_self, found]
          rfl
        · rw [Function.update_of_ne same]
          rfl
    | _ => exact ⟨trace, explains.same rfl rfl⟩

/-- Every exchange that executed a transaction has a bearer. -/
def Endorsed (facts : Nat → Facts) (world : World Id PublicKey) : Prop :=
  ∀ index exchange, world.exchanges index = some exchange → exchange.sent ≠ [] →
    ∃ userId, Bears (facts index) exchange.request userId

/-- Every transaction that was sent is endorsed by a request. -/
theorem reached_endorsed (moves : List (Move (Choice Id PublicKey) Request)) :
    Endorsed (factsOf service initial moves fun _ => True) (reached service initial moves).world := by
  have foreseen : Foreseen (fun _ => True) moves := fun _ _ _ _ _ => .inr trivial
  apply reached_keeps foreseen
  · intro index exchange found
    cases found
  · intro index request world _ endorsed
    apply forall_update_some
    · intro paid
      exact absurd rfl paid
    · exact fun other exchange _ found => endorsed other exchange found
  · intro index op world next exchange found allowed changes endorsed
    cases changes with
    | sent transaction coin elapsed executed =>
        have present : ((world.elapse elapsed).withCoin coin).exchanges index = some exchange :=
          found
        rw [Endorsed, record_exchanges present]
        apply forall_update_some
        · exact fun _ => allowed.2
        · exact fun other exchange _ found => endorsed other exchange found
    | finished response elapsed =>
        have present : (world.elapse elapsed).exchanges index = some exchange := found
        rw [Endorsed, record_exchanges present]
        apply forall_update_some
        · exact endorsed index exchange found
        · exact fun other exchange _ found => endorsed other exchange found
    | _ => exact endorsed

/-- Over every run, the executed transactions explain the state of the contracts and all balances;
each exchange executed at most the approval and the transfer that it asks for, in this order, none
without a token of some user, and both if its response shows the transfer. -/
theorem coins_explained {deployment : Coin.Deployment} {setup : List Coin.Transaction}
    (starts : initial.coin = deployment.after setup)
    (moves : List (Move (Choice Id PublicKey) Request)) :
    let last := (reached service initial moves).world
    (∃ trace, Explains initial.coin last trace) ∧
    ∀ index exchange, last.exchanges index = some exchange →
      Ordered service exchange.request exchange.sent ∧
      (exchange.sent ≠ [] → ∃ userId accessToken,
        AuthUtil.getAccessTokenFromHeader exchange.request.headers = .ok accessToken ∧
          Entitled service initial last userId accessToken) ∧
      ∀ response source target amount, exchange.response = some response →
        exchange.request.route = some (.postCoins source target amount) →
        response.content = generateResponseData true none (some (.transfer source target amount)) →
          Transferred service exchange.request exchange.sent := by
  intro last
  have sound : initial.coin.Sound := by
    rw [starts]
    exact deployment.after_sound setup
  refine ⟨reached_explains sound moves, ?_⟩
  intro index exchange found
  have orderly : Orderly service (last.rows index) (last.exchanges index) :=
    reached_orderly service initial moves index
  rw [found] at orderly
  refine ⟨orderly.1, ?_, ?_⟩
  · intro paid
    obtain ⟨userId, bears⟩ := reached_endorsed moves index exchange found paid
    exact ⟨userId, (reached_accredited moves).entitled bears⟩
  · intro response source target amount responded asked shows
    obtain ⟨request, answer, sent⟩ := exchange
    cases responded
    exact orderly.2.1 source target amount asked shows

end

/-- The deployer has the supply when the service starts. -/
def fundedInitial : Initial PlainId :=
  { plainInitial with coin := Coin.Deployment.sample.after [⟨1, .init⟩] }

def coinRequest : Request where
  method := .post
  path := plainPath ["coins", "s", "to", "sum"]
  url := "/coins/s/to/sum"
  contentType := some "application/json"
  headers := Auth.plainHeaders
  fresh := false
  body := ⟨⟨none, none⟩, none, []⟩
  attempts := 0

/-- Three units move from account one to account two. -/
def transferredRun : List (Move (Choice PlainId UInt8) Request) :=
  loggedIn ++ [.start 1 coinRequest] ++ serves 1 11

theorem coins_explained_transferred :
    let last := (reached plainService fundedInitial transferredRun).world
    Explained fundedInitial.coin last ∧ ∃ exchange, last.exchanges 1 = some exchange ∧
      Transferred plainService exchange.request exchange.sent := by
  intro last
  have explained : Explained fundedInitial.coin last ∧
      ∀ index exchange, last.exchanges index = some exchange →
        Ordered plainService exchange.request exchange.sent ∧ _ :=
    coins_explained (by rfl) transferredRun
  have responded : (last.exchanges 1).bind Exchange.response =
      some ⟨200, .json true none (some (.transfer "s" "to" "sum"))⟩ := by decide +kernel
  obtain ⟨exchange, found, shows⟩ := Option.bind_eq_some_iff.mp responded
  have route : (last.exchanges 1).map (fun exchange => exchange.request.route) =
      some (some (.postCoins "s" "to" "sum")) := by decide +kernel
  rw [found, Option.map_some, Option.some.injEq] at route
  exact ⟨explained.1, exchange, found, (explained.2 1 exchange found).2.2 _ _ _ _ shows route rfl⟩

end Holonus.Api
