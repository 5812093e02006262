/-
This file judges the exchanges of a run by what the world says in its end.
-/

import Holonus.Proof.Api.Steps

namespace Holonus.Api

open Holonus.Machine Holonus.Backend Holonus.Auth

section
variable {Id PublicKey : Type}

/-- What happened stays recorded. -/
structure Later (world last : World Id PublicKey) : Prop where
  issues : world.issues ⊆ last.issues
  exchanges : ∀ index exchange, world.exchanges index = some exchange → ∃ later,
    last.exchanges index = some later ∧ later.request = exchange.request ∧
      exchange.sent ⊆ later.sent

/-- Every world is later than itself. -/
theorem Later.refl (world : World Id PublicKey) : Later world world :=
  ⟨List.Subset.refl _, fun _ exchange found => ⟨exchange, found, rfl, List.Subset.refl _⟩⟩

/-- Being later composes. -/
theorem Later.trans {world middle last : World Id PublicKey} (first : Later world middle)
    (second : Later middle last) : Later world last := by
  refine ⟨List.Subset.trans first.issues second.issues, ?_⟩
  intro index exchange found
  obtain ⟨later, present, same, grown⟩ := first.exchanges index exchange found
  obtain ⟨final, remains, kept, more⟩ := second.exchanges index later present
  exact ⟨final, remains, kept.trans same, List.Subset.trans grown more⟩

/-- A world with the same exchanges and issues is later. -/
theorem later_of_same {world next : World Id PublicKey}
    (issues : next.issues = world.issues)
    (exchanges : next.exchanges = world.exchanges) : Later world next := by
  constructor
  · rw [issues]
    exact List.Subset.refl _
  · rw [exchanges]
    exact (Later.refl world).exchanges

/-- A record that keeps the request and what was sent makes a later world. -/
theorem Later.record {world middle : World Id PublicKey} {index : Nat}
    {update : Exchange → Exchange} (earlier : Later world middle)
    (keeps : ∀ exchange, (update exchange).request = exchange.request)
    (grows : ∀ exchange, exchange.sent ⊆ (update exchange).sent) :
    Later world (middle.record index update) := by
  apply earlier.trans
  refine ⟨List.Subset.refl _, ?_⟩
  intro other exchange found
  simp only [World.record]
  by_cases same : other = index
  · subst same
    rw [Function.update_self, found]
    exact ⟨update exchange, rfl, keeps exchange, grows exchange⟩
  · rw [Function.update_of_ne same]
    exact ⟨exchange, found, rfl, List.Subset.refl _⟩

/-- The world when the service starts. -/
def Initial.pool (initial : Initial Id) :
    Pool (Op Id) (Reply Id PublicKey) Failure Unit (World Id PublicKey) :=
  ⟨initial.world, fun _ => none⟩

/-- An exchange stored the token of the user. -/
def World.Issued (world : World Id PublicKey) (userId accessToken : String) : Prop :=
  ∃ index, (index, userId, accessToken) ∈ world.issues

/-- The account keeps its name and its password, and its token was there or was issued. -/
def Original (initial : Initial Id) (world : World Id PublicKey) : Prop :=
  ∀ account ∈ world.auth.accounts, ∃ first ∈ initial.accounts,
    first.userId = account.userId ∧ first.password = account.password ∧
      (first.accessToken = account.accessToken ∨
        world.Issued account.userId account.accessToken)

/-- An issued token stays issued. -/
theorem Later.issued {world last : World Id PublicKey} (later : Later world last)
    {userId accessToken : String} (issued : world.Issued userId accessToken) :
    last.Issued userId accessToken := by
  obtain ⟨index, member⟩ := issued
  exact ⟨index, later.issues member⟩

variable [DecidableEq Id]

/-- Every change makes a later world. -/
theorem Changes.later {service : Service Id PublicKey} {index : Nat} {op : Op Id}
    {world next : World Id PublicKey} (changes : Changes service index world op next) :
    Later world next := by
  cases changes with
  | stored userId accessToken elapsed =>
      exact ⟨List.subset_cons_self _ _, (Later.refl world).exchanges⟩
  | finished response elapsed =>
      refine Later.record (later_of_same rfl rfl) ?_ ?_
      · exact fun _ => rfl
      · exact fun _ => List.Subset.refl _
  | sent transaction coin elapsed executed =>
      refine Later.record (later_of_same rfl rfl) ?_ ?_
      · exact fun _ => rfl
      · exact fun _ => List.subset_cons_self _ _
  | _ => exact later_of_same rfl rfl

/-- Every change keeps what the world began with. -/
theorem Changes.original {service : Service Id PublicKey} {index : Nat} {op : Op Id}
    {initial : Initial Id} {world next : World Id PublicKey}
    (changes : Changes service index world op next) (original : Original initial world) :
    Original initial next := by
  have later := changes.later
  cases changes with
  | stored userId accessToken elapsed =>
      intro account member
      obtain ⟨stored, present, same⟩ := List.mem_map.mp member
      obtain ⟨first, isFirst, named, secret, token⟩ := original stored present
      rw [← same]
      unfold Account.store
      split
      · rename_i isUser
        refine ⟨first, isFirst, named, secret, .inr ⟨index, ?_⟩⟩
        rw [isUser]
        exact List.mem_cons_self
      · exact ⟨first, isFirst, named, secret, token.imp_right later.issued⟩
  | _ => exact original

/-- Enrolling a request makes a later world. -/
theorem later_enroll (service : Service Id PublicKey) {index : Nat} (request : Request)
    {world : World Id PublicKey} (free : world.exchanges index = none) :
    Later world ((runtime service).enroll index request world) := by
  refine ⟨List.Subset.refl _, ?_⟩
  intro other exchange found
  refine ⟨exchange, ?_, rfl, List.Subset.refl _⟩
  have different : other ≠ index := by
    rintro rfl
    rw [free] at found
    cases found
  exact (Function.update_of_ne different _ _).trans found

variable (service : Service Id PublicKey) (initial : Initial Id)

/-- Every step of the service leads to later worlds. -/
theorem advance_later {first pool next : Pool (Op Id) (Reply Id PublicKey) Failure Unit
      (World Id PublicKey)} {move : Move (Choice Id PublicKey) Request}
    (earlier : Later first.world pool.world)
    (advanced : (runtime service).advance pool move = .ok next) :
    Later first.world next.world := by
  apply earlier.trans
  cases move with
  | start index request =>
      obtain ⟨free, started⟩ := (runtime service).advance_start advanced
      rw [started]
      exact later_enroll service request (Option.isNone_iff_eq_none.mp free)
  | step index choice =>
      obtain ⟨op, resume, reply, world, -, performed, stepped⟩ :=
        (runtime service).advance_step advanced
      rw [stepped]
      exact (perform_changes performed).later

/-- Every reached world began as the initial one. -/
theorem reached_original (moves : List (Move (Choice Id PublicKey) Request)) :
    Original initial (reached service initial moves).world := by
  apply run_invariant (fun _ => True)
    (fun pool : Pool (Op Id) (Reply Id PublicKey) Failure Unit (World Id PublicKey) =>
      Original initial pool.world) _ _ fun _ _ => trivial
  · intro account member
    exact ⟨account, member, rfl, rfl, .inl rfl⟩
  · intro pool move next _ original advanced
    cases move with
    | start index request =>
        obtain ⟨-, started⟩ := (runtime service).advance_start advanced
        rw [started]
        exact original
    | step index choice =>
        obtain ⟨op, resume, reply, world, -, performed, stepped⟩ :=
          (runtime service).advance_step advanced
        rw [stepped]
        exact (perform_changes performed).original original

variable (moves : List (Move (Choice Id PublicKey) Request))

/-- A token is valid when the user had it at the start or an exchange stored it, a balance was one of the
run, and a transaction was sent for the exchange. -/
def factsOf (Foreign : Failure → Prop) (index : Nat) : Facts where
  Foreign := Foreign
  Authorized accessToken account :=
    (∃ first ∈ initial.accounts, first.userId = account.userId ∧ first.accessToken = accessToken) ∨
      (reached service initial moves).world.Issued account.userId accessToken
  Matched loginId password account :=
    LoginId.selects service.tokens loginId account.userId = true ∧
      ∃ first ∈ initial.accounts, first.userId = account.userId ∧ first.password = password
  Read account balance := ∃ first value, first <+: moves ∧
    Coin.TokenERC20.balanceOf (reached service initial first).world.coin account = .ok value ∧
      value.toNat = balance
  Sent transaction := ∃ exchange,
    (reached service initial moves).world.exchanges index = some exchange ∧
      transaction ∈ exchange.sent

variable {service initial moves} {Foreign : Failure → Prop}

theorem knows_earlier {first : List (Move (Choice Id PublicKey) Request)}
    (earlier : first <+: moves)
    (later : Later (reached service initial first).world (reached service initial moves).world)
    (index : Nat) :
    Knows service (factsOf service initial moves Foreign index)
      (reached service initial first).world where
  authorized account member keysId := by
    obtain ⟨original, isFirst, named, -, same | issued⟩ :=
      reached_original service initial first account member
    · exact .inl ⟨original, isFirst, named, same⟩
    · exact .inr (later.issued issued)
  matched account member loginId keysId selected := by
    obtain ⟨original, isFirst, named, secret, -⟩ :=
      reached_original service initial first account member
    exact ⟨selected, original, isFirst, named, secret⟩
  read account balance reads := ⟨first, balance, earlier, reads, rfl⟩

/-- The packages throw no `boom` errors other than foreign ones. -/
def Foreseen (Foreign : Failure → Prop) (moves : List (Move (Choice Id PublicKey) Request)) :
    Prop :=
  ∀ index choice, .step index choice ∈ moves → ∀ failure, choice.Injects failure →
    Raw Foreign failure

/-- Every reply of a run is answered by what the world says in its end. -/
theorem reached_conducts (foreseen : Foreseen Foreign moves) :
    ∀ entry ∈ history (runtime service).advance initial.pool moves,
      (runtime service).Answered World.asked
        (fun index request => conduct service (factsOf service initial moves Foreign index) request)
        entry := by
  intro entry member index choice isStep op resume reply next request task performed asked _
  obtain ⟨first, rest, after, parts, ran, advanced, later⟩ := later_of_history
    (fun first second : Pool (Op Id) (Reply Id PublicKey) Failure Unit (World Id PublicKey) =>
      Later first.world second.world) (fun pool => Later.refl pool.world)
    (fun _ _ _ _ earlier advanced => advance_later service earlier advanced) member
  have isFirst : reached service initial first = entry.1 := ran
  have whole := (advance_later service (Later.refl entry.1.world) advanced).trans later
  obtain ⟨pool, move⟩ := entry
  cases isStep
  subst isFirst
  apply conduct_answers performed
  apply perform_answers (knows_earlier ⟨_, parts.symm⟩ whole index) _ _ performed
  · intro failure injects
    apply foreseen index choice _ failure injects
    rw [parts]
    exact List.mem_append_right first List.mem_cons_self
  · intro transaction coin elapsed isSend isNext
    obtain ⟨exchange, found, -⟩ := Option.map_eq_some_iff.mp asked
    rw [(runtime service).step_advances task performed] at advanced
    cases advanced
    have recorded : next.exchanges index = some (exchange.send transaction) := by
      rw [isNext]
      exact (Function.update_self _ _ _).trans
        (congrArg (Option.map (Exchange.send transaction)) found)
    obtain ⟨last, present, -, grown⟩ := later.exchanges index _ recorded
    exact ⟨last, present, grown List.mem_cons_self⟩

/-- What every allowed operation of an exchange keeps holds in the end. -/
theorem reached_keeps (foreseen : Foreseen Foreign moves) {Holds : World Id PublicKey → Prop}
    (holds : Holds initial.world)
    (enrolled : ∀ index request world, world.exchanges index = none → Holds world →
      Holds ((runtime service).enroll index request world))
    (changed : ∀ index op world next exchange, world.exchanges index = some exchange →
      (conduct service (factsOf service initial moves Foreign index) exchange.request).Allows op →
        Changes service index world op next → Holds world → Holds next) :
    Holds (reached service initial moves).world := by
  have idle : initial.pool.Obedient World.asked
      (fun index request => conduct service (factsOf service initial moves Foreign index) request)
      (fun _ _ => True) fun _ _ => False := by
    intro index program found
    cases found
  apply idle.keeps (remembers service) (fun _ request => exchange_obeys service _ request)
    (reached_conducts foreseen) holds
  · intro index request world free before
    exact enrolled index request world (Option.isNone_iff_eq_none.mp free) before
  · intro index op choice world reply next request asked allowed performed before
    obtain ⟨exchange, found, same⟩ := Option.map_eq_some_iff.mp asked
    subst same
    exact changed index op world next exchange found allowed (perform_changes performed) before

end

end Holonus.Api
