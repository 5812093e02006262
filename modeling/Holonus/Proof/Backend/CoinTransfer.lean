/-
This file proves when the coin transfer of the backend hands over exactly its amount.
-/

import Holonus.Construction.Backend.CoinTransfer
import Holonus.Proof.Ledger.Taking

namespace Holonus.Backend

open Holonus.Machine Holonus.Abstract Holonus.Coin

section
variable {Value Result : Type} {first : CoinM Value} {system next : System}

/-- A step that returns passes its value and its chain on. -/
theorem bind_returns {value : Value} (rest : Value → CoinM Result)
    (returns : first system = .ok value next) : (first >>= rest) system = rest value next := by
  simp only [bind, EStateM.bind, returns]

/-- A step that throws ends the sequence on its chain. -/
theorem bind_throws {failure : Failure} (rest : Value → CoinM Result)
    (throws : first system = .error failure next) :
    (first >>= rest) system = .error failure next := by
  simp only [bind, EStateM.bind, throws]

end

section
variable {node : Node} {step : TransferStep} {system next : System} {transaction : Transaction}

/-- A failed call of the node throws a plain error on the same chain. -/
theorem awaitStep_throws (fails : node.fails step = true) :
    awaitStep node step system = .error (.other false) system := by
  rw [awaitStep, if_pos fails]
  rfl

/-- A call of the node that works keeps the chain. -/
theorem awaitStep_returns (works : node.fails step = false) :
    awaitStep node step system = .ok () system := by
  rw [awaitStep, if_neg (Bool.eq_false_iff.mp works)]
  rfl

/-- A simulated transaction that succeeds returns its chain and keeps the real one. -/
theorem callNode_returns (executed : execute system transaction = .ok next) :
    callNode transaction system = .ok next system := by
  simp only [callNode, executed]

/-- A simulated transaction that reverts throws on the same chain. -/
theorem callNode_throws {fault : Fault} (reverted : execute system transaction = .error fault) :
    callNode transaction system = .error (.other false) system := by
  simp only [callNode, reverted]

/-- An estimate of a transaction that succeeds keeps the chain. -/
theorem estimateGas_returns (works : node.fails step = false)
    (executed : execute system transaction = .ok next) :
    estimateGas node step transaction system = .ok () system := by
  rw [estimateGas, bind_returns _ (awaitStep_returns works),
    bind_returns _ (callNode_returns executed)]
  rfl

/-- A sent transaction that succeeds moves the chain to its result. -/
theorem send_returns (works : node.fails step = false)
    (executed : execute system transaction = .ok next) :
    send node step transaction system = .ok () next := by
  rw [send, bind_returns _ (awaitStep_returns works), bind_returns _ (callNode_returns executed)]
  rfl

/-- An estimate on a failed node throws on the same chain. -/
theorem estimateGas_fails (fails : node.fails step = true) :
    estimateGas node step transaction system = .error (.other false) system :=
  bind_throws _ (awaitStep_throws fails)

/-- An estimate of a transaction that reverts throws on the same chain. -/
theorem estimateGas_reverts {fault : Fault} (works : node.fails step = false)
    (reverted : execute system transaction = .error fault) :
    estimateGas node step transaction system = .error (.other false) system := by
  rw [estimateGas, bind_returns _ (awaitStep_returns works)]
  exact bind_throws _ (callNode_throws reverted)

/-- A transaction sent to a failed node throws on the same chain. -/
theorem send_fails (fails : node.fails step = true) :
    send node step transaction system = .error (.other false) system :=
  bind_throws _ (awaitStep_throws fails)

end

/-- The configured account or the first account of the node manages the contracts. -/
def Node.manages (node : Node) : Bool :=
  node.account.isSome || (!node.fails .getAccounts && node.accounts.head?.isSome)

/-- The request reaches its approval. -/
def Node.approves (node : Node) : Bool :=
  node.manages && !node.fails .unlockAccount && !node.fails .estimateApprove &&
    !node.fails .sendApprove

/-- The node carries out the second half of the request. -/
def Node.transfers (node : Node) : Bool :=
  !node.fails .estimateTransfer && !node.fails .sendTransfer

/-- A node that manages accounts returns one of them. -/
theorem getManageAccount_of_manages {node : Node} (manages : node.manages = true)
    (system : System) : ∃ account, getManageAccount node system = .ok (some account) system := by
  obtain ⟨account, accounts, fails⟩ := node
  cases account with
  | some account => exact ⟨account, rfl⟩
  | none =>
      simp only [Node.manages, Option.isSome_none, Bool.false_or, Bool.and_eq_true,
        Bool.not_eq_true'] at manages
      obtain ⟨account, first⟩ := Option.isSome_iff_exists.mp manages.2
      refine ⟨account, ?_⟩
      rw [← first]
      exact bind_returns _ (awaitStep_returns manages.1)

/-- A node that manages no account throws or returns none, on the same chain. -/
theorem getManageAccount_of_not_manages {node : Node} (unmanaged : node.manages = false)
    (system : System) :
    getManageAccount node system = .error (.other false) system ∨
      getManageAccount node system = .ok none system := by
  obtain ⟨account, accounts, fails⟩ := node
  cases account with
  | some account => exact absurd unmanaged (Bool.true_eq_false_eq_False)
  | none =>
      simp only [Node.manages, Option.isSome_none, Bool.false_or, Bool.and_eq_false_iff,
        Bool.not_eq_false'] at unmanaged
      by_cases down : fails .getAccounts = true
      · left
        exact bind_throws _ (awaitStep_throws down)
      · right
        have empty := unmanaged.resolve_left down
        rw [Option.isSome_eq_false_iff, Option.isNone_iff_eq_none] at empty
        have up : fails .getAccounts = false := Bool.eq_false_iff.mpr down
        have waited : awaitStep ⟨none, accounts, fails⟩ .getAccounts system = .ok () system :=
          awaitStep_returns up
        have answered : getManageAccount ⟨none, accounts, fails⟩ system =
            .ok accounts.head? system := bind_returns _ waited
        rw [empty] at answered
        exact answered

/-- A request without a managing account changes nothing. -/
theorem transferBody_of_not_manages {node : Node} (unmanaged : node.manages = false)
    (source target : Address) (amount : Uint256) (system : System) :
    transferBody node source target amount system = .error (.other false) system := by
  rcases getManageAccount_of_not_manages unmanaged system with throws | missing
  · exact bind_throws _ throws
  · rw [transferBody, bind_returns _ missing, if_pos rfl]
    exact bind_throws _ rfl

/-- The check of the storage never stops the request. -/
theorem transferBody_of_manages {node : Node} (manages : node.manages = true)
    (source target : Address) (amount : Uint256) (system : System) :
    transferBody node source target amount system = (do
      awaitStep node .unlockAccount
      estimateGas node .estimateApprove ⟨source, .approve target amount⟩
      send node .sendApprove ⟨source, .approve target amount⟩
      estimateGas node .estimateTransfer ⟨source, .transfer target amount⟩
      send node .sendTransfer ⟨source, .transfer target amount⟩ : CoinM Unit) system := by
  obtain ⟨account, managed⟩ := getManageAccount_of_manages manages system
  rw [transferBody, bind_returns _ managed, if_neg (Option.some_ne_none account)]
  rfl

section
variable {node : Node} {source target : Address} {amount : Uint256} {system approved : System}

/-- A request that does not reach its approval changes nothing. -/
theorem transferBody_of_not_approves
    (executed : execute system ⟨source, .approve target amount⟩ = .ok approved)
    (stops : node.approves = false) :
    transferBody node source target amount system = .error (.other false) system := by
  by_cases manages : node.manages = true
  · rw [transferBody_of_manages manages]
    by_cases locked : node.fails .unlockAccount = true
    · exact bind_throws _ (awaitStep_throws locked)
    · rw [bind_returns _ (awaitStep_returns (Bool.eq_false_iff.mpr locked))]
      by_cases refused : node.fails .estimateApprove = true
      · exact bind_throws _ (estimateGas_fails refused)
      · rw [bind_returns _ (estimateGas_returns (Bool.eq_false_iff.mpr refused) executed)]
        have unsent : node.fails .sendApprove = true := by
          simpa [Node.approves, manages, locked, refused] using stops
        exact bind_throws _ (send_fails unsent)
  · exact transferBody_of_not_manages (Bool.eq_false_iff.mpr manages) _ _ _ _

/-- The approval stays in force when the transfer throws. -/
theorem transferBody_of_approves
    (executed : execute system ⟨source, .approve target amount⟩ = .ok approved)
    (approves : node.approves = true) :
    transferBody node source target amount system =
      if node.transfers then
        match execute approved ⟨source, .transfer target amount⟩ with
        | .ok next => .ok () next
        | .error _ => .error (.other false) approved
      else .error (.other false) approved := by
  simp only [Node.approves, Bool.and_eq_true, Bool.not_eq_true'] at approves
  obtain ⟨⟨⟨manages, unlocked⟩, estimated⟩, sent⟩ := approves
  rw [transferBody_of_manages manages, bind_returns _ (awaitStep_returns unlocked),
    bind_returns _ (estimateGas_returns estimated executed),
    bind_returns _ (send_returns sent executed)]
  by_cases refused : node.fails .estimateTransfer = true
  · rw [if_neg (by simp [Node.transfers, refused])]
    exact bind_throws _ (estimateGas_fails refused)
  · have works := Bool.eq_false_iff.mpr refused
    cases outcome : execute approved ⟨source, .transfer target amount⟩ with
    | error fault =>
        rw [bind_throws _ (estimateGas_reverts works outcome)]
        split <;> rfl
    | ok next =>
        rw [bind_returns _ (estimateGas_returns works outcome)]
        by_cases unsent : node.fails .sendTransfer = true
        · rw [if_neg (by simp [Node.transfers, unsent])]
          exact send_fails unsent
        · rw [if_pos (by simp [Node.transfers, refused, unsent])]
          exact send_returns (Bool.eq_false_iff.mpr unsent) outcome

end

/-- A request leaves a coin state, whether it returns or throws. -/
def finalState : EStateM.Result Failure System Unit → System
  | .ok _ system => system
  | .error _ system => system

def returns : EStateM.Result Failure System Unit → Bool
  | .ok _ _ => true
  | .error _ _ => false

/-- The transfer returns where its body does. -/
theorem transferReal_of_ok {node : Node} {source target : Address} {amount : Uint256}
    {system next : System}
    (body : transferBody node source target amount system = .ok () next) :
    transferReal node source target amount system = .ok () next := by
  simp only [transferReal, tryCatch, tryCatchThe, MonadExceptOf.tryCatch, EStateM.tryCatch, body]

/-- The transfer throws the error of its body, by default its own message. -/
theorem transferReal_of_error {node : Node} {source target : Address} {amount : Uint256}
    {system next : System} {failure : Failure}
    (body : transferBody node source target amount system = .error failure next) :
    transferReal node source target amount system =
      .error (failure.orElse Messages.coinTransferError) next := by
  simp only [transferReal, tryCatch, tryCatchThe, MonadExceptOf.tryCatch, EStateM.tryCatch, body]
  rfl

/-- The request hands over exactly the amount and opens nothing to the other accounts. -/
structure HandsOver (system : System) (source target : Address) (amount : Uint256)
    (result : EStateM.Result Failure System Unit) : Prop where
  allowances : (finalState result).ledger.allowance = system.ledger.allowance
  changes_iff : (finalState result).ledger.balance ≠ system.ledger.balance ↔ returns result = true
  moved : returns result = true →
    system.ledger.Moved (finalState result).ledger source target amount.toNat
  harmless : ∀ loss, (finalState result).CanTake source loss → system.CanTake source loss

/-- An error on the unchanged chain hands nothing over. -/
theorem handsOver_unchanged (system : System) (source target : Address) (amount : Uint256)
    (failure : Failure) : HandsOver system source target amount (.error failure system) where
  allowances := rfl
  changes_iff := ⟨fun changed => absurd rfl changed,
    fun impossible => absurd impossible Bool.false_ne_true⟩
  moved impossible := absurd impossible Bool.false_ne_true
  harmless _ can := can

/-- A later state with the same allowances, reflections and owner and a smaller balance is no
easier to take from. -/
theorem canTake_of_smaller {deployment : Deployment} {before after : List Transaction}
    {account : Address} {loss : Nat}
    (balance : (deployment.after after).ledger.balance account ≤
      (deployment.after before).ledger.balance account)
    (allowance : (deployment.after after).ledger.allowance =
      (deployment.after before).ledger.allowance)
    (reflected : (deployment.after after).ledger.reflected =
      (deployment.after before).ledger.reflected)
    (owner : (deployment.after after).service.owner = (deployment.after before).service.owner)
    (can : (deployment.after after).CanTake account loss) :
    (deployment.after before).CanTake account loss := by
  obtain ⟨covered, within⟩ := (deployment.canTake_iff after account loss).mp can
  apply (deployment.canTake_iff before account loss).mpr
  constructor
  · exact covered.trans balance
  · rw [System.room, Ledger.exposure, owner, reflected, allowance] at within
    exact within

/-- An approval succeeds on every sound chain. -/
theorem approve_executes {system : System} (sound : system.Sound) (source target : Address)
    (amount : Uint256) :
    execute system ⟨source, .approve target amount⟩ =
      .ok (TokenERC20.approved system source target amount) :=
  (map_eq_ok _ _ _).mpr
    ⟨_, (TokenERC20.approve_eq_ok _ _ _ _ _ _).mpr ⟨sound.wired.token, rfl, rfl⟩, rfl⟩

/-- An approved request has replaced one allowance and moved its amount only if it returned. -/
structure Approved (system : System) (source target : Address) (amount : Uint256)
    (result : EStateM.Result Failure System Unit) : Prop where
  allowance : (finalState result).ledger.allowance =
    writePair system.ledger.allowance source target amount.toNat
  reflected : (finalState result).ledger.reflected = system.ledger.reflected
  owner : (finalState result).service.owner = system.service.owner
  returned : returns result = true → 0 < amount.toNat ∧
    system.ledger.Moved (finalState result).ledger source target amount.toNat
  thrown : returns result = false → (finalState result).ledger.balance = system.ledger.balance

/-- An approved request hands over exactly the amount if the approval changed nothing. -/
theorem Approved.handsOver_iff {deployment : Deployment} {setup later : List Transaction}
    {source target : Address} {amount : Uint256} {result : EStateM.Result Failure System Unit}
    (approved : Approved (deployment.after setup) source target amount result)
    (reached : finalState result = deployment.after later) :
    HandsOver (deployment.after setup) source target amount result ↔
      (deployment.after setup).ledger.allowance source target = amount.toNat := by
  obtain ⟨allowance, reflected, owner, returned, thrown⟩ := approved
  constructor
  · intro hands
    rw [← hands.allowances, allowance, writePair_self]
  · intro same
    have kept : (finalState result).ledger.allowance =
        (deployment.after setup).ledger.allowance := by
      rw [allowance, ← same, writePair_eq_self]
    have smaller : (finalState result).ledger.balance source ≤
        (deployment.after setup).ledger.balance source := by
      by_cases returning : returns result = true
      · have lowered := (returned returning).2.lowered
        omega
      · rw [thrown (Bool.eq_false_iff.mpr returning)]
    refine ⟨kept, ⟨?_, ?_⟩, fun returning => (returned returning).2, ?_⟩
    · intro changed
      by_contra throwing
      exact changed (thrown (Bool.eq_false_iff.mpr throwing))
    · intro returning unchanged
      obtain ⟨positive, moved⟩ := returned returning
      have lowered := moved.lowered
      rw [unchanged] at lowered
      omega
    · intro loss can
      rw [reached] at kept reflected owner smaller can
      exact canTake_of_smaller smaller kept reflected owner can

/-- An error after the approval leaves the approval alone. -/
theorem approved_thrown (system : System) (source target : Address) (amount : Uint256)
    (failure : Failure) :
    Approved system source target amount
      (.error failure (TokenERC20.approved system source target amount)) := by
  have ledger := TokenERC20.approved_ledger system source target amount
  constructor
  · exact congrArg Ledger.allowance ledger
  · show (TokenERC20.approved system source target amount).ledger.reflected = _
    rw [ledger]
    rfl
  · rfl
  · exact fun impossible => absurd impossible Bool.false_ne_true
  · intro _
    show (TokenERC20.approved system source target amount).ledger.balance = _
    rw [ledger]
    rfl

/-- A return after the approval has also executed the transfer. -/
theorem approved_returned {system next : System} {source target : Address} {amount : Uint256}
    (executed : execute (TokenERC20.approved system source target amount)
      ⟨source, .transfer target amount⟩ = .ok next) :
    Approved system source target amount (.ok () next) := by
  have ledger := TokenERC20.approved_ledger system source target amount
  obtain ⟨-, -, different, positive, covered, -, lowered, low, raised, high, same⟩ :=
    (System.transferTocken_eq_ok _ _ _ _ _ _).mp executed
  have moved := System.moved_ledger _ low high
  rw [same, ledger] at moved
  rw [ledger] at covered
  have balances := Ledger.moved_move
    (system.ledger.perform (.approve source target amount.toNat)) different covered
  rw [← moved] at balances
  constructor
  · exact congrArg Ledger.allowance moved
  · show next.ledger.reflected = _
    rw [moved]
    rfl
  · subst same
    rfl
  · exact fun _ => ⟨positive, balances.lowered, balances.raised, balances.others, balances.supply⟩
  · exact fun impossible => absurd impossible.symm Bool.false_ne_true

/-- The request hands over exactly the amount only if it stops before its approval or the same
approval was already in force. -/
theorem transferReal_handsOver_iff (deployment : Deployment) (setup : List Transaction)
    (node : Node) (source target : Address) (amount : Uint256) :
    HandsOver (deployment.after setup) source target amount
        (transferReal node source target amount (deployment.after setup)) ↔
      node.approves = false ∨
        (deployment.after setup).ledger.allowance source target = amount.toNat := by
  have sound := deployment.after_sound setup
  have executed := approve_executes sound source target amount
  by_cases approves : node.approves = true
  · rw [or_iff_right (Bool.not_eq_false _ ▸ approves)]
    have reached : deployment.after (setup ++ [⟨source, .approve target amount⟩]) =
        TokenERC20.approved (deployment.after setup) source target amount := by
      rw [deployment.after_append, run_cons, run_nil, settle_ok executed]
    have body := transferBody_of_approves executed approves
    have stopped (throws : transferBody node source target amount (deployment.after setup) =
        .error (.other false) (TokenERC20.approved (deployment.after setup) source target amount)) :
        HandsOver (deployment.after setup) source target amount
            (transferReal node source target amount (deployment.after setup)) ↔
          (deployment.after setup).ledger.allowance source target = amount.toNat := by
      rw [transferReal_of_error throws]
      exact (approved_thrown _ _ _ _ _).handsOver_iff reached.symm
    by_cases transfers : node.transfers = true
    · rw [if_pos transfers] at body
      cases outcome : execute (TokenERC20.approved (deployment.after setup) source target amount)
          ⟨source, .transfer target amount⟩ with
      | ok next =>
          rw [outcome] at body
          rw [transferReal_of_ok body]
          have transferred : deployment.after (setup ++ [⟨source, .approve target amount⟩] ++
              [⟨source, .transfer target amount⟩]) = next := by
            rw [deployment.after_append, reached, run_cons, run_nil, settle_ok outcome]
          exact (approved_returned outcome).handsOver_iff transferred.symm
      | error fault =>
          rw [outcome] at body
          exact stopped body
    · rw [if_neg transfers] at body
      exact stopped body
  · have stops := Bool.eq_false_iff.mpr approves
    rw [transferReal_of_error (transferBody_of_not_approves executed stops)]
    exact iff_of_true (handsOver_unchanged _ _ _ _ _) (Or.inl stops)

/-- The deployer holds the first issue and has approved nobody. -/
def issuedSetup : List Transaction := [⟨1, .init⟩]

/-- This node works and the configuration names its account. -/
def workingNode : Node := ⟨some 9, [], fun _ => false⟩

/-- A normal request leaves the allowance to its receiver, who then takes the amount again. -/
theorem transferReal_paysTwice :
    ¬ HandsOver (Deployment.sample.after issuedSetup) 1 5 100
        (transferReal workingNode 1 5 100 (Deployment.sample.after issuedSetup)) ∧
      returns (transferReal workingNode 1 5 100 (Deployment.sample.after issuedSetup)) = true ∧
      (Deployment.sample.after issuedSetup).ledger.allowance 1 5 = 0 ∧
      (finalState (transferReal workingNode 1 5 100
        (Deployment.sample.after issuedSetup))).ledger.allowance 1 5 = 100 ∧
      (run execute (finalState (transferReal workingNode 1 5 100
        (Deployment.sample.after issuedSetup))) [⟨5, .transferFrom 1 5 100⟩]).ledger.balance 1 + 200 =
          (Deployment.sample.after issuedSetup).ledger.balance 1 := by
  have left : (finalState (transferReal workingNode 1 5 100
      (Deployment.sample.after issuedSetup))).ledger.allowance 1 5 = 100 := by decide +kernel
  have none : (Deployment.sample.after issuedSetup).ledger.allowance 1 5 = 0 := by decide +kernel
  refine ⟨?_, by decide +kernel, none, left, by decide +kernel⟩
  intro hands
  rw [hands.allowances, none] at left
  exact absurd left (by decide)

end Holonus.Backend
