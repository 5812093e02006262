/-
This file proves when a token transfer succeeds, what it changes and which check stops it.
-/

import Holonus.Proof.Ledger.Posting

namespace Holonus.Coin

open Holonus.Machine Holonus.Abstract

/-- The source can send the value to another account than the zero address. -/
def Transferable (ledger : Ledger Address) (source target : Address) (value : Nat) : Prop :=
  target ≠ 0 ∧ target ≠ source ∧ 0 < value ∧ value ≤ ledger.balance source

/-- A covered self-transfer passes every requirement and stops at a later check. -/
def rejection (ledger : Ledger Address) (source target : Address) (value : Nat) : Fault :=
  if target = source ∧ target ≠ 0 ∧ 0 < value ∧ value ≤ ledger.balance source then
    if 2 * (ledger.balance source + value) < 2 ^ 256 then .assertion else .overflow
  else .requirement

/-- The supply of a reachable state covers the balances of two accounts. -/
theorem Deployment.balances_fit (deployment : Deployment) (transactions : List Transaction)
    {first second : Address} (different : first ≠ second) :
    (deployment.after transactions).ledger.balance first +
      (deployment.after transactions).ledger.balance second < 2 ^ 256 := by
  obtain ⟨issued, -, balanced⟩ := deployment.after_balanced transactions
  have pair := pair_le_sum (deployment.after transactions).ledger.balance different
  have bounded : (deployment.after transactions).ledger.supply < 2 ^ 256 :=
    ((deployment.after transactions).eternalStorage.uIntStorage .totalSupply).bounded
  have total := balanced.balances
  omega

/-- A state in which every pair of balances fits has only these outcomes. -/
theorem System.transferTocken_outcome {system : System} {self source target : Address}
    (allowed : system.eternalStorage.allowAccount self = true)
    (fits : target ≠ source →
      system.ledger.balance source + system.ledger.balance target < 2 ^ 256) (value : Uint256) :
    Decides (system.transferTocken self source target value)
      (Transferable system.ledger source target value.toNat)
      (fun next => next.ledger = system.ledger.move source target value.toNat)
      (rejection system.ledger source target value.toNat) := by
  by_cases met : target ≠ 0 ∧ 0 < value.toNat ∧ value.toNat ≤ system.ledger.balance source
  · obtain ⟨nonzero, positive, covered⟩ := met
    by_cases same : target = source
    · right
      refine ⟨fun transferable => transferable.2.1 same, ?_⟩
      rw [rejection, if_pos ⟨same, nonzero, positive, covered⟩]
      subst same
      exact system.transferTocken_self allowed nonzero positive covered
    · left
      have room := fits same
      obtain ⟨lowered, low⟩ : ∃ lowered : Uint256,
          lowered.toNat = system.ledger.balance source - value.toNat :=
        ⟨⟨system.ledger.balance source - value.toNat, by omega⟩, rfl⟩
      obtain ⟨raised, high⟩ : ∃ raised : Uint256,
          raised.toNat = system.ledger.balance target + value.toNat :=
        ⟨⟨system.ledger.balance target + value.toNat, by omega⟩, rfl⟩
      exact ⟨⟨nonzero, same, positive, covered⟩, _, (system.transferTocken_eq_ok _ _ _ _ _).mpr
        ⟨allowed, nonzero, same, positive, covered, room, lowered, low, raised, high, rfl⟩,
        system.moved_ledger low high⟩
  · right
    refine ⟨fun transferable => met ⟨transferable.1, transferable.2.2⟩, ?_⟩
    rw [rejection, if_neg fun stopped => met stopped.2]
    exact system.transferTocken_refused allowed met

/-- A covered allowance drops before the balances move. -/
theorem TokenERC20.transferFrom_of_enough {system : System} {source msgSender : Address}
    (allowed : system.eternalStorage.allowAccount system.token.address = true) (target : Address)
    {value left : Uint256} (enough : value.toNat ≤ system.ledger.allowance source msgSender)
    (rest : left.toNat = system.ledger.allowance source msgSender - value.toNat) :
    TokenERC20.transferFrom system msgSender source target value =
      (TokenERC20.lowered system source msgSender left).transferTocken system.token.address source
        target value >>= fun next => pure (next, true) := by
  have read := (EternalStorage.getAddrGrpUIntValue_eq_ok system.eternalStorage system.token.address
    .allowed source msgSender _).mpr ⟨allowed, rfl⟩
  have within : value ≤ system.eternalStorage.addrGrpUIntStorage .allowed source msgSender := enough
  have dropped := (Word.checkedSub_eq_ok
    (system.eternalStorage.addrGrpUIntStorage .allowed source msgSender) value left).mpr
      ⟨enough, rest⟩
  have written : system.eternalStorage.setAddrGrpUIntValue system.token.address .allowed source
      msgSender left = .ok (system.eternalStorage.putAddrGrpUInt .allowed source msgSender left) :=
    (EternalStorage.setAddrGrpUIntValue_eq_ok _ _ _ _ _ _ _).mpr ⟨allowed, rfl⟩
  rw [TokenERC20.transferFrom, bind_of_ok _ read, bind_of_ok _ (require_of within),
    bind_of_ok _ dropped, bind_of_ok _ written]
  rfl

/-- The allowance check of `transferFrom` precedes the transfer. -/
theorem TokenERC20.transferFrom_outcome {system : System} {source target : Address}
    (allowed : system.eternalStorage.allowAccount system.token.address = true)
    (fits : target ≠ source →
      system.ledger.balance source + system.ledger.balance target < 2 ^ 256) (msgSender : Address)
    (value : Uint256) :
    Decides (TokenERC20.transferFrom system msgSender source target value)
      (Transferable system.ledger source target value.toNat ∧
        value.toNat ≤ system.ledger.allowance source msgSender)
      (fun result =>
        result.1.ledger = system.ledger.perform (.spend msgSender source target value.toNat))
      (if value.toNat ≤ system.ledger.allowance source msgSender then
        rejection system.ledger source target value.toNat else .requirement) := by
  by_cases enough : value.toNat ≤ system.ledger.allowance source msgSender
  · obtain ⟨left, rest⟩ : ∃ left : Uint256,
        left.toNat = system.ledger.allowance source msgSender - value.toNat := by
      have bounded := (system.eternalStorage.addrGrpUIntStorage .allowed source msgSender).bounded
      exact ⟨⟨system.ledger.allowance source msgSender - value.toNat,
        lt_of_le_of_lt (Nat.sub_le _ _) bounded⟩, rfl⟩
    have ledger : (TokenERC20.lowered system source msgSender left).ledger =
        { system.ledger with
          allowance := writePair system.ledger.allowance source msgSender left.toNat } :=
      system.eternalStorage.ledger_putAllowed source msgSender left
    rw [TokenERC20.transferFrom_of_enough allowed target enough rest, if_pos enough]
    rcases (TokenERC20.lowered system source msgSender left).transferTocken_outcome allowed fits
      value with moves | stops
    · obtain ⟨transferable, next, succeeds, moved⟩ := moves
      left
      refine ⟨⟨transferable, enough⟩, (next, true), ?_, ?_⟩
      · rw [bind_of_ok _ succeeds]
        rfl
      · show next.ledger = _
        rw [moved, ledger, rest]
        rfl
    · right
      exact ⟨fun both => stops.1 both.1, bind_of_error _ stops.2⟩
  · right
    have read := (EternalStorage.getAddrGrpUIntValue_eq_ok system.eternalStorage
      system.token.address .allowed source msgSender _).mpr ⟨allowed, rfl⟩
    refine ⟨fun both => enough both.2, ?_⟩
    rw [TokenERC20.transferFrom, bind_of_ok _ read, if_neg enough]
    exact bind_of_error _ (require_of_not enough)

/-- Both transfer functions accept, change and reject exactly what the ledger says. -/
structure System.TransfersExactly (system : System) : Prop where
  transfer_iff : ∀ msgSender target value,
    (∃ next, TokenERC20.transfer system msgSender target value = .ok next) ↔
      Transferable system.ledger msgSender target value.toNat
  transfer_effect : ∀ msgSender target value next,
    TokenERC20.transfer system msgSender target value = .ok next →
      system.ledger.Moved next.ledger msgSender target value.toNat ∧
        next.ledger.allowance = system.ledger.allowance
  transfer_fault : ∀ msgSender target value fault,
    TokenERC20.transfer system msgSender target value = .error fault →
      fault = rejection system.ledger msgSender target value.toNat
  transferFrom_iff : ∀ msgSender source target value,
    (∃ result, TokenERC20.transferFrom system msgSender source target value = .ok result) ↔
      Transferable system.ledger source target value.toNat ∧
        value.toNat ≤ system.ledger.allowance source msgSender
  transferFrom_effect : ∀ msgSender source target value next success,
    TokenERC20.transferFrom system msgSender source target value = .ok (next, success) →
      system.ledger.Moved next.ledger source target value.toNat ∧
        next.ledger.allowance source msgSender + value.toNat =
          system.ledger.allowance source msgSender ∧
        ∀ owner spender, owner ≠ source ∨ spender ≠ msgSender →
          next.ledger.allowance owner spender = system.ledger.allowance owner spender
  transferFrom_fault : ∀ msgSender source target value fault,
    TokenERC20.transferFrom system msgSender source target value = .error fault →
      fault = if value.toNat ≤ system.ledger.allowance source msgSender then
        rejection system.ledger source target value.toNat else .requirement

/-- Every reachable state transfers exactly, and only a self-transfer passes the requirements
and still fails. -/
theorem transfers_exact (deployment : Deployment) (transactions : List Transaction) :
    (deployment.after transactions).ShowsLedger ∧
      (deployment.after transactions).TransfersExactly := by
  have wired := (deployment.after_sound transactions).wired
  have fits (source target : Address) (different : target ≠ source) :=
    deployment.balances_fit transactions (Ne.symm different)
  have transfers (msgSender target : Address) (value : Uint256) :=
    System.transferTocken_outcome wired.token (fits msgSender target) value
  have spends (msgSender source target : Address) (value : Uint256) :=
    TokenERC20.transferFrom_outcome wired.token (fits source target) msgSender value
  refine ⟨wired.showsLedger, ?_, ?_, ?_, ?_, ?_, ?_⟩
  · intro msgSender target value
    exact (transfers msgSender target value).exists_ok_iff
  · intro msgSender target value next succeeds
    obtain ⟨⟨-, different, -, covered⟩, moved⟩ := (transfers msgSender target value).effect succeeds
    rw [moved]
    exact ⟨Ledger.moved_move _ different covered, rfl⟩
  · intro msgSender target value fault fails
    exact (transfers msgSender target value).fault_eq fails
  · intro msgSender source target value
    exact (spends msgSender source target value).exists_ok_iff
  · intro msgSender source target value next success succeeds
    obtain ⟨⟨⟨-, different, -, covered⟩, enough⟩, spent⟩ :=
      (spends msgSender source target value).effect succeeds
    rw [spent]
    have moved := Ledger.moved_move _ different covered
    refine ⟨⟨moved.lowered, moved.raised, moved.others, moved.supply⟩, ?_, ?_⟩
    · show writePair _ _ _ _ source msgSender + value.toNat = _
      rw [writePair_self]
      exact Nat.sub_add_cancel enough
    · intro owner spender other
      show writePair _ _ _ _ owner spender = _
      rcases other with row | column
      · rw [writePair_of_row_ne _ _ _ row]
      · rw [writePair_of_column_ne _ _ _ _ column]
  · intro msgSender source target value fault fails
    exact (spends msgSender source target value).fault_eq fails

/-- Account eight evaluates posts of account nine at the highest level. -/
def post : Transaction := ⟨7, .callEvaluatePost 8 9 255⟩

def postRun (count : Nat) : List Transaction :=
  ⟨1, .setReliability 8 10000000000000000000⟩ :: List.replicate count post

/-- Each of the counted posts has minted the same points. -/
structure Posted (system : System) (count : Nat) : Prop where
  sound : system.Sound
  level : system.graph.level 8 = 10
  adjust : HolonusCoinService.adjustment system = unit
  sender : system.ledger.balance 9 = count * 2550000000000000000000
  owner : system.ledger.balance 8 = count * 25500000000000000000
  supply : system.ledger.supply = count * 2575500000000000000000
  senderPoints : system.ledger.points 9 = count * 2550000000000000000000
  ownerPoints : system.ledger.points 8 = count * 25500000000000000000

/-- These points are minted by each post. -/
def postAward : Award Address := ⟨8, 9, 2550000000000000000000, 25500000000000000000, by decide⟩

/-- Every post of the run receives the same award. -/
theorem Posted.awarded {system : System} {count : Nat} (posted : Posted system count) :
    system.awarded ⟨7, 8, 9, 255⟩ = some postAward := by
  have consensus : HolonusCoinService.evaluationConsensus system 8 255 =
      .ok (⟨2550000000000000000000, by decide⟩, ⟨25500000000000000000, by decide⟩) := by
    rw [HolonusCoinService.evaluationConsensus_eq_ok, posted.level, posted.adjust]
    exact ⟨posted.sound.wired.service, by decide, by decide, by decide, by decide⟩
  exact (system.awarded_eq_some _ _).mpr ⟨by decide, _, _, consensus, rfl⟩

/-- One more post succeeds while the sum fits in the machine word. -/
theorem Posted.execute_post {system : System} {count : Nat} (posted : Posted system count)
    (backed : system.ledger.Backed) (fits : (count + 1) * 2575500000000000000000 < 2 ^ 256) :
    ∃ next, execute system post = .ok next ∧ Posted next (count + 1) := by
  have room : system.ledger.supply + postAward.total < 2 ^ 256 := by
    show system.ledger.supply + (2550000000000000000000 + 25500000000000000000) < _
    rw [posted.supply]
    omega
  obtain ⟨next, executed⟩ := post_succeeds backed posted.awarded room
  obtain ⟨award, awarded, ledger, -⟩ := post_effect executed
  obtain ⟨graph, adjust⟩ := post_unchanged executed
  rw [posted.awarded, Option.some.injEq] at awarded
  subst awarded
  have balance (account : Address) : next.ledger.balance account =
      system.ledger.balance account + postAward.gain account := by
    rw [ledger]
    exact Ledger.credit_apply system.ledger.balance postAward account
  have points (account : Address) : next.ledger.points account =
      system.ledger.points account + postAward.gain account := by
    rw [ledger]
    exact Ledger.credit_apply system.ledger.points postAward account
  have senderGain : postAward.gain 9 = 2550000000000000000000 := by decide
  have ownerGain : postAward.gain 8 = 25500000000000000000 := by decide
  have supply : next.ledger.supply = system.ledger.supply + 2575500000000000000000 := by
    rw [ledger]
    exact Ledger.award_supply system.ledger postAward
  refine ⟨next, executed, execute_sound posted.sound executed, ?_, ?_, ?_, ?_, ?_, ?_, ?_⟩
  · rw [graph, posted.level]
  · rw [adjust, posted.adjust]
  · rw [balance, senderGain, posted.sender, Nat.succ_mul]
  · rw [balance, ownerGain, posted.owner, Nat.succ_mul]
  · rw [supply, posted.supply, Nat.succ_mul]
  · rw [points, senderGain, posted.senderPoints, Nat.succ_mul]
  · rw [points, ownerGain, posted.ownerPoints, Nat.succ_mul]

/-- A run of posts leaves as many posts as it has while the sum fits. -/
theorem posted_postRun (count : Nat) (fits : count * 2575500000000000000000 < 2 ^ 256) :
    Posted (Deployment.sample.after (postRun count)) count := by
  induction count with
  | zero =>
      exact ⟨Deployment.sample.after_sound _, by decide +kernel, if_pos (by decide +kernel),
        by decide +kernel, by decide +kernel, by decide +kernel, by decide +kernel,
        by decide +kernel⟩
  | succ count ih =>
      have earlier := ih (lt_of_le_of_lt (Nat.mul_le_mul_right _ (Nat.le_succ count)) fits)
      obtain ⟨next, executed, posted⟩ :=
        earlier.execute_post (Deployment.sample.after_backed _) fits
      have extended : postRun (count + 1) = postRun count ++ [post] := by
        rw [postRun, postRun, List.replicate_succ', List.cons_append]
      rw [extended, Deployment.sample.after_append, run_cons, run_nil, settle_ok executed]
      exact posted

/-- A self-transfer of the whole balance that the counted posts have minted. -/
def selfTransfer (count : Nat) : Transaction :=
  ⟨9, .transfer 9
    ((Deployment.sample.after (postRun count)).eternalStorage.addrUIntStorage .tocken 9)⟩

theorem selfTransfer_outcome {count : Nat} (fits : count * 2575500000000000000000 < 2 ^ 256)
    (large : 2 ^ 254 ≤ count * 2550000000000000000000) :
    execute (Deployment.sample.after (postRun count)) (selfTransfer count) = .error .overflow := by
  have posted := posted_postRun count fits
  rw [← posted.sender] at large
  have positive : 0 < (Deployment.sample.after (postRun count)).ledger.balance 9 := by omega
  have rejected := System.transferTocken_self posted.sound.wired.token (by decide) positive le_rfl
  rw [if_neg] at rejected
  · exact rejected
  · show ¬ 2 * ((Deployment.sample.after (postRun count)).ledger.balance 9 +
      (Deployment.sample.after (postRun count)).ledger.balance 9) < 2 ^ 256
    omega

/-- Enough posts for an overflow are still few. -/
theorem exists_large_count : ∃ count, count * 2575500000000000000000 < 2 ^ 256 ∧
    2 ^ 254 ≤ count * 2550000000000000000000 ∧ count + 2 < 2 ^ 184 :=
  ⟨2 ^ 254 / 2550000000000000000000 + 1, by norm_num, by norm_num, by norm_num⟩

/-- A self-transfer of a huge reachable balance stops at an overflow check. -/
theorem selfTransfer_overflows :
    ∃ deployment transactions account value, account ≠ 0 ∧ 0 < value.toNat ∧
      value.toNat ≤ (Deployment.after deployment transactions).ledger.balance account ∧
      TokenERC20.transfer (deployment.after transactions) account account value =
        .error .overflow := by
  obtain ⟨count, fits, large, -⟩ := exists_large_count
  have posted := posted_postRun count fits
  have positive : 0 < (Deployment.sample.after (postRun count)).ledger.balance 9 := by
    rw [posted.sender]
    omega
  exact ⟨Deployment.sample, postRun count, 9,
    (Deployment.sample.after (postRun count)).eternalStorage.addrUIntStorage .tocken 9, by decide,
    positive, le_rfl, selfTransfer_outcome fits large⟩

end Holonus.Coin
