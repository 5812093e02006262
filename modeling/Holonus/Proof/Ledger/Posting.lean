/-
This file proves when post evaluations succeed and that their order does not matter.
-/

import Holonus.Abstract.Award
import Holonus.Proof.Ledger.Conservation

namespace Holonus.Coin

open Holonus.Machine Holonus.Abstract HolonusCoinService

/-- These arguments make one post evaluation. -/
structure Post where
  msgSender : Address
  owner : Address
  sender : Address
  workPoint : Uint8

def Post.transaction (post : Post) : Transaction :=
  ⟨post.msgSender, .callEvaluatePost post.owner post.sender post.workPoint⟩

/-- A post between two accounts earns the points of the consensus. -/
def System.awarded (system : System) (post : Post) : Option (Award Address) :=
  if different : post.owner ≠ post.sender then
    match evaluationConsensus system post.owner post.workPoint with
    | .ok (senderPoint, ownerPoint) =>
        some ⟨post.owner, post.sender, senderPoint.toNat, ownerPoint.toNat, different⟩
    | .error _ => none
  else none

/-- A post is awarded exactly when its parties differ and its points can be computed. -/
theorem System.awarded_eq_some (system : System) (post : Post) (award : Award Address) :
    system.awarded post = some award ↔
      ∃ (different : post.owner ≠ post.sender) (senderPoint ownerPoint : Uint256),
        evaluationConsensus system post.owner post.workPoint = .ok (senderPoint, ownerPoint) ∧
          ⟨post.owner, post.sender, senderPoint.toNat, ownerPoint.toNat, different⟩ = award := by
  unfold System.awarded
  split
  · rename_i different
    cases consensus : evaluationConsensus system post.owner post.workPoint with
    | ok points =>
        obtain ⟨senderPoint, ownerPoint⟩ := points
        simp [different]
    | error fault => simp
  · rename_i same
    simp [same]

/-- A successful post adds its award to the ledger and keeps all later awards. -/
theorem post_effect {system next : System} {post : Post}
    (executed : execute system post.transaction = .ok next) :
    ∃ award, system.awarded post = some award ∧ next.ledger = system.ledger.award award ∧
      next.awarded = system.awarded := by
  obtain ⟨different, senderPoint, ownerPoint, consensus, senderToken, senderSum, ownerToken, ownerSum,
    totalToken, totalSum, minted, -, senderTotal, senderTotalSum, ownerTotal, ownerTotalSum, same⟩ :=
    (callEvaluatePost_eq_ok system next post.owner post.sender post.workPoint).mp executed
  refine ⟨⟨post.owner, post.sender, senderPoint.toNat, ownerPoint.toNat, different⟩, ?_, ?_, ?_⟩
  · exact (system.awarded_eq_some post _).mpr ⟨different, senderPoint, ownerPoint, consensus, rfl⟩
  · rw [← same]
    exact posted_ledger minted senderSum ownerSum totalSum senderTotalSum ownerTotalSum
  · funext later
    rw [← same]
    rfl

/-- A post changes neither the trust graph nor the adjustment parameter. -/
theorem post_unchanged {system next : System} {post : Post}
    (executed : execute system post.transaction = .ok next) :
    next.graph = system.graph ∧ adjustment next = adjustment system := by
  obtain ⟨-, -, -, -, senderToken, -, ownerToken, -, totalToken, -, minted, -, senderTotal, -,
    ownerTotal, -, same⟩ :=
    (callEvaluatePost_eq_ok system next post.owner post.sender post.workPoint).mp executed
  rw [← same]
  exact ⟨posted_graph _ _ _ _ _ _ _ _ _, posted_adjustment _ _ _ _ _ _ _ _ _⟩

/-- A backed ledger accepts every award that the supply has room for. -/
theorem post_succeeds {system : System} (backed : system.ledger.Backed) {post : Post}
    {award : Award Address} (awarded : system.awarded post = some award)
    (room : system.ledger.supply + award.total < 2 ^ 256) :
    ∃ next, execute system post.transaction = .ok next := by
  obtain ⟨different, senderPoint, ownerPoint, consensus, same⟩ :=
    (system.awarded_eq_some post award).mp awarded
  subst same
  have fits : system.ledger.supply + (senderPoint.toNat + ownerPoint.toNat) < 2 ^ 256 := room
  have senderBalance := backed.balance_le post.sender
  have ownerBalance := backed.balance_le post.owner
  have both := backed.pair_le different
  have senderPoints := backed.points_le post.sender
  have ownerPoints := backed.points_le post.owner
  have word (value : Nat)
      (small : value ≤ system.ledger.supply + (senderPoint.toNat + ownerPoint.toNat)) :
      ∃ result : Uint256, result.toNat = value := ⟨⟨value, lt_of_le_of_lt small fits⟩, rfl⟩
  obtain ⟨senderToken, senderSum⟩ := word (system.ledger.balance post.sender + senderPoint.toNat)
    (by omega)
  obtain ⟨ownerToken, ownerSum⟩ := word (system.ledger.balance post.owner + ownerPoint.toNat)
    (by omega)
  obtain ⟨totalToken, totalSum⟩ := word (system.ledger.supply + senderPoint.toNat + ownerPoint.toNat)
    (by omega)
  obtain ⟨minted, mintedSum⟩ := word (senderToken.toNat + ownerToken.toNat) (by omega)
  obtain ⟨senderTotal, senderTotalSum⟩ := word (system.ledger.points post.sender + senderPoint.toNat)
    (by omega)
  obtain ⟨ownerTotal, ownerTotalSum⟩ := word (system.ledger.points post.owner + ownerPoint.toNat)
    (by omega)
  exact ⟨_, (callEvaluatePost_eq_ok system _ post.owner post.sender post.workPoint).mpr
    ⟨different, senderPoint, ownerPoint, consensus, senderToken, senderSum, ownerToken, ownerSum,
      totalToken, totalSum, minted, mintedSum, senderTotal, senderTotalSum, ownerTotal, ownerTotalSum,
      rfl⟩⟩

/-- Posts succeed throughout exactly when each earns an award and the supply has room for all. -/
theorem posts_succeed_iff (posts : List Post) {system : System} (backed : system.ledger.Backed) :
    (∃ next, (posts.map Post.transaction).foldlM execute system = .ok next) ↔
      (∀ post ∈ posts, (system.awarded post).isSome) ∧
        system.ledger.supply + ((posts.filterMap system.awarded).map Award.total).sum < 2 ^ 256 := by
  induction posts generalizing system with
  | nil =>
      have bounded : system.ledger.supply < 2 ^ 256 :=
        (system.eternalStorage.uIntStorage .totalSupply).bounded
      simp only [List.map_nil, List.foldlM_nil, List.filterMap_nil, List.sum_nil, Nat.add_zero,
        bounded, and_true]
      exact ⟨fun _ _ member => absurd member List.not_mem_nil, fun _ => ⟨system, rfl⟩⟩
  | cons post rest ih =>
      simp only [List.map_cons, List.foldlM_cons, bind_eq_ok]
      constructor
      · intro succeeds
        obtain ⟨final, middle, once, later⟩ := succeeds
        obtain ⟨award, awarded, ledger, kept⟩ := post_effect once
        have reached : middle.ledger.Backed := by
          rw [ledger]
          exact backed.award award
        obtain ⟨earned, room⟩ := (ih reached).mp ⟨final, later⟩
        rw [kept, ledger, Ledger.award_supply] at room
        rw [kept] at earned
        refine ⟨?_, ?_⟩
        · intro other member
          rcases List.mem_cons.mp member with here | there
          · rw [here, awarded]
            rfl
          · exact earned other there
        · rw [List.filterMap_cons_some awarded, List.map_cons, List.sum_cons, ← Nat.add_assoc]
          exact room
      · intro facts
        obtain ⟨earned, room⟩ := facts
        obtain ⟨award, awarded⟩ := Option.isSome_iff_exists.mp (earned post List.mem_cons_self)
        rw [List.filterMap_cons_some awarded, List.map_cons, List.sum_cons] at room
        obtain ⟨middle, once⟩ := post_succeeds backed awarded (by omega)
        obtain ⟨same, again, ledger, kept⟩ := post_effect once
        have equal : award = same := Option.some.inj (awarded.symm.trans again)
        subst equal
        have reached : middle.ledger.Backed := by
          rw [ledger]
          exact backed.award award
        have tail : ∃ final, (rest.map Post.transaction).foldlM execute middle = .ok final := by
          apply (ih reached).mpr
          rw [kept, ledger, Ledger.award_supply, Nat.add_assoc]
          exact ⟨fun other member => earned other (List.mem_cons_of_mem _ member), room⟩
        obtain ⟨final, later⟩ := tail
        exact ⟨final, middle, once, later⟩

/-- Posts that succeed throughout add their awards to the ledger. -/
theorem posts_ledger (posts : List Post) {system next : System}
    (succeeds : (posts.map Post.transaction).foldlM execute system = .ok next) :
    next.ledger = (posts.filterMap system.awarded).foldl Ledger.award system.ledger := by
  induction posts generalizing system with
  | nil =>
      rw [List.map_nil, List.foldlM_nil, pure_eq_ok] at succeeds
      rw [← succeeds]
      rfl
  | cons post rest ih =>
      rw [List.map_cons, List.foldlM_cons, bind_eq_ok] at succeeds
      obtain ⟨middle, once, later⟩ := succeeds
      obtain ⟨award, awarded, ledger, kept⟩ := post_effect once
      rw [ih later, List.filterMap_cons_some awarded, List.foldl_cons, kept, ledger]

/-- The ledger is backed after every run. -/
theorem Deployment.after_backed (deployment : Deployment) (transactions : List Transaction) :
    (deployment.after transactions).ledger.Backed := by
  obtain ⟨issued, -, balanced⟩ := deployment.after_balanced transactions
  exact balanced.backed

/-- Every order of the same posts succeeds alike and ends with the same ledger. -/
theorem posts_order_irrelevant (deployment : Deployment) (transactions : List Transaction)
    (posts reordered : List Post) (permuted : reordered.Perm posts) (next : System)
    (succeeds : (posts.map Post.transaction).foldlM execute (deployment.after transactions) =
      .ok next) :
    ∃ last, (reordered.map Post.transaction).foldlM execute (deployment.after transactions) =
        .ok last ∧ (∀ account, last.ledger.balance account = next.ledger.balance account) ∧
      last.ledger.supply = next.ledger.supply ∧
      ∀ account, last.ledger.points account = next.ledger.points account := by
  have backed := deployment.after_backed transactions
  obtain ⟨earned, room⟩ := (posts_succeed_iff posts backed).mp ⟨next, succeeds⟩
  have awards := permuted.filterMap (deployment.after transactions).awarded
  have again : ∃ last, (reordered.map Post.transaction).foldlM execute
      (deployment.after transactions) = .ok last := by
    apply (posts_succeed_iff reordered backed).mpr
    refine ⟨fun post member => earned post (permuted.mem_iff.mp member), ?_⟩
    rw [(awards.map Award.total).sum_eq]
    exact room
  obtain ⟨last, repeated⟩ := again
  have same : last.ledger = next.ledger := by
    rw [posts_ledger reordered repeated, posts_ledger posts succeeds,
      Ledger.foldl_award_perm awards]
  refine ⟨last, repeated, ?_⟩
  rw [same]
  exact ⟨fun _ => rfl, rfl, fun _ => rfl⟩

/-- Two accounts with whole levels evaluate posts of each other and of a third one. -/
def gradedRun : List Transaction :=
  [⟨1, .setReliability 10 3000000000000000000⟩, ⟨1, .setReliability 11 7500000000000000000⟩]

def gradedPosts : List Post := [⟨7, 10, 11, 5⟩, ⟨8, 11, 10, 200⟩, ⟨9, 11, 12, 3⟩]

theorem gradedPosts_reordered :
    ∃ next last, (gradedPosts.map Post.transaction).foldlM execute
        (Deployment.sample.after gradedRun) = .ok next ∧
      (gradedPosts.reverse.map Post.transaction).foldlM execute
        (Deployment.sample.after gradedRun) = .ok last ∧
      last.ledger.balance 10 = next.ledger.balance 10 := by
  have accepted : ((gradedPosts.map Post.transaction).foldlM execute
      (Deployment.sample.after gradedRun)).isOk = true := by decide +kernel
  obtain ⟨next, succeeds⟩ := exists_of_isOk accepted
  obtain ⟨last, repeated, balances, -⟩ := posts_order_irrelevant Deployment.sample gradedRun
    gradedPosts gradedPosts.reverse (List.reverse_perm gradedPosts) next succeeds
  exact ⟨next, last, succeeds, repeated, balances 10⟩

/-- A post evaluation succeeds within the supply exactly for a parameter of at most one unit. -/
theorem post_available_iff (deployment : Deployment) (transactions : List Transaction)
    (msgSender owner sender : Address) (different : owner ≠ sender) (workPoint : Uint8) :
    (∃ senderPoint ownerPoint,
        evaluationConsensus (deployment.after transactions) owner workPoint =
          .ok (senderPoint, ownerPoint) ∧
        ((deployment.after transactions).ledger.supply + senderPoint.toNat + ownerPoint.toNat <
            2 ^ 256 →
          ∃ next, execute (deployment.after transactions)
            ⟨msgSender, .callEvaluatePost owner sender workPoint⟩ = .ok next)) ↔
      ∃ parameter, getAdjustParameter (deployment.after transactions) = .ok parameter ∧
        parameter.toNat ≤ 10 ^ 18 := by
  have allowed := (deployment.after_sound transactions).wired.service
  have backed := deployment.after_backed transactions
  have exists_iff := exists_evaluationConsensus_iff allowed owner workPoint
  constructor
  · intro available
    obtain ⟨senderPoint, ownerPoint, consensus, -⟩ := available
    have small := exists_iff.mp ⟨senderPoint, ownerPoint, consensus⟩
    exact ⟨⟨_, adjustment_lt _⟩, (getAdjustParameter_eq_ok _ _).mpr ⟨allowed, rfl⟩, small⟩
  · intro limited
    obtain ⟨parameter, read, small⟩ := limited
    rw [((getAdjustParameter_eq_ok _ _).mp read).2] at small
    obtain ⟨senderPoint, ownerPoint, consensus⟩ := exists_iff.mpr small
    refine ⟨senderPoint, ownerPoint, consensus, ?_⟩
    intro room
    have awarded := ((deployment.after transactions).awarded_eq_some
      ⟨msgSender, owner, sender, workPoint⟩ _).mpr
        ⟨different, senderPoint, ownerPoint, consensus, rfl⟩
    rw [Nat.add_assoc] at room
    exact post_succeeds backed awarded room

/-- The administrator sets the parameter to one half. -/
def halvedRun : List Transaction := gradedRun ++ [⟨1, .setAdjustParameter 5 1⟩]

theorem halvedRun_available :
    ∃ parameter senderPoint ownerPoint,
      getAdjustParameter (Deployment.sample.after halvedRun) = .ok parameter ∧
        parameter.toNat ≤ 10 ^ 18 ∧
        evaluationConsensus (Deployment.sample.after halvedRun) 10 5 =
          .ok (senderPoint, ownerPoint) ∧
        ((Deployment.sample.after halvedRun).ledger.supply + senderPoint.toNat + ownerPoint.toNat <
            2 ^ 256 →
          ∃ next, execute (Deployment.sample.after halvedRun) ⟨7, .callEvaluatePost 10 11 5⟩ =
            .ok next) := by
  have parameter : getAdjustParameter (Deployment.sample.after halvedRun) =
      .ok 500000000000000000 := by decide +kernel
  have small : (500000000000000000 : Uint256).toNat ≤ 10 ^ 18 := by decide
  obtain ⟨senderPoint, ownerPoint, available⟩ := (post_available_iff Deployment.sample halvedRun
    7 10 11 (by decide) 5).mpr ⟨_, parameter, small⟩
  exact ⟨_, senderPoint, ownerPoint, parameter, small, available⟩

/-- A parameter above one unit stops the post at a division by zero. -/
theorem callEvaluatePost_of_large {system : System}
    (allowed : system.eternalStorage.allowAccount system.service.address = true)
    (large : unit < adjustment system) {owner sender : Address} (different : owner ≠ sender)
    (workPoint : Uint8) :
    callEvaluatePost system owner sender workPoint = .error .divisionByZero := by
  rw [callEvaluatePost, bind_of_ok _ (require_of different)]
  exact bind_of_error _ (evaluationConsensus_of_large allowed large owner workPoint)

/-- A parameter of two units disables every post evaluation. -/
theorem setting_disables_posts :
    ∃ deployment transactions msgSender owner sender workPoint, owner ≠ sender ∧
      (Deployment.accepted deployment transactions).length = transactions.length ∧
      (deployment.after transactions).ledger.supply = 0 ∧
      execute (deployment.after transactions) ⟨msgSender, .callEvaluatePost owner sender workPoint⟩ =
        .error .divisionByZero := by
  refine ⟨Deployment.sample, [⟨1, .setAdjustParameter 2 0⟩], 7, 10, 11, 1, by decide, by decide +kernel,
    by decide +kernel, ?_⟩
  have allowed := (Deployment.sample.after_sound [⟨1, .setAdjustParameter 2 0⟩]).wired.service
  have large : unit < adjustment (Deployment.sample.after [⟨1, .setAdjustParameter 2 0⟩]) := by
    decide +kernel
  exact callEvaluatePost_of_large allowed large (by decide) 1

end Holonus.Coin
