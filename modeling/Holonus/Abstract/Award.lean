/-
This file adds up the awards of evaluated posts.
-/

import Holonus.Abstract.Ledger

namespace Holonus.Abstract

open Holonus.Machine

/-- An award credits two different accounts. -/
structure Award (Account : Type) where
  owner : Account
  sender : Account
  senderPoint : Nat
  ownerPoint : Nat
  different : owner ≠ sender

section
variable {Account : Type} [DecidableEq Account]

namespace Award

def total (award : Award Account) : Nat := award.senderPoint + award.ownerPoint

def gain (award : Award Account) (account : Account) : Nat :=
  if account = award.owner then award.ownerPoint
  else if account = award.sender then award.senderPoint
  else 0

end Award

namespace Ledger

def award (ledger : Ledger Account) (award : Award Account) : Ledger Account :=
  ledger.perform (.mint award.owner award.sender award.senderPoint award.ownerPoint)

/-- An award raises the supply by its total. -/
theorem award_supply (ledger : Ledger Account) (award : Award Account) :
    (ledger.award award).supply = ledger.supply + award.total := Nat.add_assoc _ _ _

/-- A credit adds to every account what it gains. -/
theorem credit_apply (amount : Account → Nat) (award : Award Account) (account : Account) :
    credit amount award.owner award.sender award.senderPoint award.ownerPoint account =
      amount account + award.gain account := by
  unfold Award.gain
  split
  · rename_i isOwner
    rw [isOwner, credit_owner]
  · rename_i notOwner
    split
    · rename_i isSender
      rw [isSender, credit_sender _ _ _ award.different]
    · rename_i notSender
      rw [credit_of_ne _ _ _ notOwner notSender, Nat.add_zero]

/-- A list of awards adds up its totals and its gains. -/
theorem foldl_award (awards : List (Award Account)) (ledger : Ledger Account) :
    awards.foldl award ledger =
      { ledger with
        supply := ledger.supply + (awards.map Award.total).sum
        balance := fun account => ledger.balance account + (awards.map (·.gain account)).sum
        points := fun account => ledger.points account + (awards.map (·.gain account)).sum } := by
  induction awards generalizing ledger with
  | nil => rfl
  | cons first rest ih =>
      rw [List.foldl_cons, ih]
      ext account
      · simp only [award, perform, List.map_cons, List.sum_cons, Award.total]
        omega
      · simp only [award, perform, credit_apply, List.map_cons, List.sum_cons]
        omega
      · rfl
      · rfl
      · simp only [award, perform, credit_apply, List.map_cons, List.sum_cons]
        omega

/-- The order of the awards does not matter. -/
theorem foldl_award_perm {awards reordered : List (Award Account)} (permuted : reordered.Perm awards)
    (ledger : Ledger Account) : reordered.foldl award ledger = awards.foldl award ledger := by
  have totals : (reordered.map Award.total).sum = (awards.map Award.total).sum :=
    (permuted.map _).sum_eq
  have gains (account : Account) :
      (reordered.map (·.gain account)).sum = (awards.map (·.gain account)).sum :=
    (permuted.map _).sum_eq
  simp only [foldl_award, totals, gains]

variable [Fintype Account]

/-- The supply covers all balances and all points. -/
structure Backed (ledger : Ledger Account) : Prop where
  balances : ∑ account, ledger.balance account ≤ ledger.supply
  points : ∑ account, ledger.points account ≤ ledger.supply

omit [DecidableEq Account] in
/-- A balanced ledger is backed. -/
theorem Balanced.backed {ledger : Ledger Account} {reflected handed issued : Nat}
    (balanced : ledger.Balanced reflected handed issued) : ledger.Backed where
  balances := by
    rw [balanced.balances]
    exact Nat.le_add_right _ _
  points := by
    rw [balanced.earnings]
    exact Nat.le_add_left _ _

/-- An award keeps the ledger backed. -/
theorem Backed.award {ledger : Ledger Account} (backed : ledger.Backed) (award : Award Account) :
    (ledger.award award).Backed := by
  have balances := backed.balances
  have points := backed.points
  have balanceTotal := sum_mint ledger.balance award.senderPoint award.ownerPoint award.different
  have pointTotal := sum_mint ledger.points award.senderPoint award.ownerPoint award.different
  constructor
  · simp only [Ledger.award, perform]
    omega
  · simp only [Ledger.award, perform]
    omega

omit [DecidableEq Account] in
/-- No balance exceeds the supply. -/
theorem Backed.balance_le {ledger : Ledger Account} (backed : ledger.Backed) (account : Account) :
    ledger.balance account ≤ ledger.supply :=
  le_trans (Finset.single_le_sum (fun other _ => Nat.zero_le (ledger.balance other))
    (Finset.mem_univ account)) backed.balances

omit [DecidableEq Account] in
/-- No points exceed the supply. -/
theorem Backed.points_le {ledger : Ledger Account} (backed : ledger.Backed) (account : Account) :
    ledger.points account ≤ ledger.supply :=
  le_trans (Finset.single_le_sum (fun other _ => Nat.zero_le (ledger.points other))
    (Finset.mem_univ account)) backed.points

/-- No two balances together exceed the supply. -/
theorem Backed.pair_le {ledger : Ledger Account} (backed : ledger.Backed) {first second : Account}
    (different : first ≠ second) : ledger.balance first + ledger.balance second ≤ ledger.supply :=
  (pair_le_sum ledger.balance different).trans backed.balances

end Ledger

end

end Holonus.Abstract
