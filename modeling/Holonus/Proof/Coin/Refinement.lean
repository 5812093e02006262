/-
This file proves that each successful call refines one action of the abstract ledger
and one step of the abstract trust graph.
-/

import Holonus.Proof.Coin.EvaluationLaw
import Holonus.Proof.Coin.PointLaw

namespace Holonus.Coin

open Holonus.Machine Holonus.Abstract

/-- This action describes the token effect of a call. -/
def ledgerAction (system : System) (transaction : Transaction) : LedgerAction Address :=
  match transaction.call with
  | .init =>
      if system.ledger.supply = 0 then
        .issue transaction.msgSender TokenERC20.initialSupply.toNat
      else .keep
  | .transfer target value => .move transaction.msgSender target value.toNat
  | .transferFrom source target value => .spend transaction.msgSender source target value.toNat
  | .approve spender value => .approve transaction.msgSender spender value.toNat
  | .callEvaluatePost owner sender workPoint =>
      match HolonusCoinService.evaluationConsensus system owner workPoint with
      | .ok (senderPoint, ownerPoint) => .mint owner sender senderPoint.toNat ownerPoint.toNat
      | .error _ => .keep
  | .reflectToken sender value => .reflect sender value.toNat
  | .transferToken target value => .handOver transaction.msgSender target value.toNat
  | .transferTokenOwnership _ => .keep
  | .transferServiceOwnership _ => .keep
  | .setReliability _ _ => .keep
  | .callEvaluateReliability _ _ _ => .keep
  | .setAdjustParameter _ _ => .keep

/-- This relation describes the trust effect of a call. -/
def GraphEffect (graph next : TrustGraph Address) : Call → Prop
  | .setReliability owner reliability =>
      next = { graph with reliability := Function.update graph.reliability owner reliability.toNat }
  | .callEvaluateReliability owner sender trustworthy =>
      ValidTrust trustworthy ∧ graph.evaluate owner sender trustworthy = some next
  | _ => next = graph

/-- Equal records and lists represent equally well. -/
theorem System.Represented.of_same {system next : System} (represented : system.Represented)
    (records : next.eternalStorage.addrGrpUserInfoStorage =
      system.eternalStorage.addrGrpUserInfoStorage)
    (lists : next.manageStorage = system.manageStorage) : next.Represented := by
  obtain ⟨formed, named⟩ := represented
  have trust : next.graph.trust = system.graph.trust := by
    simp only [System.graph, trustGraph, records]
  have contribution : next.graph.contribution = system.graph.contribution := by
    simp only [System.graph, trustGraph, records]
  have evaluators : next.graph.evaluators = system.graph.evaluators := by
    simp only [System.graph, trustGraph, lists]
  have evaluatees : next.graph.evaluatees = system.graph.evaluatees := by
    simp only [System.graph, trustGraph, lists]
  refine ⟨⟨?_, ?_, ?_, ?_, ?_, ?_⟩, ?_⟩
  · rw [evaluators, trust]
    exact formed.evaluator_iff
  · rw [evaluatees, trust]
    exact formed.evaluatee_iff
  · rw [evaluators]
    exact formed.evaluators_distinct
  · rw [evaluatees]
    exact formed.evaluatees_distinct
  · rw [trust]
    exact formed.trust_valid
  · rw [contribution, trust]
    exact formed.contribution_form
  · rw [records, trust]
    exact named

/-- No call changes the addresses or the allow lists. -/
structure System.SameWiring (system next : System) : Prop where
  token : next.token.address = system.token.address
  service : next.service.address = system.service.address
  allowed : next.eternalStorage.allowAccount = system.eternalStorage.allowAccount
  manageAllowed : next.manageStorage.allowAccount = system.manageStorage.allowAccount

/-- A transaction that keeps the token keeps the wiring. -/
theorem System.KeepsToken.sameWiring {system next : System} (kept : system.KeepsToken next) :
    system.SameWiring next :=
  ⟨congrArg Contract.address kept.token, congrArg Contract.address kept.service, kept.allowed,
    kept.manageAllowed⟩

/-- A refined call performs its ledger action and its trust effect. -/
structure System.Refines (system : System) (transaction : Transaction) (next : System) : Prop where
  enabled : system.ledger.Enabled (ledgerAction system transaction)
  ledger : next.ledger = system.ledger.perform (ledgerAction system transaction)
  graph : GraphEffect system.graph next.graph transaction.call
  represented : next.Represented
  wiring : system.SameWiring next

/-- Each constructor says what one successful call has checked and written. -/
inductive Executed (system : System) (msgSender : Address) : Call → System → Prop where
  | issued (empty : system.ledger.supply = 0) :
      Executed system msgSender .init (TokenERC20.issued system msgSender)
  | alreadyIssued (nonempty : system.ledger.supply ≠ 0) : Executed system msgSender .init system
  | transfer {target : Address} {value lowered raised : Uint256} (different : target ≠ msgSender)
      (covered : value.toNat ≤ system.ledger.balance msgSender)
      (low : lowered.toNat = system.ledger.balance msgSender - value.toNat)
      (high : raised.toNat = system.ledger.balance target + value.toNat) :
      Executed system msgSender (.transfer target value)
        (system.moved msgSender target value lowered raised)
  | transferFrom {source target : Address} {value allowed lowered raised : Uint256}
      (enough : value.toNat ≤ system.ledger.allowance source msgSender)
      (different : target ≠ source) (covered : value.toNat ≤ system.ledger.balance source)
      (drop : allowed.toNat = system.ledger.allowance source msgSender - value.toNat)
      (low : lowered.toNat = system.ledger.balance source - value.toNat)
      (high : raised.toNat = system.ledger.balance target + value.toNat) :
      Executed system msgSender (.transferFrom source target value)
        ((TokenERC20.lowered system source msgSender allowed).moved source target value lowered
          raised)
  | approve {spender : Address} {value : Uint256} :
      Executed system msgSender (.approve spender value)
        (TokenERC20.approved system msgSender spender value)
  | transferTokenOwnership {newOwner : Address} (owned : msgSender = system.token.owner) :
      Executed system msgSender (.transferTokenOwnership newOwner)
        { system with token := { system.token with owner := newOwner } }
  | setReliability {owner : Address} {reliability : Uint256}
      (owned : msgSender = system.service.owner) :
      Executed system msgSender (.setReliability owner reliability)
        { system with
          eternalStorage := system.eternalStorage.putAddrUInt .reliability owner reliability }
  | callEvaluateReliability {owner sender : Address} {trustworthy : Int} {next : System}
      (succeeds : HolonusCoinService.callEvaluateReliability system owner sender trustworthy =
        .ok next) :
      Executed system msgSender (.callEvaluateReliability owner sender trustworthy) next
  | setAdjustParameter {value scaled : Uint256} {decimals : Uint8}
      (owned : msgSender = system.service.owner) :
      Executed system msgSender (.setAdjustParameter value decimals)
        { system with eternalStorage := system.eternalStorage.putUInt .adjustParameter scaled }
  | callEvaluatePost {owner sender : Address} {workPoint : Uint8}
      {senderPoint ownerPoint senderToken ownerToken totalToken minted senderTotal
        ownerTotal : Uint256} (different : owner ≠ sender)
      (consensus : HolonusCoinService.evaluationConsensus system owner workPoint =
        .ok (senderPoint, ownerPoint))
      (senderSum : senderToken.toNat = system.ledger.balance sender + senderPoint.toNat)
      (ownerSum : ownerToken.toNat = system.ledger.balance owner + ownerPoint.toNat)
      (totalSum : totalToken.toNat =
        system.ledger.supply + senderPoint.toNat + ownerPoint.toNat)
      (mintedSum : minted.toNat = senderToken.toNat + ownerToken.toNat)
      (senderTotalSum : senderTotal.toNat = system.ledger.points sender + senderPoint.toNat)
      (ownerTotalSum : ownerTotal.toNat = system.ledger.points owner + ownerPoint.toNat) :
      Executed system msgSender (.callEvaluatePost owner sender workPoint)
        (HolonusCoinService.posted system owner sender senderToken ownerToken totalToken minted
          senderTotal ownerTotal)
  | reflectToken {sender : Address} {value raised lowered : Uint256}
      (owned : msgSender = system.service.owner)
      (covered : value.toNat ≤ system.ledger.balance sender)
      (high : raised.toNat = system.ledger.reflected sender + value.toNat)
      (low : lowered.toNat = system.ledger.balance sender - value.toNat) :
      Executed system msgSender (.reflectToken sender value)
        (HolonusCoinService.reflected system sender value raised lowered)
  | transferToken {target : Address} {value lowered raised reflected : Uint256}
      (owned : msgSender = system.service.owner) (different : target ≠ msgSender)
      (covered : value.toNat ≤ system.ledger.balance msgSender)
      (low : lowered.toNat = system.ledger.balance msgSender - value.toNat)
      (high : raised.toNat = system.ledger.balance target + value.toNat)
      (more : reflected.toNat = system.ledger.reflected target + value.toNat) :
      Executed system msgSender (.transferToken target value)
        (HolonusCoinService.handedOver system msgSender target value lowered raised reflected)
  | transferServiceOwnership {newOwner : Address} (owned : msgSender = system.service.owner) :
      Executed system msgSender (.transferServiceOwnership newOwner)
        { system with service := { system.service with owner := newOwner } }

/-- Every transaction that succeeds is one of the executed calls. -/
theorem executed_of_execute {system next : System} {msgSender : Address} {call : Call}
    (succeeds : execute system ⟨msgSender, call⟩ = .ok next) :
    Executed system msgSender call next := by
  cases call with
  | init =>
      obtain ⟨-, -, same⟩ := (TokenERC20.init_eq_ok _ _ _).mp succeeds
      split at same
      · rename_i empty
        subst same
        exact .issued empty
      · rename_i nonempty
        subst same
        exact .alreadyIssued nonempty
  | transfer target value =>
      obtain ⟨-, -, different, -, covered, -, lowered, low, raised, high, same⟩ :=
        (System.transferTocken_eq_ok _ _ _ _ _ _).mp succeeds
      subst same
      exact .transfer different covered low high
  | transferFrom source target value =>
      obtain ⟨⟨final, success⟩, spends, same⟩ := (map_eq_ok _ _ _).mp succeeds
      obtain ⟨enough, -, -, different, -, covered, -, -, allowed, drop, lowered, low, raised, high,
        moved⟩ := (TokenERC20.transferFrom_eq_ok _ _ _ _ _ _ _).mp spends
      subst same moved
      exact .transferFrom enough different covered drop low high
  | approve spender value =>
      obtain ⟨⟨final, success⟩, approves, same⟩ := (map_eq_ok _ _ _).mp succeeds
      obtain ⟨-, approved, -⟩ := (TokenERC20.approve_eq_ok _ _ _ _ _ _).mp approves
      subst same approved
      exact .approve
  | transferTokenOwnership newOwner =>
      obtain ⟨owned, same⟩ := (TokenERC20.transferOwnership_eq_ok _ _ _ _).mp succeeds
      subst same
      exact .transferTokenOwnership owned
  | setReliability owner reliability =>
      obtain ⟨owned, -, same⟩ := (HolonusCoinService.setReliability_eq_ok _ _ _ _ _).mp succeeds
      subst same
      exact .setReliability owned
  | callEvaluateReliability owner sender trustworthy => exact .callEvaluateReliability succeeds
  | setAdjustParameter value decimals =>
      obtain ⟨owned, -, scaled, -, -, same⟩ :=
        (HolonusCoinService.setAdjustParameter_eq_ok _ _ _ _ _).mp succeeds
      subst same
      exact .setAdjustParameter owned
  | callEvaluatePost owner sender workPoint =>
      obtain ⟨different, senderPoint, ownerPoint, consensus, senderToken, senderSum, ownerToken,
        ownerSum, totalToken, totalSum, minted, mintedSum, senderTotal, senderTotalSum, ownerTotal,
        ownerTotalSum, same⟩ := (HolonusCoinService.callEvaluatePost_eq_ok _ _ _ _ _).mp succeeds
      subst same
      exact .callEvaluatePost different consensus senderSum ownerSum totalSum mintedSum
        senderTotalSum ownerTotalSum
  | reflectToken sender value =>
      obtain ⟨owned, -, -, covered, raised, high, lowered, low, same⟩ :=
        (HolonusCoinService.reflectToken_eq_ok _ _ _ _ _).mp succeeds
      subst same
      exact .reflectToken owned covered high low
  | transferToken target value =>
      obtain ⟨owned, -, -, different, -, covered, -, lowered, low, raised, high, reflected, more,
        same⟩ := (HolonusCoinService.transferToken_eq_ok _ _ _ _ _).mp succeeds
      subst same
      exact .transferToken owned different covered low high more
  | transferServiceOwnership newOwner =>
      obtain ⟨owned, same⟩ := (HolonusCoinService.transferOwnership_eq_ok _ _ _ _).mp succeeds
      subst same
      exact .transferServiceOwnership owned

/-- Every successful call refines the abstract ledger and the abstract graph. -/
theorem execute_refines {system next : System} {transaction : Transaction}
    (represented : system.Represented) (executed : execute system transaction = .ok next) :
    system.Refines transaction next := by
  obtain ⟨msgSender, call⟩ := transaction
  cases executed_of_execute executed with
  | issued empty =>
      have action : ledgerAction system ⟨msgSender, .init⟩ =
        .issue msgSender TokenERC20.initialSupply.toNat := if_pos empty
      constructor
      · rw [action]
        exact empty
      · rw [action]
        exact TokenERC20.issued_ledger system msgSender
      · rfl
      · exact represented.of_same rfl rfl
      · exact ⟨rfl, rfl, rfl, rfl⟩
  | alreadyIssued nonempty =>
      have action : ledgerAction system ⟨msgSender, .init⟩ = .keep := if_neg nonempty
      constructor
      · rw [action]
        trivial
      · rw [action]
        rfl
      · rfl
      · exact represented
      · exact ⟨rfl, rfl, rfl, rfl⟩
  | transfer different covered low high =>
      exact ⟨⟨different, covered⟩, system.moved_ledger low high, rfl, represented.of_same rfl rfl,
        ⟨rfl, rfl, rfl, rfl⟩⟩
  | transferFrom enough different covered drop low high =>
      exact ⟨⟨different, covered, enough⟩, TokenERC20.spent_ledger drop low high, rfl,
        represented.of_same rfl rfl, ⟨rfl, rfl, rfl, rfl⟩⟩
  | approve =>
      exact ⟨trivial, TokenERC20.approved_ledger system msgSender _ _, rfl,
        represented.of_same rfl rfl, ⟨rfl, rfl, rfl, rfl⟩⟩
  | transferTokenOwnership =>
      exact ⟨trivial, rfl, rfl, represented.of_same rfl rfl, ⟨rfl, rfl, rfl, rfl⟩⟩
  | setReliability =>
      exact ⟨trivial, rfl, trustGraph_putReliability _ _ _ _, represented.of_same rfl rfl,
        ⟨rfl, rfl, rfl, rfl⟩⟩
  | callEvaluateReliability succeeds =>
      obtain ⟨valid, evaluated, represents, kept⟩ :=
        HolonusCoinService.callEvaluateReliability_refines represented succeeds
      exact ⟨trivial, kept.ledger, ⟨valid, evaluated⟩, represents, kept.sameWiring⟩
  | setAdjustParameter =>
      exact ⟨trivial, rfl, rfl, represented.of_same rfl rfl, ⟨rfl, rfl, rfl, rfl⟩⟩
  | @callEvaluatePost owner sender workPoint senderPoint ownerPoint _ _ _ minted _ _ different
      consensus senderSum ownerSum totalSum _ senderTotalSum ownerTotalSum =>
      have action : ledgerAction system ⟨msgSender, .callEvaluatePost owner sender workPoint⟩ =
          .mint owner sender senderPoint.toNat ownerPoint.toNat := by
        simp only [ledgerAction, consensus]
      constructor
      · rw [action]
        exact different
      · rw [action]
        exact HolonusCoinService.posted_ledger minted senderSum ownerSum totalSum senderTotalSum
          ownerTotalSum
      · apply HolonusCoinService.posted_graph
      · apply represented.of_same
        · simp [HolonusCoinService.posted]
        · rfl
      · constructor <;> simp [HolonusCoinService.posted]
  | reflectToken _ covered high low =>
      exact ⟨covered, HolonusCoinService.reflected_ledger high low, rfl,
        represented.of_same rfl rfl, ⟨rfl, rfl, rfl, rfl⟩⟩
  | transferToken _ different covered low high more =>
      exact ⟨⟨different, covered⟩, HolonusCoinService.handedOver_ledger low high more, rfl,
        represented.of_same rfl rfl, ⟨rfl, rfl, rfl, rfl⟩⟩
  | transferServiceOwnership =>
      exact ⟨trivial, rfl, rfl, represented.of_same rfl rfl, ⟨rfl, rfl, rfl, rfl⟩⟩

end Holonus.Coin
