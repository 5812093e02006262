/-
This file bounds the loss of an account that sends no call by what it approved.
-/

import Holonus.Abstract.Approval
import Holonus.Proof.Coin.Reachable

namespace Holonus.Coin

open Holonus.Machine Holonus.Abstract

/-- The call reflects units of the account. -/
def Call.reflects (account : Address) : Call → Bool
  | .reflectToken sender _ => sender = account
  | _ => false

/-- Neither the account nor a reflection of its units acts in the entry. -/
def Passive (account : Address) (entry : System × Transaction) : Prop :=
  entry.2.msgSender ≠ account ∧ ¬ entry.2.call.reflects account

instance (account : Address) (entry : System × Transaction) : Decidable (Passive account entry) :=
  inferInstanceAs (Decidable (_ ∧ _))

/-- A passive transaction spares the account in the ledger. -/
theorem Passive.spares {account : Address} {system : System} {transaction : Transaction}
    (passive : Passive account (system, transaction)) :
    Ledger.Spares account (ledgerAction system transaction) := by
  obtain ⟨msgSender, call⟩ := transaction
  obtain ⟨notSender, notReflected⟩ := passive
  cases call with
  | init =>
      simp only [ledgerAction]
      split
      · exact notSender
      · trivial
  | transfer target value => exact notSender
  | approve spender value => exact notSender
  | transferToken target value => exact notSender
  | callEvaluatePost owner sender workPoint =>
      simp only [ledgerAction]
      split <;> trivial
  | reflectToken sender value => exact fun same => notReflected (decide_eq_true same)
  | _ => trivial

/-- A passive run takes from the account at most what it approved. -/
theorem run_losesAtMost {system : System} (sound : system.Sound) (transactions : List Transaction)
    {account : Address} (passive : ∀ entry ∈ history execute system transactions, Passive account entry) :
    Ledger.LosesAtMost account system.ledger (run execute system transactions).ledger := by
  apply run_admitted (Passive account)
    (fun current => Ledger.LosesAtMost account system.ledger current.ledger) sound
    (Ledger.LosesAtMost.refl account system.ledger) _ passive
  intro current transaction next _ here before refines
  rw [refines.ledger]
  exact before.trans (Ledger.losesAtMost_perform refines.enabled here.spares)

/-- A passive account loses at most what its spenders used from their allowances. -/
theorem loss_bounded (deployment : Deployment) (setup transactions : List Transaction)
    (account : Address)
    (passive : ∀ entry ∈ history execute (deployment.after setup) transactions,
      Passive account entry) :
    (deployment.after setup).ShowsLedger ∧ (deployment.after (setup ++ transactions)).ShowsLedger ∧
      (∀ spender, (deployment.after (setup ++ transactions)).ledger.allowance account spender ≤
        (deployment.after setup).ledger.allowance account spender) ∧
      ((deployment.after setup).ledger.balance account : Int) -
          ∑ spender, (((deployment.after setup).ledger.allowance account spender : Int) -
            (deployment.after (setup ++ transactions)).ledger.allowance account spender) ≤
        (deployment.after (setup ++ transactions)).ledger.balance account ∧
      ((∀ spender, (deployment.after setup).ledger.allowance account spender = 0) →
        (deployment.after setup).ledger.balance account ≤
          (deployment.after (setup ++ transactions)).ledger.balance account) := by
  have shownBefore := (deployment.after_sound setup).wired.showsLedger
  have shownAfter := (deployment.after_sound (setup ++ transactions)).wired.showsLedger
  have loses := run_losesAtMost (deployment.after_sound setup) transactions passive
  rw [← deployment.after_append] at loses
  obtain ⟨allowances, balance⟩ := loses
  refine ⟨shownBefore, shownAfter, allowances, ?_, ?_⟩
  · rw [Finset.sum_sub_distrib]
    zify at balance
    omega
  · intro none
    simp only [none, Finset.sum_const_zero] at balance
    omega

/-- The deployer approves one spender. -/
def approvedSetup : List Transaction := [⟨1, .init⟩, ⟨1, .approve 5 100⟩]

/-- The spender uses part of its allowance and other accounts approve and transfer. -/
def spendingRun : List Transaction :=
  [⟨5, .transferFrom 1 6 60⟩, ⟨6, .approve 7 10⟩, ⟨6, .transfer 1 20⟩]

/-- A spender takes at most what it was approved. -/
theorem spendingRun_bounded :
    (∀ entry ∈ history execute (Deployment.sample.after approvedSetup) spendingRun,
        Passive 1 entry) ∧
      (Deployment.sample.after approvedSetup).ledger.allowance 1 5 = 100 ∧
      (Deployment.sample.after (approvedSetup ++ spendingRun)).ledger.allowance 1 5 = 40 ∧
      ((Deployment.sample.after approvedSetup).ledger.balance 1 : Int) -
          ∑ spender, (((Deployment.sample.after approvedSetup).ledger.allowance 1 spender : Int) -
            (Deployment.sample.after (approvedSetup ++ spendingRun)).ledger.allowance 1 spender) ≤
        (Deployment.sample.after (approvedSetup ++ spendingRun)).ledger.balance 1 := by
  have passive : ∀ entry ∈ history execute (Deployment.sample.after approvedSetup) spendingRun,
      Passive 1 entry := by decide +kernel
  exact ⟨passive, by decide +kernel, by decide +kernel,
    (loss_bounded Deployment.sample approvedSetup spendingRun 1 passive).2.2.2.1⟩

end Holonus.Coin
