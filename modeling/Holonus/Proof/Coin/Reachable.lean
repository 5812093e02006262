/-
This file proves that every state after the deployment is represented and readable.
-/

import Holonus.Proof.Coin.Refinement

namespace Holonus.Coin

open Holonus.Machine Holonus.Abstract

/-- The storages allow the contracts that call them. -/
structure System.Wired (system : System) : Prop where
  token : system.eternalStorage.allowAccount system.token.address = true
  service : system.eternalStorage.allowAccount system.service.address = true
  manage : system.manageStorage.allowAccount system.service.address = true

/-- The view functions of both contracts return the ledger. -/
structure System.ShowsLedger (system : System) : Prop where
  totalSupply : (TokenERC20.totalSupply system).map Word.toNat = .ok system.ledger.supply
  balanceOf : ∀ account,
    (TokenERC20.balanceOf system account).map Word.toNat = .ok (system.ledger.balance account)
  allowance : ∀ owner spender,
    (TokenERC20.allowance system owner spender).map Word.toNat =
      .ok (system.ledger.allowance owner spender)
  getReflectToken : ∀ account,
    (HolonusCoinService.getReflectToken system account).map Word.toNat =
      .ok (system.ledger.reflected account)
  getTotalPoint : ∀ account,
    (HolonusCoinService.getTotalPoint system account).map Word.toNat =
      .ok (system.ledger.points account)

/-- The view functions of the service return the graph. -/
structure System.ShowsGraph (system : System) : Prop where
  getFullReliability : ∀ account,
    (HolonusCoinService.getFullReliability system account).map Word.toNat =
      .ok (system.graph.reliability account)
  getEvaAccountCnt : ∀ account,
    (HolonusCoinService.getEvaAccountCnt system account).map Word.toNat =
      .ok (system.graph.evaluators account).length
  getTrustworthy : ∀ subject evaluator,
    (HolonusCoinService.getTrustworthy system evaluator subject).map
        (fun info => (info.intValue, info.uintValue.toNat)) =
      .ok (system.graph.trust subject evaluator, system.graph.contribution subject evaluator)

/-- A sound state can be read and represents a well-formed graph. -/
structure System.Sound (system : System) : Prop where
  represented : system.Represented
  wired : system.Wired

/-- Wired contracts show the ledger. -/
theorem System.Wired.showsLedger {system : System} (wired : system.Wired) : system.ShowsLedger where
  totalSupply := (map_eq_ok _ _ _).mpr
    ⟨_, (EternalStorage.getUIntValue_eq_ok _ _ _ _).mpr ⟨wired.token, rfl⟩, rfl⟩
  balanceOf _ := (map_eq_ok _ _ _).mpr
    ⟨_, (EternalStorage.getAddrUIntValue_eq_ok _ _ _ _ _).mpr ⟨wired.token, rfl⟩, rfl⟩
  allowance _ _ := (map_eq_ok _ _ _).mpr
    ⟨_, (EternalStorage.getAddrGrpUIntValue_eq_ok _ _ _ _ _ _).mpr ⟨wired.token, rfl⟩, rfl⟩
  getReflectToken _ := (map_eq_ok _ _ _).mpr
    ⟨_, (EternalStorage.getAddrUIntValue_eq_ok _ _ _ _ _).mpr ⟨wired.service, rfl⟩, rfl⟩
  getTotalPoint _ := (map_eq_ok _ _ _).mpr
    ⟨_, (EternalStorage.getAddrUIntValue_eq_ok _ _ _ _ _).mpr ⟨wired.service, rfl⟩, rfl⟩

/-- Wired contracts show the graph. -/
theorem System.Wired.showsGraph {system : System} (wired : system.Wired) : system.ShowsGraph where
  getFullReliability _ := (map_eq_ok _ _ _).mpr
    ⟨_, (EternalStorage.getAddrUIntValue_eq_ok _ _ _ _ _).mpr ⟨wired.service, rfl⟩, rfl⟩
  getEvaAccountCnt _ := (map_eq_ok _ _ _).mpr
    ⟨_, (ManageStorage.getAccountCount_eq_ok _ _ _ _ _).mpr ⟨wired.manage, rfl⟩,
      (slots_length _ _).symm⟩
  getTrustworthy _ _ := (map_eq_ok _ _ _).mpr
    ⟨_, (EternalStorage.getAddrUserInfo_eq_ok _ _ _ _ _ _).mpr ⟨wired.service, rfl⟩, rfl⟩

/-- Contracts with the same wiring are wired together. -/
theorem System.SameWiring.wired {system next : System} (same : system.SameWiring next)
    (wired : system.Wired) : next.Wired where
  token := by
    rw [same.allowed, same.token]
    exact wired.token
  service := by
    rw [same.allowed, same.service]
    exact wired.service
  manage := by
    rw [same.manageAllowed, same.service]
    exact wired.manage

/-- Every transaction keeps the contracts sound. -/
theorem execute_sound {system next : System} {transaction : Transaction} (sound : system.Sound)
    (executed : execute system transaction = .ok next) : next.Sound := by
  have refines := execute_refines sound.represented executed
  exact ⟨refines.represented, refines.wiring.wired sound.wired⟩

/-- An argument over refined calls holds for every run from a sound state. -/
theorem run_refines (Relates : List (System × Transaction) → System → Prop) {system : System}
    (sound : system.Sound) (start : Relates [] system)
    (advance : ∀ past current transaction next, current.Sound → Relates past current →
      execute current transaction = .ok next → current.Refines transaction next →
      Relates (past ++ [(current, transaction)]) next)
    (transactions : List Transaction) :
    Relates (history execute system transactions) (run execute system transactions) ∧
      (run execute system transactions).Sound := by
  refine run_history (fun past current => Relates past current ∧ current.Sound) ⟨start, sound⟩ ?_
    transactions
  intro past current transaction next earlier executed
  exact ⟨advance past current transaction next earlier.2 earlier.1 executed
    (execute_refines earlier.2.represented executed), execute_sound earlier.2 executed⟩

/-- A property that every admitted call keeps holds after every run of admitted calls. -/
theorem run_admitted (Admits : System × Transaction → Prop) (Holds : System → Prop)
    {system : System} (sound : system.Sound) {transactions : List Transaction}
    (start : Holds system)
    (advance : ∀ current transaction next, current.Sound → Admits (current, transaction) →
      Holds current → current.Refines transaction next → Holds next)
    (admitted : ∀ entry ∈ history execute system transactions, Admits entry) :
    Holds (run execute system transactions) := by
  have kept := run_invariant Admits (fun current => Holds current ∧ current.Sound)
    ⟨start, sound⟩ ?_ admitted
  · exact kept.1
  · intro current transaction next admits holds executed
    have refines := execute_refines holds.2.represented executed
    exact ⟨advance current transaction next holds.2 admits holds.1 refines,
      execute_sound holds.2 executed⟩

/-- Every run keeps the contracts sound. -/
theorem run_sound {system : System} (sound : system.Sound) (transactions : List Transaction) :
    (run execute system transactions).Sound := by
  apply run_invariant (fun _ => True) System.Sound sound _ fun _ _ => trivial
  intro current transaction next _ reached executed
  exact execute_sound reached executed

namespace Deployment

/-- A deployed system executes its transactions in order. -/
def after (deployment : Deployment) (transactions : List Transaction) : System :=
  run execute deployment.system transactions

/-- The accepted transactions stand with the states that they started from. -/
def accepted (deployment : Deployment) (transactions : List Transaction) :
    List (System × Transaction) :=
  history execute deployment.system transactions

/-- A run continues from where its first part ended. -/
theorem after_append (deployment : Deployment) (first second : List Transaction) :
    deployment.after (first ++ second) = run execute (deployment.after first) second :=
  run_append deployment.system first second

theorem graph_evaluators (deployment : Deployment) (account : Address) :
    deployment.system.graph.evaluators account = [] := rfl

theorem graph_evaluatees (deployment : Deployment) (account : Address) :
    deployment.system.graph.evaluatees account = [] := rfl

/-- The empty storages represent the empty graph. -/
theorem represented (deployment : Deployment) : deployment.system.Represented where
  formed := {
    evaluator_iff := fun subject evaluator => by
      rw [deployment.graph_evaluators]
      exact ⟨fun member => absurd member List.not_mem_nil, fun stored => absurd rfl stored⟩
    evaluatee_iff := fun subject evaluator => by
      rw [deployment.graph_evaluatees]
      exact ⟨fun member => absurd member List.not_mem_nil, fun stored => absurd rfl stored⟩
    evaluators_distinct := fun _ => List.nodup_nil
    evaluatees_distinct := fun _ => List.nodup_nil
    trust_valid := fun _ _ stored => absurd rfl stored
    contribution_form := fun _ _ => ⟨0, Nat.zero_le 10, (weight_zero_level _).symm⟩ }
  named _ _ := rfl

/-- A deployment is wired. -/
theorem wired (deployment : Deployment) : deployment.system.Wired where
  token := by simp [Deployment.system]
  service := by simp [Deployment.system]
  manage := by simp [Deployment.system]

/-- A deployment is sound. -/
theorem sound (deployment : Deployment) : deployment.system.Sound :=
  ⟨deployment.represented, deployment.wired⟩

/-- The contracts are sound after every run from a deployment. -/
theorem after_sound (deployment : Deployment) (transactions : List Transaction) :
    (deployment.after transactions).Sound :=
  run_sound deployment.sound transactions

/-- Concrete runs use this deployment. -/
def sample : Deployment := ⟨1, 2, 3⟩

end Deployment

end Holonus.Coin
