/-
This file reads the abstract ledger and the abstract trust graph from the storages.
-/

import Holonus.Abstract.Evaluation
import Holonus.Abstract.Ledger
import Holonus.Construction.Coin.Calls
import Holonus.Proof.Coin.StorageLaw

namespace Holonus.Coin

open Holonus.Machine Holonus.Abstract

/-- Reading numbers commutes with writing a word. -/
theorem toNat_update (table : Address → Uint256) (account : Address) (value : Uint256) :
    (fun other => (Function.update table account value other).toNat) =
      Function.update (fun other => (table other).toNat) account value.toNat :=
  Function.comp_update Word.toNat table account value

/-- The ledger reads the five token records. -/
def EternalStorage.ledger (storage : EternalStorage) : Ledger Address where
  supply := (storage.uIntStorage .totalSupply).toNat
  balance account := (storage.addrUIntStorage .tocken account).toNat
  allowance owner spender := (storage.addrGrpUIntStorage .allowed owner spender).toNat
  reflected account := (storage.addrUIntStorage .reflectTocken account).toNat
  points account := (storage.addrUIntStorage .accumulationPoint account).toNat

/-- The graph reads the reliability records and both account lists. -/
def trustGraph (storage : EternalStorage) (manage : ManageStorage Record) : TrustGraph Address where
  reliability account := (storage.addrUIntStorage .reliability account).toNat
  trust subject evaluator := (storage.addrGrpUserInfoStorage .evaAccount subject evaluator).intValue
  contribution subject evaluator :=
    (storage.addrGrpUserInfoStorage .evaAccount subject evaluator).uintValue.toNat
  evaluators subject := manage.accounts .evaAccount subject
  evaluatees evaluator := manage.accounts .accountEvaList evaluator

def System.ledger (system : System) : Ledger Address := system.eternalStorage.ledger

def System.graph (system : System) : TrustGraph Address :=
  trustGraph system.eternalStorage system.manageStorage

@[simp] theorem System.emit_eternalStorage (system : System) (event : Event) :
    (system.emit event).eternalStorage = system.eternalStorage := rfl

namespace EternalStorage

variable (storage : EternalStorage)

/-- Writing a token record sets the balance of the ledger. -/
theorem ledger_putTocken (account : Address) (value : Uint256) :
    (storage.putAddrUInt .tocken account value).ledger =
      { storage.ledger with
        balance := Function.update storage.ledger.balance account value.toNat } := by
  simp only [ledger, putAddrUInt_self, putAddrUInt_uIntStorage, putAddrUInt_addrGrpUIntStorage,
    toNat_update]
  rfl

/-- Writing a reflected record sets the reflected amount of the ledger. -/
theorem ledger_putReflectTocken (account : Address) (value : Uint256) :
    (storage.putAddrUInt .reflectTocken account value).ledger =
      { storage.ledger with
        reflected := Function.update storage.ledger.reflected account value.toNat } := by
  simp only [ledger, putAddrUInt_self, putAddrUInt_uIntStorage, putAddrUInt_addrGrpUIntStorage,
    toNat_update]
  rfl

/-- Writing a point record sets the points of the ledger. -/
theorem ledger_putAccumulationPoint (account : Address) (value : Uint256) :
    (storage.putAddrUInt .accumulationPoint account value).ledger =
      { storage.ledger with
        points := Function.update storage.ledger.points account value.toNat } := by
  simp only [ledger, putAddrUInt_self, putAddrUInt_uIntStorage, putAddrUInt_addrGrpUIntStorage,
    toNat_update]
  rfl

/-- Writing the total sets the supply of the ledger. -/
theorem ledger_putTotalSupply (value : Uint256) :
    (storage.putUInt .totalSupply value).ledger = { storage.ledger with supply := value.toNat } := by
  simp only [ledger, putUInt_self]
  rfl

/-- Writing an allowance record sets the allowance of the ledger. -/
theorem ledger_putAllowed (owner spender : Address) (value : Uint256) :
    (storage.putAddrGrpUInt .allowed owner spender value).ledger =
      { storage.ledger with
        allowance := writePair storage.ledger.allowance owner spender value.toNat } := by
  have entry : (storage.putAddrGrpUInt .allowed owner spender value).addrGrpUIntStorage .allowed =
      writePair (storage.addrGrpUIntStorage .allowed) owner spender value := by
    simp only [putAddrGrpUInt, Function.update_self, writePair]
  simp only [ledger, entry, map_writePair Word.toNat]
  rfl

end EternalStorage

section
variable (storage : EternalStorage) (manage : ManageStorage Record)

/-- Writing a reliability record sets the reliability of the graph. -/
theorem trustGraph_putReliability (account : Address) (value : Uint256) :
    trustGraph (storage.putAddrUInt .reliability account value) manage =
      { trustGraph storage manage with
        reliability := Function.update (trustGraph storage manage).reliability account
          value.toNat } := by
  simp only [trustGraph, EternalStorage.putAddrUInt_self,
    EternalStorage.putAddrUInt_addrGrpUserInfoStorage, toNat_update]

/-- Writing any other record of an account keeps the graph. -/
theorem trustGraph_putAddrUInt {record : Record} (different : record ≠ .reliability)
    (account : Address) (value : Uint256) :
    trustGraph (storage.putAddrUInt record account value) manage = trustGraph storage manage := by
  simp only [trustGraph, EternalStorage.putAddrUInt_of_ne _ _ _ _ (Ne.symm different),
    EternalStorage.putAddrUInt_addrGrpUserInfoStorage]

/-- Writing a total keeps the graph. -/
theorem trustGraph_putUInt (record : Record) (value : Uint256) :
    trustGraph (storage.putUInt record value) manage = trustGraph storage manage := rfl

/-- The user record of an evaluation reads back as one written pair. -/
theorem putAddrGrpUserInfo_apply (subject evaluator : Address) (info : UserInfo) :
    (storage.putAddrGrpUserInfo .evaAccount subject evaluator info).addrGrpUserInfoStorage
      .evaAccount = writePair (storage.addrGrpUserInfoStorage .evaAccount) subject evaluator info := by
  simp only [EternalStorage.putAddrGrpUserInfo, Function.update_self, writePair]

end

end Holonus.Coin
