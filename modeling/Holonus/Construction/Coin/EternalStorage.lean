/-
This file models the shared key-value storage of the coin contracts.
-/

import Holonus.Machine.CheckedWord

namespace Holonus.Coin

open Holonus.Machine

/-- An account address has 160 bits. -/
abbrev Address := Fin (2 ^ 160)

instance neZero_addresses : NeZero (2 ^ 160) := ⟨by decide⟩

abbrev Uint256 := Word 256

abbrev Uint8 := Word 8

/-- Each storage record has its own `libConst` key. -/
inductive Record where
  | totalSupply
  | tocken
  | reflectTocken
  | allowed
  | reliability
  | evaAccount
  | evaAccountCnt
  | accountEvaList
  | adjustParameter
  | accumulationPoint
  deriving DecidableEq, Repr

/-- The contracts hash these texts to obtain the record keys. -/
def Record.text : Record → String
  | .totalSupply => "HOLONUS_TotalSupply"
  | .tocken => "HOLONUS_Balances"
  | .reflectTocken => "HOLONUS_ReflectTocken"
  | .allowed => "HOLONUS_Allowed"
  | .reliability => "HOLONUS_Reliability"
  | .evaAccount => "HOLONUS_EvaAccount"
  | .evaAccountCnt => "HOLONUS_EvaAccountCnt"
  | .accountEvaList => "HOLONUS_AccountEvaList"
  | .adjustParameter => "HOLONUS_AdjustParameter"
  | .accumulationPoint => "HOLONUS_AccumulationPoint"

/-- Distinct records hash distinct texts. -/
theorem Record.text_injective : Function.Injective Record.text := by
  intro first second equal
  cases first <;> cases second <;> simp_all [Record.text]

/-- A user record stores one evaluation. -/
@[ext] structure UserInfo where
  sender : Address
  intValue : Int
  uintValue : Uint256
  deriving DecidableEq, Repr

/-- The storage contract keeps the mappings that the coin contracts use. -/
structure EternalStorage where
  owner : Address
  allowAccount : Address → Bool
  addrGrpUIntStorage : Record → Address → Address → Uint256
  addrGrpUserInfoStorage : Record → Address → Address → UserInfo
  addrUIntStorage : Record → Address → Uint256
  uIntStorage : Record → Uint256

namespace EternalStorage

def putAddrGrpUInt (storage : EternalStorage) (record : Record) (owner spender : Address)
    (value : Uint256) : EternalStorage :=
  { storage with
    addrGrpUIntStorage := Function.update storage.addrGrpUIntStorage record
      (Function.update (storage.addrGrpUIntStorage record) owner
        (Function.update (storage.addrGrpUIntStorage record owner) spender value)) }

def putAddrGrpUserInfo (storage : EternalStorage) (record : Record) (owner spender : Address)
    (info : UserInfo) : EternalStorage :=
  { storage with
    addrGrpUserInfoStorage := Function.update storage.addrGrpUserInfoStorage record
      (Function.update (storage.addrGrpUserInfoStorage record) owner
        (Function.update (storage.addrGrpUserInfoStorage record owner) spender info)) }

def putAddrUInt (storage : EternalStorage) (record : Record) (owner : Address) (value : Uint256) :
    EternalStorage :=
  { storage with
    addrUIntStorage := Function.update storage.addrUIntStorage record
      (Function.update (storage.addrUIntStorage record) owner value) }

def putUInt (storage : EternalStorage) (record : Record) (value : Uint256) : EternalStorage :=
  { storage with uIntStorage := Function.update storage.uIntStorage record value }

/-- The modifier stops every caller outside the allow list. -/
def isAllow (storage : EternalStorage) (user : Address) : Except Fault Unit :=
  require (storage.allowAccount user = true)

def getAddrGrpUIntValue (storage : EternalStorage) (msgSender : Address) (record : Record)
    (owner spender : Address) : Except Fault Uint256 := do
  storage.isAllow msgSender
  return storage.addrGrpUIntStorage record owner spender

def setAddrGrpUIntValue (storage : EternalStorage) (msgSender : Address) (record : Record)
    (owner spender : Address) (value : Uint256) : Except Fault EternalStorage := do
  storage.isAllow msgSender
  return storage.putAddrGrpUInt record owner spender value

def getAddrUserInfo (storage : EternalStorage) (msgSender : Address) (record : Record)
    (owner spender : Address) : Except Fault UserInfo := do
  storage.isAllow msgSender
  return storage.addrGrpUserInfoStorage record owner spender

def setAddrUserInfo (storage : EternalStorage) (msgSender : Address) (record : Record)
    (owner spender : Address) (intVal : Int) (uintVal : Uint256) :
    Except Fault EternalStorage := do
  storage.isAllow msgSender
  return storage.putAddrGrpUserInfo record owner spender ⟨spender, intVal, uintVal⟩

def getAddrUIntValue (storage : EternalStorage) (msgSender : Address) (record : Record)
    (owner : Address) : Except Fault Uint256 := do
  storage.isAllow msgSender
  return storage.addrUIntStorage record owner

def setAddrUIntValue (storage : EternalStorage) (msgSender : Address) (record : Record)
    (owner : Address) (value : Uint256) : Except Fault EternalStorage := do
  storage.isAllow msgSender
  return storage.putAddrUInt record owner value

def getUIntValue (storage : EternalStorage) (msgSender : Address) (record : Record) :
    Except Fault Uint256 := do
  storage.isAllow msgSender
  return storage.uIntStorage record

def setUIntValue (storage : EternalStorage) (msgSender : Address) (record : Record)
    (value : Uint256) : Except Fault EternalStorage := do
  storage.isAllow msgSender
  return storage.putUInt record value

end EternalStorage

end Holonus.Coin
