/-
This file gives one platform that meets the documented laws, for concrete runs.
-/

import Holonus.Construction.Backend.Requests

namespace Holonus.Backend

open Holonus.Machine Holonus.Coin

/-- Plain identifiers are texts with at least one character. -/
def PlainId := { text : String // text ≠ "" }
  deriving DecidableEq

def plainAddress (data : Bytes) : String :=
  String.ofList (data.map fun byte => Char.ofNat byte.toNat)

theorem toNat_charOfByte (byte : UInt8) : (Char.ofNat byte.toNat).toNat = byte.toNat := by
  have small : byte.toNat < 256 := byte.toNat_lt
  have valid : byte.toNat.isValidChar := by
    left
    omega
  rw [Char.ofNat, dif_pos valid]
  rfl

/-- Different contents have different addresses. -/
theorem plainAddress_injective : Function.Injective plainAddress := by
  intro left right same
  have chars := String.ofList_injective same
  apply List.map_injective_iff.mpr _ chars
  intro first second equal
  have codes := congrArg Char.toNat equal
  simp only [toNat_charOfByte] at codes
  exact UInt8.toNat_inj.mp codes

/-- A plain key is one byte, and a ciphertext starts with its key. -/
def plain : Platform PlainId UInt8 where
  idText id := id.val
  castId text := if nonempty : text ≠ "" then some ⟨text, nonempty⟩ else none
  castId_idText id := dif_pos id.property
  idText_ne_empty id := id.property
  importPem pem := some (UInt8.ofNat pem.length)
  exportDer key := [key]
  importDer bytes := bytes.head?
  importDer_exportDer _ := rfl
  encrypt key data := key :: data
  address := plainAddress
  address_injective := plainAddress_injective
  manageAddress := 1
  callAddress := 1

/-- The deployer and the service may write to the storages. -/
def plainChain : File.System where
  fileStorage := ⟨⟨1, fun account => decide (account = 1 ∨ account = 2), false⟩,
    fun _ => File.StoredText.empty⟩
  keyStorage := ⟨⟨1, fun account => decide (account = 1 ∨ account = 2), false⟩,
    fun _ => File.StoredText.empty⟩
  service := File.Guard.deployed 1
  address := 2

/-- One user is registered. -/
def plainStore : Store PlainId where
  database := ⟨[⟨"u", false, none⟩], [], []⟩
  log := []
  drawn := []
  ipfs := []
  chain := plainChain

/-- The task proceeds this often. -/
def proceeds (index count : Nat) : List (Move (Choice PlainId UInt8) (Request PlainId)) :=
  List.replicate count (.step index .proceed)

def plainKey : PlainId := ⟨"k", by decide⟩

def plainFile : PlainId := ⟨"f", by decide⟩

/-- The user registers a key. -/
def postedKey : List (Move (Choice PlainId UInt8) (Request PlainId)) :=
  [.start 0 ⟨0, .postKey "u" (some "pem")⟩] ++ proceeds 0 3 ++ [.step 0 (.draw plainKey)] ++
    proceeds 0 5

/-- The user stores a file under the registered key. -/
def postedFile : List (Move (Choice PlainId UInt8) (Request PlainId)) :=
  postedKey ++ [.start 1 ⟨0, .postFile "u" (.text "k") "name" "mime" [7]⟩] ++ proceeds 1 10 ++
    [.step 1 (.draw plainFile)] ++ proceeds 1 4

end Holonus.Backend
