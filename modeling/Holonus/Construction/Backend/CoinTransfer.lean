/-
This file models the coin transfer of the backend.
It sends two transactions, and each of them stays in force when a later step throws.
-/

import Holonus.Construction.Backend.Failure
import Holonus.Construction.Coin.Calls

namespace Holonus.Backend

open Holonus.Machine Holonus.Coin

/-- The coin transfer awaits these steps of the node. -/
inductive TransferStep where
  | getAccounts
  | unlockAccount
  | estimateApprove
  | sendApprove
  | estimateTransfer
  | sendTransfer
  deriving DecidableEq, Repr

/-- The configuration may name an account, and the node may fail at any awaited step. -/
structure Node where
  account : Option Address
  accounts : List Address
  fails : TransferStep → Bool

/-- The transfer changes the coin contracts and may throw. -/
abbrev CoinM := EStateM Failure System

def awaitStep (node : Node) (step : TransferStep) : CoinM Unit :=
  if node.fails step then throw (.other false) else return

def getManageAccount (node : Node) : CoinM (Option Address) :=
  match node.account with
  | some account => return some account
  | none => do
      awaitStep node .getAccounts
      return node.accounts.head?

/-- A value of the source is a plain truth value or a promise. -/
inductive CallResult where
  | flag (value : Bool)
  | promise
  deriving DecidableEq, Repr

/-- A promise never equals `false`. -/
def CallResult.equalsFalse : CallResult → Bool
  | .flag value => !value
  | .promise => false

/-- The source compares the promise of `isEnabled`, and neither contract has the one-argument
`enableAllowAccount` of the branch. -/
def allowExecution : CoinM Unit :=
  let ret := CallResult.promise
  if ret.equalsFalse then throw (.other false) else return

/-- The node runs a call on the current contracts and throws if the call reverts. -/
def callNode (transaction : Transaction) : CoinM System := fun system =>
  match execute system transaction with
  | .ok next => .ok next system
  | .error _ => .error (.other false) system

/-- The estimate runs the call and drops its effect. -/
def estimateGas (node : Node) (step : TransferStep) (transaction : Transaction) : CoinM Unit := do
  awaitStep node step
  let _ ← callNode transaction

/-- A sent transaction takes effect or throws. -/
def send (node : Node) (step : TransferStep) (transaction : Transaction) : CoinM Unit := do
  awaitStep node step
  set (← callNode transaction)

/-- This is the body of the `try` block. -/
def transferBody (node : Node) (source target : Address) (amount : Uint256) : CoinM Unit := do
  let manageAddress ← getManageAccount node
  if manageAddress = none then throw (.other false)
  allowExecution
  awaitStep node .unlockAccount
  estimateGas node .estimateApprove ⟨source, .approve target amount⟩
  send node .sendApprove ⟨source, .approve target amount⟩
  estimateGas node .estimateTransfer ⟨source, .transfer target amount⟩
  send node .sendTransfer ⟨source, .transfer target amount⟩

def transferReal (node : Node) (source target : Address) (amount : Uint256) : CoinM Unit :=
  tryCatch (transferBody node source target amount) fun err =>
    throw (err.orElse Messages.coinTransferError)

end Holonus.Backend
