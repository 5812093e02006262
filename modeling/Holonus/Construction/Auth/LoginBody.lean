/-
This file models the body of a login request before its fields are known to be texts.
-/

import Holonus.Construction.Auth.Sessions

namespace Holonus.Auth

/-- A parsed body has values of any type. -/
inductive Json where
  | null
  | bool (value : Bool)
  | number (mantissa exponent : Int)
  | string (value : String)
  | array (values : List Json)
  | object (fields : List (String × Json))

structure LoginBody where
  loginId : Option Json
  password : Option Json

/-- The validator sees a stringified view of a field and accepts it when that view is not empty. -/
structure Validator where
  notEmpty : Option Json → Bool
  notEmpty_missing : notEmpty none = false
  notEmpty_string : ∀ value, notEmpty (some (.string value)) = decide (value ≠ "")

/-- The query uses the raw value of an accepted field. -/
def LoginBody.loginField (validator : Validator) (body : LoginBody) : LoginId Json :=
  match body.loginId with
  | none => .missing
  | some (.string value) => .text value
  | some other => if validator.notEmpty (some other) then .query other else .missing

/-- The hash function uses the raw value of an accepted field. -/
def LoginBody.passwordField (validator : Validator) (body : LoginBody) : Password :=
  match body.password with
  | none => .missing
  | some (.string value) => .text value
  | some other => if validator.notEmpty (some other) then .other else .missing

def LoginBody.data (validator : Validator) (body : LoginBody) : LoginData Json :=
  ⟨body.loginField validator, body.passwordField validator⟩

/-- The schema declares the user identifier as unique. -/
structure UsersCollection where
  rows : List Account
  unique : (rows.map Account.userId).Nodup

def UsersCollection.world (users : UsersCollection) (clock : Nat) (records : List Record) : World :=
  ⟨users.rows, clock, records⟩

/-- An operator of a query compares the stored text with its operand. -/
def Json.operatorHolds (stored : String) : String × Json → Bool
  | ("$eq", .string value) => stored = value
  | ("$ne", .string value) => stored ≠ value
  | ("$ne", .null) => true
  | ("$exists", .bool value) => value
  | _ => false

/-- An object with operators selects the texts that meet all of them. -/
def Json.selects : Option Json → String → Bool
  | some (.object fields), stored => fields.all (operatorHolds stored)
  | _, _ => false

end Holonus.Auth
