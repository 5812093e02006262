/-
This file proves whom a login authenticates when its body has values of any type.
-/

import Holonus.Construction.Auth.LoginBody
import Holonus.Proof.Auth.SessionLaw
import Holonus.Proof.Backend.Alone

namespace Holonus.Auth

open Holonus.Machine Holonus.Machine.Program Holonus.Backend

section
variable {Selector : Type} {platform : TokenPlatform Selector} {world next : World}

/-- An operation replies after some time has passed. -/
theorem yields_op {op : Op Selector} {reply : Reply op} :
    Yields (World.perform platform 0) (call op) world reply next ↔
      ∃ elapsed, World.respond platform { world with clock := world.clock + elapsed } op =
        (reply, next) := by
  rw [call, yields_call]
  constructor
  · rintro ⟨choice, performed⟩
    cases choice with
    | proceed elapsed =>
        simp only [World.perform, Option.some.injEq, Prod.mk.injEq, Except.ok.injEq] at performed
        exact ⟨elapsed, Prod.ext performed.1 performed.2⟩
    | fail failure elapsed =>
        simp only [World.perform] at performed
        split at performed
        · cases performed
        · cases performed
  · rintro ⟨elapsed, responded⟩
    refine ⟨.proceed elapsed, ?_⟩
    simp only [World.perform, responded]

/-- The accounts that a login finds with its identifier and the hash of its password. -/
def LoginId.finds (platform : TokenPlatform Selector) (loginId : LoginId Selector)
    (password : String) (account : Account) : Bool :=
  loginId.selects platform account.userId ∧ account.password = password

/-- A search by login yields the first account that it finds. -/
theorem yields_findByLogin {loginId : LoginId Selector} {password : String} {found : Option Account} :
    Yields (World.perform platform 0) (UsersModel.findByLogin loginId password) world found next ↔
      world.accounts.find? (loginId.finds platform password) = found ∧
        ∃ elapsed, { world with clock := world.clock + elapsed } = next := by
  apply yields_guarded.trans
  apply yields_op.trans
  constructor
  · rintro ⟨elapsed, responded⟩
    obtain ⟨same, kept⟩ := Prod.mk.inj responded
    exact ⟨same, elapsed, kept⟩
  · rintro ⟨same, elapsed, kept⟩
    exact ⟨elapsed, Prod.ext same kept⟩

/-- Making a token yields the signature of the user at the current time. -/
theorem yields_makeNewAccessToken {userId accessToken : String} :
    Yields (World.perform platform 0) (makeNewAccessToken platform userId) world accessToken next ↔
      ∃ elapsed, platform.sign userId (world.clock + elapsed) = accessToken ∧
        { world with clock := world.clock + elapsed } = next := by
  apply yields_bind.trans
  constructor
  · rintro ⟨time, middle, reads, signs⟩
    obtain ⟨elapsed, responded⟩ := yields_op.mp reads
    obtain ⟨isTime, isMiddle⟩ := Prod.mk.inj responded
    obtain ⟨isToken, isNext⟩ := yields_pure.mp signs
    refine ⟨elapsed, ?_, isMiddle.trans isNext.symm⟩
    rw [← isToken, ← isTime]
  · rintro ⟨elapsed, signs, kept⟩
    exact ⟨_, _, yields_op.mpr ⟨elapsed, rfl⟩, yields_pure.mpr ⟨signs, kept.symm⟩⟩

/-- The rows of the user get the token. -/
def World.issue (world : World) (userId accessToken : String) (clock : Nat) : World :=
  ⟨world.accounts.map (Account.store userId accessToken), clock,
    .issued userId accessToken :: world.records⟩

/-- The new token is signed for the user of the account and stored in the rows of this user. -/
theorem yields_updateAccessToken {account : Account} {accessToken : String} :
    Yields (World.perform platform 0) (AuthCore.updateAccessToken platform account) world accessToken
        next ↔
      ∃ waited elapsed, platform.sign account.userId (world.clock + waited) = accessToken ∧
        world.issue account.userId accessToken (world.clock + waited + elapsed) = next := by
  apply yields_bind.trans
  constructor
  · rintro ⟨signed, read, signs, rest⟩
    obtain ⟨waited, isSigned, isRead⟩ := yields_makeNewAccessToken.mp signs
    obtain ⟨stored, written, stores, rest⟩ := yields_bind.mp rest
    obtain ⟨elapsed, responded⟩ := yields_op.mp (yields_guarded.mp stores)
    obtain ⟨-, isWritten⟩ := Prod.mk.inj responded
    obtain ⟨_, passed, checks, returns⟩ := yields_bind.mp rest
    obtain ⟨-, isPassed⟩ := yields_failIf.mp checks
    obtain ⟨isToken, isNext⟩ := yields_pure.mp returns
    refine ⟨waited, elapsed, isSigned.trans isToken, ?_⟩
    rw [isNext, isPassed, ← isWritten, ← isRead, ← isToken]
    rfl
  · rintro ⟨waited, elapsed, isSigned, isNext⟩
    refine ⟨accessToken, _, yields_makeNewAccessToken.mpr ⟨waited, isSigned, rfl⟩, ?_⟩
    refine yields_bind.mpr ⟨true, _, yields_guarded.mpr (yields_op.mpr ⟨elapsed, rfl⟩), ?_⟩
    exact yields_bind.mpr ⟨(), _, yields_failIf.mpr ⟨rfl, rfl⟩, yields_pure.mpr ⟨rfl, isNext.symm⟩⟩

/-- A login returns a token of the first account that it finds. -/
theorem yields_login {loginId : LoginId Selector} {password : Password} {response : Response} :
    Yields (World.perform platform 0) (AuthCore.login platform ⟨loginId, password⟩) world response
        next ↔
      ∃ value account time clock, password = .text value ∧
        world.accounts.find? (loginId.finds platform (platform.hash value)) = some account ∧
        world.clock ≤ time ∧ time ≤ clock ∧
        world.issue account.userId (platform.sign account.userId time) clock = next ∧
        .login account.userId ("Bearer" ++ " " ++ platform.sign account.userId time)
          (platform.formatDateTime ((time / 1000 + 86400) * 1000)) = response := by
  apply yields_bind.trans
  constructor
  · rintro ⟨hashed, start, hashes, rest⟩
    obtain ⟨value, isText⟩ : ∃ value, password = .text value := by
      cases password with
      | text value => exact ⟨value, rfl⟩
      | missing => exact absurd hashes not_yields_throw
      | other => exact absurd hashes not_yields_throw
    rw [isText] at hashes
    obtain ⟨isHash, isStart⟩ := yields_pure.mp hashes
    obtain ⟨found, later, finds, rest⟩ := yields_bind.mp rest
    obtain ⟨isFound, passed, isLater⟩ := yields_findByLogin.mp finds
    cases found with
    | none => exact absurd rest not_yields_throw
    | some account =>
        obtain ⟨accessToken, issued, updates, rest⟩ := yields_bind.mp rest
        obtain ⟨waited, elapsed, isSigned, isIssued⟩ := yields_updateAccessToken.mp updates
        obtain ⟨decoded, last, decodes, returns⟩ := yields_bind.mp rest
        obtain ⟨isDecoded, isLast⟩ := yields_present.mp decodes
        obtain ⟨isResponse, isNext⟩ := yields_pure.mp returns
        rw [← isSigned, platform.decode_sign, Decoded.found, Option.some.injEq] at isDecoded
        subst isHash isStart isLater isSigned isIssued isLast isNext isDecoded
        have started : start.clock ≤ start.clock + passed + waited := by omega
        exact ⟨value, account, _, _, isText, isFound, started, Nat.le_add_right _ _, rfl, isResponse⟩
  · rintro ⟨value, account, time, clock, isText, isFound, started, ended, isNext, isResponse⟩
    obtain ⟨waited, isTime⟩ := Nat.exists_eq_add_of_le started
    obtain ⟨elapsed, isClock⟩ := Nat.exists_eq_add_of_le ended
    subst isText isTime isClock
    refine ⟨platform.hash value, world, yields_pure.mpr ⟨rfl, rfl⟩, ?_⟩
    refine yields_bind.mpr ⟨some account, world, yields_findByLogin.mpr ⟨isFound, 0, rfl⟩, ?_⟩
    refine yields_bind.mpr ⟨_, _, yields_updateAccessToken.mpr ⟨waited, elapsed, rfl, isNext⟩, ?_⟩
    refine yields_bind.mpr ⟨_, _, yields_present.mpr ⟨congrArg Decoded.found (platform.decode_sign _ _), rfl⟩, ?_⟩
    exact yields_pure.mpr ⟨isResponse, rfl⟩

end

/-- The body passes both validators. -/
def LoginBody.Accepted (validator : Validator) (body : LoginBody) : Prop :=
  validator.notEmpty body.loginId = true ∧ validator.notEmpty body.password = true

section
variable {validator : Validator} {body : LoginBody}

/-- The login is a text exactly when a string was sent. -/
theorem loginField_text {value : String} :
    body.loginField validator = .text value ↔ body.loginId = some (.string value) := by
  unfold LoginBody.loginField
  split
  · simp_all
  · simp_all
  · split <;> simp_all

/-- An accepted login that is no string is a query. -/
theorem loginField_query {value : Json} (accepted : body.Accepted validator)
    (present : body.loginId = some value) (other : ∀ text, value ≠ .string text) :
    body.loginField validator = .query value := by
  have nonempty := accepted.1
  rw [present] at nonempty
  unfold LoginBody.loginField
  rw [present]
  cases value with
  | string text => exact absurd rfl (other text)
  | _ => exact if_pos nonempty

/-- A query is a login that is no string. -/
theorem loginId_of_query {value : Json} (field : body.loginField validator = .query value) :
    body.loginId = some value ∧ ∀ text, value ≠ .string text := by
  unfold LoginBody.loginField at field
  split at field
  · cases field
  · cases field
  · rename_i other isNoString isOther
    split at field
    · cases field
      exact ⟨isOther, fun text same => isNoString text same⟩
    · cases field

/-- The password is a text exactly when a string was sent. -/
theorem passwordField_text {value : String} :
    body.passwordField validator = .text value ↔ body.password = some (.string value) := by
  unfold LoginBody.passwordField
  split
  · simp_all
  · simp_all
  · split <;> simp_all

/-- The login is refused exactly when the validator finds it empty. -/
theorem loginField_refused :
    body.loginField validator = .missing ∨ body.loginField validator = .text "" ↔
      validator.notEmpty body.loginId = false := by
  unfold LoginBody.loginField
  split
  · rename_i absent
    simp [absent, validator.notEmpty_missing]
  · rename_i value isString
    simp [isString, validator.notEmpty_string]
  · rename_i other _ isOther
    rw [isOther]
    cases validator.notEmpty (some other) <;> simp

/-- The password is refused exactly when the validator finds it empty. -/
theorem passwordField_refused :
    body.passwordField validator = .missing ∨ body.passwordField validator = .text "" ↔
      validator.notEmpty body.password = false := by
  unfold LoginBody.passwordField
  split
  · rename_i absent
    simp [absent, validator.notEmpty_missing]
  · rename_i value isString
    simp [isString, validator.notEmpty_string]
  · rename_i other _ isOther
    rw [isOther]
    cases validator.notEmpty (some other) <;> simp

/-- The check passes exactly when neither the login nor the password is refused. -/
theorem checkInputValue_eq_ok {Selector : Type} {data : LoginData Selector} :
    AuthProcess.checkInputValue data = .ok () ↔
      ¬ (data.loginId = .missing ∨ data.loginId = .text "") ∧
        ¬ (data.password = .missing ∨ data.password = .text "") := by
  obtain ⟨loginId, password⟩ := data
  unfold AuthProcess.checkInputValue
  split <;> simp_all

/-- The validators of the process layer accept exactly these bodies. -/
theorem accepted_iff_checked :
    AuthProcess.checkInputValue (body.data validator) = .ok () ↔ body.Accepted validator := by
  rw [checkInputValue_eq_ok]
  show ¬ (body.loginField validator = .missing ∨ body.loginField validator = .text "") ∧
    ¬ (body.passwordField validator = .missing ∨ body.passwordField validator = .text "") ↔ _
  rw [loginField_refused, passwordField_refused, Bool.not_eq_false, Bool.not_eq_false]
  rfl

/-- The unique row of the user gets the token and every other row is kept. -/
theorem UsersCollection.store_row (users : UsersCollection) {account : Account}
    (member : account ∈ users.rows) (accessToken : String) :
    users.rows.map (Account.store account.userId accessToken) = users.rows.map fun row =>
      if row = account then { row with accessToken := accessToken } else row := by
  apply List.map_congr_left
  intro row listed
  have same : row.userId = account.userId ↔ row = account :=
    ⟨fun equal => List.inj_on_of_nodup_map users.unique listed member equal, congrArg Account.userId⟩
  simp only [Account.store, same]

end

/-- The response and the stored token are those of the user whom the body names. -/
def Authentic (platform : TokenPlatform Json) (users : UsersCollection) (body : LoginBody)
    (response : Response) (next : World) : Prop :=
  ∃ loginId password account accessToken accessExpire,
    body.loginId = some (.string loginId) ∧ body.password = some (.string password) ∧
      account ∈ users.rows ∧ account.userId = loginId ∧
      account.password = platform.hash password ∧
      response = .login loginId ("Bearer" ++ " " ++ accessToken) accessExpire ∧
      next.accounts = users.rows.map fun row =>
        if row = account then { row with accessToken := accessToken } else row

/-- The body names no user and still selects a row that has the password. -/
def LoginBody.Injects (platform : TokenPlatform Json) (users : UsersCollection) (body : LoginBody) :
    Prop :=
  ∃ password, body.password = some (.string password) ∧
    (∀ loginId, body.loginId ≠ some (.string loginId)) ∧
    ∃ account ∈ users.rows, platform.selects body.loginId account.userId = true ∧
      account.password = platform.hash password

section
variable {platform : TokenPlatform Json} {validator : Validator} {users : UsersCollection}
  {clock : Nat} {records : List Record} {body : LoginBody}

/-- A query that selects an account with the password logs in. -/
theorem LoginBody.Injects.yields (injects : body.Injects platform users)
    (valid : body.Accepted validator) :
    ∃ response next, Yields (World.perform platform 0)
      (AuthCore.login platform (body.data validator)) (users.world clock records) response next := by
  obtain ⟨password, isPassword, unnamed, account, member, selected, matched⟩ := injects
  obtain ⟨query, isQuery⟩ : ∃ query, body.loginId = some query := by
    apply Option.ne_none_iff_exists'.mp
    intro absent
    have nonempty := valid.1
    rw [absent, validator.notEmpty_missing] at nonempty
    cases nonempty
  have unnamedQuery (text : String) : query ≠ .string text := by
    intro same
    rw [same] at isQuery
    exact unnamed text isQuery
  have finds : LoginId.finds platform (.query query) (platform.hash password) account = true := by
    rw [isQuery] at selected
    simp [LoginId.finds, LoginId.selects, selected, matched]
  obtain ⟨first, found⟩ :=
    Option.isSome_iff_exists.mp (List.find?_isSome.mpr ⟨account, member, finds⟩)
  rw [← loginField_query valid isQuery unnamedQuery] at found
  exact ⟨_, _, yields_login.mpr ⟨password, first, clock, clock, passwordField_text.mpr isPassword,
    found, le_rfl, le_rfl, rfl, rfl⟩⟩

/-- A login that succeeds names its user or injects a query. -/
theorem authentic_or_injects (valid : body.Accepted validator) {response : Response} {next : World}
    (yields : Yields (World.perform platform 0) (AuthCore.login platform (body.data validator))
      (users.world clock records) response next) :
    Authentic platform users body response next ∨ body.Injects platform users := by
  obtain ⟨password, account, time, last, isPassword, found, -, -, isNext, isResponse⟩ :=
    yields_login.mp yields
  have given := passwordField_text.mp isPassword
  have member : account ∈ users.rows := List.mem_of_find?_eq_some found
  have finds := List.find?_some found
  simp only [LoginId.finds, Bool.decide_and, Bool.and_eq_true, decide_eq_true_eq] at finds
  obtain ⟨selected, matched⟩ := finds
  cases field : body.loginField validator with
  | missing => exact absurd (Or.inl field) (loginField_refused.not.mpr (by simp [valid.1]))
  | query query =>
      obtain ⟨isQuery, isNoString⟩ := loginId_of_query field
      rw [field] at selected
      refine Or.inr ⟨password, given, ?_, account, member, ?_, matched⟩
      · intro loginId same
        rw [isQuery, Option.some.injEq] at same
        exact isNoString loginId same
      · rw [isQuery]
        exact selected
  | text loginId =>
      rw [field] at selected
      have named : loginId = account.userId := of_decide_eq_true selected
      refine Or.inl ⟨loginId, password, account, platform.sign account.userId time,
        platform.formatDateTime ((time / 1000 + 86400) * 1000), loginField_text.mp field, given,
        member, named.symm, matched, ?_, ?_⟩
      · rw [← isResponse, named]
      · rw [← isNext]
        exact users.store_row member _

end

/-- An accepted login authenticates the user whom it names unless its identifier is a query that
selects an account with the password. -/
theorem login_authenticates_iff (platform : TokenPlatform Json) (validator : Validator)
    (users : UsersCollection) (clock : Nat) (records : List Record) (body : LoginBody)
    (accepted : AuthProcess.checkInputValue (body.data validator) = .ok ()) :
    (∀ response next, (AuthProcess.postLogin platform (body.data validator)).Yields
        (World.perform platform 0) (users.world clock records) response next →
          Authentic platform users body response next) ↔
      ¬ body.Injects platform users := by
  have passes : AuthProcess.postLogin platform (body.data validator) =
      AuthCore.login platform (body.data validator) := by
    rw [AuthProcess.postLogin, accepted]
    rfl
  have valid := accepted_iff_checked.mp accepted
  rw [passes]
  constructor
  · intro authentic injects
    obtain ⟨response, next, yields⟩ := injects.yields valid
    obtain ⟨loginId, _, _, _, _, named, _⟩ := authentic response next yields
    obtain ⟨_, _, unnamed, _⟩ := injects
    exact unnamed loginId named
  · intro safe response next yields
    exact (authentic_or_injects valid yields).resolve_right safe

/-- Query objects select the users of plain tokens. -/
def plainQueries : TokenPlatform Json where
  hash := plainTokens.hash
  sign := plainTokens.sign
  decode := plainTokens.decode
  decode_sign := plainTokens.decode_sign
  selects := Json.selects
  formatDateTime := plainTokens.formatDateTime

def plainValidator : Validator where
  notEmpty
    | none => false
    | some .null => false
    | some (.string value) => value ≠ ""
    | some _ => true
  notEmpty_missing := rfl
  notEmpty_string _ := rfl

def plainUsers : UsersCollection := ⟨[plainAccount], by decide⟩

/-- The user logs in with a name and a password. -/
theorem login_authenticates_named :
    ∃ response next, (AuthProcess.postLogin plainQueries
        (LoginBody.data plainValidator ⟨some (.string "u"), some (.string "p")⟩)).Yields
        (World.perform plainQueries 0) (plainUsers.world 0 []) response next ∧
      Authentic plainQueries plainUsers ⟨some (.string "u"), some (.string "p")⟩ response next := by
  have yields : (AuthProcess.postLogin plainQueries
      (LoginBody.data plainValidator ⟨some (.string "u"), some (.string "p")⟩)).Yields
      (World.perform plainQueries 0) (plainUsers.world 0 []) (.login "u" "Bearer 1.u" "")
      ((plainUsers.world 0 []).issue "u" "1.u" 1) :=
    ⟨[.proceed 0, .proceed 1, .proceed 0], rfl⟩
  refine ⟨_, _, yields, (login_authenticates_iff plainQueries plainValidator plainUsers 0 []
    ⟨some (.string "u"), some (.string "p")⟩ rfl).mpr ?_ _ _ yields⟩
  rintro ⟨_, _, unnamed, _⟩
  exact unnamed "u" rfl

/-- An identifier that only excludes the empty text logs in as the first user with the password. -/
theorem query_logs_in :
    ∃ body response next, AuthProcess.checkInputValue (LoginBody.data plainValidator body) = .ok () ∧
      (AuthProcess.postLogin plainQueries (body.data plainValidator)).Yields
        (World.perform plainQueries 0) (plainUsers.world 0 []) response next ∧
      ¬ Authentic plainQueries plainUsers body response next := by
  refine ⟨⟨some (.object [("$ne", .string "")]), some (.string "p")⟩, .login "u" "Bearer 1.u" "",
    (plainUsers.world 0 []).issue "u" "1.u" 1, rfl, ⟨[.proceed 0, .proceed 1, .proceed 0], rfl⟩, ?_⟩
  rintro ⟨_, _, _, _, _, named, _⟩
  cases named

end Holonus.Auth
