/-
This file proves over whole runs which tokens are authorized and for whom.
-/

import Holonus.Construction.Auth.Sessions
import Holonus.Proof.Backend.Rules

namespace Holonus.Auth

open Holonus.Machine Holonus.Backend

/-- The latest login of the user issued this token. -/
def latestToken : List Record → String → Option String
  | [], _ => none
  | .issued owner accessToken :: rest, userId =>
      if owner = userId then some accessToken else latestToken rest userId
  | .deleted _ :: rest, userId => latestToken rest userId

/-- A logout request has carried the token since it was issued. -/
def deletedSince : List Record → String → Bool
  | [], _ => false
  | .issued _ other :: rest, accessToken =>
      if other = accessToken then false else deletedSince rest accessToken
  | .deleted other :: rest, accessToken => other = accessToken || deletedSince rest accessToken

def issuedToken : Record → Option String
  | .issued _ accessToken => some accessToken
  | .deleted _ => none

def issuedTokens (records : List Record) : List String := records.filterMap issuedToken

/-- The latest token of a user was issued. -/
theorem issued_of_latest {records : List Record} {userId accessToken : String}
    (latest : latestToken records userId = some accessToken) :
    .issued userId accessToken ∈ records := by
  induction records with
  | nil => cases latest
  | cons record rest ih =>
      cases record with
      | issued owner other =>
          simp only [latestToken] at latest
          split at latest
          · rename_i same
            rw [same, Option.some.inj latest]
            exact List.mem_cons_self
          · exact List.mem_cons_of_mem _ (ih latest)
      | deleted other => exact List.mem_cons_of_mem _ (ih latest)

/-- Distinct logins issue distinct tokens, so that a token has one user. -/
theorem user_of_token {records : List Record} (unique : (issuedTokens records).Nodup)
    {first second accessToken : String} (left : .issued first accessToken ∈ records)
    (right : .issued second accessToken ∈ records) : first = second := by
  induction records with
  | nil => cases left
  | cons record rest ih =>
      have listed {owner : String} (member : .issued owner accessToken ∈ rest) :
          accessToken ∈ issuedTokens rest :=
        List.mem_filterMap.mpr ⟨_, member, rfl⟩
      cases record with
      | deleted other =>
          exact ih unique (List.mem_of_ne_of_mem (by rintro ⟨⟩) left)
            (List.mem_of_ne_of_mem (by rintro ⟨⟩) right)
      | issued owner other =>
          obtain ⟨absent, distinct⟩ := List.nodup_cons.mp unique
          rcases List.mem_cons.mp left with same | older
          · cases same
            rcases List.mem_cons.mp right with equal | later
            · cases equal
              rfl
            · exact absurd (listed later) absent
          · rcases List.mem_cons.mp right with equal | later
            · cases equal
              exact absurd (listed older) absent
            · exact ih distinct older later

/-- Storing a token keeps the user of the account. -/
theorem userId_store (userId accessToken : String) (account : Account) :
    (account.store userId accessToken).userId = account.userId := by
  unfold Account.store
  split <;> rfl

theorem userIds_store (userId accessToken : String) (accounts : List Account) :
    (accounts.map (Account.store userId accessToken)).map Account.userId =
      accounts.map Account.userId := by
  rw [List.map_map]
  apply List.map_congr_left
  intro account _
  exact userId_store userId accessToken account

section
variable {Selector : Type} (platform : TokenPlatform Selector)

/-- Each account keeps the token of the latest login of its user. -/
structure Consistent (world : World) : Prop where
  current : ∀ account ∈ world.accounts,
    account.accessToken = (latestToken world.records account.userId).getD ""
  known : ∀ userId accessToken, .issued userId accessToken ∈ world.records →
    userId ∈ world.accounts.map Account.userId ∧
      ∃ time, accessToken = platform.sign userId time

/-- The users are fixed and the record grows; a stored token is signed for a known user. -/
def sessions : Discipline (Op Selector) World Choice where
  Invariant := Consistent platform
  Rely _ world next := next.accounts.map Account.userId = world.accounts.map Account.userId ∧
    world.records <:+ next.records
  Admits _ _ _ _ := True
  Demands _ op world := ∀ userId accessToken, op = .updateToken userId accessToken →
    userId ∈ world.accounts.map Account.userId ∧ ∃ time, accessToken = platform.sign userId time

variable {platform}

/-- An operation lets time pass or stores a token. -/
theorem perform_cases {index : Nat} {op : Op Selector} {choice : Choice} {world next : World}
    {reply : Except Failure (Reply op)}
    (performed : World.perform platform index op choice world = some (reply, next)) :
    ∃ clock, next = ⟨world.accounts, clock, world.records⟩ ∨
      ∃ userId accessToken, op = .updateToken userId accessToken ∧
        next = ⟨world.accounts.map (Account.store userId accessToken), clock,
          .issued userId accessToken :: world.records⟩ := by
  cases choice with
  | proceed elapsed =>
      refine ⟨world.clock + elapsed, ?_⟩
      cases op with
      | updateToken userId accessToken =>
          cases performed
          exact .inr ⟨userId, accessToken, rfl, rfl⟩
      | findByLogin loginId password =>
          cases performed
          exact .inl rfl
      | findByToken accessToken =>
          cases performed
          exact .inl rfl
      | readClock =>
          cases performed
          exact .inl rfl
  | fail failure elapsed =>
      refine ⟨world.clock + elapsed, .inl ?_⟩
      simp only [World.perform] at performed
      split at performed
      · cases performed
      · cases performed
        rfl

/-- Storing a signed token of a known user keeps the sessions consistent. -/
theorem Consistent.update {world : World} (consistent : Consistent platform world)
    {userId accessToken : String} (known : userId ∈ world.accounts.map Account.userId)
    (signed : ∃ time, accessToken = platform.sign userId time) (clock : Nat) :
    Consistent platform ⟨world.accounts.map (Account.store userId accessToken), clock,
      .issued userId accessToken :: world.records⟩ where
  current := by
    intro account member
    obtain ⟨old, present, same⟩ := List.mem_map.mp member
    rw [← same, userId_store]
    simp only [latestToken, Account.store]
    by_cases mine : old.userId = userId
    · rw [if_pos mine, if_pos mine.symm]
      rfl
    · rw [if_neg mine, if_neg fun equal => mine equal.symm]
      exact consistent.current old present
  known := by
    intro owner other member
    show owner ∈ (world.accounts.map (Account.store userId accessToken)).map Account.userId ∧ _
    rw [userIds_store]
    rcases List.mem_cons.mp member with same | older
    · cases same
      exact ⟨known, signed⟩
    · exact consistent.known owner other older

/-- Enrolling a request keeps the sessions consistent. -/
theorem Consistent.enroll {world : World} (consistent : Consistent platform world)
    (request : Request Selector) : Consistent platform (world.enroll request) := by
  cases request with
  | postLogin data => exact consistent
  | deleteLogin headers =>
      simp only [World.enroll]
      split
      · exact ⟨consistent.current, fun userId other member =>
          consistent.known userId other (List.mem_of_ne_of_mem (by rintro ⟨⟩) member)⟩
      · exact consistent

theorem rely_of_enroll (index : Nat) (request : Request Selector) (world : World) :
    (sessions platform).Rely index world (world.enroll request) := by
  cases request with
  | postLogin data => exact ⟨rfl, List.suffix_refl _⟩
  | deleteLogin headers =>
      simp only [World.enroll]
      split
      · exact ⟨rfl, List.suffix_cons _ _⟩
      · exact ⟨rfl, List.suffix_refl _⟩

/-- Every operation keeps the sessions consistent. -/
theorem sessions_sound : (sessions platform).Sound (World.perform platform) where
  rely_refl _ _ := ⟨rfl, List.suffix_refl _⟩
  rely_trans _ _ _ _ first second := ⟨second.1.trans first.1, first.2.trans second.2⟩
  keeps := by
    intro index op choice world reply next consistent demanded _ performed
    obtain ⟨clock, same | ⟨userId, accessToken, stored, same⟩⟩ := perform_cases performed
    · rw [same]
      exact ⟨consistent.current, consistent.known⟩
    · obtain ⟨known, signed⟩ := demanded userId accessToken stored
      rw [same]
      exact consistent.update known signed clock
  spares := by
    intro index other op choice world reply next _ _ _ _ performed
    obtain ⟨clock, same | ⟨userId, accessToken, -, same⟩⟩ := perform_cases performed
    · rw [same]
      exact ⟨rfl, List.suffix_refl _⟩
    · rw [same]
      exact ⟨userIds_store userId accessToken world.accounts, List.suffix_cons _ _⟩

/-- A successful login returns a token of the record to its user. -/
def Recorded (outcome : Except Failure Response) (world : World) : Prop :=
  ∀ userId authorization accessExpire, outcome = .ok (.login userId authorization accessExpire) →
    ∃ accessToken, authorization = "Bearer" ++ " " ++ accessToken ∧
      .issued userId accessToken ∈ world.records

def Known (userId : String) (world : World) : Prop := userId ∈ world.accounts.map Account.userId

/-- A known user stays known. -/
theorem known_stable (index : Nat) (userId : String) :
    (sessions platform).Stable index (Known userId) := by
  intro world current relied _ known
  show userId ∈ current.accounts.map Account.userId
  rw [relied.1]
  exact known

section
variable {index : Nat}

/-- An operation that stores no token asks nothing of its request. -/
theorem call_any {op : Op Selector} (harmless : ∀ userId accessToken,
    op ≠ .updateToken userId accessToken) :
    Triple (World.perform platform) (sessions platform) index (fun _ => True)
      (call op) (fun _ _ => True) fun _ _ => True := by
  apply Triple.call (fun _ _ _ _ _ => trivial)
  · intro world _ _ userId accessToken same
    exact absurd same (harmless userId accessToken)
  · intro world choice reply next _ _ _ _ _
    cases reply with
    | ok value => trivial
    | error failure => trivial

theorem readClock_keeps (userId : String) :
    Triple (World.perform platform) (sessions platform) index (Known userId)
      (call .readClock : Task Selector Nat) (fun _ => Known userId) fun _ _ => True := by
  apply Triple.call (known_stable index userId)
  · rintro world _ _ owner accessToken ⟨⟩
  · intro world choice reply next _ known _ performed _
    have kept : Known userId next := by
      obtain ⟨clock, same | ⟨owner, accessToken, stored, -⟩⟩ := perform_cases performed
      · rw [same]
        exact known
      · cases stored
    cases reply with
    | ok value => exact kept
    | error failure => trivial

/-- The user who logs in has an account. -/
theorem findByLogin_known (loginId : LoginId Selector) (password : String) :
    Triple (World.perform platform) (sessions platform) index (fun _ => True)
      (UsersModel.findByLogin loginId password)
      (fun found world => ∀ userInfo, found = some userInfo → Known userInfo.userId world)
      fun _ _ => True := by
  apply guarded_triple
  apply Triple.call (fun _ _ _ _ _ => trivial)
  · rintro world _ _ owner accessToken ⟨⟩
  · intro world choice reply next _ _ _ performed _
    cases choice with
    | fail failure elapsed =>
        cases performed
        trivial
    | proceed elapsed =>
        cases performed
        intro userInfo found
        exact List.mem_map.mpr ⟨userInfo, List.mem_of_find?_eq_some found, rfl⟩

/-- Storing a signed token issues it. -/
theorem updateToken_issues {userId accessToken : String}
    (signed : ∃ time, accessToken = platform.sign userId time) :
    Triple (World.perform platform) (sessions platform) index (Known userId)
      (UsersModel.updateToken userId accessToken : Task Selector Bool)
      (fun _ world => .issued userId accessToken ∈ world.records) fun _ _ => True := by
  apply guarded_triple
  apply Triple.call (known_stable index userId)
  · rintro world _ known owner other ⟨⟩
    exact ⟨known, signed⟩
  · intro world choice reply next _ _ _ performed _
    cases choice with
    | fail failure elapsed =>
        cases performed
        trivial
    | proceed elapsed =>
        cases performed
        exact List.mem_cons_self

/-- Updating the token of a user issues the new one. -/
theorem updateAccessToken_issues (userInfo : Account) :
    Triple (World.perform platform) (sessions platform) index (Known userInfo.userId)
      (AuthCore.updateAccessToken platform userInfo)
      (fun accessToken world => .issued userInfo.userId accessToken ∈ world.records)
      fun _ _ => True := by
  have signs : Triple (World.perform platform) (sessions platform) index (Known userInfo.userId)
      (makeNewAccessToken platform userInfo.userId)
      (fun accessToken world => (∃ time, accessToken = platform.sign userInfo.userId time) ∧
        Known userInfo.userId world) fun _ _ => True := by
    apply Triple.bind (readClock_keeps userInfo.userId)
    intro time
    apply Triple.pure
    intro world _ known
    exact ⟨⟨time, rfl⟩, known⟩
  apply Triple.bind signs
  intro accessToken
  apply Triple.assume
  intro signed
  apply Triple.bind (updateToken_issues signed)
  intro ok
  apply Triple.bind (failIf_triple (fun _ _ _ holds => holds) fun _ _ _ _ => trivial)
  intro _
  exact Triple.pure fun _ _ holds => holds

/-- A login that returns has recorded its token. -/
theorem login_recorded (data : LoginData Selector) :
    Triple (World.perform platform) (sessions platform) index (fun _ => True)
      (AuthCore.login platform data) (fun response => Recorded (.ok response))
      fun _ _ => True := by
  have hashes : Triple (World.perform platform) (sessions platform) index (fun _ => True)
      (getHash platform data.password) (fun _ _ => True) fun _ _ => True := by
    cases data.password with
    | text value => exact Triple.pure fun _ _ _ => trivial
    | missing => exact Triple.throw fun _ _ _ => trivial
    | other => exact Triple.throw fun _ _ _ => trivial
  apply Triple.bind hashes
  intro password
  apply Triple.bind (findByLogin_known data.loginId password)
  intro found
  cases found with
  | none => exact Triple.throw fun _ _ _ => trivial
  | some userInfo =>
      apply Triple.bind ((updateAccessToken_issues userInfo).conseq
        (fun _ _ known => known userInfo rfl) (fun _ _ _ holds => holds) fun _ _ _ holds => holds)
      intro accessToken
      apply Triple.bind (present_triple (fun _ _ _ _ holds => holds) fun _ _ _ => trivial)
      intro decodedData
      apply Triple.pure
      rintro world _ issued _ _ _ ⟨⟩
      exact ⟨accessToken, rfl, issued⟩

theorem authorizationDefault_any (headers : Headers) :
    Triple (World.perform platform) (sessions platform) index (fun _ => True)
      (authorizationDefault platform headers) (fun _ _ => True) fun _ _ => True := by
  unfold authorizationDefault
  cases AuthUtil.getAccessTokenFromHeader headers with
  | error failure => exact Triple.throw fun _ _ _ => trivial
  | ok accessToken =>
      apply Triple.pure_bind
      have checks : Triple (World.perform platform) (sessions platform) index (fun _ => True)
          (AuthUtil.checkAccessTokenExpiry platform accessToken) (fun _ _ => True)
          fun _ _ => True := by
        unfold AuthUtil.checkAccessTokenExpiry
        split
        · exact Triple.throw fun _ _ _ => trivial
        · exact Triple.throw fun _ _ _ => trivial
        · apply Triple.bind (call_any fun _ _ => by rintro ⟨⟩)
          intro now
          exact failIf_keeps
      apply Triple.bind checks
      intro _
      have finds : Triple (World.perform platform) (sessions platform) index (fun _ => True)
          (AuthUtil.getUserByAccessToken accessToken : Task Selector Account) (fun _ _ => True)
          fun _ _ => True := by
        apply Triple.bind (guarded_triple (call_any fun _ _ => by rintro ⟨⟩))
        intro found
        cases found with
        | none => exact Triple.throw fun _ _ _ => trivial
        | some userInfo => exact Triple.pure fun _ _ _ => trivial
      apply Triple.bind finds
      intro userInfo
      exact Triple.pure fun _ _ _ => trivial

/-- Every login that succeeds is recorded, and a logout never succeeds. -/
theorem program_recorded (request : Request Selector) :
    Triple (World.perform platform) (sessions platform) index (fun _ => True)
      (request.program platform) (fun response => Recorded (.ok response)) fun _ _ => True := by
  cases request with
  | postLogin data =>
      show Triple _ _ _ _ (Program.done (AuthProcess.checkInputValue data) >>= _) _ _
      cases AuthProcess.checkInputValue data with
      | error failure => exact Triple.throw fun _ _ _ => trivial
      | ok _ => exact login_recorded data
  | deleteLogin headers =>
      have authorizes : Triple (World.perform platform) (sessions platform) index (fun _ => True)
          (useAuthorization platform headers) (fun _ _ => True) fun _ _ => True := by
        apply Triple.bind failIf_keeps
        intro _
        exact authorizationDefault_any headers
      apply Triple.bind authorizes
      intro _
      exact Triple.throw fun _ _ _ => trivial

end

/-- Every request starts in consistent sessions. -/
theorem sessions_starts :
    (sessions platform).Starts (runtime platform) (fun _ => Recorded) fun _ => True where
  invariant _ request _ _ _ consistent := consistent.enroll request
  spares _ other request world _ _ _ := rely_of_enroll other request world
  safe := by
    intro index request world _ _ consistent
    apply Safe.mono _ consistent (program_recorded request _ consistent trivial)
    intro outcome current _ ended
    cases outcome with
    | ok response => exact ended
    | error failure => rintro _ _ _ ⟨⟩
  stable := by
    intro index outcome first second relied _ recorded userId authorization accessExpire same
    obtain ⟨accessToken, token, issued⟩ := recorded userId authorization accessExpire same
    exact ⟨accessToken, token, relied.2.subset issued⟩

/-- Before the first login no account has a token. -/
theorem reached_kept {accounts : List Account}
    (empty : ∀ account ∈ accounts, account.accessToken = "") (clock : Nat)
    (moves : List (Move Choice (Request Selector))) :
    (runtime platform).Kept (sessions platform) (fun _ => Recorded)
      (reached platform accounts clock moves) := by
  apply Runtime.Kept.run sessions_sound sessions_starts
  · refine ⟨⟨empty, ?_⟩, ?_⟩
    · intro userId accessToken member
      cases member
    · intro index program task
      cases task
  · intro entry _
    unfold Discipline.Follows
    split
    · trivial
    · intro op _
      trivial

/-- The user of a successful login receives a token that was issued to that user. -/
theorem login_issued {accounts : List Account}
    (empty : ∀ account ∈ accounts, account.accessToken = "") {clock : Nat}
    {moves : List (Move Choice (Request Selector))} {index : Nat}
    {userId authorization accessExpire : String}
    (ended : (reached platform accounts clock moves).outcome index =
      some (.ok (.login userId authorization accessExpire))) :
    ∃ accessToken, authorization = "Bearer" ++ " " ++ accessToken ∧
      .issued userId accessToken ∈ (reached platform accounts clock moves).world.records :=
  (reached_kept empty clock moves).finished ended userId authorization accessExpire rfl

/-- The header that a login returns carries its token. -/
theorem header_of_token {accessToken remoteAddress : String} (nonempty : accessToken ≠ "")
    (spaceless : ' ' ∉ accessToken.toList) :
    AuthUtil.getAccessTokenFromHeader ⟨some ("Bearer" ++ " " ++ accessToken), remoteAddress⟩ =
      .ok accessToken := by
  have split : AuthUtil.words ("Bearer" ++ " " ++ accessToken) = ["Bearer", accessToken] := by
    have letters : ("Bearer" ++ " " ++ accessToken).toList =
        "Bearer".toList ++ ' ' :: accessToken.toList := by simp
    have bare : accessToken.toList.splitOn ' ' = [accessToken.toList] := by
      rw [List.splitOn_eq_splitOnP]
      apply List.splitOnP_eq_singleton
      intro letter member
      simpa using fun same : letter = ' ' => spaceless (same ▸ member)
    have first : ("Bearer".toList ++ ' ' :: accessToken.toList).splitOn ' ' =
        "Bearer".toList :: accessToken.toList.splitOn ' ' := by
      rw [List.splitOn_eq_splitOnP, List.splitOn_eq_splitOnP]
      exact List.splitOnP_append_cons_of_forall_mem (by simp) _ (by decide) _
    unfold AuthUtil.words
    rw [letters, first, bare]
    simp
  have filled : "Bearer" ++ " " ++ accessToken ≠ "" := by simp
  unfold AuthUtil.getAccessTokenFromHeader
  simp only [split, if_neg filled, if_neg nonempty]

/-- A token in a header is not empty. -/
theorem token_of_header {headers : Headers} {accessToken : String}
    (carried : AuthUtil.getAccessTokenFromHeader headers = .ok accessToken) : accessToken ≠ "" := by
  unfold AuthUtil.getAccessTokenFromHeader at carried
  split at carried
  · cases carried
  · split at carried
    · cases carried
    · split at carried
      · split at carried
        · cases carried
        · rename_i nonempty
          cases carried
          exact nonempty
      · cases carried

/-- A token issued by a login is valid for 24 hours. -/
def Unexpired (platform : TokenPlatform Selector) (accessToken : String) (now : Nat) : Prop :=
  ∃ userId time, accessToken = platform.sign userId time ∧ now ≤ (time / 1000 + 86400) * 1000

/-- A signed token is accepted for a day, counted from its whole second. -/
theorem unexpired_sign (userId : String) (time now : Nat) :
    Unexpired platform (platform.sign userId time) now ↔ now ≤ (time / 1000 + 86400) * 1000 := by
  constructor
  · rintro ⟨owner, other, same, bound⟩
    have decoded := platform.decode_sign owner other
    rw [← same, platform.decode_sign] at decoded
    simp only [Decoded.claims.injEq, Claims.mk.injEq, Option.some.injEq] at decoded
    rw [decoded]
    exact bound
  · intro bound
    exact ⟨userId, time, rfl, bound⟩

/-- The authorized account is the one that keeps the token. -/
theorem getUserByAccessToken_alone (world : World) (accessToken : String) (loginUser : LoginUser) :
    (∃ token next, Program.alone (World.perform platform 0) (do
      let userInfo ← AuthUtil.getUserByAccessToken accessToken
      return (LoginUser.mk userInfo.userId userInfo.userName userInfo.keysId, accessToken))
        [.proceed 0] world = some (.ok (loginUser, token), next)) ↔
      ∃ userInfo, world.accounts.find? (fun account => account.accessToken = accessToken) =
        some userInfo ∧ loginUser = ⟨userInfo.userId, userInfo.userName, userInfo.keysId⟩ := by
  have looked {found : Option Account}
      (same : world.accounts.find? (fun account => account.accessToken = accessToken) = found) :
      World.perform platform 0 (.findByToken accessToken) (.proceed 0) world =
        some (.ok found, world) := by
    rw [← same]
    rfl
  cases found : world.accounts.find? (fun account => account.accessToken = accessToken) with
  | none =>
      constructor
      · rintro ⟨token, next, ran⟩
        have ended : some (Except.error (Failure.unauthorized "authorization is invalid"), world) =
          some (.ok (loginUser, token), next) := (Program.alone_await (looked found)).symm.trans ran
        cases ended
      · rintro ⟨_, ⟨⟩, _⟩
  | some userInfo =>
      constructor
      · rintro ⟨token, next, ran⟩
        have ended : some (Except.ok (LoginUser.mk userInfo.userId userInfo.userName
          userInfo.keysId, accessToken), world) = some (.ok (loginUser, token), next) :=
            (Program.alone_await (looked found)).symm.trans ran
        cases ended
        exact ⟨userInfo, rfl, rfl⟩
      · rintro ⟨_, ⟨⟩, same⟩
        rw [same]
        exact ⟨accessToken, world, Program.alone_await (looked found)⟩

/-- The authorization reads the header, the expiry and the account. -/
theorem authorizes_iff {world : World} {now : Nat} {headers : Headers} {accessToken : String}
    (carried : AuthUtil.getAccessTokenFromHeader headers = .ok accessToken)
    (loginUser : LoginUser) :
    Authorizes platform world now headers loginUser ↔ ∃ claims,
      platform.decode accessToken = .claims claims ∧ AuthUtil.isExpired claims now = false ∧
      ∃ userInfo, world.accounts.find? (fun account => account.accessToken = accessToken) =
        some userInfo ∧ loginUser = ⟨userInfo.userId, userInfo.userName, userInfo.keysId⟩ := by
  have reads : authorizationDefault platform headers = (do
      AuthUtil.checkAccessTokenExpiry platform accessToken
      let userInfo ← AuthUtil.getUserByAccessToken accessToken
      return (LoginUser.mk userInfo.userId userInfo.userName userInfo.keysId, accessToken)) := by
    unfold authorizationDefault
    rw [carried]
    rfl
  unfold Authorizes
  rw [reads, AuthUtil.checkAccessTokenExpiry]
  cases platform.decode accessToken with
  | thrown =>
      constructor
      · rintro ⟨_, _, ⟨⟩⟩
      · rintro ⟨_, ⟨⟩, _⟩
  | nothing =>
      constructor
      · rintro ⟨_, _, ⟨⟩⟩
      · rintro ⟨_, ⟨⟩, _⟩
  | claims claims =>
      change (∃ token next, Program.alone (World.perform platform 0) (do
        failIf (AuthUtil.isExpired claims now) (.unauthorized "authorization is invalid")
        let userInfo ← AuthUtil.getUserByAccessToken accessToken
        return (LoginUser.mk userInfo.userId userInfo.userName userInfo.keysId, accessToken))
          [.proceed 0] { world with clock := now } = some (.ok (loginUser, token), next)) ↔ _
      cases expired : AuthUtil.isExpired claims now with
      | true =>
          constructor
          · rintro ⟨_, _, ⟨⟩⟩
          · rintro ⟨_, ⟨⟩, unexpired, _⟩
            rw [expired] at unexpired
            cases unexpired
      | false =>
          rw [← getUserByAccessToken_alone { world with clock := now } accessToken loginUser]
          constructor
          · intro authorized
            exact ⟨claims, rfl, expired, authorized⟩
          · rintro ⟨_, _, _, authorized⟩
            exact authorized

/-- The account that keeps a token belongs to the user whose latest login issued it. -/
theorem keeper_iff {world : World} (consistent : Consistent platform world)
    (unique : (issuedTokens world.records).Nodup) {accessToken : String}
    (nonempty : accessToken ≠ "") (userId : String) :
    (∃ userInfo, world.accounts.find? (fun account => account.accessToken = accessToken) =
      some userInfo ∧ userInfo.userId = userId) ↔
        latestToken world.records userId = some accessToken := by
  have latest {account : Account} (member : account ∈ world.accounts)
      (kept : account.accessToken = accessToken) :
      latestToken world.records account.userId = some accessToken := by
    have current := consistent.current account member
    rw [kept] at current
    cases found : latestToken world.records account.userId with
    | none =>
        rw [found] at current
        exact absurd current nonempty
    | some other =>
        rw [found] at current
        rw [current]
        rfl
  constructor
  · rintro ⟨userInfo, found, same⟩
    rw [← same]
    apply latest (List.mem_of_find?_eq_some found)
    simpa using List.find?_some found
  · intro issued
    obtain ⟨known, -⟩ := consistent.known userId accessToken (issued_of_latest issued)
    obtain ⟨account, member, same⟩ := List.mem_map.mp known
    have kept : account.accessToken = accessToken := by
      rw [consistent.current account member, same, issued]
      rfl
    cases found : world.accounts.find? (fun account => account.accessToken = accessToken) with
    | none =>
        have absent := List.find?_eq_none.mp found account member
        simp [kept] at absent
    | some userInfo =>
        refine ⟨userInfo, rfl, ?_⟩
        have other := latest (List.mem_of_find?_eq_some found)
          (by simpa using List.find?_some found)
        exact user_of_token unique (issued_of_latest other) (issued_of_latest issued)

/-- A token is accepted for the user whose latest login issued it until it expires. -/
theorem accepted_iff {world : World} (consistent : Consistent platform world)
    (unique : (issuedTokens world.records).Nodup) {headers : Headers} {accessToken : String}
    (carried : AuthUtil.getAccessTokenFromHeader headers = .ok accessToken) (now : Nat)
    (userId : String) :
    (∃ loginUser, Authorizes platform world now headers loginUser ∧ loginUser.userId = userId) ↔
      latestToken world.records userId = some accessToken ∧ Unexpired platform accessToken now := by
  have keeper := keeper_iff consistent unique (token_of_header carried) userId
  have valid (latest : latestToken world.records userId = some accessToken) :
      ∃ exp, platform.decode accessToken = .claims ⟨some exp⟩ ∧
        (Unexpired platform accessToken now ↔ now ≤ exp * 1000) := by
    obtain ⟨-, time, signed⟩ := consistent.known userId accessToken (issued_of_latest latest)
    rw [signed, platform.decode_sign]
    exact ⟨_, rfl, unexpired_sign userId time now⟩
  constructor
  · rintro ⟨loginUser, authorized, same⟩
    obtain ⟨claims, decoded, current, userInfo, found, attributed⟩ :=
      (authorizes_iff carried loginUser).mp authorized
    rw [attributed] at same
    have latest := keeper.mp ⟨userInfo, found, same⟩
    obtain ⟨exp, signed, unexpired⟩ := valid latest
    rw [decoded, Decoded.claims.injEq] at signed
    rw [signed] at current
    exact ⟨latest, unexpired.mpr (by simpa [AuthUtil.isExpired] using current)⟩
  · rintro ⟨latest, fresh⟩
    obtain ⟨exp, signed, unexpired⟩ := valid latest
    obtain ⟨userInfo, found, same⟩ := keeper.mpr latest
    have current : AuthUtil.isExpired ⟨some exp⟩ now = false := by
      simpa [AuthUtil.isExpired] using unexpired.mp fresh
    exact ⟨_, (authorizes_iff carried _).mpr ⟨_, signed, current, userInfo, found, rfl⟩, same⟩

/-- A token whose user has not logged in or out since is accepted for exactly that user, and only
a logout breaks this. -/
theorem session_authorized_iff (platform : TokenPlatform Selector) (accounts : List Account)
    (empty : ∀ account ∈ accounts, account.accessToken = "") (clock : Nat)
    (moves : List (Move Choice (Request Selector)))
    (unique : (issuedTokens (reached platform accounts clock moves).world.records).Nodup)
    (headers : Headers) (accessToken : String)
    (carried : AuthUtil.getAccessTokenFromHeader headers = .ok accessToken) (now : Nat) :
    (∀ userId, (∃ loginUser, Authorizes platform (reached platform accounts clock moves).world now
        headers loginUser ∧ loginUser.userId = userId) ↔
      latestToken (reached platform accounts clock moves).world.records userId =
        some accessToken ∧
      deletedSince (reached platform accounts clock moves).world.records accessToken = false ∧
      Unexpired platform accessToken now) ↔
    ¬ ∃ userId, latestToken (reached platform accounts clock moves).world.records userId =
        some accessToken ∧
      deletedSince (reached platform accounts clock moves).world.records accessToken = true ∧
      Unexpired platform accessToken now := by
  have accepted :=
    accepted_iff (reached_kept empty clock moves).invariant unique carried now
  constructor
  · rintro claimed ⟨userId, latest, deleted, fresh⟩
    have spared := (claimed userId).mp ((accepted userId).mpr ⟨latest, fresh⟩)
    rw [deleted] at spared
    cases spared.2.1
  · intro spared userId
    rw [accepted userId]
    constructor
    · rintro ⟨latest, fresh⟩
      refine ⟨latest, ?_, fresh⟩
      by_contra deleted
      exact spared ⟨userId, latest, Bool.eq_true_of_not_eq_false deleted, fresh⟩
    · rintro ⟨latest, _, fresh⟩
      exact ⟨latest, fresh⟩

end

/-- The time of a plain token is written in unary. -/
def unaryTime (accessToken : String) : Nat := (accessToken.toList.takeWhile (· = '1')).length

theorem unaryTime_sign (userId : String) (time : Nat) :
    unaryTime (String.ofList (List.replicate time '1' ++ '.' :: userId.toList)) = time := by
  unfold unaryTime
  rw [String.toList_ofList, List.takeWhile_append_of_pos]
  · simp
  · intro letter member
    simpa using List.eq_of_mem_replicate member

/-- Plain tokens show the user and the time, and no user is selected by a query. -/
def plainTokens : TokenPlatform Unit where
  hash password := password
  sign userId time := String.ofList (List.replicate time '1' ++ '.' :: userId.toList)
  decode accessToken := .claims ⟨some (unaryTime accessToken / 1000 + 86400)⟩
  decode_sign userId time := by rw [unaryTime_sign]
  selects _ _ := false
  formatDateTime _ := ""

def plainAccount : Account := ⟨"u", "", "p", "", none⟩

/-- The user logs in. -/
def loginRun : List (Move Choice (Request Unit)) :=
  [.start 0 (.postLogin ⟨.text "u", .text "p"⟩), .step 0 (.proceed 1), .step 0 (.proceed 0),
    .step 0 (.proceed 0)]

/-- The header carries the token of the first login. -/
def plainHeaders : Headers := ⟨some "Bearer 1.u", ""⟩

/-- The user logs in and then asks to log out. -/
def logoutRun : List (Move Choice (Request Unit)) :=
  loginRun ++ [.start 1 (.deleteLogin plainHeaders), .step 1 (.proceed 0), .step 1 (.proceed 0)]

/-- Without a logout the token of the login is accepted for its user. -/
theorem session_authorized_iff_loginRun :
    ∃ loginUser, Authorizes plainTokens (reached plainTokens [plainAccount] 0 loginRun).world 2
      plainHeaders loginUser ∧ loginUser.userId = "u" := by
  have latest : latestToken (reached plainTokens [plainAccount] 0 loginRun).world.records "u" =
      some "1.u" := by decide +kernel
  have spared : deletedSince (reached plainTokens [plainAccount] 0 loginRun).world.records "1.u" =
      false := by decide +kernel
  have fresh : Unexpired plainTokens "1.u" 2 := ⟨"u", 1, by decide +kernel, by decide⟩
  apply ((session_authorized_iff plainTokens [plainAccount] (by decide) 0 loginRun
    (by decide +kernel) plainHeaders "1.u" (by decide +kernel) 2).mpr _ "u").mpr
  · exact ⟨latest, spared, fresh⟩
  · rintro ⟨userId, -, deleted, -⟩
    rw [spared] at deleted
    cases deleted

/-- The logout throws and the token stays authorized. -/
theorem deleteLogin_keeps_session :
    (reached plainTokens [plainAccount] 0 logoutRun).outcome 1 = some (.error (.other false)) ∧
    latestToken (reached plainTokens [plainAccount] 0 logoutRun).world.records "u" =
      some "1.u" ∧
    deletedSince (reached plainTokens [plainAccount] 0 logoutRun).world.records "1.u" = true ∧
    Unexpired plainTokens "1.u" 2 ∧
    Authorizes plainTokens (reached plainTokens [plainAccount] 0 logoutRun).world 2 plainHeaders
      ⟨"u", "", none⟩ := by
  have carried : AuthUtil.getAccessTokenFromHeader plainHeaders = .ok "1.u" := by decide +kernel
  refine ⟨by decide +kernel, by decide +kernel, by decide +kernel,
    ⟨"u", 1, by decide +kernel, by decide⟩, ?_⟩
  rw [authorizes_iff carried]
  exact ⟨_, rfl, by decide +kernel, ⟨"u", "", "p", "1.u", none⟩, by decide +kernel, rfl⟩

end Holonus.Auth
