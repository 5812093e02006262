/-
This file follows the key requests of one user and proves over whole runs that the user keeps at
most one live key while no commit disturbs a request between its check and its first write.
-/

import Holonus.Construction.Backend.PlainPlatform
import Holonus.Proof.Backend.KeySlot

namespace Holonus.Backend

open Holonus.Machine Holonus.File Holonus.Abstract

section
variable {Id PublicKey Value : Type} {userId : String}

/-- A request has checked the slot and written nothing yet. -/
def KeysChecked (userId : String) (Found : KeySlot Id → Prop) (task : Local Id PublicKey)
    (store : Store Id) : Prop :=
  task.session = some Session.empty ∧ ∃ moment slot, task.checkedAt = some moment ∧
    Anchored userId slot moment store ∧ Found slot

/-- A request has staged its planned writes for a slot of the user. -/
def KeysStaged (userId : String) (Plan : List (Write Id) → KeySlot Id → Prop)
    (task : Local Id PublicKey) (store : Store Id) : Prop :=
  ∃ database moment writes, task.session = some ⟨some (database, moment), writes⟩ ∧
    Anchored userId (database.keySlot userId) moment store ∧
    (database.keySlot userId).pointer.isSome ∧ Plan writes (database.keySlot userId)

/-- The extension of the stores keeps the assertion. -/
def Enduring (userId : String) (Holds : Local Id PublicKey → Store Id → Prop) : Prop :=
  ∀ task store next, Extends userId store next → Holds task store → Holds task next

/-- A fact about the session alone endures. -/
theorem enduring_session (Holds : Option (Session Id) → Prop) :
    Enduring userId fun (task : Local Id PublicKey) _ => Holds task.session :=
  fun _ _ _ _ held => held

/-- A check of the keys endures, since it fixes what it saw of the slot. -/
theorem enduring_checked (Found : KeySlot Id → Prop) :
    Enduring userId (KeysChecked userId Found : Local Id PublicKey → Store Id → Prop) := by
  intro task store next extension holds
  obtain ⟨isOpen, moment, slot, checked, anchored, found⟩ := holds
  exact ⟨isOpen, moment, slot, checked, anchored.extends extension, found⟩

/-- A staged plan endures, since it fixes what it saw of the slot. -/
theorem enduring_staged (Plan : List (Write Id) → KeySlot Id → Prop) :
    Enduring userId (KeysStaged userId Plan : Local Id PublicKey → Store Id → Prop) := by
  intro task store next extension holds
  obtain ⟨database, moment, writes, isOpen, anchored, user, planned⟩ := holds
  exact ⟨database, moment, writes, isOpen, anchored.extends extension, user, planned⟩

variable [DecidableEq Id] {platform : Platform Id PublicKey} {index : Nat} {request : Request Id}

/-- An enduring fact is kept by the other requests. -/
theorem Enduring.stable {Holds : Local Id PublicKey → Store Id → Prop}
    (enduring : Enduring userId Holds) :
    (keySlotDiscipline platform userId).Stable index (At index request Holds) := by
  intro world current leaves _ holds
  obtain ⟨task, found, asked, held⟩ := holds
  exact ⟨task, leaves.same.trans found, asked, enduring _ _ _ leaves.extension held⟩

/-- An operation that is no commit owes nothing to the slot. -/
theorem Enduring.call {op : Op Id} {Before Thrown : Local Id PublicKey → Store Id → Prop}
    {After : Reply PublicKey op → Local Id PublicKey → Store Id → Prop}
    (enduring : Enduring userId Before) (commits : op ≠ .act .commitTransaction)
    (replies : ∀ world task choice reply store session,
      (world.store.database.keySlot userId).Tidy platform →
      world.locals index = some task → Before task world.store →
      Undisturbed userId index op world →
      respond platform world.store task.session op choice = some (reply, store, session) →
        match reply with
        | .ok value => After value (task.after session world.store.log.length op (.ok value)) store
        | .error failure =>
            Thrown (task.after session world.store.log.length op (.error failure)) store) :
    Triple (World.perform platform) (keySlotDiscipline platform userId) index
      (At index request Before) (Program.call op) (fun value => At index request (After value))
      fun _ => At index request Thrown := by
  apply At.call enduring.stable
  · intro world task _ _ _ _ isCommit
    exact absurd isCommit commits
  · intro world task choice reply store session tidy found _ before admitted responded
    exact replies world task choice reply store session tidy found before admitted responded

/-- The staged writes may be committed. -/
def KeysReady (platform : Platform Id PublicKey) (userId : String) :
    Local Id PublicKey → Store Id → Prop :=
  KeysStaged userId fun writes slot => Document.user userId ∈ writes.map Write.document ∧
    (slot.applyAll userId writes).Tidy platform

/-- Without a conflict the slot is still the one of the snapshot. -/
theorem KeysReady.committable {task : Local Id PublicKey} {store : Store Id}
    (ready : KeysReady platform userId task store) {pending : Session Id}
    (isOpen : task.session = some pending) : Committable platform userId pending store := by
  obtain ⟨database, moment, writes, staged, anchored, -, writesUser, tidy⟩ := ready
  rw [isOpen, Option.some.injEq] at staged
  subst staged
  refine ⟨writesUser, ?_⟩
  intro free
  have untouched : Document.user userId ∉ store.log.drop moment := by
    obtain ⟨write, member, same⟩ := List.mem_map.mp writesUser
    have apart := List.any_eq_false.mp free write member
    rw [same] at apart
    exact fun present => apart (decide_eq_true present)
  rw [anchored.2 untouched]
  exact tidy

/-- The control commands of a session keep the slot tidy. -/
theorem keySlot_sessional : Sessional (keySlotDiscipline platform userId) index where
  same _ _ leaves := leaves.same
  demands command world isControl isCommit := by
    cases Op.act.inj isCommit
    cases isControl

/-- A transaction may commit when its body ends ready. -/
theorem keys_transaction {exec : Task Id PublicKey Value} {attempts : Nat}
    (body : Triple (World.perform platform) (keySlotDiscipline platform userId) index
      (Opened index request) exec (fun _ => At index request (KeysReady platform userId))
      fun _ => Running index request) :
    Triple (World.perform platform) (keySlotDiscipline platform userId) index
      (Closed index request) (DbUtil.transaction attempts exec) (fun _ => Closed index request)
      fun _ => Running index request := by
  apply keySlot_sessional.transaction body
  intro _
  apply At.call (enduring_staged _).stable
  · intro world task _ found _ ready _ current pending same isOpen
    rw [found, Option.some.injEq] at same
    subst same
    exact KeysReady.committable ready isOpen
  · intro world task choice reply store session _ _ _ _ _ responded
    have ended := session_of_ending rfl responded
    cases reply with
    | ok value => exact ended
    | error failure => exact ended

omit [DecidableEq Id] in
/-- Undisturbed, the slot is still the checked one. -/
theorem KeysChecked.current {Found : KeySlot Id → Prop} {world : World Id PublicKey}
    {task : Local Id PublicKey} {op : Op Id} (checked : KeysChecked userId Found task world.store)
    (found : world.locals index = some task) (isKeyWrite : op.isKeyWrite = true)
    (undisturbed : Undisturbed userId index op world) :
    Found (world.store.database.keySlot userId) := by
  obtain ⟨-, moment, slot, checkedAt, anchored, holds⟩ := checked
  rw [anchored.2 (undisturbed isKeyWrite task found moment checkedAt)]
  exact holds

/-- A check remembers the slot that it saw. -/
theorem keysExists_checks {condition : KeyCondition Id} (Found : Bool → KeySlot Id → Prop)
    (sees : ∀ store : Store Id, (store.database.keySlot userId).Tidy platform → ∀ found,
      store.database.findKey platform condition = .ok found →
        Found found.isSome (store.database.keySlot userId)) :
    Triple (World.perform platform) (keySlotDiscipline platform userId) index
      (Opened index request) (ask (.keysExists condition) : Task Id PublicKey Bool)
      (fun isFound => At index request (KeysChecked userId (Found isFound)))
      fun _ => Running index request := by
  apply (enduring_session (· = some Session.empty)).call (fun same => by cases same)
  intro world task choice reply store session tidy _ isOpen _ responded
  obtain ⟨answered, same, kept⟩ := respond_ask responded
  subst same kept
  cases reply with
  | error failure => exact trivial
  | ok isFound =>
      rcases answered with fails | answers
      · obtain ⟨failure, failed⟩ := fails
        cases failed
      · obtain ⟨found, searched, isSome⟩ := keysExists_eq_ok answers.symm
        refine ⟨isOpen, world.store.log.length, world.store.database.keySlot userId, rfl,
          anchored_now userId world.store, ?_⟩
        rw [← isSome]
        exact sees world.store tidy found searched

/-- The conflict check leaves a slot without a live key. -/
theorem checkConflict_checks :
    Triple (World.perform platform) (keySlotDiscipline platform userId) index
      (Opened index request)
      (KeysModel.checkConflict ⟨none, some userId, true⟩ : Task Id PublicKey Unit)
      (fun _ => At index request (KeysChecked userId fun slot => slot.live = []))
      fun _ => Running index request := by
  have sees : ∀ store : Store Id, (store.database.keySlot userId).Tidy platform → ∀ found,
      store.database.findKey platform ⟨none, some userId, true⟩ = .ok found →
        (found.isSome = false → (store.database.keySlot userId).live = []) := by
    intro store _ found searched isNone
    cases found with
    | some row => cases isNone
    | none =>
        apply List.eq_nil_iff_forall_not_mem.mpr
        intro row member
        obtain ⟨present, mine, live⟩ := Database.mem_live.mp member
        have absent := List.find?_eq_none.mp (Except.ok.inj searched) row present
        apply absent
        apply decide_eq_true
        exact ⟨.inl rfl, .inr (congrArg some mine.symm), fun _ => live⟩
  apply guarded_triple
  apply Triple.bind
    (keysExists_checks (fun isFound slot => isFound = false → slot.live = []) sees)
  intro isFound
  apply failIf_triple
  · intro free world _ checked
    obtain ⟨task, found, asked, isOpen, moment, slot, checkedAt, anchored, empty⟩ := checked
    exact ⟨task, found, asked, isOpen, moment, slot, checkedAt, anchored, empty free⟩
  · exact fun _ _ _ holds => At.running holds

/-- The found key is the only live one. -/
theorem keysCheckNotFound_checks (publicKeyId : String) :
    Triple (World.perform platform) (keySlotDiscipline platform userId) index
      (Opened index request)
      (KeysModel.checkNotFound (KeysCore.condition userId (.text publicKeyId)) :
        Task Id PublicKey Unit)
      (fun _ => At index request (KeysChecked userId fun slot =>
        ∃ row, slot.live = [row] ∧ platform.castId publicKeyId = some row.id))
      fun _ => Running index request := by
  have sees : ∀ store : Store Id, (store.database.keySlot userId).Tidy platform → ∀ found,
      store.database.findKey platform (KeysCore.condition userId (.text publicKeyId)) = .ok found →
        (found.isSome = true → ∃ row, (store.database.keySlot userId).live = [row] ∧
          platform.castId publicKeyId = some row.id) := by
    intro store tidy found searched isSome
    obtain ⟨row, same⟩ := Option.isSome_iff_exists.mp isSome
    subst same
    obtain ⟨cast, member⟩ := live_of_findKey searched
    rcases tidy with ⟨empty, -⟩ | ⟨other, one, -⟩
    · rw [empty] at member
      cases member
    · rw [one, List.mem_singleton] at member
      subst member
      exact ⟨row, one, cast⟩
  apply (checkFound_triple (keysExists_checks (fun isFound slot => isFound = true →
    ∃ row, slot.live = [row] ∧ platform.castId publicKeyId = some row.id) sees)
    fun _ _ holds => At.running holds).conseq
  · exact fun _ _ holds => holds
  · intro _ world _ checked
    obtain ⟨task, found, asked, isOpen, moment, slot, checkedAt, anchored, seen⟩ := checked
    exact ⟨task, found, asked, isOpen, moment, slot, checkedAt, anchored, seen rfl⟩
  · exact fun _ _ _ holds => holds

/-- A lookup keeps the check. -/
theorem keysCheckLocked_checked (id : Ref Id) {Found : KeySlot Id → Prop} :
    Triple (World.perform platform) (keySlotDiscipline platform userId) index
      (At index request (KeysChecked userId Found))
      (KeysModel.checkLocked id : Task Id PublicKey Unit)
      (fun _ => At index request (KeysChecked userId Found)) fun _ => Running index request := by
  have looked : Triple (World.perform platform) (keySlotDiscipline platform userId) index
      (At index request (KeysChecked userId Found))
      (ask (.keysFindOne ⟨some id, none, false⟩) : Task Id PublicKey (Option (KeyRow Id)))
      (fun _ => At index request (KeysChecked userId Found)) fun _ => Running index request := by
    apply (enduring_checked Found).call (fun same => by cases same)
    intro world task choice reply store session _ _ checked _ responded
    obtain ⟨-, same, kept⟩ := respond_ask responded
    subst same kept
    cases reply with
    | ok value => exact checked
    | error failure => exact trivial
  apply checkUnlocked_triple
  · apply Triple.bind looked
    intro key
    exact Triple.pure fun _ _ holds => holds
  · exact fun _ _ holds => At.running holds

/-- The first write of a request takes its snapshot. -/
theorem KeysStaged.first {Plan : List (Write Id) → KeySlot Id → Prop} {store next : Store Id}
    {task : Local Id PublicKey} {plan : Database Id → Option (Write Id)}
    (staged : task.session = some (Session.empty.stage store plan))
    (database : next.database = store.database) (log : next.log = store.log)
    (user : (store.database.keySlot userId).pointer.isSome)
    (planned : Plan (plan store.database).toList (store.database.keySlot userId)) :
    KeysStaged userId Plan task next := by
  refine ⟨store.database, store.log.length, (plan store.database).toList, staged, ?_, user, planned⟩
  rw [← database, ← log]
  exact anchored_now userId next

/-- Creating a key stages its insertion into an empty slot. -/
theorem keysCreate_stages :
    Triple (World.perform platform) (keySlotDiscipline platform userId) index
      (At index request (KeysChecked userId fun slot => slot.live = []))
      (KeysModel.create userId : Task Id PublicKey Id)
      (fun id => At index request (KeysStaged userId fun writes slot =>
        slot.live = [] ∧ writes = [.insertKey ⟨id, userId, false, false⟩]))
      fun _ => Running index request := by
  apply guarded_triple
  apply (enduring_checked _).call (fun same => by cases same)
  intro world task choice reply store session tidy found checked undisturbed responded
  cases reply with
  | error failure => exact trivial
  | ok id =>
      obtain ⟨-, drawn, pending, isOpen, staged⟩ := keysCreate_ok responded
      have empty := checked.current found rfl undisturbed
      rw [checked.1, Option.some.injEq] at isOpen
      subst isOpen drawn
      exact KeysStaged.first staged rfl rfl tidy.user ⟨empty, rfl⟩

/-- Deleting a key stages the removal of the one live key. -/
theorem keysDeleteOne_stages (publicKeyId : String) :
    Triple (World.perform platform) (keySlotDiscipline platform userId) index
      (At index request (KeysChecked userId fun slot =>
        ∃ row, slot.live = [row] ∧ platform.castId publicKeyId = some row.id))
      (KeysModel.deleteOne (KeysCore.condition userId (.text publicKeyId)) :
        Task Id PublicKey Bool)
      (fun _ => At index request (KeysStaged userId fun writes slot =>
        ∃ row, slot.live = [row] ∧ writes = [.deleteKey row.id]))
      fun _ => Running index request := by
  apply (enduring_checked _).call (fun same => by cases same)
  intro world task choice reply store session tidy found checked undisturbed responded
  cases reply with
  | error failure => exact trivial
  | ok value =>
      obtain ⟨row, one, cast⟩ := checked.current found rfl undisturbed
      have searched := findKey_of_live cast one
      have acted := proceeding_eq_some (act_of_respond responded)
      rw [stagedFound, searched, checked.1] at acted
      cases acted
      apply KeysStaged.first rfl rfl rfl tidy.user
      rw [searched]
      exact ⟨row, one, rfl⟩

/-- Updating the user appends the new pointer to the plan. -/
theorem usersUpdateOne_stages (keysId : Option String)
    {Plan : List (Write Id) → KeySlot Id → Prop} :
    Triple (World.perform platform) (keySlotDiscipline platform userId) index
      (At index request (KeysStaged userId Plan))
      (UsersModel.updateOne userId keysId : Task Id PublicKey Bool)
      (fun _ => At index request (KeysStaged userId fun writes slot =>
        ∃ earlier, Plan earlier slot ∧ writes = earlier ++ [.updateUser userId keysId]))
      fun _ => Running index request := by
  apply guarded_triple
  apply (enduring_staged _).call (fun same => by cases same)
  intro world task choice reply store session tidy found staged _ responded
  cases reply with
  | error failure => exact trivial
  | ok value =>
      obtain ⟨database, moment, writes, isOpen, anchored, user, planned⟩ := staged
      have acted := proceeding_eq_some (act_of_respond responded)
      rw [isOpen] at acted
      cases acted
      obtain ⟨owner, same⟩ : ∃ owner, (database.applyAll writes).findUser userId = some owner := by
        apply Database.findUser_of_pointer
        rw [keySlot_applyAll, pointer_applyAll]
        exact user
      refine ⟨database, moment, _, rfl, anchored, user, writes, planned, ?_⟩
      show writes ++ (Option.map _ ((database.applyAll writes).findUser userId)).toList = _
      rw [same, Option.map_some, (Database.findUser_some same).2]
      rfl

/-- A quiet command keeps the staged writes. -/
theorem keysStaged_quiet {command : Command Id} {Plan : List (Write Id) → KeySlot Id → Prop}
    (quiet : command.isQuiet = true) :
    Triple (World.perform platform) (keySlotDiscipline platform userId) index
      (At index request (KeysStaged userId Plan))
      (tell command : Task Id PublicKey (Result PublicKey command))
      (fun _ => At index request (KeysStaged userId Plan)) fun _ => Running index request := by
  have commits : command ≠ .commitTransaction := by
    rintro rfl
    cases quiet
  apply (enduring_staged _).call (fun same => commits (Op.act.inj same))
  intro world task choice reply store session tidy found staged _ responded
  have kept := session_of_quiet quiet responded
  have extension : Extends userId world.store store := by
    apply (respond_change responded).extends
    intro isCommit
    exact absurd (Op.act.inj isCommit) commits
  cases reply with
  | error failure => exact trivial
  | ok value =>
      apply enduring_staged Plan _ _ _ extension
      obtain ⟨database, moment, writes, isOpen, rest⟩ := staged
      exact ⟨database, moment, writes, kept.trans isOpen, rest⟩

omit [DecidableEq Id] in
/-- A plan may be widened where the user exists. -/
theorem KeysStaged.mono {Plan Wider : List (Write Id) → KeySlot Id → Prop}
    {task : Local Id PublicKey} {store : Store Id} (staged : KeysStaged userId Plan task store)
    (wider : ∀ writes slot, slot.pointer.isSome → Plan writes slot → Wider writes slot) :
    KeysStaged userId Wider task store := by
  obtain ⟨database, moment, writes, isOpen, anchored, user, planned⟩ := staged
  exact ⟨database, moment, writes, isOpen, anchored, user, wider _ _ user planned⟩

/-- The writes of a key registration fill an empty slot. -/
theorem tidy_posted {slot : KeySlot Id} (user : slot.pointer.isSome)
    (empty : slot.live = []) (id : Id) :
    (slot.applyAll userId [.insertKey ⟨id, userId, false, false⟩,
      .updateUser userId (some (platform.idText id))]).Tidy platform := by
  obtain ⟨live, pointer⟩ := slot
  obtain ⟨keysId, same⟩ := Option.isSome_iff_exists.mp user
  subst empty same
  refine .inr ⟨⟨id, userId, false, false⟩, ?_, ?_⟩ <;>
    simp [KeySlot.applyAll, KeySlot.apply]

/-- The writes of a key deletion empty the slot. -/
theorem tidy_deleted {slot : KeySlot Id} {row : KeyRow Id} (user : slot.pointer.isSome)
    (one : slot.live = [row]) :
    (slot.applyAll userId [.deleteKey row.id, .updateUser userId none]).Tidy platform := by
  obtain ⟨live, pointer⟩ := slot
  obtain ⟨keysId, same⟩ := Option.isSome_iff_exists.mp user
  subst one same
  refine .inl ⟨?_, .inl ?_⟩ <;>
    simp [KeySlot.applyAll, KeySlot.apply]

/-- Posting a key keeps the slot tidy. -/
theorem postKey_tidy {attempts : Nat} {publicKey : Option String} :
    Triple (World.perform platform) (keySlotDiscipline platform userId) index
      (Closed index request) (KeysCore.postKey platform attempts userId publicKey)
      (fun _ => Closed index request) fun _ => Running index request := by
  apply keys_transaction
  apply Triple.bind checkConflict_checks
  intro _
  apply Triple.bind keysCreate_stages
  intro publicKeyId
  apply Triple.bind (usersUpdateOne_stages (some (platform.idText publicKeyId)))
  intro ok
  apply Triple.bind (failIf_triple (fun _ _ _ holds => holds) fun _ _ _ holds => At.running holds)
  intro _
  apply Triple.bind (present_triple (fun _ _ _ _ holds => holds) fun _ _ holds => At.running holds)
  intro key
  apply Triple.bind (guarded_triple (keysStaged_quiet rfl))
  intro _
  apply Triple.bind (keysStaged_quiet rfl)
  intro _
  apply Triple.pure
  intro world _ staged
  obtain ⟨task, found, asked, held⟩ := staged
  refine ⟨task, found, asked, held.mono ?_⟩
  rintro writes slot user ⟨earlier, ⟨empty, rfl⟩, rfl⟩
  exact ⟨by simp [Write.document], tidy_posted user empty publicKeyId⟩

/-- Deleting a key keeps the slot tidy. -/
theorem deleteKey_tidy {attempts : Nat} {publicKeyId : String} :
    Triple (World.perform platform) (keySlotDiscipline platform userId) index
      (Closed index request)
      (KeysCore.deleteKey attempts userId publicKeyId : Task Id PublicKey Unit)
      (fun _ => Closed index request) fun _ => Running index request := by
  apply keys_transaction
  apply Triple.bind (keysCheckNotFound_checks publicKeyId)
  intro _
  apply Triple.bind (keysCheckLocked_checked (.text publicKeyId))
  intro _
  apply Triple.bind (keysDeleteOne_stages publicKeyId)
  intro _
  apply Triple.bind (usersUpdateOne_stages none)
  intro ok
  apply failIf_triple
  · intro _ world _ staged
    obtain ⟨task, found, asked, held⟩ := staged
    refine ⟨task, found, asked, held.mono ?_⟩
    rintro writes slot user ⟨earlier, ⟨row, one, rfl⟩, rfl⟩
    exact ⟨by simp [Write.document], tidy_deleted user one⟩
  · exact fun _ _ _ holds => At.running holds

/-- The request registers or deletes a key of the user. -/
def OfUser (userId : String) (request : Request Id) : Prop :=
  match request.body with
  | .postKey owner _ => owner = userId
  | .deleteKey owner _ => owner = userId
  | _ => False

/-- Every request of the user keeps the slot tidy. -/
theorem program_tidy {request : Request Id} (ofUser : OfUser userId request) :
    Triple (World.perform platform) (keySlotDiscipline platform userId) index
      (Closed index request) (request.program platform) (fun _ => Closed index request)
      fun _ => Running index request := by
  obtain ⟨attempts, body⟩ := request
  cases body with
  | postKey owner publicKey =>
      cases ofUser
      apply Triple.bind postKey_tidy
      intro publicKeyId
      exact Triple.pure fun _ _ holds => holds
  | deleteKey owner publicKeyId =>
      cases ofUser
      apply Triple.bind deleteKey_tidy
      intro _
      exact Triple.pure fun _ _ holds => holds
  | _ => cases ofUser

/-- Every request starts in a tidy slot. -/
theorem keySlot_starts (platform : Platform Id PublicKey) (userId : String) :
    (keySlotDiscipline platform userId).Starts (runtime platform) (fun _ _ _ => True)
      (OfUser userId) where
  invariant _ _ _ _ _ tidy := tidy
  spares index other request world different _ _ :=
    ⟨Extends.refl userId world.store, Function.update_of_ne different _ _⟩
  safe := by
    intro index request world ofUser _ enrolled
    have closed : Closed index request ((runtime platform).enroll index request world) :=
      ⟨⟨request, none, []⟩, Function.update_self _ _ _, rfl, rfl⟩
    apply Safe.mono _ enrolled (program_tidy ofUser _ enrolled closed)
    intro outcome current _ _
    exact trivial
  stable _ _ _ _ _ _ _ := trivial

/-- The move starts a key request of the user, or no commit has disturbed the request that steps. -/
def KeyMove (userId : String)
    (entry : Pool (Op Id) (Reply PublicKey) Failure (Response Id) (World Id PublicKey) ×
      Move (Choice Id PublicKey) (Request Id)) : Prop :=
  match entry.2 with
  | .start _ request => OfUser userId request
  | .step index _ => ∀ op ∈ (entry.1.tasks index).bind Program.awaited,
      Undisturbed userId index op entry.1.world

instance (userId : String) (request : Request Id) : Decidable (OfUser userId request) :=
  match request with
  | ⟨_, .postKey owner _⟩ => inferInstanceAs (Decidable (owner = userId))
  | ⟨_, .deleteKey owner _⟩ => inferInstanceAs (Decidable (owner = userId))
  | ⟨_, .postFile _ _ _ _ _⟩ => instDecidableFalse
  | ⟨_, .getFile _ _⟩ => instDecidableFalse
  | ⟨_, .putFile _ _ _ _ _⟩ => instDecidableFalse
  | ⟨_, .deleteFile _ _⟩ => instDecidableFalse
  | ⟨_, .getKey _ _⟩ => instDecidableFalse
  | ⟨_, .putKey _ _ _⟩ => instDecidableFalse

instance (userId : String)
    (entry : Pool (Op Id) (Reply PublicKey) Failure (Response Id) (World Id PublicKey) ×
      Move (Choice Id PublicKey) (Request Id)) : Decidable (KeyMove userId entry) :=
  match entry with
  | (_, .start _ request) => inferInstanceAs (Decidable (OfUser userId request))
  | (pool, .step index _) =>
      inferInstanceAs (Decidable (∀ op ∈ (pool.tasks index).bind Program.awaited,
        Undisturbed userId index op pool.world))

/-- While no commit disturbs a request between its check and its first write, every run of the
key requests of a user keeps at most one live key, and the record refers to it. -/
theorem keys_tidy {store : Store Id} {user : User}
    (registered : store.database.findUser userId = some user)
    (noReference : user.keysId = none ∨ user.keysId = some "")
    (noKey : ∀ row ∈ store.database.keys, row.userId = userId → row.forRecovery = true)
    (moves : List (Move (Choice Id PublicKey) (Request Id)))
    (undisturbed : ∀ entry ∈ history (runtime platform).advance (resting store) moves,
      KeyMove userId entry) :
    ((reached platform store moves).world.store.database.keySlot userId).Tidy platform := by
  have empty : (store.database.keySlot userId).live = [] := by
    apply List.eq_nil_iff_forall_not_mem.mpr
    intro row member
    obtain ⟨present, mine, live⟩ := Database.mem_live.mp member
    rw [noKey row present mine] at live
    cases live
  have pointer : (store.database.keySlot userId).pointer = some user.keysId :=
    congrArg (Option.map User.keysId) registered
  have started : (runtime platform).Kept (keySlotDiscipline platform userId) (fun _ _ _ => True)
      (resting store) := by
    constructor
    · refine .inl ⟨empty, ?_⟩
      show (store.database.keySlot userId).pointer = _ ∨ (store.database.keySlot userId).pointer = _
      rw [pointer]
      rcases noReference with missing | blank
      · exact .inl (congrArg some missing)
      · exact .inr (congrArg some blank)
    · intro index program found
      cases found
  have follows : ∀ entry ∈ history (runtime platform).advance (resting store) moves,
      (keySlotDiscipline platform userId).Follows (OfUser userId) entry := by
    intro entry member
    have meets := undisturbed entry member
    obtain ⟨pool, move⟩ := entry
    cases move with
    | start index request => exact meets
    | step index choice => exact meets
  exact (started.run (keySlotDiscipline_sound platform userId) (keySlot_starts platform userId)
    follows).invariant

end

/-- The user registers a key, deletes it and registers another one. -/
def keysInTurn : List (Move (Choice PlainId UInt8) (Request PlainId)) :=
  postedKey ++ [.start 1 ⟨0, .deleteKey "u" "k"⟩] ++ proceeds 1 8 ++
    [.start 2 ⟨0, .postKey "u" (some "other")⟩] ++ proceeds 2 3 ++ [.step 2 (.draw plainFile)] ++
    proceeds 2 5

/-- Three requests in turn keep the slot tidy and the last returns a key. -/
theorem keys_tidy_keysInTurn :
    ((reached plain plainStore keysInTurn).world.store.database.keySlot "u").Tidy plain ∧
      (reached plain plainStore keysInTurn).outcome 2 = some (.ok (.publicKeyId plainFile)) := by
  have registered : plainStore.database.findUser "u" = some ⟨"u", false, none⟩ := rfl
  refine ⟨?_, by decide +kernel⟩
  apply keys_tidy registered (.inl rfl) (by decide)
  decide +kernel

/-- Two registrations check before the first of them commits. -/
def racedKeys : List (Move (Choice PlainId UInt8) (Request PlainId)) :=
  [.start 0 ⟨0, .postKey "u" (some "pem")⟩, .start 1 ⟨0, .postKey "u" (some "other")⟩] ++
    proceeds 0 3 ++ proceeds 1 3 ++ [.step 0 (.draw plainKey)] ++ proceeds 0 5 ++
    [.step 1 (.draw plainFile)] ++ proceeds 1 5

/-- Two posts that overlap both return and leave the slot untidy. -/
theorem keys_race :
    (reached plain plainStore racedKeys).outcome 0 = some (.ok (.publicKeyId plainKey)) ∧
      (reached plain plainStore racedKeys).outcome 1 = some (.ok (.publicKeyId plainFile)) ∧
      ¬((reached plain plainStore racedKeys).world.store.database.keySlot "u").Tidy plain := by
  refine ⟨by decide +kernel, by decide +kernel, ?_⟩
  have two : ((reached plain plainStore racedKeys).world.store.database.keySlot "u").live.length =
      2 := by decide +kernel
  rintro (⟨empty, -⟩ | ⟨row, one, -⟩)
  · rw [empty] at two
    cases two
  · rw [one] at two
    cases two

end Holonus.Backend
