/-
This file proves over whole runs that a read returns one version of a file and that a failed update
changes nothing.
-/

import Holonus.Proof.Backend.Encryption
import Holonus.Proof.Backend.FileRequests

namespace Holonus.Backend

open Holonus.Machine Holonus.File Holonus.Abstract

section
variable {Id PublicKey : Type}

variable [DecidableEq Id]

/-- The request posts a file, or it reads or updates this file under some text of its identifier. -/
def OfFile (platform : Platform Id PublicKey) (id : Id) (request : Request Id) : Prop :=
  match request.body with
  | .postFile _ _ _ _ _ => True
  | .getFile _ fileId => platform.castId fileId = some id
  | .putFile _ fileId _ _ _ => platform.castId fileId = some id
  | _ => False

instance (platform : Platform Id PublicKey) (id : Id) (request : Request Id) :
    Decidable (OfFile platform id request) :=
  match request with
  | ⟨_, .postFile _ _ _ _ _⟩ => instDecidableTrue
  | ⟨_, .getFile _ fileId⟩ => inferInstanceAs (Decidable (platform.castId fileId = some id))
  | ⟨_, .putFile _ fileId _ _ _⟩ => inferInstanceAs (Decidable (platform.castId fileId = some id))
  | ⟨_, .deleteFile _ _⟩ => instDecidableFalse
  | ⟨_, .postKey _ _⟩ => instDecidableFalse
  | ⟨_, .getKey _ _⟩ => instDecidableFalse
  | ⟨_, .putKey _ _ _⟩ => instDecidableFalse
  | ⟨_, .deleteKey _ _⟩ => instDecidableFalse

variable {platform : Platform Id PublicKey} {id : Id} {index : Nat}

/-- A read returns one version, and a failed request is blank. -/
def Versioned (platform : Platform Id PublicKey) (id : Id) (index : Nat)
    (outcome : Except Failure (Response Id)) (world : World Id PublicKey) : Prop :=
  ∃ task, world.locals index = some task ∧ match outcome with
    | .ok response => ∀ fileName mimeType attachement,
        response = .file fileName mimeType attachement →
          Sourced platform id world fileName mimeType (platform.address attachement)
    | .error _ => Blank platform id task

/-- Every request on the file ends versioned. -/
theorem program_versioned {request : Request Id} (ofFile : OfFile platform id request)
    {world : World Id PublicKey} (coherent : Coherent platform id world)
    (blank : Unmarked platform id index request world) :
    Safe (World.perform platform) (versionDiscipline platform id) index
      (Versioned platform id index) (request.program platform) world := by
  have ends {Value : Type} {program : Task Id PublicKey Value}
      {After : Value → World Id PublicKey → Prop} (respond : Value → Response Id)
      (triple : Triple (World.perform platform) (versionDiscipline platform id) index
        (Unmarked platform id index request) program After
        fun _ => Unmarked platform id index request)
      (after : ∀ value current, After value current → ∃ task, current.locals index = some task ∧
        ∀ fileName mimeType attachement, respond value = .file fileName mimeType attachement →
          Sourced platform id current fileName mimeType (platform.address attachement)) :
      Safe (World.perform platform) (versionDiscipline platform id) index
        (Versioned platform id index) (do return respond (← program)) world := by
    apply Safe.bind
    apply Safe.mono _ coherent (triple world coherent blank)
    intro outcome current _ ended
    cases outcome with
    | ok value => exact after value current ended
    | error failure =>
        obtain ⟨task, found, -, isBlank⟩ := ended
        exact ⟨task, found, isBlank⟩
  have writes {Value : Type} {program : Task Id PublicKey Value}
      {Holds : Local Id PublicKey → Store Id → Prop} (respond : Value → Response Id)
      (triple : Triple (World.perform platform) (versionDiscipline platform id) index
        (Unmarked platform id index request) program (fun _ => At index request Holds)
        fun _ => Unmarked platform id index request)
      (noFile : ∀ value fileName mimeType attachement,
        respond value ≠ .file fileName mimeType attachement) :
      Safe (World.perform platform) (versionDiscipline platform id) index
        (Versioned platform id index) (do return respond (← program)) world := by
    apply ends respond triple
    intro value current holds
    obtain ⟨task, found, -, -⟩ := holds
    exact ⟨task, found, fun _ _ _ same => absurd same (noFile value _ _ _)⟩
  obtain ⟨attempts, body⟩ := request
  cases body with
  | postFile userId publicKeyId fileName mimeType attachement =>
      exact writes .fileId (postFile_version rfl rfl) fun _ _ _ _ same => by cases same
  | getFile userId fileId =>
      apply ends (fun file => .file file.1 file.2.1 file.2.2) (getFile_version ofFile userId)
      intro file current known
      obtain ⟨⟨task, found, -, -⟩, sourced⟩ := known
      refine ⟨task, found, ?_⟩
      intro fileName mimeType attachement same
      cases same
      exact sourced
  | putFile userId fileId fileName mimeType attachement =>
      exact writes (fun _ => .nothing)
        (putFile_version ofFile (decide_eq_true ofFile) (if_pos ofFile))
        fun _ _ _ _ same => by cases same
  | _ => cases ofFile

section
variable {world : World Id PublicKey} {request : Request Id}
  (free : (runtime platform).free index world = true)
include free

/-- A started request is not yet in the world. -/
theorem ne_of_free {other : Nat} {task : Local Id PublicKey}
    (found : world.locals other = some task) : other ≠ index := by
  rintro rfl
  change (world.locals other).isNone = true at free
  rw [found] at free
  cases free

/-- Enrolling a request keeps the data of the others. -/
theorem locals_enroll {other : Nat} {task : Local Id PublicKey}
    (found : world.locals other = some task) :
    ((runtime platform).enroll index request world).locals other = some task := by
  show Function.update world.locals index _ other = _
  rw [Function.update_of_ne (ne_of_free free found), found]

theorem sourced_enroll {fileName mimeType hash : String}
    (sourced : Sourced platform id world fileName mimeType hash) :
    Sourced platform id ((runtime platform).enroll index request world) fileName mimeType hash := by
  obtain ⟨writer, task, found, authors⟩ := sourced
  exact ⟨writer, task, locals_enroll free found, authors⟩

/-- A moment that is calm after an enrolment was calm before it. -/
theorem calm_enroll (calm : Calm platform id
    ((runtime platform).enroll index request world)) : Calm platform id world :=
  fun other task found => calm other task (locals_enroll free found)

omit free in
/-- A property of every task is checked for the started one and for the others. -/
theorem each_enroll {Holds : Nat → Local Id PublicKey → Prop} (mine : Holds index ⟨request, none, []⟩)
    (others : ∀ other task, world.locals other = some task → Holds other task) :
    ∀ other task, ((runtime platform).enroll index request world).locals other = some task →
      Holds other task := by
  exact forall_update_some mine fun other task _ found => others other task found

omit free in
/-- A new request has no property that only one may have. -/
theorem sole_enroll {Holds : Local Id PublicKey → Prop} (sole : Sole Holds world)
    (never : ¬ Holds ⟨request, none, []⟩) :
    Sole Holds ((runtime platform).enroll index request world) := by
  refine each_enroll (fun holds => absurd holds never) ?_
  intro first one found holds
  refine each_enroll (fun started => absurd started never) ?_
  exact sole first one found holds

/-- Enrolling a request keeps the file coherent. -/
theorem Coherent.enroll (coherent : Coherent platform id world) :
    Coherent platform id ((runtime platform).enroll index request world) := by
  have idle : ¬ (⟨request, none, []⟩ : Local Id PublicKey).isHalfway platform id = true :=
    fun halfway => (isHalfway_iff.mp halfway).2.1 rfl
  refine ⟨coherent.drawn, ?_, sole_enroll coherent.oneCreator creates_none, ?_,
    sole_enroll coherent.oneUpdate idle, ?_⟩
  · exact each_enroll (fun creating => absurd creating creates_none) coherent.created
  · exact each_enroll (fun halfway => absurd halfway idle) coherent.underway
  · intro calm row member
    exact sourced_enroll free (coherent.settled (calm_enroll free calm) row member)

end

/-- Every request starts in a coherent file. -/
theorem version_starts (platform : Platform Id PublicKey) (id : Id) :
    (versionDiscipline platform id).Starts (runtime platform) (Versioned platform id)
      (OfFile platform id) where
  invariant _ _ _ _ free coherent := coherent.enroll free
  spares index other request world different free _ := by
    refine ⟨Function.update_of_ne different _ _, fun _ owned => owned,
      fun _ _ _ sourced => sourced_enroll free sourced, ⟨[], (List.append_nil _).symm, ?_⟩,
      fun _ _ _ => rfl⟩
    exact fun _ _ calm => ⟨calm_enroll free calm, rfl⟩
  safe index request world ofFile _ enrolled := by
    apply program_versioned ofFile enrolled
    exact ⟨⟨request, none, []⟩, Function.update_self _ _ _, rfl, rfl, fun _ => rfl⟩
  stable index outcome first second spares _ versioned := by
    obtain ⟨task, found, ended⟩ := versioned
    refine ⟨task, spares.same.trans found, ?_⟩
    cases outcome with
    | ok response => exact fun _ _ _ same => spares.sourced _ _ _ (ended _ _ _ same)
    | error failure => exact ended

/-- The move starts a request on the file or makes an orderly step. -/
def VersionMoveGiven (platform : Platform Id PublicKey) (id : Id)
    (IsCalm : World Id PublicKey → Prop)
    (entry : Pool (Op Id) (Reply PublicKey) Failure (Response Id) (World Id PublicKey) ×
      Move (Choice Id PublicKey) (Request Id)) : Prop :=
  match entry.2 with
  | .start _ request => OfFile platform id request
  | .step index choice => ∀ op ∈ (entry.1.tasks index).bind Program.awaited,
      OrderlyGiven platform id (IsCalm entry.1.world) index op choice entry.1.world

abbrev VersionMove (platform : Platform Id PublicKey) (id : Id) :=
  VersionMoveGiven platform id (Calm platform id)

section
variable {store : Store Id} {moves : List (Move (Choice Id PublicKey) (Request Id))}

/-- Every orderly run keeps the discipline of the file. -/
theorem reached_versioned (absent : ∀ row ∈ store.database.files, row.id ≠ id)
    (orderly : ∀ entry ∈ history (runtime platform).advance (resting store) moves,
      VersionMove platform id entry) :
    (runtime platform).Kept (versionDiscipline platform id) (Versioned platform id)
      (reached platform store moves) := by
  have empty : store.database.rowsOf id = [] := by
    apply List.eq_nil_iff_forall_not_mem.mpr
    intro row member
    obtain ⟨present, named⟩ := mem_rowsOf.mp member
    exact absent row present named
  have started : (runtime platform).Kept (versionDiscipline platform id) (Versioned platform id)
      (resting store) := by
    refine ⟨⟨fun present => absurd empty present, ?_, ?_, ?_, ?_, ?_⟩, ?_⟩
    · exact fun _ _ found => nomatch found
    · exact fun _ _ found => nomatch found
    · exact fun _ _ found => nomatch found
    · exact fun _ _ found => nomatch found
    · intro _ row member
      change row ∈ store.database.rowsOf id at member
      rw [empty] at member
      cases member
    · exact fun _ _ found => nomatch found
  apply started.run (versionDiscipline_sound platform id) (version_starts platform id)
  intro entry member
  have meets := orderly entry member
  obtain ⟨pool, move⟩ := entry
  cases move with
  | start index request => exact meets
  | step index choice => exact meets

/-- Requests stay in the world and keep their marks. -/
theorem grown_run (text : String)
    {pool : Pool (Op Id) (Reply PublicKey) Failure (Response Id) (World Id PublicKey)}
    {task : Local Id PublicKey} (found : pool.world.locals index = some task)
    (moves : List (Move (Choice Id PublicKey) (Request Id))) :
    ∃ after, (run (runtime platform).advance pool moves).world.locals index = some after ∧
      Grown text task after := by
  let Holds (current : Pool (Op Id) (Reply PublicKey) Failure (Response Id) (World Id PublicKey)) :=
    ∃ after, current.world.locals index = some after ∧ Grown text task after
  apply run_invariant (fun _ => True) Holds ⟨task, found, Grown.refl task⟩ _ fun _ _ => trivial
  intro current move next _ holds advanced
  obtain ⟨after, located, grown⟩ := holds
  cases move with
  | start other request =>
      obtain ⟨free, started⟩ := (runtime platform).advance_start advanced
      rw [started]
      exact ⟨after, locals_enroll free located, grown⟩
  | step other choice =>
      obtain ⟨op, resume, reply, world, -, performed, stepped⟩ :=
        (runtime platform).advance_step advanced
      obtain ⟨mover, session, present, -, locals⟩ := perform_inv performed
      rw [stepped]
      by_cases same : index = other
      · subst same
        rw [located, Option.some.injEq] at present
        subst present
        refine ⟨_, ?_, grown.trans (grown_after after session current.world.store.log.length reply)⟩
        rw [locals, Function.update_self]
      · refine ⟨after, ?_, grown⟩
        rw [locals, Function.update_of_ne same, located]

/-- The rows of the file and its entry on the chain. -/
def Store.version (store : Store Id) (platform : Platform Id PublicKey) (id : Id) :
    List (FileRow Id) × String :=
  (store.database.rowsOf id, store.entry (platform.idText id))

/-- An orderly step of the requests is a turn of the file. -/
theorem advance_turn
    {pool next : Pool (Op Id) (Reply PublicKey) Failure (Response Id) (World Id PublicKey)}
    {choice : Choice Id PublicKey}
    (kept : (runtime platform).Kept (versionDiscipline platform id) (Versioned platform id) pool)
    (orderly : VersionMove platform id (pool, .step index choice))
    (advanced : (runtime platform).advance pool (.step index choice) = .ok next) :
    ∃ task after, Moves (platform.idText id) index pool.world next.world task after ∧
      Turn platform id pool.world next.world.store task after := by
  obtain ⟨op, resume, reply, world, awaits, performed, stepped⟩ :=
    (runtime platform).advance_step advanced
  have owed := kept.demands (versionDiscipline_sound platform id).rely_refl awaits
  have meets : Orderly platform id index op choice pool.world := by
    apply orderly op
    show (pool.tasks index).bind Program.awaited = some op
    rw [awaits]
    rfl
  rw [stepped]
  exact turn_of_perform kept.invariant owed meets performed

/-- No step of a failed update has changed the version. -/
theorem failed_update_unchanged (absent : ∀ row ∈ store.database.files, row.id ≠ id)
    {earlier later : List (Move (Choice Id PublicKey) (Request Id))} {choice : Choice Id PublicKey}
    (orderly : ∀ entry ∈ history (runtime platform).advance (resting store)
      (earlier ++ .step index choice :: later), VersionMove platform id entry)
    {task : Local Id PublicKey}
    (found : (reached platform store (earlier ++ .step index choice :: later)).world.locals index =
      some task)
    (updates : task.request.body.updates platform id = true)
    (blank : Blank platform id task) :
    (reached platform store (earlier ++ [.step index choice])).world.store.version platform id =
      (reached platform store earlier).world.store.version platform id := by
  rw [history_append] at orderly
  have kept := reached_versioned absent fun entry member =>
    orderly entry (List.mem_append_left _ member)
  cases advanced : (runtime platform).advance (reached platform store earlier)
      (.step index choice) with
  | error reason =>
      have same : reached platform store (earlier ++ [.step index choice]) =
          reached platform store earlier := (run_append _ _ _).trans (settle_error advanced)
      rw [same]
  | ok next =>
      have now : reached platform store (earlier ++ [.step index choice]) = next :=
        (run_append _ _ _).trans (settle_ok advanced)
      have whole : reached platform store (earlier ++ .step index choice :: later) =
          run (runtime platform).advance next later := by
        rw [← now, List.append_cons]
        exact run_append _ _ _
      have entered : VersionMove platform id (reached platform store earlier, .step index choice) := by
        apply orderly _ (List.mem_append_right _ _)
        change _ ∈ history _ (reached platform store earlier) _
        rw [history_ok later advanced]
        exact List.mem_cons_self
      obtain ⟨before, after, moved, turn⟩ := advance_turn kept entered advanced
      obtain ⟨last, located, grown⟩ := grown_run (platform.idText id) moved.moved later
      rw [whole, located, Option.some.injEq] at found
      subst found
      rw [grown.request] at updates
      obtain ⟨rows, entry⟩ := turn.unchanged moved.grown (grown.blank blank) updates
      rw [now]
      exact Prod.ext rows entry

/-- Over every orderly run of requests that may name the file by any text of its identifier, the name,
the type and the content that a read returns come from one post or update that has committed and does
not fail, and an update that fails changes nothing. -/
theorem reads_one_version (absent : ∀ row ∈ store.database.files, row.id ≠ id)
    (orderly : ∀ entry ∈ history (runtime platform).advance (resting store) moves,
      VersionMove platform id entry) :
    (∀ reader fileName mimeType attachement,
      (reached platform store moves).outcome reader =
        some (.ok (.file fileName mimeType attachement)) →
      ∃ writer task key content, (reached platform store moves).world.locals writer = some task ∧
        task.request.body.content platform id = some (fileName, mimeType, content) ∧
        attachement = platform.encrypt key content ∧
        platform.address attachement ∈ task.sent (platform.idText id) ∧
        task.hasCommitted = true ∧
        ∀ failure, (reached platform store moves).outcome writer ≠ some (.error failure)) ∧
    ∀ earlier index choice later, moves = earlier ++ .step index choice :: later →
      ∀ task, (reached platform store moves).world.locals index = some task →
        task.request.body.updates platform id = true →
        ∀ failure, (reached platform store moves).outcome index = some (.error failure) →
          (reached platform store (earlier ++ [.step index choice])).world.store.version platform id =
            (reached platform store earlier).world.store.version platform id := by
  constructor
  · intro reader fileName mimeType attachement ended
    have kept := reached_versioned absent orderly
    obtain ⟨current, -, returned⟩ := kept.finished ended
    obtain ⟨writer, task, found, ⟨key, content, brought, addressed⟩, sent, committed⟩ :=
      returned _ _ _ rfl
    refine ⟨writer, task, key, content, found, brought, platform.address_injective addressed, sent,
      committed, ?_⟩
    intro failure failed
    obtain ⟨same, located, blank⟩ := kept.finished failed
    rw [found, Option.some.injEq] at located
    subst located
    rw [blank.1] at committed
    cases committed
  · intro earlier index choice later parts task found updates failure failed
    obtain ⟨same, located, blank⟩ := (reached_versioned absent orderly).finished failed
    rw [found, Option.some.injEq] at located
    subst located
    subst parts
    exact failed_update_unchanged absent orderly found updates blank

end

section
variable {store : Store Id} {moves : List (Move (Choice Id PublicKey) (Request Id))} (bound : Nat)

/-- Only started requests are in the world. -/
theorem locals_of_started (started : ∀ move ∈ moves, move.startsBelow bound = true)
    (later : bound ≤ index) :
    (reached platform store moves).world.locals index = none := by
  let Holds (pool : Pool (Op Id) (Reply PublicKey) Failure (Response Id) (World Id PublicKey)) :=
    pool.world.locals index = none
  apply run_invariant (fun entry => entry.2.startsBelow bound = true) Holds rfl
  · intro current move next admitted free advanced
    cases move with
    | start other request =>
        obtain ⟨-, next⟩ := (runtime platform).advance_start advanced
        have below : other < bound := of_decide_eq_true admitted
        rw [next]
        show Function.update current.world.locals other _ index = none
        rw [Function.update_of_ne (by omega)]
        exact free
    | step other choice =>
        obtain ⟨op, resume, reply, world, -, performed, stepped⟩ :=
          (runtime platform).advance_step advanced
        obtain ⟨task, session, found, -, locals⟩ := perform_inv performed
        have different : index ≠ other := by
          rintro rfl
          rw [show current.world.locals index = none from free] at found
          cases found
        rw [stepped]
        show world.locals index = none
        rw [locals, Function.update_of_ne different]
        exact free
  · intro entry member
    obtain ⟨first, rest, next, parts, -⟩ := split_of_history member
    apply started
    rw [parts]
    exact List.mem_append_right _ List.mem_cons_self

/-- No update of the file with an index below the bound is halfway. -/
def CalmBelow (platform : Platform Id PublicKey) (id : Id) (bound : Nat)
    (world : World Id PublicKey) : Prop :=
  ∀ index < bound, ∀ task ∈ world.locals index, task.isHalfway platform id = false

/-- The bounded condition suffices for a run that starts only requests below the bound. -/
theorem versionMove_of_below (started : ∀ move ∈ moves, move.startsBelow bound = true)
    (orderly : ∀ entry ∈ history (runtime platform).advance (resting store) moves,
      VersionMoveGiven platform id (CalmBelow platform id bound) entry) :
    ∀ entry ∈ history (runtime platform).advance (resting store) moves,
      VersionMove platform id entry := by
  intro entry member
  obtain ⟨first, rest, next, parts, same, -⟩ := split_of_history member
  have below : ∀ move ∈ first, move.startsBelow bound = true := by
    intro move present
    apply started
    rw [parts]
    exact List.mem_append_left _ present
  have calm (settled : CalmBelow platform id bound entry.1.world) :
      Calm platform id entry.1.world := by
    intro index task found
    by_cases early : index < bound
    · exact settled index early task found
    · rw [← same] at found
      rw [show (run (runtime platform).advance (resting store) first).world.locals index = none from
        locals_of_started bound below (Nat.le_of_not_lt early)] at found
      cases found
  have meets := orderly entry member
  obtain ⟨pool, move⟩ := entry
  cases move with
  | start index request => exact meets
  | step index choice =>
      intro op awaited
      obtain ⟨fails, reads, sends⟩ := meets op awaited
      refine ⟨fails, ?_, ?_⟩
      · intro fileId isRead
        obtain ⟨named, settled, unchanged⟩ := reads fileId isRead
        exact ⟨named, calm settled, unchanged⟩
      · intro fileId isSend task found updates
        obtain ⟨named, settled, free⟩ := sends fileId isSend task found updates
        exact ⟨named, calm settled, free⟩

instance (task : Local Id PublicKey) : Decidable (Blank platform id task) :=
  inferInstanceAs (Decidable (_ ∧ _))

instance (world : World Id PublicKey) : Decidable (CalmBelow platform id bound world) :=
  inferInstanceAs (Decidable (∀ index < bound, ∀ task ∈ world.locals index, _))

set_option synthInstance.maxSize 512 in
instance (calm : Prop) [Decidable calm] (op : Op Id) (choice : Choice Id PublicKey)
    (world : World Id PublicKey) :
    Decidable (OrderlyGiven platform id calm index op choice world) :=
  decidable_of_iff (_ ∧ _ ∧ _) ⟨fun holds => ⟨holds.1, holds.2.1, holds.2.2⟩,
    fun orderly => ⟨orderly.fails, orderly.reads, orderly.sends⟩⟩

instance (IsCalm : World Id PublicKey → Prop) [∀ world, Decidable (IsCalm world)]
    (entry : Pool (Op Id) (Reply PublicKey) Failure (Response Id) (World Id PublicKey) ×
      Move (Choice Id PublicKey) (Request Id)) :
    Decidable (VersionMoveGiven platform id IsCalm entry) :=
  match entry with
  | (_, .start _ request) => inferInstanceAs (Decidable (OfFile platform id request))
  | (pool, .step index choice) =>
      inferInstanceAs (Decidable (∀ op ∈ (pool.tasks index).bind Program.awaited,
        OrderlyGiven platform id (IsCalm pool.world) index op choice pool.world))

end

end

/-- The file is posted. -/
def posting (index : Nat) : List (Move (Choice PlainId UInt8) (Request PlainId)) :=
  .start index postRequest :: proceeds index 10 ++ .step index (.draw plainFile) :: proceeds index 4

/-- The file is read. -/
def reading (index : Nat) : List (Move (Choice PlainId UInt8) (Request PlainId)) :=
  .start index getRequest :: proceeds index 8

/-- An update of the file fails after this many steps from its new key. -/
def failingUpdate (index count : Nat) : List (Move (Choice PlainId UInt8) (Request PlainId)) :=
  .start index putRequest :: proceeds index 6 ++ .step index (.generate 9) :: proceeds index count ++
    .step index (.fail .timeout) :: proceeds index 2

/-- A read overlaps with an update. -/
def overlapping (reader writer : Nat) : List (Move (Choice PlainId UInt8) (Request PlainId)) :=
  .start reader getRequest :: .start writer putRequest :: proceeds reader 3 ++ proceeds writer 6 ++
    .step writer (.generate 5) :: proceeds writer 3 ++ proceeds reader 2 ++ proceeds writer 3 ++
      proceeds reader 3

/-- An update fails before its entry, and a read overlaps with the next update. -/
def versionRun : List (Move (Choice PlainId UInt8) (Request PlainId)) :=
  posting 0 ++ reading 1 ++ failingUpdate 2 0 ++ overlapping 3 4

/-- Each of the two reads shows one version, the second that of the overlapping update. -/
theorem versionRun_one_version :
    (reached plain keyedStore versionRun).outcome 1 =
        some (.ok (.file "name" "mime" [3, 7])) ∧
      (reached plain keyedStore versionRun).outcome 2 =
        some (.error (.notAcceptable Messages.ipfsAddError)) ∧
      (reached plain keyedStore versionRun).outcome 3 =
        some (.ok (.file "new" "mime" [5, 8])) ∧
      ∃ writer task key content,
        (reached plain keyedStore versionRun).world.locals writer = some task ∧
        task.request.body.content plain plainFile = some ("new", "mime", content) ∧
        [5, 8] = plain.encrypt key content ∧
        ∀ failure, (reached plain keyedStore versionRun).outcome writer ≠ some (.error failure) := by
  have absent : ∀ row ∈ keyedStore.database.files, row.id ≠ plainFile := by decide +kernel
  have orderly : ∀ entry ∈ history (runtime plain).advance (resting keyedStore) versionRun,
      VersionMove plain plainFile entry := by
    apply versionMove_of_below 5
    · decide
    · decide +kernel
  have returned : (reached plain keyedStore versionRun).outcome 3 =
      some (.ok (.file "new" "mime" [5, 8])) := by decide +kernel
  refine ⟨by decide +kernel, by decide +kernel, returned, ?_⟩
  obtain ⟨writer, task, key, content, found, brought, encrypted, -, -, unfailing⟩ :=
    (reads_one_version absent orderly).1 3 "new" "mime" [5, 8] returned
  exact ⟨writer, task, key, content, found, brought, encrypted, unfailing⟩

/-- An update fails after its entry, between two reads. -/
def mixedRun : List (Move (Choice PlainId UInt8) (Request PlainId)) :=
  posting 0 ++ reading 1 ++ failingUpdate 2 3 ++ reading 3

/-- The second read returns the old name with a content that no request brought under it. -/
theorem failed_update_mixes :
    (reached plain keyedStore mixedRun).outcome 1 = some (.ok (.file "name" "mime" [3, 7])) ∧
      (reached plain keyedStore mixedRun).outcome 2 = some (.error .timeout) ∧
      (reached plain keyedStore mixedRun).outcome 3 = some (.ok (.file "name" "mime" [9, 8])) ∧
      ∀ index request, Move.start index request ∈ mixedRun → ∀ key content,
        request.body.content plain plainFile = some ("name", "mime", content) →
          plain.encrypt key content ≠ [9, 8] := by
  refine ⟨by decide +kernel, by decide +kernel, by decide +kernel, ?_⟩
  have asked : (mixedRun.all fun move => match move with
      | .start _ request =>
          decide (request = postRequest ∨ request = getRequest ∨ request = putRequest)
      | .step _ _ => true) = true := by decide
  intro index request started key content brought
  rcases of_decide_eq_true (List.all_eq_true.mp asked _ started) with rfl | rfl | rfl
  · cases brought
    intro same
    cases (List.cons.inj same).2
  · cases brought
  · simp [putRequest, Body.content] at brought

end Holonus.Backend
