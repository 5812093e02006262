/-
This file says what each awaited operation of a request does to the rows and to the entry of one
file and keeps both coherent over every orderly step.
-/

import Holonus.Proof.Backend.FileVersion

namespace Holonus.Backend

open Holonus.Machine Holonus.File Holonus.Abstract

section
variable {Id PublicKey : Type} [DecidableEq Id] {platform : Platform Id PublicKey} {id : Id}
  {store : Store Id}

/-- Committing an insertion adds the row to its identifier. -/
theorem rowsOf_insert (row : FileRow Id) :
    (store.commit [.insertFile row]).database.rowsOf id =
      if row.id = id then store.database.rowsOf id ++ [row] else store.database.rowsOf id := by
  show List.filter _ (store.database.files ++ [row]) = _
  rw [List.filter_append]
  by_cases same : row.id = id
  · rw [if_pos same, List.filter_cons_of_pos (by exact decide_eq_true same)]
    rfl
  · rw [if_neg same, List.filter_cons_of_neg (by exact fun holds => same (of_decide_eq_true holds)),
      List.filter_nil, List.append_nil]
    rfl

/-- Committing an update changes the rows of the identifier. -/
theorem rowsOf_update (fileName mimeType : String) :
    (store.commit [.updateFile id fileName mimeType]).database.rowsOf id =
      (store.database.rowsOf id).map fun row =>
        { row with fileName := fileName, mimeType := mimeType } := by
  show List.filter _ (List.map _ store.database.files) = List.map _ (List.filter _ _)
  induction store.database.files with
  | nil => rfl
  | cons row rest ih =>
      by_cases same : row.id = id
      · simp only [List.map_cons, same, if_true, List.filter_cons, decide_true, ih]
      · simp only [List.map_cons, same, if_false, List.filter_cons, decide_false,
          Bool.false_eq_true, ih]

/-- A single write conflicts with nothing when its document is not in the log since the snapshot. -/
theorem conflicts_single {write : Write Id} {start : Database Id × Nat} {log : List (Document Id)} :
    (⟨some start, [write]⟩ : Session Id).conflicts log = false ↔
      write.document ∉ log.drop start.2 := by
  simp [Session.conflicts]

/-- The chain with a new entry under the text. -/
def Store.put (store : Store Id) (text hash : String) : Store Id :=
  { store with chain := { store.chain with fileStorage := store.chain.fileStorage.put text hash } }

omit [DecidableEq Id] in
theorem entry_put_self (store : Store Id) (text hash : String) :
    (store.put text hash).entry text = hash := by
  show (Function.update store.chain.fileStorage.entries text _ text).value = hash
  rw [Function.update_self]

omit [DecidableEq Id] in
theorem entry_put_ne {text other : String} (hash : String) (different : other ≠ text) :
    (store.put other hash).entry text = store.entry text := by
  show (Function.update store.chain.fileStorage.entries other _ text).value = _
  rw [Function.update_of_ne different.symm]
  rfl

variable {world : World Id PublicKey} {index : Nat} {task after : Local Id PublicKey}
  {choice : Choice Id PublicKey} {session : Option (Session Id)}

/-- An operation that leaves no mark and changes no store leaves the file alone. -/
theorem Turn.still (alike : Alike (platform.idText id) task after)
    (creates : Creates id after.session → Creates id task.session)
    (kept : task.isHalfway platform id = true → after.session = task.session) :
    Turn platform id world world.store task after :=
  .mild rfl rfl (fun drawn => drawn) ⟨[], (List.append_nil _).symm, List.not_mem_nil⟩ creates
    alike.isHalfway kept

/-- A halfway update does not fail to commit. -/
theorem commit_halfway (coherent : Coherent platform id world)
    (found : world.locals index = some task)
    (halfway : task.isHalfway platform id = true)
    (orderly : Orderly platform id index (.act .commitTransaction) choice world)
    {reply : Except Failure (Reply PublicKey (.act .commitTransaction))}
    (responded : respond platform world.store task.session (.act .commitTransaction) choice =
      some (reply, store, session)) :
    reply = .ok () ∧ session = none ∧ ∃ start fileName mimeType,
      task.session = some ⟨some start, [.updateFile id fileName mimeType]⟩ ∧
      store = world.store.commit [.updateFile id fileName mimeType] ∧
      Brings platform id task.request fileName mimeType
        (world.store.entry (platform.idText id)) := by
  obtain ⟨-, -, start, fileName, mimeType, staged, free, brings⟩ :=
    coherent.underway index task found halfway
  rcases respond_act responded with fails | acts
  · obtain ⟨failure, failed, -⟩ := fails
    subst failed
    have blank := orderly.fails rfl task found
    rw [blank.notHalfway] at halfway
    cases halfway
  · have committed := proceeding_eq_some acts
    rw [staged, committing, if_neg (Bool.eq_false_iff.mp (conflicts_single.mpr free))] at committed
    cases committed
    exact ⟨rfl, rfl, start, fileName, mimeType, staged, rfl, brings⟩

/-- A commit publishes an update or inserts a new row. -/
theorem commit_turn (coherent : Coherent platform id world)
    (found : world.locals index = some task)
    (ready : task.isHalfway platform id = true ∨ Inserted platform id task world.store)
    (orderly : Orderly platform id index (.act .commitTransaction) choice world)
    {reply : Except Failure (Reply PublicKey (.act .commitTransaction))}
    (responded : respond platform world.store task.session (.act .commitTransaction) choice =
      some (reply, store, session)) :
    Turn platform id world store task
      (task.after session world.store.log.length (.act .commitTransaction) reply) := by
  rcases ready with halfway | inserted
  · obtain ⟨replied, closed, start, fileName, mimeType, staged, changed, brings⟩ :=
      commit_halfway coherent found halfway orderly responded
    subst replied closed changed
    have sent := (coherent.underway index task found halfway).sent
    exact .updates fileName mimeType (rowsOf_update fileName mimeType) rfl rfl rfl halfway rfl
      ⟨brings, sent, rfl⟩
  · obtain ⟨posts, start, row, staged, prepared⟩ := inserted
    have ended : session = none := session_of_ending rfl responded
    have notHalfway (current : Local Id PublicKey) (same : current.request = task.request) :
        current.isHalfway platform id = false := by
      rw [Local.isHalfway, same, posts, Bool.false_and, Bool.false_and]
    have idle : ¬ task.isHalfway platform id = true :=
      Bool.eq_false_iff.mp (notHalfway task rfl)
    subst ended
    cases reply with
    | error failure =>
        rw [store_of_error responded]
        exact Turn.still (alike_error _ _ _ _ failure)
          (fun creating => absurd creating creates_none) fun halfway => absurd halfway idle
    | ok value =>
        obtain ⟨pending, isOpen, -, changed⟩ := commit_ok responded
        rw [staged, Option.some.injEq] at isOpen
        subst isOpen changed
        by_cases same : row.id = id
        · obtain ⟨sent, brings⟩ := prepared same
          refine Turn.inserts row ?_ rfl ?_ rfl
            ⟨_, staged, row, List.mem_singleton_self _, same⟩ rfl ⟨brings, sent, rfl⟩
          · rw [rowsOf_insert, if_pos same]
          · rw [← same]
            rfl
        · refine Turn.mild ?_ rfl (fun drawn => drawn) ⟨[.file row.id], rfl, ?_⟩
            (fun creating => absurd creating creates_none) ?_ fun halfway => absurd halfway idle
          · rw [rowsOf_insert, if_neg same]
          · intro member
            cases List.mem_singleton.mp member
            exact same rfl
          · rw [notHalfway task rfl]
            exact notHalfway _ rfl

/-- A drawn identifier is the one of the file or another one. -/
theorem draw_turn {row : FileRow Id} {userId : String} (fresh : world.store.isFresh row.id = true)
    (alike : Alike (platform.idText id) task after)
    (notHalfway : task.isHalfway platform id = false)
    (staged : after.session = some (Session.empty.stage world.store fun _ =>
      some (.insertFile row))) :
    Turn platform id world { world.store with drawn := (row.id, userId) :: world.store.drawn } task
      after := by
  by_cases same : row.id = id
  · subst same
    exact .draws rfl rfl rfl fresh (isFresh_self _ userId) alike.isHalfway
  · refine .mild rfl rfl (isFresh_drawn row.id userId)
      ⟨[], (List.append_nil _).symm, List.not_mem_nil⟩ ?_ alike.isHalfway ?_
    · rw [staged]
      rintro ⟨current, isCurrent, other, member, named⟩
      cases isCurrent
      cases List.mem_singleton.mp member
      exact absurd named same
    · intro halfway
      rw [notHalfway] at halfway
      cases halfway

/-- A created row is the row of the file or another one. -/
theorem filesCreate_turn {userId fileName mimeType hash : String}
    (opened : task.session = some Session.empty)
    (notHalfway : task.isHalfway platform id = false)
    {reply : Except Failure (Reply PublicKey (.act (.filesCreate userId fileName mimeType hash)))}
    (responded : respond platform world.store task.session
      (.act (.filesCreate userId fileName mimeType hash)) choice = some (reply, store, session)) :
    Turn platform id world store task (task.after session world.store.log.length
      (.act (.filesCreate userId fileName mimeType hash)) reply) := by
  have alike : Alike (platform.idText id) task (task.after session world.store.log.length
      (.act (.filesCreate userId fileName mimeType hash)) reply) := alike_after _ _ _ rfl reply
  cases reply with
  | error failure =>
      rw [store_of_error responded]
      apply Turn.still alike _ fun halfway => absurd halfway (Bool.eq_false_iff.mp notHalfway)
      intro creating
      rcases respond_act responded with fails | acts
      · obtain ⟨-, -, -, -, -, kept⟩ := fails
        rw [kept] at creating
        exact creating
      · obtain ⟨drawn, drew⟩ := drawing_eq_some acts
        rw [opened] at drew
        simp only [drawnInto] at drew
        split at drew <;> cases drew
  | ok new =>
      obtain ⟨fresh, changed, pending, isOpen, staged⟩ := filesCreate_ok responded
      rw [opened, Option.some.injEq] at isOpen
      subst changed isOpen staged
      exact draw_turn fresh alike notHalfway rfl

/-- An update stages no new row. -/
theorem filesUpdateOne_turn {fileId userId fileName mimeType : String}
    (opened : task.session = some Session.empty)
    (notHalfway : task.isHalfway platform id = false)
    {reply : Except Failure
      (Reply PublicKey (.act (.filesUpdateOne fileId userId fileName mimeType)))}
    (responded : respond platform world.store task.session
      (.act (.filesUpdateOne fileId userId fileName mimeType)) choice =
        some (reply, store, session)) :
    Turn platform id world store task (task.after session world.store.log.length
      (.act (.filesUpdateOne fileId userId fileName mimeType)) reply) := by
  have change := respond_change responded
  rw [change.untouched rfl]
  apply Turn.still (alike_after _ _ _ rfl reply)
  · rw [Local.session_after]
    cases change with
    | kept => exact fun creating => creating
    | closed => exact fun creating => absurd creating creates_none
    | staged _ pending plan isOpen modifies =>
        rintro ⟨current, isCurrent, row, member, -⟩
        rw [opened, Option.some.injEq] at isOpen
        subst isOpen
        cases isCurrent
        cases modifies _ _ (Option.mem_toList.mp member)
    | drew _ pending shelf new owner write creates => cases creates
  · intro halfway
    rw [notHalfway] at halfway
    cases halfway

/-- A new entry is the first one of a new file, opens an update or is for another file. -/
theorem chainSetFile_turn {fileId hash : String} (found : world.locals index = some task)
    (ready : Readies platform id task world.store (.act (.chainSetFile fileId hash)))
    (orderly : Orderly platform id index (.act (.chainSetFile fileId hash)) choice world)
    {reply : Except Failure (Reply PublicKey (.act (.chainSetFile fileId hash)))}
    (responded : respond platform world.store task.session (.act (.chainSetFile fileId hash))
      choice = some (reply, store, session)) :
    Turn platform id world store task
      (task.after session world.store.log.length (.act (.chainSetFile fileId hash)) reply) := by
  have kept : session = task.session := session_of_quiet rfl responded
  subst kept
  cases reply with
  | error failure =>
      rw [store_of_error responded]
      exact Turn.still (alike_error _ _ _ _ failure) (fun creating => creating) fun _ => rfl
  | ok value =>
      have changed : store = world.store.put fileId hash := chainSetFile_ok responded
      subst changed
      by_cases same : fileId = platform.idText id
      · subst same
        rcases ready rfl with posts | drafted
        · exact .enters rfl rfl rfl posts.1 posts.2 rfl
        · obtain ⟨updates, blank, rows, start, fileName, mimeType, staged, brings⟩ := drafted
          obtain ⟨-, calm, free⟩ := orderly.sends _ rfl task found updates
          have entry := entry_put_self world.store (platform.idText id) hash
          refine .opens rfl rfl rfl calm ?_ ?_
          · apply isHalfway_iff.mpr
            refine ⟨updates, ?_, blank.1⟩
            rw [sent_after]
            exact List.cons_ne_nil _ _
          · refine ⟨rows, ?_, start, fileName, mimeType, staged,
              conflicts_single.mp (free _ staged), ?_⟩
            · rw [entry, sent_after]
              exact List.mem_cons_self
            · rw [entry]
              exact brings
      · have unmarked : (Op.act (.chainSetFile fileId hash) : Op Id).isUnmarked
            (platform.idText id) = true := by
          show (Option.isNone (if fileId = platform.idText id then some hash else none) && true) =
            true
          rw [if_neg same]
          rfl
        exact .mild rfl (entry_put_ne hash same) (fun drawn => drawn)
          ⟨[], (List.append_nil _).symm, List.not_mem_nil⟩ (fun creating => creating)
          (alike_after _ _ _ unmarked _).isHalfway fun _ => rfl

/-- A command that is quiet and touches nothing leaves the file still. -/
theorem quiet_turn {command : Command Id} {reply : Except Failure (Reply PublicKey (.act command))}
    (unmarked : (Op.act command).isUnmarked (platform.idText id) = true)
    (isQuiet : command.isQuiet = true) (spares : (Op.act command).touches = false)
    (responded : respond platform world.store task.session (.act command) choice =
      some (reply, store, session)) :
    Turn platform id world store task
      (task.after session world.store.log.length (.act command) reply) := by
  have kept : session = task.session := session_of_quiet isQuiet responded
  subst kept
  rw [(respond_change responded).untouched spares]
  apply Turn.still (alike_after _ _ _ unmarked reply)
  · rw [Local.session_after]
    exact fun creating => creating
  · exact fun _ => Local.session_after _ _ _ _ _

/-- A command that changes the session of a request which is not halfway leaves the file still. -/
theorem control_turn {command : Command Id} {reply : Except Failure (Reply PublicKey (.act command))}
    (unmarked : (Op.act command).isUnmarked (platform.idText id) = true)
    (spares : (Op.act command).touches = false) (created : ¬ Creates id session)
    (notHalfway : task.isHalfway platform id = false)
    (responded : respond platform world.store task.session (.act command) choice =
      some (reply, store, session)) :
    Turn platform id world store task
      (task.after session world.store.log.length (.act command) reply) := by
  rw [(respond_change responded).untouched spares]
  apply Turn.still (alike_after _ _ _ unmarked reply)
  · rw [Local.session_after]
    exact fun creating => absurd creating created
  · intro halfway
    rw [notHalfway] at halfway
    cases halfway

/-- Storing content changes neither the rows nor the entry of the file. -/
theorem ipfsAdd_turn {data : Bytes} {reply : Except Failure (Reply PublicKey (.act (.ipfsAdd data)))}
    (responded : respond platform world.store task.session (.act (.ipfsAdd data)) choice =
      some (reply, store, session)) :
    Turn platform id world store task
      (task.after session world.store.log.length (.act (.ipfsAdd data)) reply) := by
  have kept : session = task.session := session_of_quiet rfl responded
  subst kept
  have alike : Alike (platform.idText id) task
      (task.after task.session world.store.log.length (.act (.ipfsAdd data)) reply) :=
    alike_after _ _ _ rfl reply
  cases reply with
  | error failure =>
      rw [store_of_error responded]
      exact Turn.still alike (fun creating => creating) fun _ => rfl
  | ok hash =>
      rw [(ipfsAdd_ok responded).2]
      exact .mild rfl rfl (fun drawn => drawn)
        ⟨[], (List.append_nil _).symm, List.not_mem_nil⟩ (fun creating => creating)
        alike.isHalfway fun _ => rfl

/-- Every orderly operation of a prepared request makes one of the turns. -/
theorem turn_of_respond {op : Op Id} (coherent : Coherent platform id world)
    (found : world.locals index = some task) (ready : Readies platform id task world.store op)
    (orderly : Orderly platform id index op choice world)
    {reply : Except Failure (Reply PublicKey op)}
    (responded : respond platform world.store task.session op choice =
      some (reply, store, session)) :
    Turn platform id world store task (task.after session world.store.log.length op reply) := by
  cases op with
  | ask query =>
      obtain ⟨-, same, kept⟩ := respond_ask responded
      subst same kept
      apply Turn.still (alike_after _ _ _ rfl reply)
      · rw [Local.session_after]
        exact fun creating => creating
      · exact fun _ => Local.session_after _ _ _ _ _
  | act command =>
      cases command with
      | startSession | logsCreate | generateKey => exact quiet_turn rfl rfl rfl responded
      | startTransaction =>
          have started := (session_of_startTransaction responded).1
          apply control_turn rfl rfl _ ready responded
          rw [started]
          exact creates_empty
      | abortTransaction | endSession =>
          have ended := session_of_ending rfl responded
          apply control_turn rfl rfl _ ready responded
          rw [ended]
          exact creates_none
      | commitTransaction => exact commit_turn coherent found ready orderly responded
      | filesCreate userId fileName mimeType hash =>
          exact filesCreate_turn ready.1 ready.2 responded
      | filesUpdateOne fileId userId fileName mimeType =>
          exact filesUpdateOne_turn ready.1 ready.2 responded
      | chainSetFile fileId hash => exact chainSetFile_turn found ready orderly responded
      | ipfsAdd data => exact ipfsAdd_turn responded
      | _ => exact ready.elim

/-- The requests on one file prepare their operations and take orderly steps. -/
def versionDiscipline (platform : Platform Id PublicKey) (id : Id) :
    Discipline (Op Id) (World Id PublicKey) (Choice Id PublicKey) where
  Invariant := Coherent platform id
  Rely := Spares platform id
  Admits := Orderly platform id
  Demands index op world := ∀ task, world.locals index = some task →
    Readies platform id task world.store op

/-- A performed operation is a turn of its task. -/
theorem turn_of_perform {op : Op Id} (coherent : Coherent platform id world)
    (ready : ∀ task, world.locals index = some task → Readies platform id task world.store op)
    (orderly : Orderly platform id index op choice world)
    {reply : Except Failure (Reply PublicKey op)} {next : World Id PublicKey}
    (performed : world.perform platform index op choice = some (reply, next)) :
    ∃ task after, Moves (platform.idText id) index world next task after ∧
      Turn platform id world next.store task after := by
  obtain ⟨task, session, found, responded, locals⟩ := perform_inv performed
  exact ⟨task, _, ⟨found, locals, grown_after _ _ _ reply⟩,
    turn_of_respond coherent found (ready task found) orderly responded⟩

/-- Spared stretches compose. -/
theorem Spares.trans {first second third : World Id PublicKey}
    (left : Spares platform id index first second) (right : Spares platform id index second third) :
    Spares platform id index first third := by
  obtain ⟨more, appended, kept⟩ := left.entry
  obtain ⟨rest, added, held⟩ := right.entry
  have present (rows : first.store.database.rowsOf id ≠ []) :
      second.store.database.rowsOf id ≠ [] := by
    obtain ⟨row, member⟩ := List.exists_mem_of_ne_nil _ rows
    obtain ⟨other, stays, -⟩ := left.owners row.userId ⟨row, member, rfl⟩
    exact List.ne_nil_of_mem stays
  refine ⟨right.same.trans left.same, fun userId owned => right.owners userId
    (left.owners userId owned), fun _ _ _ sourced => right.sourced _ _ _ (left.sourced _ _ _ sourced),
    ⟨more ++ rest, ?_, ?_⟩, ?_⟩
  · rw [added, appended, List.append_assoc]
  · intro rows absent calm
    rw [List.mem_append, not_or] at absent
    obtain ⟨between, later⟩ := held (present rows) absent.2 calm
    obtain ⟨before, earlier⟩ := kept rows absent.1 between
    exact ⟨before, later.trans earlier⟩
  · intro current found creating
    have later := right.created current (left.same.trans found) creating
    exact later.trans (left.created current found creating)

/-- Every operation keeps the file coherent. -/
theorem versionDiscipline_sound (platform : Platform Id PublicKey) (id : Id) :
    (versionDiscipline platform id).Sound (World.perform platform) where
  rely_refl index world := ⟨rfl, fun _ owned => owned, fun _ _ _ sourced => sourced,
    ⟨[], (List.append_nil _).symm, fun _ _ calm => ⟨calm, rfl⟩⟩, fun _ _ _ => rfl⟩
  rely_trans index first second third left right := left.trans right
  keeps := by
    intro index op choice world reply next coherent ready orderly performed
    obtain ⟨task, after, moves, turn⟩ := turn_of_perform coherent ready orderly performed
    exact coherent.turn moves turn
  spares := by
    intro index other op choice world reply next different coherent ready orderly performed
    obtain ⟨task, after, moves, turn⟩ := turn_of_perform coherent ready orderly performed
    exact coherent.spares moves turn different

end

end Holonus.Backend
