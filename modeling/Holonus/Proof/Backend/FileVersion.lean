/-
This file abstracts one file to its rows and its entry on the chain and follows both through the
awaited operations of all requests.
-/

import Holonus.Proof.Backend.Rules

namespace Holonus.Backend

open Holonus.Machine Holonus.File Holonus.Abstract

section
variable {Id PublicKey : Type} {text : String}

/-- The operation writes this hash under the text. -/
def Op.sends (text : String) : Op Id → Option String
  | .act (.chainSetFile fileId hash) => if fileId = text then some hash else none
  | _ => none

def Op.commits : Op Id → Bool
  | .act .commitTransaction => true
  | _ => false

/-- The operation reads the entry of a file under this text. -/
def Op.readsChain : Op Id → Option String
  | .ask (.chainGetFile fileId) => some fileId
  | _ => none

/-- The operation writes the entry of a file under this text. -/
def Op.writesChain : Op Id → Option String
  | .act (.chainSetFile fileId _) => some fileId
  | _ => none

/-- The hashes that the request has written under the text, the latest first. -/
def Local.sent (text : String) (task : Local Id PublicKey) : List String :=
  task.trail.filterMap fun event => event.op.sends text

def Local.hasCommitted (task : Local Id PublicKey) : Bool :=
  task.trail.any fun event => event.op.commits

/-- The marks of a request are what it has written for the file and whether it has committed. -/
structure Alike (text : String) (task after : Local Id PublicKey) : Prop where
  request : after.request = task.request
  sent : after.sent text = task.sent text
  committed : after.hasCommitted = task.hasCommitted

/-- The operation leaves no mark. -/
def Op.isUnmarked (text : String) (op : Op Id) : Bool := (op.sends text).isNone && !op.commits

/-- An operation without a mark keeps the marks of its request. -/
theorem alike_after (task : Local Id PublicKey) (session : Option (Session Id)) (moment : Nat)
    {op : Op Id} (unmarked : op.isUnmarked text = true)
    (reply : Except Failure (Reply PublicKey op)) :
    Alike text task (task.after session moment op reply) := by
  rw [Op.isUnmarked, Bool.and_eq_true, Option.isNone_iff_eq_none, Bool.not_eq_true'] at unmarked
  cases reply with
  | ok value =>
      refine ⟨rfl, List.filterMap_cons_none unmarked.1, ?_⟩
      show (op.commits || task.hasCommitted) = task.hasCommitted
      rw [unmarked.2, Bool.false_or]
  | error failure => exact ⟨rfl, rfl, rfl⟩

/-- A failed operation keeps the marks of its request. -/
theorem alike_error (task : Local Id PublicKey) (session : Option (Session Id)) (moment : Nat)
    (op : Op Id) (failure : Failure) :
    Alike text task (task.after session moment op (.error failure)) := ⟨rfl, rfl, rfl⟩

/-- A written entry is the latest one that the request has sent. -/
theorem sent_after (task : Local Id PublicKey) (session : Option (Session Id)) (moment : Nat)
    {hash : String} (value : Reply PublicKey (.act (.chainSetFile text hash) : Op Id)) :
    (task.after session moment (.act (.chainSetFile text hash)) (.ok value)).sent text =
      hash :: task.sent text :=
  List.filterMap_cons_some (if_pos rfl)

/-- Requests keep their marks. -/
structure Grown (text : String) (task after : Local Id PublicKey) : Prop where
  request : after.request = task.request
  sent : ∀ hash ∈ task.sent text, hash ∈ after.sent text
  committed : task.hasCommitted = true → after.hasCommitted = true

/-- Every request has grown from itself. -/
theorem Grown.refl (task : Local Id PublicKey) : Grown text task task :=
  ⟨rfl, fun _ member => member, id⟩

/-- Growth composes. -/
theorem Grown.trans {first second third : Local Id PublicKey} (left : Grown text first second)
    (right : Grown text second third) : Grown text first third :=
  ⟨right.request.trans left.request, fun hash member => right.sent hash (left.sent hash member),
    fun committed => right.committed (left.committed committed)⟩

/-- Every operation keeps the marks that its request has. -/
theorem grown_after (task : Local Id PublicKey) (session : Option (Session Id)) (moment : Nat)
    {op : Op Id} (reply : Except Failure (Reply PublicKey op)) :
    Grown text task (task.after session moment op reply) := by
  cases reply with
  | error failure => exact ⟨rfl, fun _ member => member, id⟩
  | ok value =>
      refine ⟨rfl, ?_, ?_⟩
      · intro hash member
        obtain ⟨event, present, sends⟩ := List.mem_filterMap.mp member
        exact List.mem_filterMap.mpr ⟨event, List.mem_cons_of_mem _ present, sends⟩
      · intro committed
        show (op.commits || task.hasCommitted) = true
        rw [committed, Bool.or_true]

/-- The session creates the row of the file. -/
def Creates (id : Id) (session : Option (Session Id)) : Prop :=
  ∃ pending, session = some pending ∧ ∃ row, Write.insertFile row ∈ pending.writes ∧ row.id = id

/-- A request without a session creates no row. -/
theorem creates_none {id : Id} : ¬ Creates id none := by
  rintro ⟨pending, isOpen, -⟩
  cases isOpen

/-- An empty session creates no row. -/
theorem creates_empty {id : Id} : ¬ Creates id (some Session.empty) := by
  rintro ⟨pending, isOpen, row, member, -⟩
  cases isOpen
  cases member

variable [DecidableEq Id]

section
variable (platform : Platform Id PublicKey) (id : Id)

/-- A request may name the file by any text that is cast to its identifier; this is the content that
the request brings for a new file or for this one. -/
def Body.content : Body Id → Option (String × String × Bytes)
  | .postFile _ _ fileName mimeType attachement => some (fileName, mimeType, attachement)
  | .putFile _ fileId fileName mimeType attachement =>
      if platform.castId fileId = some id then some (fileName, mimeType, attachement) else none
  | _ => none

/-- The request updates the file. -/
def Body.updates : Body Id → Bool
  | .putFile _ fileId _ _ _ => platform.castId fileId = some id
  | _ => false

/-- The operation reads the row of the file for a user. -/
def Op.readsRow : Op Id → Bool
  | .ask (.filesFindOne fileId (some _)) => platform.castId fileId = some id
  | _ => false

/-- An update is halfway between its entry on the chain and its commit. -/
def Local.isHalfway (task : Local Id PublicKey) : Bool :=
  task.request.body.updates platform id && !(task.sent (platform.idText id)).isEmpty &&
    !task.hasCommitted

/-- The request has not committed, and an update has not written its entry. -/
def Blank (task : Local Id PublicKey) : Prop :=
  task.hasCommitted = false ∧
    (task.request.body.updates platform id = true → task.sent (platform.idText id) = [])

/-- No update of the file is halfway. -/
def Calm (world : World Id PublicKey) : Prop :=
  ∀ index task, world.locals index = some task → task.isHalfway platform id = false

end

section
variable {platform : Platform Id PublicKey} {id : Id} {task after : Local Id PublicKey}

/-- An update is halfway when it has written its entry and not committed. -/
theorem isHalfway_iff :
    task.isHalfway platform id = true ↔ task.request.body.updates platform id = true ∧
      task.sent (platform.idText id) ≠ [] ∧ task.hasCommitted = false := by
  simp only [Local.isHalfway, Bool.and_eq_true, Bool.not_eq_true', List.isEmpty_eq_false_iff,
    and_assoc]

/-- A request that did nothing to the file is not halfway. -/
theorem Blank.notHalfway (blank : Blank platform id task) : task.isHalfway platform id = false := by
  apply Bool.eq_false_iff.mpr
  intro halfway
  obtain ⟨updates, written, -⟩ := isHalfway_iff.mp halfway
  exact written (blank.2 updates)

/-- Alike requests are halfway together. -/
theorem Alike.isHalfway (alike : Alike (platform.idText id) task after) :
    after.isHalfway platform id = task.isHalfway platform id := by
  rw [Local.isHalfway, alike.request, alike.sent, alike.committed, Local.isHalfway]

/-- A request alike one that did nothing has done nothing. -/
theorem Alike.blank (alike : Alike (platform.idText id) task after)
    (blank : Blank platform id task) : Blank platform id after := by
  rw [Blank, alike.request, alike.sent, alike.committed]
  exact blank

/-- A request that is blank in the end was blank before. -/
theorem Grown.blank (grown : Grown (platform.idText id) task after)
    (blank : Blank platform id after) : Blank platform id task := by
  constructor
  · apply Bool.eq_false_iff.mpr
    intro committed
    have later := grown.committed committed
    rw [blank.1] at later
    cases later
  · intro updates
    rw [← grown.request] at updates
    apply List.eq_nil_iff_forall_not_mem.mpr
    intro hash member
    have later := grown.sent hash member
    rw [blank.2 updates] at later
    cases later

end

section
variable (platform : Platform Id PublicKey) (id : Id)

/-- The request brings the name, the type and a content whose encryption has the hash. -/
def Brings (request : Request Id) (fileName mimeType hash : String) : Prop :=
  ∃ key attachement, request.body.content platform id =
      some (fileName, mimeType, attachement) ∧
    hash = platform.address (platform.encrypt key attachement)

/-- The request brought all parts of a version, wrote its hash on the chain and committed. -/
structure Authors (task : Local Id PublicKey) (fileName mimeType hash : String) : Prop where
  brings : Brings platform id task.request fileName mimeType hash
  sent : hash ∈ task.sent (platform.idText id)
  committed : task.hasCommitted = true

/-- One request is the author of all parts of the version. -/
def Sourced (world : World Id PublicKey) (fileName mimeType hash : String) : Prop :=
  ∃ index task, world.locals index = some task ∧ Authors platform id task fileName mimeType hash

end

def Database.rowsOf (database : Database Id) (id : Id) : List (FileRow Id) :=
  database.files.filter fun row => row.id = id

/-- The hash on the chain under the text. -/
def Store.entry (store : Store Id) (text : String) : String :=
  (store.chain.fileStorage.entries text).value

section
variable (platform : Platform Id PublicKey) (id : Id)

/-- The update has written its entry and can commit its row. -/
structure Underway (task : Local Id PublicKey) (store : Store Id) : Prop where
  rows : store.database.rowsOf id ≠ []
  sent : store.entry (platform.idText id) ∈ task.sent (platform.idText id)
  staged : ∃ start fileName mimeType,
    task.session = some ⟨some start, [.updateFile id fileName mimeType]⟩ ∧
    Document.file id ∉ store.log.drop start.2 ∧
    Brings platform id task.request fileName mimeType (store.entry (platform.idText id))

/-- The update has staged its row and brings the hash for its entry. -/
structure Drafted (task : Local Id PublicKey) (store : Store Id) (hash : String) : Prop where
  updates : task.request.body.updates platform id = true
  blank : Blank platform id task
  rows : store.database.rowsOf id ≠ []
  staged : ∃ start fileName mimeType,
    task.session = some ⟨some start, [.updateFile id fileName mimeType]⟩ ∧
    Brings platform id task.request fileName mimeType hash

/-- The session has one new row, and the chain has the entry of the file if it is the new row. -/
structure Inserted (task : Local Id PublicKey) (store : Store Id) : Prop where
  creates : task.request.body.updates platform id = false
  staged : ∃ start row, task.session = some ⟨start, [.insertFile row]⟩ ∧ (row.id = id →
    store.entry (platform.idText id) ∈ task.sent (platform.idText id) ∧
      Brings platform id task.request row.fileName row.mimeType
        (store.entry (platform.idText id)))

/-- What a request has prepared before an operation. -/
def Readies (task : Local Id PublicKey) (store : Store Id) : Op Id → Prop
  | .ask _ | .act .startSession | .act .logsCreate | .act (.ipfsAdd _) | .act .generateKey => True
  | .act .startTransaction | .act .abortTransaction | .act .endSession =>
      task.isHalfway platform id = false
  | .act .commitTransaction =>
      task.isHalfway platform id = true ∨ Inserted platform id task store
  | .act (.filesCreate _ _ _ _) | .act (.filesUpdateOne _ _ _ _) =>
      task.session = some Session.empty ∧ task.isHalfway platform id = false
  | .act (.chainSetFile fileId hash) => fileId = platform.idText id →
      (task.request.body.updates platform id = false ∧ Creates id task.session) ∨
        Drafted platform id task store hash
  | _ => False

/-- A step fails only for a blank request; the chain is read only under the text of the identifier, in
calm and when no commit has changed the row since it was read; and an update writes its entry only
under this text, in calm and without a conflict of its session. -/
structure OrderlyGiven (calm : Prop) (index : Nat) (op : Op Id) (choice : Choice Id PublicKey)
    (world : World Id PublicKey) : Prop where
  fails : choice.isFailure = true → ∀ task ∈ world.locals index, Blank platform id task
  reads : ∀ fileId ∈ op.readsChain, fileId = platform.idText id ∧ calm ∧
    ∀ task ∈ world.locals index, ∀ event ∈ task.trail,
      event.op.readsRow platform id = true →
        Document.file id ∉ world.store.log.drop event.moment
  sends : ∀ fileId ∈ op.writesChain, ∀ task ∈ world.locals index,
    task.request.body.updates platform id = true → fileId = platform.idText id ∧ calm ∧
      ∀ pending ∈ task.session, pending.conflicts world.store.log = false

/-- A step is orderly when it is calm while no update of the file is halfway. -/
abbrev Orderly (index : Nat) (op : Op Id) (choice : Choice Id PublicKey)
    (world : World Id PublicKey) : Prop :=
  OrderlyGiven platform id (Calm platform id world) index op choice world

/-- At most one running request has the property. -/
def Sole (Holds : Local Id PublicKey → Prop) (world : World Id PublicKey) : Prop :=
  ∀ index task, world.locals index = some task → Holds task →
    ∀ other rival, world.locals other = some rival → Holds rival → other = index

/-- Without a halfway update, the rows and the entry of the file are of one version. -/
structure Coherent (world : World Id PublicKey) : Prop where
  drawn : world.store.database.rowsOf id ≠ [] → world.store.isFresh id = false
  created : ∀ index task, world.locals index = some task → Creates id task.session →
    world.store.isFresh id = false ∧ world.store.database.rowsOf id = []
  oneCreator : Sole (fun task => Creates id task.session) world
  underway : ∀ index task, world.locals index = some task →
    task.isHalfway platform id = true → Underway platform id task world.store
  oneUpdate : Sole (fun task => task.isHalfway platform id = true) world
  settled : Calm platform id world → ∀ row ∈ world.store.database.rowsOf id,
    Sourced platform id world row.fileName row.mimeType (world.store.entry (platform.idText id))

/-- The others keep the rows and the versions of the file, and they change its entry only with a
commit or halfway to one. -/
structure Spares (index : Nat) (world next : World Id PublicKey) : Prop where
  same : next.locals index = world.locals index
  owners : ∀ userId, (∃ row ∈ world.store.database.rowsOf id, row.userId = userId) →
    ∃ row ∈ next.store.database.rowsOf id, row.userId = userId
  sourced : ∀ fileName mimeType hash, Sourced platform id world fileName mimeType hash →
    Sourced platform id next fileName mimeType hash
  entry : ∃ more, next.store.log = world.store.log ++ more ∧
    (world.store.database.rowsOf id ≠ [] → Document.file id ∉ more →
      Calm platform id next → Calm platform id world ∧
        next.store.entry (platform.idText id) = world.store.entry (platform.idText id))
  created : ∀ task, world.locals index = some task → Creates id task.session →
    next.store.entry (platform.idText id) = world.store.entry (platform.idText id)

/-- One operation leaves the file alone, draws its identifier, writes its first entry, opens an
update, or commits an update or the new row. -/
inductive Turn (world : World Id PublicKey) (next : Store Id) (task after : Local Id PublicKey) :
    Prop where
  | mild (rows : next.database.rowsOf id = world.store.database.rowsOf id)
      (entry : next.entry (platform.idText id) = world.store.entry (platform.idText id))
      (drawn : world.store.isFresh id = false → next.isFresh id = false)
      (log : ∃ more, next.log = world.store.log ++ more ∧ Document.file id ∉ more)
      (creates : Creates id after.session → Creates id task.session)
      (halfway : after.isHalfway platform id = task.isHalfway platform id)
      (session : task.isHalfway platform id = true → after.session = task.session)
  | draws (rows : next.database.rowsOf id = world.store.database.rowsOf id)
      (entry : next.entry (platform.idText id) = world.store.entry (platform.idText id))
      (log : next.log = world.store.log) (fresh : world.store.isFresh id = true)
      (drawn : next.isFresh id = false)
      (halfway : after.isHalfway platform id = task.isHalfway platform id)
  | enters (rows : next.database.rowsOf id = world.store.database.rowsOf id)
      (log : next.log = world.store.log) (drawn : next.isFresh id = world.store.isFresh id)
      (posts : task.request.body.updates platform id = false)
      (creates : Creates id task.session) (session : after.session = task.session)
  | opens (rows : next.database.rowsOf id = world.store.database.rowsOf id)
      (log : next.log = world.store.log) (drawn : next.isFresh id = world.store.isFresh id)
      (calm : Calm platform id world)
      (halfway : after.isHalfway platform id = true)
      (underway : Underway platform id after next)
  | updates (fileName mimeType : String)
      (rows : next.database.rowsOf id = (world.store.database.rowsOf id).map fun row =>
        { row with fileName := fileName, mimeType := mimeType })
      (entry : next.entry (platform.idText id) = world.store.entry (platform.idText id))
      (log : next.log = world.store.log ++ [.file id])
      (drawn : next.isFresh id = world.store.isFresh id)
      (halfway : task.isHalfway platform id = true) (session : after.session = none)
      (authors : Authors platform id after fileName mimeType
        (world.store.entry (platform.idText id)))
  | inserts (row : FileRow Id)
      (rows : next.database.rowsOf id = world.store.database.rowsOf id ++ [row])
      (entry : next.entry (platform.idText id) = world.store.entry (platform.idText id))
      (log : next.log = world.store.log ++ [.file id])
      (drawn : next.isFresh id = world.store.isFresh id)
      (creates : Creates id task.session) (session : after.session = none)
      (authors : Authors platform id after row.fileName row.mimeType
        (world.store.entry (platform.idText id)))

end

section
variable {platform : Platform Id PublicKey} {id : Id} {world next : World Id PublicKey} {index : Nat}
  {task after : Local Id PublicKey}

/-- A request that authored a version stays its author. -/
theorem Authors.grown {fileName mimeType hash : String}
    (authors : Authors platform id task fileName mimeType hash)
    (grown : Grown (platform.idText id) task after) :
    Authors platform id after fileName mimeType hash := by
  refine ⟨?_, grown.sent hash authors.sent, grown.committed authors.committed⟩
  rw [grown.request]
  exact authors.brings

/-- The author of a version is not halfway. -/
theorem Authors.notHalfway {fileName mimeType hash : String}
    (authors : Authors platform id task fileName mimeType hash) :
    task.isHalfway platform id = false := by
  apply Bool.eq_false_iff.mpr
  intro halfway
  have pending := (isHalfway_iff.mp halfway).2.2
  rw [authors.committed] at pending
  cases pending

/-- An update that stays underway needs its row, its entry and no commit of the file. -/
theorem Underway.extend {store later : Store Id} (underway : Underway platform id task store)
    (rows : later.database.rowsOf id = store.database.rowsOf id)
    (entry : later.entry (platform.idText id) = store.entry (platform.idText id))
    (log : ∃ more, later.log = store.log ++ more ∧ Document.file id ∉ more)
    (grown : Grown (platform.idText id) task after) (session : after.session = task.session) :
    Underway platform id after later := by
  obtain ⟨present, sent, start, fileName, mimeType, staged, free, brings⟩ := underway
  obtain ⟨more, appended, absent⟩ := log
  refine ⟨?_, ?_, start, fileName, mimeType, session.trans staged, ?_, ?_⟩
  · rw [rows]
    exact present
  · rw [entry]
    exact grown.sent _ sent
  · rw [appended, List.drop_append, List.mem_append, not_or]
    exact ⟨free, fun member => absent (List.mem_of_mem_drop member)⟩
  · rw [entry, grown.request]
    exact brings

/-- The task with the index has moved. -/
structure Moves (text : String) (index : Nat) (world next : World Id PublicKey)
    (task after : Local Id PublicKey) : Prop where
  found : world.locals index = some task
  locals : next.locals = Function.update world.locals index (some after)
  grown : Grown text task after

namespace Moves

variable (moves : Moves (platform.idText id) index world next task after)
include moves

omit [DecidableEq Id] in
/-- An operation keeps the data of the other requests. -/
theorem others {other : Nat} (different : other ≠ index) :
    next.locals other = world.locals other := by
  rw [moves.locals, Function.update_of_ne different]

omit [DecidableEq Id] in
/-- An operation moves the request to its next data. -/
theorem moved : next.locals index = some after := by
  rw [moves.locals, Function.update_self]

omit [DecidableEq Id] in
/-- A property of every task is checked for the moved one and for the others. -/
theorem each {Holds : Nat → Local Id PublicKey → Prop} (mine : Holds index after)
    (others : ∀ other rival, other ≠ index → world.locals other = some rival → Holds other rival) :
    ∀ other rival, next.locals other = some rival → Holds other rival := by
  rw [moves.locals]
  exact forall_update_some mine others

omit [DecidableEq Id] in
/-- The moved task may have a property that no other task has. -/
theorem sole {Holds : Local Id PublicKey → Prop} (sole : Sole Holds world)
    (alone : Holds after → ∀ other rival, other ≠ index → world.locals other = some rival →
      ¬ Holds rival) : Sole Holds next := by
  unfold Sole
  refine moves.each ?_ ?_
  · intro holds
    refine moves.each ?_ ?_
    · exact fun _ => rfl
    · intro other rival different found rivals
      exact absurd rivals (alone holds other rival different found)
  · intro first one different found holds
    refine moves.each ?_ ?_
    · intro mine
      exact absurd holds (alone mine first one different found)
    · intro other rival _ present rivals
      exact sole first one found holds other rival present rivals

omit [DecidableEq Id] in
/-- A property that the operation does not add is still had by at most one request. -/
theorem sole_kept {Holds : Local Id PublicKey → Prop} (sole : Sole Holds world)
    (keeps : Holds after → Holds task) : Sole Holds next := by
  apply moves.sole sole
  intro holds other rival different found rivals
  exact different (sole index task moves.found (keeps holds) other rival found rivals)

/-- What has one author keeps it. -/
theorem sourced {fileName mimeType hash : String}
    (sourced : Sourced platform id world fileName mimeType hash) :
    Sourced platform id next fileName mimeType hash := by
  obtain ⟨writer, author, found, authors⟩ := sourced
  by_cases same : writer = index
  · subst same
    rw [moves.found, Option.some.injEq] at found
    subst found
    exact ⟨writer, after, moves.moved, authors.grown moves.grown⟩
  · exact ⟨writer, author, (moves.others same).trans found, authors⟩

/-- An operation that keeps the request's progress makes no calm moment. -/
theorem calm (halfway : after.isHalfway platform id = task.isHalfway platform id)
    (calm : Calm platform id next) : Calm platform id world := by
  intro other rival found
  by_cases same : other = index
  · subst same
    rw [moves.found, Option.some.injEq] at found
    rw [← found, ← halfway]
    exact calm other after moves.moved
  · exact calm other rival ((moves.others same).trans found)

end Moves

namespace Coherent

variable (coherent : Coherent platform id world)
include coherent

/-- A fresh identifier has no row. -/
theorem rows_of_fresh (fresh : world.store.isFresh id = true) :
    world.store.database.rowsOf id = [] := by
  by_contra present
  rw [coherent.drawn present] at fresh
  cases fresh

/-- No session creates a row of a fresh identifier. -/
theorem uncreated_of_fresh (fresh : world.store.isFresh id = true) {other : Nat}
    {rival : Local Id PublicKey} (found : world.locals other = some rival) :
    ¬ Creates id rival.session := by
  intro creating
  rw [(coherent.created other rival found creating).1] at fresh
  cases fresh

/-- No session creates a row of an identifier that has one. -/
theorem uncreated_of_rows (present : world.store.database.rowsOf id ≠ []) {other : Nat}
    {rival : Local Id PublicKey} (found : world.locals other = some rival) :
    ¬ Creates id rival.session :=
  fun creating => present (coherent.created other rival found creating).2

/-- The moment is calm while the file has no row. -/
theorem calm_of_noRows (empty : world.store.database.rowsOf id = []) :
    Calm platform id world := by
  intro other rival found
  apply Bool.eq_false_iff.mpr
  intro halfway
  exact (coherent.underway other rival found halfway).rows empty

variable (moves : Moves (platform.idText id) index world next task after)
include moves

/-- An operation that leaves the file alone keeps it coherent. -/
theorem mild (rows : next.store.database.rowsOf id = world.store.database.rowsOf id)
    (entry : next.store.entry (platform.idText id) = world.store.entry (platform.idText id))
    (drawn : world.store.isFresh id = false → next.store.isFresh id = false)
    (log : ∃ more, next.store.log = world.store.log ++ more ∧ Document.file id ∉ more)
    (creates : Creates id after.session → Creates id task.session)
    (halfway : after.isHalfway platform id = task.isHalfway platform id)
    (session : task.isHalfway platform id = true → after.session = task.session) :
    Coherent platform id next := by
  have kept : ∀ other rival, world.locals other = some rival → Creates id rival.session →
      next.store.isFresh id = false ∧ next.store.database.rowsOf id = [] := by
    intro other rival found creating
    obtain ⟨isDrawn, empty⟩ := coherent.created other rival found creating
    exact ⟨drawn isDrawn, rows.trans empty⟩
  refine ⟨?_, ?_, ?_, ?_, ?_, ?_⟩
  · intro present
    rw [rows] at present
    exact drawn (coherent.drawn present)
  · refine moves.each ?_ ?_
    · exact fun creating => kept index task moves.found (creates creating)
    · exact fun other rival _ found => kept other rival found
  · exact moves.sole_kept coherent.oneCreator creates
  · refine moves.each ?_ ?_
    · intro now
      rw [halfway] at now
      exact (coherent.underway index task moves.found now).extend rows entry log moves.grown
        (session now)
    · intro other rival _ found now
      exact (coherent.underway other rival found now).extend rows entry log (Grown.refl rival) rfl
  · exact moves.sole_kept coherent.oneUpdate fun now => halfway ▸ now
  · intro calm row member
    rw [rows] at member
    rw [entry]
    exact moves.sourced (coherent.settled (moves.calm halfway calm) row member)

/-- A file without a row stays coherent while one request creates it. -/
theorem unborn (empty : next.store.database.rowsOf id = [])
    (before : world.store.database.rowsOf id = []) (drawn : next.store.isFresh id = false)
    (alone : ∀ other rival, other ≠ index → world.locals other = some rival →
      ¬ Creates id rival.session)
    (ended : after.isHalfway platform id = false) : Coherent platform id next := by
  have calm := coherent.calm_of_noRows before
  refine ⟨fun _ => drawn, fun _ _ _ _ => ⟨drawn, empty⟩, ?_, ?_, ?_, ?_⟩
  · exact moves.sole coherent.oneCreator fun _ => alone
  · refine moves.each ?_ ?_
    · intro now
      rw [ended] at now
      cases now
    · intro other rival _ found now
      rw [calm other rival found] at now
      cases now
  · apply moves.sole_kept coherent.oneUpdate
    intro now
    rw [ended] at now
    cases now
  · intro _ row member
    rw [empty] at member
    cases member

/-- An update that opens alone is underway. -/
theorem opens (rows : next.store.database.rowsOf id = world.store.database.rowsOf id)
    (drawn : next.store.isFresh id = world.store.isFresh id)
    (calm : Calm platform id world)
    (halfway : after.isHalfway platform id = true)
    (underway : Underway platform id after next.store) : Coherent platform id next := by
  have present : world.store.database.rowsOf id ≠ [] := rows ▸ underway.rows
  have updating : ¬ Creates id after.session := by
    rintro ⟨pending, isOpen, row, member, -⟩
    obtain ⟨start, fileName, mimeType, staged, -, -⟩ := underway.staged
    rw [staged, Option.some.injEq] at isOpen
    rw [← isOpen, List.mem_singleton] at member
    cases member
  have others : ∀ other rival, other ≠ index → world.locals other = some rival →
      ¬ rival.isHalfway platform id = true := by
    intro other rival _ found now
    rw [calm other rival found] at now
    cases now
  refine ⟨fun _ => drawn.trans (coherent.drawn present), ?_, ?_, ?_, ?_, ?_⟩
  · refine moves.each ?_ ?_
    · exact fun creating => absurd creating updating
    · exact fun other rival _ found creating =>
        absurd creating (coherent.uncreated_of_rows present found)
  · exact moves.sole_kept coherent.oneCreator fun creating => absurd creating updating
  · refine moves.each ?_ ?_
    · exact fun _ => underway
    · exact fun other rival different found now => absurd now (others other rival different found)
  · exact moves.sole coherent.oneUpdate fun _ => others
  · intro settled
    have ended := settled index after moves.moved
    rw [halfway] at ended
    cases ended

/-- A committed version of the file has one author. -/
theorem published {fileName mimeType : String} (drawn : next.store.isFresh id = false)
    (session : after.session = none)
    (authors : Authors platform id after fileName mimeType
      (next.store.entry (platform.idText id)))
    (named : ∀ row ∈ next.store.database.rowsOf id,
      row.fileName = fileName ∧ row.mimeType = mimeType)
    (uncreated : ∀ other rival, other ≠ index → world.locals other = some rival →
      ¬ Creates id rival.session)
    (calm : ∀ other rival, other ≠ index → world.locals other = some rival →
      ¬ rival.isHalfway platform id = true) : Coherent platform id next := by
  have closed : ¬ Creates id after.session := by
    rw [session]
    exact creates_none
  have ended : ¬ after.isHalfway platform id = true :=
    Bool.eq_false_iff.mp authors.notHalfway
  refine ⟨fun _ => drawn, ?_, ?_, ?_, ?_, ?_⟩
  · refine moves.each ?_ ?_
    · exact fun creating => absurd creating closed
    · exact fun other rival different found creating =>
        absurd creating (uncreated other rival different found)
  · exact moves.sole_kept coherent.oneCreator fun creating => absurd creating closed
  · refine moves.each ?_ ?_
    · exact fun now => absurd now ended
    · exact fun other rival different found now => absurd now (calm other rival different found)
  · exact moves.sole_kept coherent.oneUpdate fun now => absurd now ended
  · intro _ row member
    obtain ⟨sameName, sameType⟩ := named row member
    rw [sameName, sameType]
    exact ⟨index, after, moves.moved, authors⟩

/-- One operation keeps the rows and the entry of the file coherent. -/
theorem turn (turn : Turn platform id world next.store task after) : Coherent platform id next := by
  cases turn with
  | mild rows entry drawn log creates halfway session =>
      exact coherent.mild moves rows entry drawn log creates halfway session
  | draws rows entry log fresh drawn halfway =>
      have empty := coherent.rows_of_fresh fresh
      apply coherent.unborn moves (rows.trans empty) empty drawn
      · exact fun other rival _ found => coherent.uncreated_of_fresh fresh found
      · exact halfway.trans (coherent.calm_of_noRows empty index task moves.found)
  | enters rows log drawn posts creates session =>
      obtain ⟨isDrawn, empty⟩ := coherent.created index task moves.found creates
      apply coherent.unborn moves (rows.trans empty) empty (drawn.trans isDrawn)
      · intro other rival different found creating
        exact different (coherent.oneCreator index task moves.found creates other rival found
          creating)
      · rw [Local.isHalfway, moves.grown.request, posts, Bool.false_and, Bool.false_and]
  | opens rows log drawn calm halfway underway =>
      exact coherent.opens moves rows drawn calm halfway underway
  | updates fileName mimeType rows entry log drawn halfway session authors =>
      have present := (coherent.underway index task moves.found halfway).rows
      apply coherent.published moves (drawn.trans (coherent.drawn present)) session
      · rw [entry]
        exact authors
      · intro row member
        rw [rows] at member
        obtain ⟨old, -, changed⟩ := List.mem_map.mp member
        rw [← changed]
        exact ⟨rfl, rfl⟩
      · exact fun other rival _ found => coherent.uncreated_of_rows present found
      · intro other rival different found now
        exact different (coherent.oneUpdate index task moves.found halfway other rival found now)
  | inserts row rows entry log drawn creates session authors =>
      obtain ⟨isDrawn, empty⟩ := coherent.created index task moves.found creates
      apply coherent.published moves (drawn.trans isDrawn) session
      · rw [entry]
        exact authors
      · intro other member
        rw [rows, empty, List.nil_append, List.mem_singleton] at member
        rw [member]
        exact ⟨rfl, rfl⟩
      · intro other rival different found creating
        exact different (coherent.oneCreator index task moves.found creates other rival found
          creating)
      · intro other rival _ found now
        exact (coherent.underway other rival found now).rows empty

/-- One operation of a request spares the others. -/
theorem spares (turn : Turn platform id world next.store task after) {other : Nat}
    (different : other ≠ index) : Spares platform id other world next := by
  have same := moves.others different
  have sourced : ∀ fileName mimeType hash, Sourced platform id world fileName mimeType hash →
      Sourced platform id next fileName mimeType hash := fun _ _ _ held => moves.sourced held
  cases turn with
  | mild rows entry drawn log creates halfway session =>
      obtain ⟨more, appended, absent⟩ := log
      refine ⟨same, ?_, sourced, ⟨more, appended, ?_⟩, fun _ _ _ => entry⟩
      · rw [rows]
        exact fun _ owned => owned
      · exact fun _ _ calm => ⟨moves.calm halfway calm, entry⟩
  | draws rows entry log fresh drawn halfway =>
      refine ⟨same, ?_, sourced, ⟨[], ?_, ?_⟩, fun _ _ _ => entry⟩
      · rw [rows]
        exact fun _ owned => owned
      · rw [log, List.append_nil]
      · exact fun present => absurd (coherent.rows_of_fresh fresh) present
  | enters rows log drawn posts creates session =>
      refine ⟨same, ?_, sourced, ⟨[], ?_, ?_⟩, ?_⟩
      · rw [rows]
        exact fun _ owned => owned
      · rw [log, List.append_nil]
      · exact fun present => absurd (coherent.created index task moves.found creates).2 present
      · intro rival found creating
        exact absurd (coherent.oneCreator index task moves.found creates other rival found creating)
          different
  | opens rows log drawn calm halfway underway =>
      refine ⟨same, ?_, sourced, ⟨[], ?_, ?_⟩, ?_⟩
      · rw [rows]
        exact fun _ owned => owned
      · rw [log, List.append_nil]
      · intro _ _ settled
        have ended := settled index after moves.moved
        rw [halfway] at ended
        cases ended
      · intro rival found creating
        exact absurd creating (coherent.uncreated_of_rows (rows ▸ underway.rows) found)
  | updates fileName mimeType rows entry log drawn halfway session authors =>
      refine ⟨same, ?_, sourced, ⟨[.file id], log, ?_⟩, fun _ _ _ => entry⟩
      · rintro userId ⟨row, member, owned⟩
        refine ⟨{ row with fileName := fileName, mimeType := mimeType }, ?_, owned⟩
        rw [rows]
        exact List.mem_map.mpr ⟨row, member, rfl⟩
      · exact fun _ absent => absurd (List.mem_singleton_self _) absent
  | inserts row rows entry log drawn creates session authors =>
      refine ⟨same, ?_, sourced, ⟨[.file id], log, ?_⟩, fun _ _ _ => entry⟩
      · rintro userId ⟨old, member, owned⟩
        refine ⟨old, ?_, owned⟩
        rw [rows]
        exact List.mem_append_left _ member
      · exact fun _ absent => absurd (List.mem_singleton_self _) absent

end Coherent

/-- An operation of a blank update has changed neither the rows nor the entry. -/
theorem Turn.unchanged {store : Store Id} (turn : Turn platform id world store task after)
    (grown : Grown (platform.idText id) task after) (blank : Blank platform id after)
    (updates : after.request.body.updates platform id = true) :
    store.database.rowsOf id = world.store.database.rowsOf id ∧
      store.entry (platform.idText id) = world.store.entry (platform.idText id) := by
  cases turn with
  | mild rows entry => exact ⟨rows, entry⟩
  | draws rows entry => exact ⟨rows, entry⟩
  | enters rows log drawn posts =>
      rw [grown.request, posts] at updates
      cases updates
  | opens rows log drawn calm halfway =>
      rw [blank.notHalfway] at halfway
      cases halfway
  | updates fileName mimeType rows entry log drawn halfway session authors =>
      have committed := authors.committed
      rw [blank.1] at committed
      cases committed
  | inserts row rows entry log drawn creates session authors =>
      have committed := authors.committed
      rw [blank.1] at committed
      cases committed

end

end

end Holonus.Backend
