/-
This file says once what one awaited operation can do to the stores and to its session.
-/

import Holonus.Construction.Backend.Requests
import Holonus.Proof.File.Refinement

namespace Holonus.Backend

open Holonus.Machine Holonus.File Holonus.Abstract

/-- A row belongs to the user for whom its identifier was drawn. -/
structure Owner (Id : Type) where
  id : Id
  userId : String
  forRecovery : Bool
  deriving DecidableEq, Repr

section
variable {Id PublicKey : Type}

def Write.inserts : Write Id → Option (Shelf × Owner Id)
  | .insertFile row => some (.files, ⟨row.id, row.userId, false⟩)
  | .insertKey row => some (.keys, ⟨row.id, row.userId, row.forRecovery⟩)
  | _ => none

/-- The operation creates a row for this user. -/
def Op.creates : Op Id → Option (Shelf × String)
  | .act (.filesCreate userId _ _ _) => some (.files, userId)
  | .act (.keysCreate userId) => some (.keys, userId)
  | _ => none

def Choice.isFailure : Choice Id PublicKey → Bool
  | .fail _ => true
  | _ => false

/-- An operation keeps the request of its task. -/
theorem Local.request_after (task : Local Id PublicKey) (session : Option (Session Id))
    (moment : Nat) (op : Op Id) (reply : Except Failure (Reply PublicKey op)) :
    (task.after session moment op reply).request = task.request := by
  cases reply <;> rfl

/-- An operation leaves its task in the session that it ends in. -/
theorem Local.session_after (task : Local Id PublicKey) (session : Option (Session Id))
    (moment : Nat) (op : Op Id) (reply : Except Failure (Reply PublicKey op)) :
    (task.after session moment op reply).session = session := by
  cases reply <;> rfl

/-- The trail of a task grows by at most the performed operation. -/
theorem Local.mem_trail_after {task : Local Id PublicKey} {session : Option (Session Id)}
    {moment : Nat} {op : Op Id} {reply : Except Failure (Reply PublicKey op)}
    {event : Event Id PublicKey} (member : event ∈ (task.after session moment op reply).trail) :
    event ∈ task.trail ∨ event.op = op := by
  cases reply with
  | ok value =>
      rcases List.mem_cons.mp member with new | old
      · rw [new]
        exact .inr rfl
      · exact .inl old
  | error failure => exact .inl member

variable [DecidableEq Id] {platform : Platform Id PublicKey}

omit [DecidableEq Id] in
/-- A text that resolves to an identifier is cast to it. -/
theorem cast_of_resolve {text : String} {id : Id}
    (resolved : (Ref.text text : Ref Id).resolve platform = .ok (some id)) :
    platform.castId text = some id := by
  simp only [Ref.resolve] at resolved
  split at resolved
  · cases resolved
  · rename_i other cast
    cases resolved
    exact cast

omit [DecidableEq Id] in
/-- Two identifiers with one text are the same. -/
theorem idText_injective (platform : Platform Id PublicKey) : Function.Injective platform.idText := by
  intro left right same
  have casts := congrArg platform.castId same
  rw [platform.castId_idText, platform.castId_idText, Option.some.injEq] at casts
  exact casts

/-- A drawn identifier is not fresh. -/
theorem isFresh_self {store : Store Id} (new : Id) (userId : String) :
    ({ store with drawn := (new, userId) :: store.drawn } : Store Id).isFresh new = false := by
  show (decide (new ≠ new) && store.isFresh new) = false
  rw [decide_eq_false (fun different => different rfl), Bool.false_and]

/-- An identifier that was drawn stays drawn. -/
theorem isFresh_drawn {store : Store Id} {id : Id} (new : Id) (userId : String)
    (drawn : store.isFresh id = false) :
    ({ store with drawn := (new, userId) :: store.drawn } : Store Id).isFresh id = false := by
  show (decide (new ≠ id) && store.isFresh id) = false
  rw [drawn, Bool.and_false]

namespace Database

/-- A write adds to a view of the file rows only what it inserts. -/
theorem files_apply {View : Type} {view : FileRow Id → View}
    (kept : ∀ row fileName mimeType,
      view { row with fileName := fileName, mimeType := mimeType } = view row)
    {database : Database Id} {write : Write Id} {entry : View}
    (member : entry ∈ (database.apply write).files.map view) :
    entry ∈ database.files.map view ∨ ∃ row, write = .insertFile row ∧ view row = entry := by
  obtain ⟨row, present, same⟩ := List.mem_map.mp member
  subst same
  cases write with
  | insertFile new =>
      rcases List.mem_append.mp present with old | last
      · exact .inl (List.mem_map.mpr ⟨row, old, rfl⟩)
      · rw [List.mem_singleton.mp last]
        exact .inr ⟨new, rfl, rfl⟩
  | updateFile id fileName mimeType =>
      obtain ⟨old, before, changed⟩ := List.mem_map.mp present
      refine .inl (List.mem_map.mpr ⟨old, before, ?_⟩)
      rw [← changed]
      split
      · exact (kept old fileName mimeType).symm
      · rfl
  | deleteFile id => exact .inl (List.mem_map.mpr ⟨row, List.mem_of_mem_filter present, rfl⟩)
  | insertKey new | deleteKey id | updateUser userId keysId => exact .inl member

/-- What every single write adds to a view is all that a list of writes adds. -/
theorem mem_applyAll {View : Type} (view : Database Id → List View)
    (Adds : Write Id → View → Prop)
    (single : ∀ database write entry, entry ∈ view (database.apply write) →
      entry ∈ view database ∨ Adds write entry)
    {writes : List (Write Id)} {database : Database Id} {entry : View}
    (member : entry ∈ view (database.applyAll writes)) :
    entry ∈ view database ∨ ∃ write ∈ writes, Adds write entry := by
  induction writes generalizing database with
  | nil => exact .inl member
  | cons write rest ih =>
      rcases ih member with earlier | later
      · rcases single database write entry earlier with old | new
        · exact .inl old
        · exact .inr ⟨write, List.mem_cons_self, new⟩
      · obtain ⟨last, present, adds⟩ := later
        exact .inr ⟨last, List.mem_cons_of_mem _ present, adds⟩

omit [DecidableEq Id] in
/-- A user that is found has the name that was asked for. -/
theorem findUser_some {database : Database Id} {userId : String} {user : User}
    (found : database.findUser userId = some user) :
    user ∈ database.users ∧ user.userId = userId := by
  have matched := List.find?_some found
  exact ⟨List.mem_of_find?_eq_some found, of_decide_eq_true matched⟩

/-- A file row that is found has the identifier of the text and belongs to the user that was asked
for. -/
theorem findFile_some {database : Database Id} {fileId : String} {userId : Option String}
    {row : FileRow Id} (found : database.findFile platform fileId userId = .ok (some row)) :
    platform.castId fileId = some row.id ∧ row ∈ database.files ∧
      (userId = none ∨ userId = some row.userId) := by
  simp only [findFile] at found
  split at found
  · cases found
  · rename_i id cast
    have search := Except.ok.inj found
    have matched := List.find?_some search
    obtain ⟨same, owned⟩ := of_decide_eq_true matched
    rw [same]
    exact ⟨cast, List.mem_of_find?_eq_some search, owned⟩

/-- A key row that is found matches the condition. -/
theorem findKey_some {database : Database Id} {condition : KeyCondition Id} {row : KeyRow Id}
    (found : database.findKey platform condition = .ok (some row)) :
    ∃ id, (condition.id.getD .missing).resolve platform = .ok id ∧ row ∈ database.keys ∧
      KeyCondition.Matches condition id row := by
  cases resolved : (condition.id.getD .missing).resolve platform with
  | error failure =>
      rw [findKey, resolved] at found
      cases found
  | ok id =>
      rw [findKey, resolved] at found
      have search := Except.ok.inj found
      have matched := List.find?_some search
      exact ⟨id, rfl, List.mem_of_find?_eq_some search, of_decide_eq_true matched⟩

end Database

/-- A file that exists for a user is found for this user. -/
theorem filesExists_true {store : Store Id} {fileId userId : String}
    (answered : answer platform store (.filesExists fileId userId) = .ok true) :
    ∃ row, store.database.findFile platform fileId (some userId) = .ok (some row) := by
  change (store.database.findFile platform fileId (some userId)).map Option.isSome = _ at answered
  cases searched : store.database.findFile platform fileId (some userId) with
  | error failure =>
      rw [searched] at answered
      cases answered
  | ok found =>
      rw [searched] at answered
      obtain ⟨row, same⟩ := Option.isSome_iff_exists.mp (Except.ok.inj answered)
      exact ⟨row, congrArg Except.ok same⟩

/-- The existence of a key says whether one is found. -/
theorem keysExists_eq_ok {store : Store Id} {condition : KeyCondition Id} {isFound : Bool}
    (answered : answer platform store (.keysExists condition) = .ok isFound) :
    ∃ found, store.database.findKey platform condition = .ok found ∧ found.isSome = isFound := by
  change (store.database.findKey platform condition).map Option.isSome = _ at answered
  cases searched : store.database.findKey platform condition with
  | error failure =>
      rw [searched] at answered
      cases answered
  | ok found =>
      rw [searched] at answered
      exact ⟨found, rfl, Except.ok.inj answered⟩

omit [DecidableEq Id] in
/-- A reply of the chain is the outcome of the contract. -/
theorem fromChain_ok {Value : Type} {outcome : Except Machine.Fault Value} {value : Value}
    (answered : fromChain outcome = .ok value) : outcome = .ok value := by
  cases outcome with
  | error fault => cases answered
  | ok stored => exact congrArg Except.ok (Except.ok.inj answered)

/-- The chain shows the entry of the file under the text. -/
theorem chainGetFile_ok {store : Store Id} {fileId : String} {stored : StoredText}
    (answered : answer platform store (.chainGetFile fileId) = .ok stored) :
    store.chain.fileStorage.entries fileId = stored := by
  have read : File.HolonusFileService.getFile store.chain platform.callAddress fileId =
      .ok stored := fromChain_ok answered
  simp only [File.HolonusFileService.getFile, bind_eq_ok] at read
  obtain ⟨-, -, -, -, got⟩ := read
  exact ((TextStorage.get_eq_ok _ _ _ _).mp got).2

/-- The chain shows the entry of the key under the text. -/
theorem chainGetKey_ok {store : Store Id} {publicKeyId : String} {stored : StoredText}
    (answered : answer platform store (.chainGetKey publicKeyId) = .ok stored) :
    store.chain.keyStorage.entries publicKeyId = stored := by
  have read : File.HolonusFileService.getKey store.chain platform.callAddress publicKeyId =
      .ok stored := fromChain_ok answered
  simp only [File.HolonusFileService.getKey, bind_eq_ok] at read
  obtain ⟨-, -, -, -, got⟩ := read
  exact ((TextStorage.get_eq_ok _ _ _ _).mp got).2

/-- Content that the network returns is stored there and has the address that was asked for. -/
theorem ipfsCat_ok {store : Store Id} {hash : String} {data : Bytes}
    (answered : answer platform store (.ipfsCat hash) = .ok data) :
    data ∈ store.ipfs ∧ platform.address data = hash := by
  simp only [answer] at answered
  split at answered
  · rename_i found searched
    cases answered
    have matched := List.find?_some searched
    exact ⟨List.mem_of_find?_eq_some searched, of_decide_eq_true matched⟩
  · cases answered

/-- The effect of an operation on the stores and on the session of its request. -/
inductive Change (platform : Platform Id PublicKey) (store : Store Id)
    (session : Option (Session Id)) : Op Id → Store Id → Option (Session Id) → Prop where
  | kept (op : Op Id) : Change platform store session op store session
  | closed (op : Op Id) : Change platform store session op store none
  | began : Change platform store session (.act .startTransaction) store (some Session.empty)
  | staged (op : Op Id) (pending : Session Id) (plan : Database Id → Option (Write Id)) :
      session = some pending →
      (∀ database write, plan database = some write → write.inserts = none) →
        Change platform store session op store (some (pending.stage store plan))
  | drew (op : Op Id) (pending : Session Id) (shelf : Shelf) (id : Id) (userId : String)
      (write : Write Id) : op.creates = some (shelf, userId) → session = some pending →
      store.isFresh id = true → write.inserts = some (shelf, ⟨id, userId, false⟩) →
        Change platform store session op { store with drawn := (id, userId) :: store.drawn }
          (some (pending.stage store fun _ => some write))
  | committed (pending : Session Id) : session = some pending →
      pending.conflicts store.log = false →
        Change platform store session (.act .commitTransaction) (store.commit pending.writes) none
  | deleted (fileId userId : String) (row : FileRow Id) :
      store.database.findFile platform fileId (some userId) = .ok (some row) →
        Change platform store session (.act (.filesDeleteOne fileId userId))
          (store.commit [.deleteFile row.id]) session
  | sentFile (fileId hash : String) (chain : File.System) :
      File.execute store.chain ⟨platform.manageAddress, .setFile fileId hash⟩ = .ok chain →
        Change platform store session (.act (.chainSetFile fileId hash))
          { store with chain := chain } session
  | sentKey (publicKeyId publicKey : String) (chain : File.System) :
      File.execute store.chain ⟨platform.manageAddress, .setKey publicKeyId publicKey⟩ = .ok chain →
        Change platform store session (.act (.chainSetKey publicKeyId publicKey))
          { store with chain := chain } session
  | added (data : Bytes) :
      Change platform store session (.act (.ipfsAdd data))
        { store with ipfs := store.ipfs ++ [data] } session

section
variable {store next : Store Id} {session after : Option (Session Id)} {op : Op Id}

/-- Staging a write without a new row only extends the session. -/
theorem staged_change {Value : Type} {value : Value} {plan : Database Id → Option (Write Id)}
    {reply : Except Failure Value}
    (modifies : ∀ database write, plan database = some write → write.inserts = none)
    (staging : staged store session value plan = (reply, next, after)) :
    Change platform store session op next after := by
  cases session with
  | none =>
      cases staging
      exact .kept op
  | some pending =>
      cases staging
      exact .staged op pending plan rfl modifies

/-- Staging a write to a found row only extends the session. -/
theorem stagedFound_change {Row : Type} {find : Database Id → Except Failure (Option Row)}
    {write : Row → Write Id} {reply : Except Failure Bool}
    (modifies : ∀ row, (write row).inserts = none)
    (staging : stagedFound store session find write = (reply, next, after)) :
    Change platform store session op next after := by
  simp only [stagedFound] at staging
  split at staging
  · cases staging
    exact .kept op
  · apply staged_change _ staging
    intro database planned found
    obtain ⟨row, -, same⟩ := Option.map_eq_some_iff.mp found
    rw [← same]
    exact modifies row

/-- Creating a row draws its identifier and extends the session by the row. -/
theorem drawnInto_change {shelf : Shelf} {id : Id} {userId : String} {write : Write Id}
    {reply : Except Failure Id} (creates : op.creates = some (shelf, userId))
    (inserts : write.inserts = some (shelf, ⟨id, userId, false⟩))
    (drawing : drawnInto store session id userId write = some (reply, next, after)) :
    Change platform store session op next after := by
  cases session with
  | none =>
      cases drawing
      exact .kept op
  | some pending =>
      simp only [drawnInto] at drawing
      split at drawing
      · rename_i fresh
        cases drawing
        exact .drew op pending shelf id userId write creates rfl fresh inserts
      · cases drawing

/-- Sending a transaction changes the store as the contract does or not at all. -/
theorem sentToChain_change {transaction : File.Transaction} {reply : Except Failure Unit}
    (sending : sentToChain store session transaction = (reply, next, after))
    (sent : ∀ chain, File.execute store.chain transaction = .ok chain →
      Change platform store session op { store with chain := chain } session) :
    Change platform store session op next after := by
  simp only [sentToChain] at sending
  split at sending
  · rename_i chain executed
    cases sending
    exact sent chain executed
  · cases sending
    exact .kept op

omit [DecidableEq Id] in
/-- A choice to proceed has the effect of the operation. -/
theorem proceeding_eq_some {Value : Type} {effect result : Effect Id Value}
    {choice : Choice Id PublicKey} (proceeds : proceeding effect choice = some result) :
    effect = result := by
  cases choice <;> simp only [proceeding, reduceCtorEq, Option.some.injEq] at proceeds
  exact proceeds

omit [DecidableEq Id] in
/-- A choice that draws has the effect of the operation for one identifier. -/
theorem drawing_eq_some {Value : Type} {effect : Id → Option (Effect Id Value)}
    {result : Effect Id Value} {choice : Choice Id PublicKey}
    (draws : drawing effect choice = some result) : ∃ id, effect id = some result := by
  cases choice <;> simp only [drawing, reduceCtorEq] at draws
  exact ⟨_, draws⟩

/-- A commit applies the writes of its session or fails. -/
theorem committing_change {reply : Except Failure Unit}
    (commits : committing store session = (reply, next, after)) :
    Change platform store session (.act .commitTransaction) next after := by
  cases session with
  | none =>
      cases commits
      exact .closed _
  | some pending =>
      simp only [committing] at commits
      split at commits
      · cases commits
        exact .closed _
      · rename_i free
        cases commits
        exact .committed pending rfl (Bool.eq_false_iff.mpr free)

/-- Deleting a file removes the row of its user at once. -/
theorem deletingFile_change {fileId userId : String} {reply : Except Failure Bool}
    (deletes : deletingFile store session (store.database.findFile platform fileId (some userId)) =
      (reply, next, after)) :
    Change platform store session (.act (.filesDeleteOne fileId userId)) next after := by
  cases searched : store.database.findFile platform fileId (some userId) with
  | error failure =>
      rw [searched] at deletes
      cases deletes
      exact .kept _
  | ok found =>
      rw [searched] at deletes
      cases found with
      | none =>
          cases deletes
          exact .kept _
      | some row =>
          cases deletes
          exact .deleted fileId userId row searched

/-- Every command changes the store in one of the listed ways. -/
theorem act_change {command : Command Id} {choice : Choice Id PublicKey}
    {reply : Except Failure (Result PublicKey command)}
    (acted : act platform store session command choice = some (reply, next, after)) :
    Change platform store session (.act command) next after := by
  cases command with
  | startSession | logsCreate =>
      cases proceeding_eq_some acted
      exact .kept _
  | startTransaction =>
      cases proceeding_eq_some acted
      exact .began
  | abortTransaction | endSession =>
      cases proceeding_eq_some acted
      exact .closed _
  | commitTransaction => exact committing_change (proceeding_eq_some acted)
  | usersUpdateOne userId keysId =>
      apply staged_change _ (proceeding_eq_some acted)
      intro database planned found
      obtain ⟨user, -, same⟩ := Option.map_eq_some_iff.mp found
      rw [← same]
      rfl
  | filesCreate userId fileName mimeType hash =>
      obtain ⟨id, drawn⟩ := drawing_eq_some acted
      exact drawnInto_change rfl rfl drawn
  | filesUpdateOne fileId userId fileName mimeType =>
      exact stagedFound_change (fun _ => rfl) (proceeding_eq_some acted)
  | filesDeleteOne fileId userId => exact deletingFile_change (proceeding_eq_some acted)
  | keysCreate userId =>
      obtain ⟨id, drawn⟩ := drawing_eq_some acted
      exact drawnInto_change rfl rfl drawn
  | keysDeleteOne condition => exact stagedFound_change (fun _ => rfl) (proceeding_eq_some acted)
  | chainSetFile fileId hash =>
      exact sentToChain_change (proceeding_eq_some acted) (.sentFile fileId hash)
  | chainSetKey publicKeyId publicKey =>
      exact sentToChain_change (proceeding_eq_some acted) (.sentKey publicKeyId publicKey)
  | ipfsAdd data =>
      cases proceeding_eq_some acted
      exact .added data
  | generateKey =>
      cases choice <;> cases acted
      exact .kept _

omit [DecidableEq Id] in
/-- A failing operation leaves the store as it is. -/
theorem failing_eq_some {Value : Type} {failure : Failure} {reply : Except Failure Value}
    (fails : failing store session op failure = some (reply, next, after)) :
    op.canFail = true ∧ reply = .error failure ∧ next = store ∧
      after = if op.closes then none else session := by
  simp only [failing] at fails
  split at fails
  · rename_i can
    cases fails
    exact ⟨can, rfl, rfl, rfl⟩
  · cases fails

/-- A query changes nothing and answers from the committed data, or it fails. -/
theorem respond_ask {query : Query Id} {choice : Choice Id PublicKey}
    {reply : Except Failure (Reply PublicKey (.ask query))}
    (responded : respond platform store session (.ask query) choice = some (reply, next, after)) :
    ((∃ failure, reply = .error failure) ∨ reply = answer platform store query) ∧
      next = store ∧ after = session := by
  cases choice with
  | fail failure =>
      obtain ⟨-, failed, same, kept⟩ := failing_eq_some responded
      exact ⟨.inl ⟨failure, failed⟩, same, kept⟩
  | proceed =>
      cases responded
      exact ⟨.inr rfl, rfl, rfl⟩
  | draw id => cases responded
  | generate key => cases responded

/-- A command fails without an effect or acts. -/
theorem respond_act {command : Command Id} {choice : Choice Id PublicKey}
    {reply : Except Failure (Reply PublicKey (.act command))}
    (responded : respond platform store session (.act command) choice = some (reply, next, after)) :
    (∃ failure, choice = .fail failure ∧ (Op.act command).canFail = true ∧ reply = .error failure ∧
        next = store ∧ after = if (Op.act command).closes then none else session) ∨
      act platform store session command choice = some (reply, next, after) := by
  cases choice with
  | fail failure =>
      obtain ⟨can, failed, same, kept⟩ := failing_eq_some responded
      exact .inl ⟨failure, rfl, can, failed, same, kept⟩
  | proceed => exact .inr responded
  | draw id => exact .inr responded
  | generate key => exact .inr responded

/-- Every operation changes the store in one of the listed ways. -/
theorem respond_change {choice : Choice Id PublicKey} {reply : Except Failure (Reply PublicKey op)}
    (responded : respond platform store session op choice = some (reply, next, after)) :
    Change platform store session op next after := by
  cases op with
  | ask query =>
      obtain ⟨-, same, kept⟩ := respond_ask responded
      rw [same, kept]
      exact .kept _
  | act command =>
      rcases respond_act responded with fails | acts
      · obtain ⟨failure, -, -, -, same, kept⟩ := fails
        rw [same, kept]
        split
        · exact .closed _
        · exact .kept _
      · exact act_change acts

end

section
variable {store next : Store Id} {session after : Option (Session Id)} {failure : Failure}

/-- A write that is not staged leaves the store as it is. -/
theorem staged_error {Value : Type} {value : Value}
    {plan : Database Id → Option (Write Id)}
    (fails : staged store session value plan = (.error failure, next, after)) : next = store := by
  cases session with
  | none =>
      cases fails
      rfl
  | some pending => cases fails

/-- A write to a row that is not staged leaves the store as it is. -/
theorem stagedFound_error {Row : Type} {find : Database Id → Except Failure (Option Row)}
    {write : Row → Write Id}
    (fails : stagedFound store session find write = (.error failure, next, after)) :
    next = store := by
  simp only [stagedFound] at fails
  split at fails
  · cases fails
    rfl
  · exact staged_error fails

/-- A row that is not created leaves the store as it is. -/
theorem drawnInto_error {id : Id} {userId : String} {write : Write Id}
    (fails : drawnInto store session id userId write = some (.error failure, next, after)) :
    next = store := by
  cases session with
  | none =>
      cases fails
      rfl
  | some pending =>
      simp only [drawnInto] at fails
      split at fails <;> cases fails

/-- A commit that fails leaves the store as it is. -/
theorem committing_error (fails : committing store session = (.error failure, next, after)) :
    next = store := by
  cases session with
  | none =>
      cases fails
      rfl
  | some pending =>
      simp only [committing] at fails
      split at fails
      · cases fails
        rfl
      · cases fails

omit [DecidableEq Id] in
/-- A transaction that reverts leaves the store as it is. -/
theorem sentToChain_error {transaction : File.Transaction}
    (fails : sentToChain store session transaction = (.error failure, next, after)) :
    next = store := by
  simp only [sentToChain] at fails
  split at fails
  · cases fails
  · cases fails
    rfl

/-- A deletion that fails leaves the store as it is. -/
theorem deletingFile_error {found : Except Failure (Option (FileRow Id))}
    (fails : deletingFile store session found = (.error failure, next, after)) :
    next = store := by
  cases found with
  | error reason =>
      cases fails
      rfl
  | ok row => cases row <;> cases fails

/-- A failed operation leaves the stores as they were. -/
theorem store_of_error {op : Op Id} {choice : Choice Id PublicKey}
    (responded : respond platform store session op choice =
      some (.error failure, next, after)) : next = store := by
  cases op with
  | ask query => exact (respond_ask responded).2.1
  | act command =>
      rcases respond_act responded with fails | acts
      · obtain ⟨-, -, -, -, same, -⟩ := fails
        exact same
      · cases command with
        | startSession | startTransaction | abortTransaction | endSession | logsCreate
        | ipfsAdd data =>
            cases proceeding_eq_some acts
        | commitTransaction => exact committing_error (proceeding_eq_some acts)
        | usersUpdateOne userId keysId => exact staged_error (proceeding_eq_some acts)
        | filesCreate userId fileName mimeType hash =>
            obtain ⟨id, drawn⟩ := drawing_eq_some acts
            exact drawnInto_error drawn
        | filesUpdateOne fileId userId fileName mimeType =>
            exact stagedFound_error (proceeding_eq_some acts)
        | filesDeleteOne fileId userId => exact deletingFile_error (proceeding_eq_some acts)
        | keysCreate userId =>
            obtain ⟨id, drawn⟩ := drawing_eq_some acts
            exact drawnInto_error drawn
        | keysDeleteOne condition => exact stagedFound_error (proceeding_eq_some acts)
        | chainSetFile fileId hash => exact sentToChain_error (proceeding_eq_some acts)
        | chainSetKey publicKeyId publicKey => exact sentToChain_error (proceeding_eq_some acts)
        | generateKey => cases choice <;> cases acts

end

section
variable {store next : Store Id} {session after : Option (Session Id)}
  {choice : Choice Id PublicKey}

/-- A command that replied has acted. -/
theorem act_of_respond {command : Command Id} {value : Result PublicKey command}
    (responded : respond platform store session (.act command) choice =
      some (.ok value, next, after)) :
    act platform store session command choice = some (.ok value, next, after) := by
  rcases respond_act responded with fails | acts
  · obtain ⟨failure, -, -, failed, -, -⟩ := fails
    cases failed
  · exact acts

/-- A created row has the fresh identifier that was drawn for it. -/
theorem drawnInto_ok {id value : Id} {userId : String} {write : Write Id}
    (drawn : drawnInto store session id userId write = some (.ok value, next, after)) :
    value = id ∧ store.isFresh id = true ∧
      next = { store with drawn := (id, userId) :: store.drawn } ∧
      ∃ pending, session = some pending ∧
        after = some (pending.stage store fun _ => some write) := by
  cases session with
  | none => cases drawn
  | some pending =>
      simp only [drawnInto] at drawn
      split at drawn
      · rename_i fresh
        cases drawn
        exact ⟨rfl, fresh, rfl, pending, rfl, rfl⟩
      · cases drawn

/-- A created file draws a fresh identifier and stages its row. -/
theorem filesCreate_ok {userId fileName mimeType hash : String} {id : Id}
    (responded : respond platform store session (.act (.filesCreate userId fileName mimeType hash))
      choice = some (.ok id, next, after)) :
    store.isFresh id = true ∧ next = { store with drawn := (id, userId) :: store.drawn } ∧
      ∃ pending, session = some pending ∧ after = some (pending.stage store fun _ =>
        some (.insertFile ⟨id, userId, fileName, mimeType, hash, false⟩)) := by
  obtain ⟨drawn, drew⟩ := drawing_eq_some (act_of_respond responded)
  obtain ⟨same, rest⟩ := drawnInto_ok drew
  subst same
  exact rest

/-- A created key draws a fresh identifier and stages its row. -/
theorem keysCreate_ok {userId : String} {id : Id}
    (responded : respond platform store session (.act (.keysCreate userId)) choice =
      some (.ok id, next, after)) :
    store.isFresh id = true ∧ next = { store with drawn := (id, userId) :: store.drawn } ∧
      ∃ pending, session = some pending ∧
        after = some (pending.stage store fun _ => some (.insertKey ⟨id, userId, false, false⟩)) := by
  obtain ⟨drawn, drew⟩ := drawing_eq_some (act_of_respond responded)
  obtain ⟨same, rest⟩ := drawnInto_ok drew
  subst same
  exact rest

omit [DecidableEq Id] in
/-- A transaction that succeeds changes only the chain. -/
theorem sentToChain_ok {transaction : File.Transaction}
    (sent : sentToChain store session transaction = (.ok (), next, after)) :
    ∃ chain, File.execute store.chain transaction = .ok chain ∧
      next = { store with chain := chain } ∧ after = session := by
  simp only [sentToChain] at sent
  split at sent
  · rename_i chain executed
    cases sent
    exact ⟨chain, executed, rfl, rfl⟩
  · cases sent

/-- Added content is stored and returned by its address. -/
theorem ipfsAdd_ok {data : Bytes} {hash : String}
    (responded : respond platform store session (.act (.ipfsAdd data)) choice =
      some (.ok hash, next, after)) :
    hash = platform.address data ∧ next = { store with ipfs := store.ipfs ++ [data] } := by
  cases proceeding_eq_some (act_of_respond responded)
  exact ⟨rfl, rfl⟩

/-- A file entry that is written changes only this entry of the chain. -/
theorem chainSetFile_ok {fileId hash : String}
    (responded : respond platform store session (.act (.chainSetFile fileId hash)) choice =
      some (.ok (), next, after)) :
    next = { store with chain := { store.chain with
      fileStorage := store.chain.fileStorage.put fileId hash } } := by
  obtain ⟨chain, executed, changed, -⟩ :=
    sentToChain_ok (proceeding_eq_some (act_of_respond responded))
  obtain ⟨-, applied⟩ := (execute_eq_ok _ _ _).mp executed
  rw [changed, ← applied]
  rfl

/-- A commit that succeeds had no conflict and applies the writes of its session. -/
theorem commit_ok (responded : respond platform store session (.act .commitTransaction) choice =
      some (.ok (), next, after)) :
    ∃ pending, session = some pending ∧ pending.conflicts store.log = false ∧
      next = store.commit pending.writes := by
  have committed := proceeding_eq_some (act_of_respond responded)
  cases session with
  | none => cases committed
  | some pending =>
      simp only [committing] at committed
      split at committed
      · cases committed
      · rename_i free
        cases committed
        exact ⟨pending, rfl, Bool.eq_false_iff.mpr free, rfl⟩

end

/-- A performed operation responds for its task and changes nothing of the others. -/
theorem perform_inv {world next : World Id PublicKey} {index : Nat} {op : Op Id}
    {choice : Choice Id PublicKey} {reply : Except Failure (Reply PublicKey op)}
    (performed : world.perform platform index op choice = some (reply, next)) :
    ∃ task session, world.locals index = some task ∧
      respond platform world.store task.session op choice = some (reply, next.store, session) ∧
      next.locals = Function.update world.locals index
        (some (task.after session world.store.log.length op reply)) := by
  simp only [World.perform] at performed
  split at performed
  · cases performed
  · rename_i task found
    split at performed
    · cases performed
    · rename_i answered store session responded
      cases performed
      exact ⟨task, session, found, responded, rfl⟩

/-- These commands leave the session alone. -/
def Command.isQuiet : Command Id → Bool
  | .startSession | .logsCreate | .chainSetFile _ _ | .chainSetKey _ _ | .ipfsAdd _ |
    .generateKey => true
  | _ => false

/-- A quiet command leaves the session as it is. -/
theorem session_of_quiet {store next : Store Id} {session after : Option (Session Id)}
    {command : Command Id} {choice : Choice Id PublicKey}
    {reply : Except Failure (Reply PublicKey (.act command))} (quiet : command.isQuiet = true)
    (responded : respond platform store session (.act command) choice = some (reply, next, after)) :
    after = session := by
  rcases respond_act responded with fails | acts
  · obtain ⟨failure, -, -, -, -, kept⟩ := fails
    rw [kept]
    cases command <;> first | rfl | cases quiet
  · cases command with
    | startSession | logsCreate | ipfsAdd data =>
        cases proceeding_eq_some acts
        rfl
    | chainSetFile fileId hash | chainSetKey publicKeyId publicKey =>
        have sent := proceeding_eq_some acts
        simp only [sentToChain] at sent
        split at sent <;> cases sent <;> rfl
    | generateKey =>
        cases choice <;> cases acts
        rfl
    | _ => cases quiet

/-- These commands leave no open transaction. -/
def Command.isEnding : Command Id → Bool
  | .commitTransaction | .abortTransaction | .endSession => true
  | _ => false

/-- A command that ends a session leaves none. -/
theorem session_of_ending {store next : Store Id} {session after : Option (Session Id)}
    {command : Command Id} {choice : Choice Id PublicKey}
    {reply : Except Failure (Reply PublicKey (.act command))} (ending : command.isEnding = true)
    (responded : respond platform store session (.act command) choice = some (reply, next, after)) :
    after = none := by
  rcases respond_act responded with fails | acts
  · obtain ⟨failure, -, can, -, -, kept⟩ := fails
    rw [kept]
    cases command with
    | commitTransaction | endSession => rfl
    | abortTransaction => cases can
    | _ => cases ending
  · cases command with
    | abortTransaction | endSession =>
        cases proceeding_eq_some acts
        rfl
    | commitTransaction =>
        have committed := proceeding_eq_some acts
        cases session with
        | none =>
            cases committed
            rfl
        | some pending =>
            simp only [committing] at committed
            split at committed <;> cases committed <;> rfl
    | _ => cases ending

/-- A started transaction is empty and never fails to start. -/
theorem session_of_startTransaction {store next : Store Id} {session after : Option (Session Id)}
    {choice : Choice Id PublicKey} {reply : Except Failure (Reply PublicKey (.act .startTransaction))}
    (responded : respond platform store session (.act .startTransaction) choice =
      some (reply, next, after)) :
    after = some Session.empty ∧ ∃ value, reply = .ok value := by
  rcases respond_act responded with fails | acts
  · obtain ⟨failure, -, can, -⟩ := fails
    cases can
  · cases proceeding_eq_some acts
    exact ⟨rfl, (), rfl⟩

/-- The operation may change a store. -/
def Op.touches : Op Id → Bool
  | .act .commitTransaction | .act (.filesCreate _ _ _ _) | .act (.filesDeleteOne _ _)
  | .act (.keysCreate _) | .act (.chainSetFile _ _) | .act (.chainSetKey _ _)
  | .act (.ipfsAdd _) => true
  | _ => false

/-- An operation that touches nothing leaves the store as it is. -/
theorem Change.untouched {store next : Store Id} {session after : Option (Session Id)}
    {op : Op Id} (change : Change platform store session op next after)
    (spares : op.touches = false) : next = store := by
  cases change with
  | kept | closed | began | staged => rfl
  | drew _ pending shelf id userId write creates =>
      cases op with
      | ask query => cases creates
      | act command =>
          cases command with
          | filesCreate owner fileName mimeType hash => cases spares
          | keysCreate owner => cases spares
          | _ => cases creates
  | committed | deleted | sentFile | sentKey | added => cases spares

end

end Holonus.Backend
