/-
This file proves that the users of the backend are isolated from each other.
The requests of the others leave the documents and the chain entries of a user untouched.
-/

import Holonus.Proof.Backend.Acknowledged

namespace Holonus.Backend

open Holonus.Machine Holonus.File Holonus.Abstract

section
variable {Row : Type} (user : Row → String) {userId : String} {rows : List Row}

/-- A row of another user is not seen. -/
theorem filter_append_other {row : Row} (other : user row ≠ userId) :
    (rows ++ [row]).filter (fun row => user row = userId) =
      rows.filter fun row => user row = userId := by
  rw [List.filter_append, List.filter_singleton]
  simp [other]

/-- A change of other rows is not seen. -/
theorem filter_map_others {modify : Row → Row} (same : ∀ row, user (modify row) = user row)
    (others : ∀ row ∈ rows, user row = userId → modify row = row) :
    (rows.map modify).filter (fun row => user row = userId) =
      rows.filter fun row => user row = userId := by
  induction rows with
  | nil => rfl
  | cons row rest ih =>
      have tail := ih fun other member => others other (List.mem_cons_of_mem _ member)
      by_cases mine : user row = userId
      · simp [mine, others row List.mem_cons_self mine, tail]
      · simp [same, mine, tail]

/-- A removal of other rows is not seen. -/
theorem filter_filter_others {kept : Row → Bool}
    (others : ∀ row ∈ rows, user row = userId → kept row = true) :
    (rows.filter kept).filter (fun row => user row = userId) =
      rows.filter fun row => user row = userId := by
  rw [List.filter_filter]
  apply List.filter_congr
  intro row member
  by_cases mine : user row = userId
  · simp [mine, others row member mine]
  · simp [mine]

end

section
variable {Id PublicKey : Type}

/-- The documents of one user. -/
def Database.ofUser (database : Database Id) (userId : String) : Database Id where
  users := database.users.filter fun user => user.userId = userId
  files := database.files.filter fun row => row.userId = userId
  keys := database.keys.filter fun row => row.userId = userId

/-- The write modifies no document of the user. -/
def Write.Misses (database : Database Id) (userId : String) : Write Id → Prop
  | .insertFile row => row.userId ≠ userId
  | .updateFile id _ _ | .deleteFile id => ∀ row ∈ database.files, row.id = id → row.userId ≠ userId
  | .insertKey row => row.userId ≠ userId
  | .deleteKey id => ∀ row ∈ database.keys, row.id = id → row.userId ≠ userId
  | .updateUser other _ => other ≠ userId

variable [DecidableEq Id]

/-- A write that misses a user is not seen by the user. -/
theorem ofUser_apply {database : Database Id} {userId : String} {write : Write Id}
    (misses : write.Misses database userId) :
    (database.apply write).ofUser userId = database.ofUser userId := by
  cases write with
  | insertFile row => rw [Database.ofUser, Database.apply, filter_append_other _ misses]; rfl
  | insertKey row => rw [Database.ofUser, Database.apply, filter_append_other _ misses]; rfl
  | updateFile id fileName mimeType =>
      rw [Database.ofUser, Database.apply, filter_map_others]
      · rfl
      · intro row
        split <;> rfl
      · intro row member mine
        exact if_neg fun same => misses row member same mine
  | deleteFile id =>
      rw [Database.ofUser, Database.apply, filter_filter_others]
      · rfl
      · intro row member mine
        exact decide_eq_true fun same => misses row member same mine
  | deleteKey id =>
      rw [Database.ofUser, Database.apply, filter_filter_others KeyRow.userId]
      · rfl
      · intro row member mine
        exact decide_eq_true fun same => misses row member same mine
  | updateUser other keysId =>
      rw [Database.ofUser, Database.apply, filter_map_others]
      · rfl
      · intro row
        split <;> rfl
      · intro row member mine
        exact if_neg fun same => misses (same.symm.trans mine)

variable {platform : Platform Id PublicKey} {store next : Store Id}

omit [DecidableEq Id] in
/-- A write for one user misses the documents of every other one. -/
theorem Write.ActsFor.misses {database : Database Id} {actor userId : String} {write : Write Id}
    (distinct : (store.drawn.map Prod.fst).Nodup) (acts : write.ActsFor store actor)
    (owned : ∀ shelf, ∀ owner ∈ database.owners shelf, (owner.id, owner.userId) ∈ store.drawn)
    (different : actor ≠ userId) : write.Misses database userId := by
  have unique {id : Id} {other : String} (mine : (id, actor) ∈ store.drawn)
      (drawn : (id, other) ∈ store.drawn) : other ≠ userId := by
    intro same
    have entry := List.inj_on_of_nodup_map distinct mine drawn rfl
    exact different ((congrArg Prod.snd entry).trans same)
  cases write with
  | insertFile row | insertKey row =>
      intro same
      exact different (acts.1.symm.trans same)
  | updateFile id fileName mimeType =>
      intro row member isRow
      apply unique acts
      rw [← isRow]
      exact owned .files _ (Database.file_owner member)
  | deleteFile id => exact acts.elim
  | deleteKey id =>
      intro row member isRow
      apply unique acts
      rw [← isRow]
      exact owned .keys _ (Database.key_owner member)
  | updateUser other keysId =>
      intro same
      exact different (acts.symm.trans same)

/-- The writes of one user are not seen by another. -/
theorem ofUser_applyAll {database : Database Id} {actor userId : String} {writes : List (Write Id)}
    (distinct : (store.drawn.map Prod.fst).Nodup)
    (acts : ∀ write ∈ writes, write.ActsFor store actor)
    (owned : ∀ shelf, ∀ owner ∈ database.owners shelf, (owner.id, owner.userId) ∈ store.drawn)
    (different : actor ≠ userId) :
    (database.applyAll writes).ofUser userId = database.ofUser userId := by
  induction writes generalizing database with
  | nil => rfl
  | cons write rest ih =>
      have first := acts write List.mem_cons_self
      have rest : ∀ write ∈ rest, write.ActsFor store actor :=
        fun other member => acts other (List.mem_cons_of_mem _ member)
      have stillOwned : ∀ shelf, ∀ owner ∈ (database.apply write).owners shelf,
          (owner.id, owner.userId) ∈ store.drawn := by
        intro shelf owner member
        rcases owners_apply member with old | new
        · exact owned shelf owner old
        · exact (first.inserted new).2
      exact (ih rest stillOwned).trans (ofUser_apply (first.misses distinct owned different))

/-- The operation that writes an entry of the chain. -/
def writeOp : Shelf → String → String → Op Id
  | .files, fileId, hash => .act (.chainSetFile fileId hash)
  | .keys, publicKeyId, publicKey => .act (.chainSetKey publicKeyId publicKey)

/-- An operation keeps an entry of the chain or writes it. -/
theorem Change.entry_cases {session after : Option (Session Id)} {op : Op Id}
    (change : Change platform store session op next after) (shelf : Shelf) (text : String) :
    (next.chain.storage shelf).entries text = (store.chain.storage shelf).entries text ∨
      ∃ value, op = writeOp shelf text value ∧
        (next.chain.storage shelf).entries text = ⟨text, value⟩ := by
  cases change with
  | kept | closed | began | staged | drew | committed | deleted | added => exact .inl rfl
  | sentFile fileId hash chain executed =>
      obtain ⟨-, applied⟩ := (execute_eq_ok _ _ _).mp executed
      subst applied
      cases shelf with
      | keys => exact .inl rfl
      | files =>
          by_cases same : text = fileId
          · subst same
            exact .inr ⟨hash, rfl, Function.update_self _ _ _⟩
          · exact .inl (Function.update_of_ne same _ _)
  | sentKey publicKeyId publicKey chain executed =>
      obtain ⟨-, applied⟩ := (execute_eq_ok _ _ _).mp executed
      subst applied
      cases shelf with
      | files => exact .inl rfl
      | keys =>
          by_cases same : text = publicKeyId
          · subst same
            exact .inr ⟨publicKey, rfl, Function.update_self _ _ _⟩
          · exact .inl (Function.update_of_ne same _ _)

omit [DecidableEq Id] in
/-- A write of the chain names its text. -/
theorem chainText_writeOp (shelf : Shelf) (text value : String) :
    (writeOp shelf text value : Op Id).chainText = some text := by
  cases shelf <;> rfl

/-- The documents of the user and the chain entries under the identifiers of the user are the same. -/
structure Untouched (platform : Platform Id PublicKey) (userId : String) (store next : Store Id) :
    Prop where
  grows : Grows platform store next
  documents : next.database.ofUser userId = store.database.ofUser userId
  entries : ∀ shelf text, Belongs platform store userId text →
    (next.chain.storage shelf).entries text = (store.chain.storage shelf).entries text

omit [DecidableEq Id] in
/-- Untouched stretches compose. -/
theorem Untouched.trans {userId : String} {last : Store Id}
    (first : Untouched platform userId store next) (second : Untouched platform userId next last) :
    Untouched platform userId store last where
  grows := first.grows.trans second.grows
  documents := second.documents.trans first.documents
  entries shelf text belongs :=
    (second.entries shelf text (belongs.grows first.grows)).trans (first.entries shelf text belongs)

section
variable {world after : World Id PublicKey} {index : Nat} {op : Op Id} {choice : Choice Id PublicKey}
  {reply : Except Failure (Reply PublicKey op)} {task : Local Id PublicKey} {userId : String}

/-- A step of another user leaves the documents of the user as they are. -/
theorem Accounted.documents_kept (accounted : Accounted platform world)
    (found : world.locals index = some task)
    (permits : task.request.body.Permits platform (fun _ => True) op)
    (different : task.request.body.userId ≠ userId)
    (performed : world.perform platform index op choice = some (reply, after)) :
    after.store.database.ofUser userId = world.store.database.ofUser userId := by
  obtain ⟨current, session, same, responded, -⟩ := perform_inv performed
  rw [found, Option.some.injEq] at same
  subst same
  have change := respond_change responded
  generalize after.store = store at change ⊢
  cases change with
  | kept | closed | began | staged | drew | sentFile | sentKey | added => rfl
  | committed pending isOpen free =>
      have accountable := accounted.sessions index task pending found isOpen
      exact ofUser_applyAll accounted.distinct accountable.acts accounted.owned different
  | deleted fileId owner row search =>
      have asked : task.request.body = .deleteFile owner fileId := permits
      rw [asked] at different
      obtain ⟨-, rowMember, named⟩ := Database.findFile_some search
      have isOwner : owner = row.userId := by
        rcases named with free | sameUser
        · cases free
        · exact Option.some.inj sameUser
      have misses : (Write.deleteFile row.id).Misses world.store.database userId := by
        intro other member isRow sameUser
        have mine := accounted.owned .files _ (Database.file_owner member)
        have theirs := accounted.owned .files _ (Database.file_owner rowMember)
        simp only [isRow, sameUser] at mine
        exact different (isOwner.trans (accounted.user_unique theirs mine))
      exact ofUser_apply misses

/-- A step of another user leaves the user untouched. -/
theorem untouched_performed (accounted : Accounted platform world)
    (found : world.locals index = some task)
    (permits : task.request.body.Permits platform (fun _ => True) op)
    (owes : ∀ text, op.chainText = some text →
      Belongs platform world.store task.request.body.userId text)
    (different : task.request.body.userId ≠ userId)
    (performed : world.perform platform index op choice = some (reply, after)) :
    Untouched platform userId world.store after.store := by
  have documents := accounted.documents_kept found permits different performed
  obtain ⟨current, session, -, responded, -⟩ := perform_inv performed
  have change := respond_change responded
  refine ⟨change.grows, documents, ?_⟩
  intro shelf text belongs
  rcases change.entry_cases shelf text with kept | ⟨value, rfl, -⟩
  · exact kept
  · obtain ⟨id, cast, mine⟩ := belongs
    obtain ⟨other, otherCast, theirs⟩ := owes text (chainText_writeOp shelf text value)
    rw [cast, Option.some.injEq] at otherCast
    subst otherCast
    exact absurd (accounted.user_unique theirs mine) different

end

/-- Every run from an established store pays its debts to the integrity of the stores. -/
theorem reached_integrity (established : Established platform store)
    (moves : List (Move (Choice Id PublicKey) (Request Id))) :
    (runtime platform).Kept (integrity platform) (fun _ _ _ => True)
      (reached platform store moves) := by
  apply Runtime.Kept.run_any (integrity_sound platform) (integrity_starts platform)
    (fun _ _ _ _ => trivial) (fun _ => trivial)
  constructor
  · refine ⟨established.distinct, established.backed, ?_⟩
    intro index task found
    cases found
  · intro index program found
    cases found

/-- A recorded step starts from a reached pool. -/
theorem reached_of_history {moves later : List (Move (Choice Id PublicKey) (Request Id))}
    {entry : _ × Move (Choice Id PublicKey) (Request Id)}
    (member : entry ∈ history (runtime platform).advance (reached platform store moves) later) :
    ∃ first, entry.1 = reached platform store (moves ++ first) := by
  obtain ⟨first, rest, next, -, ran, -, -⟩ := split_of_history member
  refine ⟨first, ?_⟩
  rw [← ran]
  exact (run_append _ _ _).symm

/-- The entry is a step of a request of the user. -/
def stepsFor (userId : String)
    (entry : Pool (Op Id) (Reply PublicKey) Failure (Response Id) (World Id PublicKey) ×
      Move (Choice Id PublicKey) (Request Id)) : Bool :=
  match entry.2 with
  | .start _ _ => false
  | .step index _ => (entry.1.world.asked index).any fun body => body.userId = userId

/-- Over every run, steps of requests of other users leave the documents of a user and the chain
entries under the identifiers of the user as they are. -/
theorem users_isolated (established : Established platform store) (userId : String)
    (moves later : List (Move (Choice Id PublicKey) (Request Id)))
    (others : ∀ entry ∈ history (runtime platform).advance (reached platform store moves) later,
      stepsFor userId entry = false) :
    let before := (reached platform store moves).world.store
    let after := (reached platform store (moves ++ later)).world.store
    after.database.ofUser userId = before.database.ofUser userId ∧
      ∀ shelf text, Belongs platform before userId text →
        (after.chain.storage shelf).entries text = (before.chain.storage shelf).entries text := by
  intro before after
  have isAfter : run (runtime platform).advance (reached platform store moves) later =
      reached platform store (moves ++ later) := (run_append _ _ _).symm
  have untouched : Untouched platform userId before
      (run (runtime platform).advance (reached platform store moves) later).world.store := by
    apply run_invariant
      (fun entry => entry ∈ history (runtime platform).advance (reached platform store moves) later)
      (fun pool => Untouched platform userId before pool.world.store)
      ⟨Grows.refl before, rfl, fun _ _ _ => rfl⟩ _ (fun _ member => member)
    intro pool move next member untouched advanced
    apply untouched.trans
    obtain ⟨first, isPool⟩ := reached_of_history member
    cases move with
    | start index request =>
        obtain ⟨-, started⟩ := (runtime platform).advance_start advanced
        rw [started]
        exact ⟨Grows.refl _, rfl, fun _ _ _ => rfl⟩
    | step index choice =>
        obtain ⟨op, resume, reply, world, awaits, performed, stepped⟩ :=
          (runtime platform).advance_step advanced
        obtain ⟨task, session, found, -, -⟩ := perform_inv performed
        have accounts := reached_accounts established (moves ++ first)
        have integral := reached_integrity established (moves ++ first)
        rw [← isPool] at accounts integral
        have permits := accounts.demands (accounts_sound platform).rely_refl awaits
        have owes := integral.demands (integrity_sound platform).rely_refl awaits
        rw [stepped]
        apply untouched_performed accounts.invariant found (permits task found)
          (fun text writes => owes.write text writes task found) _ performed
        have aside : ((pool.world.locals index).map fun task => task.request.body).any
          (fun body => body.userId = userId) = false := others _ member
        rw [found] at aside
        exact of_decide_eq_false aside
  rw [isAfter] at untouched
  exact ⟨untouched.documents, untouched.entries⟩

end

/-- Two users are registered. -/
def pairStore : Store PlainId :=
  { plainStore with database := ⟨[⟨"u", false, none⟩, ⟨"v", false, none⟩], [], []⟩ }

/-- The second user tries to delete the file and to replace the key of the first one. -/
def intrusion : List (Move (Choice PlainId UInt8) (Request PlainId)) :=
  [.start 2 ⟨0, .deleteFile "v" "f"⟩] ++ proceeds 2 8 ++
    [.start 3 ⟨0, .putKey "v" "k" (some "other")⟩] ++ proceeds 3 3

theorem users_isolated_intrusion :
    ((reached plain pairStore (postedFile ++ intrusion)).world.store.database.ofUser "u").files =
        [⟨plainFile, "u", "name", "mime", plainAddress [3, 7], false⟩] ∧
      ((reached plain pairStore (postedFile ++ intrusion)).world.store.database.ofUser "u").keys =
        [⟨plainKey, "u", false, false⟩] := by
  have established : Established plain pairStore :=
    ⟨List.nodup_nil, fun shelf owner member => by cases shelf <;> cases member⟩
  have aside : ((history (runtime plain).advance (reached plain pairStore postedFile)
      intrusion).all fun entry => !stepsFor "u" entry) = true := by decide +kernel
  have isolated := users_isolated established "u" postedFile intrusion fun entry member =>
    Bool.eq_false_iff.mpr fun steps => by
      have other := List.all_eq_true.mp aside entry member
      rw [steps] at other
      cases other
  rw [isolated.1]
  decide +kernel

end Holonus.Backend
