/-
This file gives the proof rules of the integrity discipline.
A request promises a chain entry for each row that it creates before it commits.
-/

import Holonus.Proof.Backend.Integrity

namespace Holonus.Backend

open Holonus.Machine Holonus.File Holonus.Abstract

section
variable {Id PublicKey Value : Type} {platform : Platform Id PublicKey}

/-- A covered session stays covered while the store grows. -/
theorem Covered.grows {promised : Option (Shelf × Owner Id)} {session : Option (Session Id)}
    {store next : Store Id} (covered : Covered platform promised session store)
    (grows : Grows platform store next) : Covered platform promised session next := by
  intro pending isOpen write member shelf owner inserts
  rcases covered pending isOpen write member shelf owner inserts with promise | held
  · exact .inl promise
  · exact .inr (held.grows grows)

/-- No session is always covered. -/
theorem covered_none (promised : Option (Shelf × Owner Id)) (store : Store Id) :
    Covered platform promised none store := by
  intro pending isOpen
  cases isOpen

/-- An empty session is always covered. -/
theorem covered_empty (promised : Option (Shelf × Owner Id)) (store : Store Id) :
    Covered platform promised (some Session.empty) store := by
  intro pending isOpen write member
  cases isOpen
  cases member

/-- The chain entry of the promised row covers the session. -/
theorem Covered.fulfil {shelf : Shelf} {owner : Owner Id} {session : Option (Session Id)}
    {store : Store Id} (covered : Covered platform (some (shelf, owner)) session store)
    (backed : Backed platform store shelf owner) : Covered platform none session store := by
  intro pending isOpen write member other current inserts
  rcases covered pending isOpen write member other current inserts with promise | held
  · cases promise
    exact .inr backed
  · exact .inr held

/-- The request is running, its session is covered, and its facts hold. -/
def Keeping (platform : Platform Id PublicKey) (index : Nat) (request : Request Id)
    (promised : Option (Shelf × Owner Id)) (Facts : Store Id → Prop) : World Id PublicKey → Prop :=
  At index request fun task store => Covered platform promised task.session store ∧ Facts store

/-- The growth of the stores keeps the facts. -/
def Lasting (platform : Platform Id PublicKey) (Facts : Store Id → Prop) : Prop :=
  ∀ store next, Grows platform store next → Facts store → Facts next

/-- Nothing is promised. -/
abbrev Clear (platform : Platform Id PublicKey) (index : Nat) (request : Request Id) :
    World Id PublicKey → Prop :=
  Keeping platform index request none fun _ => True

variable {index : Nat} {request : Request Id} {promised : Option (Shelf × Owner Id)}
  {Facts : Store Id → Prop}

/-- A request that keeps its facts and owes no entry is clear. -/
theorem Keeping.clear {world : World Id PublicKey}
    (keeping : Keeping platform index request none Facts world) :
    Clear platform index request world := by
  obtain ⟨task, found, asked, covered, -⟩ := keeping
  exact ⟨task, found, asked, covered, trivial⟩

/-- A request without a session is clear. -/
theorem Closed.clear {world : World Id PublicKey} (closed : Closed index request world) :
    Clear platform index request world := by
  obtain ⟨task, found, asked, isNone⟩ := closed
  refine ⟨task, found, asked, ?_, trivial⟩
  rw [isNone]
  exact covered_none none _

/-- Lasting facts stay when others perform their operations. -/
theorem Lasting.stable (lasting : Lasting platform Facts) :
    (integrity platform).Stable index (Keeping platform index request promised Facts) := by
  intro world current tolerated _ keeping
  obtain ⟨task, found, asked, covered, facts⟩ := keeping
  exact ⟨task, tolerated.same.trans found, asked, covered.grows tolerated.grows,
    lasting _ _ tolerated.grows facts⟩

/-- An operation that neither commits nor writes the chain owes nothing. -/
theorem owes_nothing {op : Op Id} {world : World Id PublicKey}
    (commits : op ≠ .act .commitTransaction) (writes : op.chainText = none) :
    Owes platform index op world where
  commit isCommit := absurd isCommit commits
  write text isWrite := by
    rw [writes] at isWrite
    cases isWrite

/-- What is always true lasts. -/
theorem lasting_true : Lasting platform fun _ : Store Id => True := fun _ _ _ _ => trivial

/-- The owner of an identifier lasts. -/
theorem lasting_belongs (userId text : String) :
    Lasting platform fun store : Store Id => Belongs platform store userId text :=
  fun _ _ grows belongs => belongs.grows grows

/-- A drawn identifier stays drawn. -/
theorem lasting_drawn (entry : Id × String) :
    Lasting platform fun store : Store Id => entry ∈ store.drawn :=
  fun _ _ grows member => grows.drawn _ member

variable [DecidableEq Id]

/-- A session that stages a write stays covered when the new row is covered. -/
theorem Covered.stage {promised : Option (Shelf × Owner Id)} {pending : Session Id}
    {store : Store Id} {plan : Database Id → Option (Write Id)}
    (covered : Covered platform promised (some pending) store)
    (planned : ∀ database write, plan database = some write → ∀ shelf owner,
      write.inserts = some (shelf, owner) →
        promised = some (shelf, owner) ∨ Backed platform store shelf owner) :
    Covered platform promised (some (pending.stage store plan)) store := by
  intro current isOpen write member shelf owner inserts
  cases isOpen
  rcases List.mem_append.mp member with old | new
  · exact covered pending rfl write old shelf owner inserts
  · exact planned _ write (Option.mem_toList.mp new) shelf owner inserts

/-- An operation that creates no row keeps the session covered. -/
theorem Change.covered {promised : Option (Shelf × Owner Id)} {store next : Store Id}
    {session after : Option (Session Id)} {op : Op Id}
    (change : Change platform store session op next after) (creates : op.creates = none)
    (covered : Covered platform promised session store) :
    Covered platform promised after next := by
  have grows := change.grows
  cases change with
  | kept | deleted | sentFile | sentKey | added => exact covered.grows grows
  | closed | committed => exact covered_none promised _
  | began => exact covered_empty promised _
  | staged _ pending plan isOpen modifies =>
      subst isOpen
      apply covered.stage
      intro database write planned shelf owner inserts
      rw [modifies database write planned] at inserts
      cases inserts
  | drew _ pending shelf id userId write drawsFor =>
      rw [creates] at drawsFor
      cases drawsFor

/-- Quiet operations keep the lasting facts of a request. -/
theorem Lasting.quiet (lasting : Lasting platform Facts) :
    Quiet platform (integrity platform) index
      (Keeping platform index request promised Facts) where
  stable := lasting.stable
  demands query world _ _ := owes_nothing (fun same => by cases same) rfl
  kept := by
    intro query choice world reply next _ keeping performed
    obtain ⟨task, found, asked, covered, facts⟩ := keeping
    obtain ⟨current, session, same, responded, locals⟩ := perform_inv performed
    rw [found, Option.some.injEq] at same
    subst same
    obtain ⟨-, sameStore, sameSession⟩ := respond_ask responded
    refine ⟨task.after session world.store.log.length _ reply, ?_, ?_, ?_, ?_⟩
    · rw [locals, Function.update_self]
    · rw [Local.request_after, asked]
    · rw [Local.session_after, sameSession, sameStore]
      exact covered
    · rw [sameStore]
      exact facts

/-- A failure keeps only that the request is running. -/
theorem loosen {program : Task Id PublicKey Value} {After : Value → World Id PublicKey → Prop}
    {Facts' : Store Id → Prop} {promised' : Option (Shelf × Owner Id)}
    {Before : World Id PublicKey → Prop}
    (triple : Triple (World.perform platform) (integrity platform) index Before program After
      fun _ => Keeping platform index request promised' Facts') :
    Triple (World.perform platform) (integrity platform) index Before program After
      fun _ => Running index request := by
  apply triple.conseq
  · exact fun _ _ holds => holds
  · exact fun _ _ _ holds => holds
  · exact fun _ _ _ holds => At.running holds

/-- A command that creates no row keeps the session covered. -/
theorem Lasting.tell (lasting : Lasting platform Facts) {command : Command Id}
    (creates : (Op.act command).creates = none)
    (commits : command = .commitTransaction → promised = none)
    (writes : ∀ text, (Op.act command).chainText = some text → ∀ store, Facts store →
      Belongs platform store request.body.userId text) :
    Triple (World.perform platform) (integrity platform) index
      (Keeping platform index request promised Facts)
      (Backend.tell command : Task Id PublicKey (Result PublicKey command))
      (fun _ => Keeping platform index request promised Facts)
      fun _ => Keeping platform index request promised Facts := by
  apply At.call lasting.stable
  · intro world task _ found asked holds
    constructor
    · intro isCommit current same
      rw [found, Option.some.injEq] at same
      subst same
      have kept := holds.1
      rw [commits (Op.act.inj isCommit)] at kept
      exact kept
    · intro text isWrite current same
      rw [found, Option.some.injEq] at same
      subst same
      rw [asked]
      exact writes text isWrite world.store holds.2
  · intro world task choice reply store session _ found asked holds _ responded
    have change := respond_change responded
    have covered := change.covered creates holds.1
    have facts := lasting _ _ change.grows holds.2
    cases reply with
    | ok value => exact ⟨covered, facts⟩
    | error failure => exact ⟨covered, facts⟩

/-- A created row is promised to the chain. -/
theorem create_triple {command : Command Id} {shelf : Shelf} {userId : String}
    {found : Result PublicKey command → Id} (commits : command ≠ .commitTransaction)
    (writes : (Op.act command).chainText = none)
    (created : ∀ store session choice value next after,
      respond platform store session (.act command) choice = some (.ok value, next, after) →
        next = { store with drawn := (found value, userId) :: store.drawn } ∧
          ∃ pending write, session = some pending ∧
            write.inserts = some (shelf, ⟨found value, userId, false⟩) ∧
            after = some (pending.stage store fun _ => some write)) :
    Triple (World.perform platform) (integrity platform) index
      (Clear platform index request)
      (Backend.tell command : Task Id PublicKey (Result PublicKey command))
      (fun value => Keeping platform index request
        (some (shelf, ⟨found value, userId, false⟩)) fun store => (found value, userId) ∈ store.drawn)
      fun _ => Running index request := by
  apply At.call lasting_true.stable
  · intro world task _ _ _ _
    exact owes_nothing (fun same => commits (Op.act.inj same)) writes
  · intro world task choice reply store session _ _ _ holds _ responded
    cases reply with
    | error failure => exact trivial
    | ok value =>
        obtain ⟨drawn, pending, write, isOpen, inserts, staged⟩ :=
          created _ _ _ _ _ _ responded
        subst drawn staged
        have grows : Grows platform world.store
            { world.store with drawn := (found value, userId) :: world.store.drawn } :=
          ⟨fun _ member => List.mem_cons_of_mem _ member, fun _ _ recorded => recorded⟩
        have covered : Covered platform (some (shelf, ⟨found value, userId, false⟩))
            (some pending) world.store := by
          rw [← isOpen]
          intro current same write member other owner inserts
          rcases holds.1 current same write member other owner inserts with promise | held
          · cases promise
          · exact .inr held
        refine ⟨Covered.grows ?_ grows, List.mem_cons_self⟩
        apply covered.stage
        intro database planned same other owner inserted
        cases same
        rw [inserts] at inserted
        exact .inl inserted

/-- The chain entry keeps the promise. -/
theorem fulfil_triple {command : Command Id} {shelf : Shelf} {owner : Owner Id}
    (commits : command ≠ .commitTransaction)
    (writes : (Op.act command).chainText = some (platform.idText owner.id))
    (asker : request.body.userId = owner.userId)
    (sent : ∀ store session choice value next after,
      respond platform store session (.act command) choice = some (.ok value, next, after) →
        after = session ∧ Recorded platform next shelf owner.id) :
    Triple (World.perform platform) (integrity platform) index
      (Keeping platform index request (some (shelf, owner)) fun store =>
        (owner.id, owner.userId) ∈ store.drawn)
      (Backend.tell command : Task Id PublicKey (Result PublicKey command))
      (fun _ => Clear platform index request)
      fun _ => Running index request := by
  apply At.call (lasting_drawn (owner.id, owner.userId)).stable
  · intro world task _ found asked holds
    constructor
    · intro isCommit
      exact absurd (Op.act.inj isCommit) commits
    · intro text isWrite current same
      rw [found, Option.some.injEq] at same
      subst same
      rw [writes, Option.some.injEq] at isWrite
      rw [asked, asker, ← isWrite]
      exact ⟨owner.id, platform.castId_idText owner.id, holds.2⟩
  · intro world task choice reply store session _ _ _ holds _ responded
    cases reply with
    | error failure => exact trivial
    | ok value =>
        have grows := (respond_change responded).grows
        obtain ⟨same, recorded⟩ := sent _ _ _ _ _ _ responded
        subst same
        refine ⟨?_, trivial⟩
        exact (holds.1.grows grows).fulfil ⟨grows.drawn _ holds.2, fun _ => recorded⟩

omit [DecidableEq Id] in
/-- The control commands of a session keep the stores integral. -/
theorem integrity_sessional : Sessional (integrity platform) index where
  same _ _ tolerated := tolerated.same
  demands command world isControl := by
    cases command with
    | startSession | startTransaction | abortTransaction | endSession =>
        exact owes_nothing (fun same => by cases same) rfl
    | _ => cases isControl

/-- A transaction whose body ends with a covered session keeps the stores integral. -/
theorem integrity_transaction {exec : Task Id PublicKey Value} {attempts : Nat}
    (body : Triple (World.perform platform) (integrity platform) index
      (Clear platform index request) exec (fun _ => Clear platform index request)
      fun _ => Running index request) :
    Triple (World.perform platform) (integrity platform) index (Closed index request)
      (DbUtil.transaction attempts exec) (fun _ => Closed index request)
      fun _ => Running index request := by
  apply integrity_sessional.transaction
  · apply body.conseq
    · intro world _ opened
      obtain ⟨task, found, asked, isOpen⟩ := opened
      refine ⟨task, found, asked, ?_, trivial⟩
      rw [isOpen]
      exact covered_empty none _
    · exact fun _ _ _ holds => holds
    · exact fun _ _ _ holds => holds
  · intro _
    apply At.call lasting_true.stable
    · intro world task _ found _ holds
      refine ⟨?_, fun text isWrite => by cases isWrite⟩
      intro _ current same
      rw [found, Option.some.injEq] at same
      subst same
      exact holds.1
    · intro world task choice reply store session _ _ _ _ _ responded
      have ended := session_of_ending rfl responded
      cases reply with
      | ok value => exact ended
      | error failure => exact ended

/-- An existence check that succeeds adds its fact. -/
theorem checkFound_facts {message : String} {find : Task Id PublicKey Bool}
    (asks : Triple (World.perform platform) (integrity platform) index
      (Clear platform index request) find
      (fun found world => (found = true → Facts world.store) ∧ Clear platform index request world)
      fun _ => Clear platform index request) :
    Triple (World.perform platform) (integrity platform) index (Clear platform index request)
      (checkFound message find) (fun _ => Keeping platform index request none Facts)
      fun _ => Running index request := by
  apply (checkFound_triple asks fun _ _ holds => holds.2).conseq
  · exact fun _ _ holds => holds
  · intro _ world _ holds
    obtain ⟨facts, task, found, asked, covered, -⟩ := holds
    exact ⟨task, found, asked, covered, facts rfl⟩
  · exact fun _ _ _ holds => At.running holds

/-- A file that is found belongs to its user. -/
theorem filesCheckNotFound_belongs (fileId userId : String) :
    Triple (World.perform platform) (integrity platform) index (Clear platform index request)
      (FilesModel.checkNotFound fileId userId : Task Id PublicKey Unit)
      (fun _ => Keeping platform index request none fun store =>
        Belongs platform store userId fileId)
      fun _ => Running index request := by
  apply checkFound_facts
  apply lasting_true.quiet.ask
  intro world choice value next integral _ _ performed isFound
  subst isFound
  obtain ⟨row, found⟩ := filesExists_true (answer_of_perform performed)
  rw [store_of_ask performed]
  exact integral.belongs_of_findFile found

/-- A key that is found belongs to its user. -/
theorem keysCheckNotFound_belongs (publicKeyId userId : String) :
    Triple (World.perform platform) (integrity platform) index (Clear platform index request)
      (KeysModel.checkNotFound (KeysCore.condition userId (.text publicKeyId)) :
        Task Id PublicKey Unit)
      (fun _ => Keeping platform index request none fun store =>
        Belongs platform store userId publicKeyId)
      fun _ => Running index request := by
  apply checkFound_facts
  apply lasting_true.quiet.ask
  intro world choice value next integral _ _ performed isFound
  subst isFound
  obtain ⟨found, searched, isSome⟩ := keysExists_eq_ok (answer_of_perform performed)
  obtain ⟨row, same⟩ := Option.isSome_iff_exists.mp isSome
  subst same
  rw [store_of_ask performed]
  exact integral.belongs_of_findKey searched

/-- A command outside the chain keeps what the request knows. -/
theorem Lasting.calm (lasting : Lasting platform Facts) {command : Command Id}
    (creates : (Op.act command).creates = none) (writes : (Op.act command).chainText = none)
    (commits : command ≠ .commitTransaction) :
    Triple (World.perform platform) (integrity platform) index
      (Keeping platform index request promised Facts)
      (Backend.tell command : Task Id PublicKey (Result PublicKey command))
      (fun _ => Keeping platform index request promised Facts)
      fun _ => Running index request := by
  apply loosen
  apply lasting.tell creates (fun same => absurd same commits)
  intro text isWrite
  rw [writes] at isWrite
  cases isWrite

/-- The row that a request creates is promised to the chain. -/
abbrev Promising (platform : Platform Id PublicKey) (index : Nat) (request : Request Id)
    (shelf : Shelf) (userId : String) (id : Id) : World Id PublicKey → Prop :=
  Keeping platform index request (some (shelf, ⟨id, userId, false⟩)) fun store =>
    (id, userId) ∈ store.drawn

/-- A created file promises its entry on the chain. -/
theorem filesCreate_promises (userId fileName mimeType hash : String) :
    Triple (World.perform platform) (integrity platform) index (Clear platform index request)
      (FilesModel.create userId fileName mimeType hash : Task Id PublicKey Id)
      (Promising platform index request .files userId) fun _ => Running index request := by
  apply guarded_triple
  apply create_triple (fun same => by cases same) rfl
  intro store session choice value next after responded
  obtain ⟨-, drawn, pending, isOpen, staged⟩ := filesCreate_ok responded
  exact ⟨drawn, pending, _, isOpen, rfl, staged⟩

/-- A created key promises its entry on the chain. -/
theorem keysCreate_promises (userId : String) :
    Triple (World.perform platform) (integrity platform) index (Clear platform index request)
      (KeysModel.create userId : Task Id PublicKey Id)
      (Promising platform index request .keys userId) fun _ => Running index request := by
  apply guarded_triple
  apply create_triple (fun same => by cases same) rfl
  intro store session choice value next after responded
  obtain ⟨-, drawn, pending, isOpen, staged⟩ := keysCreate_ok responded
  exact ⟨drawn, pending, _, isOpen, rfl, staged⟩

/-- Writing the entry of a file fulfils the promise. -/
theorem setFile_fulfils (id : Id) (hash : String) :
    Triple (World.perform platform) (integrity platform) index
      (Promising platform index request .files request.body.userId id)
      (HolonusFileService.setFile (platform.idText id) hash : Task Id PublicKey Unit)
      (fun _ => Clear platform index request) fun _ => Running index request := by
  apply guarded_triple
  apply fulfil_triple (fun same => by cases same) rfl rfl
  intro store session choice value next after responded
  apply recorded_of_execute _ rfl (proceeding_eq_some (act_of_respond responded))
  intro chain executed
  exact entry_of_setFile executed

/-- Writing the entry of a key fulfils the promise. -/
theorem setKey_fulfils (id : Id) (publicKey : String) :
    Triple (World.perform platform) (integrity platform) index
      (Promising platform index request .keys request.body.userId id)
      (HolonusFileService.setKey (platform.idText id) publicKey : Task Id PublicKey Unit)
      (fun _ => Clear platform index request) fun _ => Running index request := by
  apply guarded_triple
  apply fulfil_triple (fun same => by cases same) rfl rfl
  intro store session choice value next after responded
  apply recorded_of_execute _ rfl (proceeding_eq_some (act_of_respond responded))
  intro chain executed
  exact entry_of_setKey executed

/-- A request writes on the chain under a text that belongs to its user. -/
theorem chainWrite_belongs {command : Command Id} {text : String}
    (writes : (Op.act command).chainText = some text) (creates : (Op.act command).creates = none)
    (commits : command ≠ .commitTransaction) :
    Triple (World.perform platform) (integrity platform) index
      (Keeping platform index request none fun store =>
        Belongs platform store request.body.userId text)
      (tell command : Task Id PublicKey (Result PublicKey command))
      (fun _ => Keeping platform index request none fun store =>
        Belongs platform store request.body.userId text)
      fun _ => Running index request := by
  apply loosen
  apply (lasting_belongs request.body.userId text).tell creates (fun same => absurd same commits)
  intro other isWrite store belongs
  rw [writes, Option.some.injEq] at isWrite
  rw [← isWrite]
  exact belongs

end

end Holonus.Backend
