/-
This file judges the requests of a run by what the stores held during it.
-/

import Holonus.Proof.Backend.Obedience

namespace Holonus.Backend

open Holonus.Machine Holonus.Abstract

section
variable {Id PublicKey : Type}

/-- The network has content with this address. -/
def Store.Resolves (platform : Platform Id PublicKey) (store : Store Id) (hash : String) : Prop :=
  ∃ data ∈ store.ipfs, platform.address data = hash

/-- The hash is the address of the attachement of the request in encrypted form. -/
def Body.Seals (platform : Platform Id PublicKey) (body : Body Id) (hash : String) : Prop :=
  ∃ key attachement, body.Attaches attachement ∧
    platform.address (platform.encrypt key attachement) = hash

/-- What a body permits it permits with more stored hashes. -/
theorem Body.Permits.mono {platform : Platform Id PublicKey} {Stored Wider : String → Prop}
    {body : Body Id} {op : Op Id} (permits : body.Permits platform Stored op)
    (wider : ∀ hash, Stored hash → Wider hash) : body.Permits platform Wider op := by
  cases op with
  | ask query => exact trivial
  | act command =>
      cases command with
      | filesCreate userId fileName mimeType hash => exact ⟨wider hash permits.1, permits.2⟩
      | chainSetFile fileId hash => exact ⟨wider hash permits.1, permits.2⟩
      | _ => exact permits

variable [DecidableEq Id] {platform : Platform Id PublicKey}

/-- Content on the network stays there. -/
theorem ipfs_next {world next : World Id PublicKey} {index : Nat} {op : Op Id}
    {choice : Choice Id PublicKey} {reply : Except Failure (Reply PublicKey op)}
    (performed : world.perform platform index op choice = some (reply, next)) :
    world.store.ipfs ⊆ next.store.ipfs := by
  obtain ⟨task, session, -, responded, -⟩ := perform_inv performed
  have change := respond_change responded
  generalize next.store = store at change ⊢
  cases change with
  | kept | closed | began | staged | drew | committed | deleted | sentFile | sentKey =>
      exact fun _ member => member
  | added data => exact List.subset_append_left _ _

/-- Content of the network stays there. -/
theorem advance_ipfs
    {first pool next : Pool (Op Id) (Reply PublicKey) Failure (Response Id) (World Id PublicKey)}
    {move : Move (Choice Id PublicKey) (Request Id)}
    (kept : first.world.store.ipfs ⊆ pool.world.store.ipfs)
    (advanced : (runtime platform).advance pool move = .ok next) :
    first.world.store.ipfs ⊆ next.world.store.ipfs := by
  cases move with
  | start index request =>
      obtain ⟨-, started⟩ := (runtime platform).advance_start advanced
      rw [started]
      exact kept
  | step index choice =>
      obtain ⟨op, resume, reply, world, -, performed, stepped⟩ :=
        (runtime platform).advance_step advanced
      rw [stepped]
      exact List.Subset.trans kept (ipfs_next performed)

variable (platform) (store : Store Id) (moves : List (Move (Choice Id PublicKey) (Request Id)))

/-- Content on the network stays there along every run. -/
theorem run_ipfs : store.ipfs ⊆ (reached platform store moves).world.store.ipfs := by
  apply run_invariant (fun _ => True)
    (fun pool : Pool (Op Id) (Reply PublicKey) Failure (Response Id) (World Id PublicKey) =>
      store.ipfs ⊆ pool.world.store.ipfs) (List.Subset.refl _) _ fun _ _ => trivial
  intro pool move next _ kept advanced
  have started : (resting store : Pool (Op Id) (Reply PublicKey) Failure (Response Id)
      (World Id PublicKey)).world.store.ipfs ⊆ pool.world.store.ipfs := kept
  exact advance_ipfs started advanced

/-- A request records hashes of its own content that the network has in the end, and it reads what the
stores held at some moment of the run. -/
def evidenceOf (body : Body Id) : Evidence Id where
  Stored hash :=
    (reached platform store moves).world.store.Resolves platform hash ∧ body.Seals platform hash
  File fileId userId row := ∃ first, first <+: moves ∧
    (reached platform store first).world.store.database.findFile platform fileId userId =
      .ok (some row)
  Key condition row := ∃ first, first <+: moves ∧
    (reached platform store first).world.store.database.findKey platform condition = .ok (some row)
  Entry shelf text value := ∃ first, first <+: moves ∧
    let entry := ((reached platform store first).world.store.chain.storage shelf).entries text
    entry.id ≠ "" ∧ entry.value = value
  Content hash data := platform.address data = hash

variable {platform store moves}

/-- The evidence of a run knows every state on its way. -/
theorem evidence_knows {first : List (Move (Choice Id PublicKey) (Request Id))}
    (earlier : first <+: moves) (body : Body Id) :
    (evidenceOf platform store moves body).Knows platform
      (reached platform store first).world.store where
  file _ _ _ found := ⟨first, earlier, found⟩
  key _ _ found := ⟨first, earlier, found⟩
  entry _ _ named := ⟨first, earlier, named, rfl⟩
  content _ _ := rfl

/-- Every reply of a run is truthful about the stores of the run. -/
theorem reached_answered :
    ∀ entry ∈ history (runtime platform).advance (resting store) moves,
      (runtime platform).Answered World.requested
        (fun _ request => protocol platform (evidenceOf platform store moves request.body)
          (fun _ => True) request.body) entry := by
  intro entry member index choice isStep op resume reply next request task performed _ permits
  cases reply with
  | error failure => exact .inr trivial
  | ok value =>
      obtain ⟨first, rest, after, parts, ran, advanced, later⟩ := later_of_history
        (fun first second : Pool (Op Id) (Reply PublicKey) Failure (Response Id)
          (World Id PublicKey) => first.world.store.ipfs ⊆ second.world.store.ipfs)
        (fun _ => List.Subset.refl _) (fun _ _ _ _ kept advanced => advance_ipfs kept advanced)
        member
      obtain ⟨before, session, -, responded, -⟩ := perform_inv performed
      obtain ⟨pool, move⟩ := entry
      cases isStep
      have isPool : reached platform store first = pool := ran
      subst isPool
      apply truthful_of_respond (evidence_knows ⟨_, parts.symm⟩ request.body) responded
      intro data isAdd
      subst isAdd
      obtain ⟨key, attachement, attaches, encrypted⟩ := permits
      rw [(runtime platform).step_advances task performed] at advanced
      cases advanced
      have adding := proceeding_eq_some (act_of_respond responded)
      have added : data ∈ next.store.ipfs := by
        rw [← congrArg (fun effect => effect.2.1.ipfs) adding]
        exact List.mem_append_right _ List.mem_cons_self
      exact ⟨⟨data, later added, rfl⟩, key, attachement, attaches, congrArg _ encrypted⟩

/-- Every request obeys what the run says about its replies. -/
theorem reached_obedient {first : List (Move (Choice Id PublicKey) (Request Id))}
    (earlier : first <+: moves) :
    (reached platform store first).Obedient World.requested
      (fun _ request => protocol platform (evidenceOf platform store moves request.body)
        (fun _ => True) request.body)
      (fun request => request.body.Suits platform (evidenceOf platform store moves request.body))
      fun request => Listed (fun _ => True) request.body.errors := by
  apply Pool.Obedient.run (remembers platform)
  · exact fun _ request => program_obeys platform request
  · intro index program started
    cases started
  · intro entry member
    apply reached_answered entry
    obtain ⟨rest, rfl⟩ := earlier
    rw [history_append]
    exact List.mem_append_left _ member

/-- What the permitted steps of a run keep holds in its end. -/
theorem reached_keeps {Holds : World Id PublicKey → Prop}
    (holds : Holds (resting store : Pool (Op Id) (Reply PublicKey) Failure (Response Id)
      (World Id PublicKey)).world)
    (enrolled : ∀ index request world, world.locals index = none → Holds world →
      Holds ((runtime platform).enroll index request world))
    (performed : ∀ first index op resume choice reply next request, first <+: moves →
      (reached platform store first).tasks index = some (.await op resume) →
      (reached platform store first).world.requested index = some request →
      request.body.Permits platform (evidenceOf platform store moves request.body).Stored op →
      (reached platform store first).world.perform platform index op choice = some (reply, next) →
        Holds (reached platform store first).world → Holds next) :
    Holds (reached platform store moves).world := by
  apply run_invariant
    (fun entry => ∃ first, first <+: moves ∧ reached platform store first = entry.1)
    (fun pool : Pool (Op Id) (Reply PublicKey) Failure (Response Id) (World Id PublicKey) =>
      Holds pool.world) holds
  · rintro pool move next ⟨first, earlier, rfl⟩ before advanced
    cases move with
    | start index request =>
        obtain ⟨free, started⟩ := (runtime platform).advance_start advanced
        rw [started]
        exact enrolled index request _ (Option.isNone_iff_eq_none.mp free) before
    | step index choice =>
        obtain ⟨op, resume, reply, world, task, stepping, stepped⟩ :=
          (runtime platform).advance_step advanced
        obtain ⟨request, asked, permits⟩ := (reached_obedient earlier).allows task
        rw [stepped]
        exact performed first index op resume choice reply world request earlier task asked permits
          stepping before
  · intro entry member
    obtain ⟨first, rest, next, parts, ran, -, -⟩ := split_of_history member
    exact ⟨first, ⟨_, parts.symm⟩, ran⟩

/-- Every response of a run suits its request. -/
theorem reached_suits {index : Nat} {request : Request Id} {response : Response Id}
    (asked : (reached platform store moves).world.requested index = some request)
    (ended : (reached platform store moves).outcome index = some (.ok response)) :
    request.body.Suits platform (evidenceOf platform store moves request.body) response := by
  obtain ⟨other, same, suits⟩ := (reached_obedient (List.prefix_refl moves)).finished ended
  have isOther : some request = some other := asked.symm.trans same
  cases isOther
  exact suits

end

end Holonus.Backend
