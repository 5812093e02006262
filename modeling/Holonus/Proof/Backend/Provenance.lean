/-
This file proves that a shown file and a shown key come from requests of their owner.
-/

import Holonus.Proof.Backend.Evidence
import Holonus.Proof.Backend.Isolation

namespace Holonus.Backend

open Holonus.Machine Holonus.File Holonus.Abstract

section
variable {Id PublicKey : Type}

/-- The request stores the value under the text for its user; the value of a file is the address of
the uploaded attachement in encrypted form. -/
def Body.Writes (platform : Platform Id PublicKey) (body : Body Id) (userId text value : String) :
    Shelf → Prop
  | .files => ∃ key attachement, platform.address (platform.encrypt key attachement) = value ∧
      ((∃ publicKeyId fileName mimeType,
          body = .postFile userId publicKeyId fileName mimeType attachement) ∨
        ∃ fileName mimeType, body = .putFile userId text fileName mimeType attachement)
  | .keys => body = .postKey userId (some value) ∨ body = .putKey userId text (some value)

/-- A permitted write of an entry is one that the body writes. -/
theorem Body.Permits.writes {platform : Platform Id PublicKey} {body : Body Id} {shelf : Shelf}
    {text value : String}
    (permits : body.Permits platform (body.Seals platform) (writeOp shelf text value)) :
    body.Writes platform body.userId text value shelf := by
  cases shelf with
  | files =>
      obtain ⟨⟨key, attachement, attaches, sealed⟩, uploads⟩ := permits
      refine ⟨key, attachement, sealed, ?_⟩
      rcases attaches with ⟨userId, publicKeyId, fileName, mimeType, rfl⟩ |
        ⟨userId, fileId, fileName, mimeType, rfl⟩
      · exact .inl ⟨publicKeyId, fileName, mimeType, rfl⟩
      · rcases uploads with ⟨_, _, _, _, _, same⟩ | ⟨_, _, _, _, same⟩
        · cases same
        · cases same
          exact .inr ⟨fileName, mimeType, rfl⟩
  | keys =>
      obtain ⟨userId, rfl | rfl⟩ := permits
      · exact .inl rfl
      · exact .inr rfl

variable {platform : Platform Id PublicKey} {store : Store Id}

theorem Body.Writes.userId {body : Body Id} {userId text value : String} {shelf : Shelf}
    (writes : body.Writes platform userId text value shelf) : body.userId = userId := by
  cases shelf with
  | files =>
      obtain ⟨_, _, -, ⟨_, _, _, rfl⟩ | ⟨_, _, rfl⟩⟩ := writes
      · rfl
      · rfl
  | keys =>
      rcases writes with rfl | rfl
      · rfl
      · rfl

/-- The entry under the text is the one of the start, or a request of the owner wrote it. -/
def Authored (platform : Platform Id PublicKey) (store : Store Id) (world : World Id PublicKey)
    (shelf : Shelf) (text : String) (entry : StoredText) : Prop :=
  entry = (store.chain.storage shelf).entries text ∨
    ∃ index request, world.requested index = some request ∧
      Belongs platform world.store request.body.userId text ∧
      request.body.Writes platform request.body.userId text entry.value shelf

/-- The value was there at the start, or a request of the user wrote it. -/
def Stems (platform : Platform Id PublicKey) (store : Store Id) (world : World Id PublicKey)
    (userId : String) (shelf : Shelf) (text value : String) : Prop :=
  (((store.chain.storage shelf).entries text).id ≠ "" ∧
      ((store.chain.storage shelf).entries text).value = value) ∨
    ∃ index request, world.requested index = some request ∧
      request.body.Writes platform userId text value shelf

/-- What was requested and drawn stays so. -/
structure Continues (platform : Platform Id PublicKey) (world next : World Id PublicKey) : Prop where
  grows : Grows platform world.store next.store
  requested : ∀ index request, world.requested index = some request →
    next.requested index = some request

/-- An entry under an identifier of the user stems from the user. -/
theorem Authored.stems {world : World Id PublicKey} {shelf : Shelf} {text userId : String}
    {entry : StoredText} (accounted : Accounted platform world)
    (belongs : Belongs platform world.store userId text) (named : entry.id ≠ "")
    (authored : Authored platform store world shelf text entry) :
    Stems platform store world userId shelf text entry.value := by
  rcases authored with same | ⟨index, request, asked, owns, writes⟩
  · rw [same] at named ⊢
    exact .inl ⟨named, rfl⟩
  · obtain ⟨id, cast, mine⟩ := belongs
    obtain ⟨other, otherCast, theirs⟩ := owns
    rw [cast, Option.some.injEq] at otherCast
    subst otherCast
    rw [accounted.user_unique theirs mine] at writes
    exact .inr ⟨index, request, asked, writes⟩

/-- Continuation composes. -/
theorem Continues.trans {first second third : World Id PublicKey}
    (left : Continues platform first second) (right : Continues platform second third) :
    Continues platform first third where
  grows := left.grows.trans right.grows
  requested index request asked :=
    right.requested index request (left.requested index request asked)

/-- An authored entry stays authored. -/
theorem Authored.continues {world next : World Id PublicKey} {shelf : Shelf} {text : String}
    {entry : StoredText} (continues : Continues platform world next)
    (authored : Authored platform store world shelf text entry) :
    Authored platform store next shelf text entry := by
  rcases authored with same | ⟨index, request, asked, belongs, writes⟩
  · exact .inl same
  · exact .inr ⟨index, request, continues.requested index request asked,
      belongs.grows continues.grows, writes⟩

variable [DecidableEq Id]

/-- Every operation continues the world. -/
theorem Continues.performed {world next : World Id PublicKey} {index : Nat} {op : Op Id}
    {choice : Choice Id PublicKey} {reply : Except Failure (Reply PublicKey op)}
    (performed : world.perform platform index op choice = some (reply, next)) :
    Continues platform world next := by
  obtain ⟨task, session, -, responded, -⟩ := perform_inv performed
  refine ⟨(respond_change responded).grows, ?_⟩
  rw [(remembers platform).performed index op choice world reply next performed]
  exact fun _ _ asked => asked

/-- Enrolling a request continues the world. -/
theorem Continues.enrolled {world : World Id PublicKey} {index : Nat}
    (free : world.locals index = none) (request : Request Id) :
    Continues platform world ((runtime platform).enroll index request world) := by
  refine ⟨Grows.refl _, ?_⟩
  intro other earlier asked
  rw [(remembers platform).enrolled, Function.update_of_ne]
  · exact asked
  · rintro rfl
    rw [World.requested, free] at asked
    cases asked

/-- A run goes on from each of its moments. -/
theorem reached_continues {first moves : List (Move (Choice Id PublicKey) (Request Id))}
    (earlier : first <+: moves) :
    Continues platform (reached platform store first).world
      (reached platform store moves).world := by
  obtain ⟨rest, rfl⟩ := earlier
  have whole : reached platform store (first ++ rest) =
      run (runtime platform).advance (reached platform store first) rest := run_append _ _ _
  rw [whole]
  apply run_invariant (fun _ => True)
    (fun pool : Pool (Op Id) (Reply PublicKey) Failure (Response Id) (World Id PublicKey) =>
      Continues platform (reached platform store first).world pool.world)
    ⟨Grows.refl _, fun _ _ asked => asked⟩ _ fun _ _ => trivial
  intro pool move next _ continues advanced
  apply continues.trans
  cases move with
  | start index request =>
      obtain ⟨free, started⟩ := (runtime platform).advance_start advanced
      rw [started]
      exact Continues.enrolled (Option.isNone_iff_eq_none.mp free) request
  | step index choice =>
      obtain ⟨op, resume, reply, world, -, performed, stepped⟩ :=
        (runtime platform).advance_step advanced
      rw [stepped]
      exact Continues.performed performed

/-- Every entry of the chain has a source. -/
def Attributed (platform : Platform Id PublicKey) (store : Store Id) (world : World Id PublicKey) :
    Prop :=
  ∀ shelf text, Authored platform store world shelf text
    ((world.store.chain.storage shelf).entries text)

/-- A permitted step on an own identifier keeps the entries attributed. -/
theorem Attributed.performed {world next : World Id PublicKey} {index : Nat} {op : Op Id}
    {choice : Choice Id PublicKey} {reply : Except Failure (Reply PublicKey op)}
    {request : Request Id} (asked : world.requested index = some request)
    (permits : request.body.Permits platform (request.body.Seals platform) op)
    (owes : ∀ text, op.chainText = some text →
      Belongs platform world.store request.body.userId text)
    (performed : world.perform platform index op choice = some (reply, next))
    (attributed : Attributed platform store world) : Attributed platform store next := by
  have continues : Continues platform world next := Continues.performed performed
  obtain ⟨task, session, -, responded, -⟩ := perform_inv performed
  intro shelf text
  rcases (respond_change responded).entry_cases shelf text with kept | ⟨value, rfl, written⟩
  · rw [kept]
    exact (attributed shelf text).continues continues
  · rw [written]
    have belongs := owes text (chainText_writeOp shelf text value)
    exact .inr ⟨index, request, continues.requested index request asked,
      belongs.grows continues.grows, permits.writes⟩

/-- Every run from an established store keeps the entries attributed. -/
theorem reached_attributed (established : Established platform store)
    (moves : List (Move (Choice Id PublicKey) (Request Id))) :
    Attributed platform store (reached platform store moves).world := by
  apply reached_keeps
  · exact fun _ _ => .inl rfl
  · intro index request world free attributed shelf text
    exact (attributed shelf text).continues (Continues.enrolled free request)
  · intro first index op resume choice reply next request _ task asked permits performed attributed
    have sealing := Body.Permits.mono permits fun _ stored => stored.2
    have owes := (reached_integrity established first).demands
      (integrity_sound platform).rely_refl task
    obtain ⟨current, found, same⟩ := Option.map_eq_some_iff.mp asked
    apply attributed.performed asked sealing _ performed
    intro text writes
    rw [← same]
    exact owes.write text writes current found

/-- What the chain held at some moment stems from the user that owns the identifier. -/
theorem reached_stems (established : Established platform store)
    {first moves : List (Move (Choice Id PublicKey) (Request Id))} (earlier : first <+: moves)
    {shelf : Shelf} {text userId : String}
    (belongs : Belongs platform (reached platform store moves).world.store userId text)
    (named : (((reached platform store first).world.store.chain.storage shelf).entries text).id ≠
      "") :
    Stems platform store (reached platform store moves).world userId shelf text
      (((reached platform store first).world.store.chain.storage shelf).entries text).value :=
  Authored.stems (reached_accounts established moves).invariant belongs named
    ((reached_attributed established first shelf text).continues (reached_continues earlier))

/-- The response shows the value that the chain has under the text. -/
inductive Displays (platform : Platform Id PublicKey) :
    Body Id → Response Id → Shelf → String → String → Prop
  | file (userId fileId fileName mimeType : String) (attachement : Bytes) :
      Displays platform (.getFile userId fileId) (.file fileName mimeType attachement) .files fileId
        (platform.address attachement)
  | key (userId publicKeyId : String) (id : Id) (publicKey : String) :
      Displays platform (.getKey userId publicKeyId) (.key (some id) (some publicKey)) .keys
        (platform.idText id) publicKey

/-- A shown value was on the chain at some moment, under an identifier of the user. -/
theorem Displays.belongs {moves : List (Move (Choice Id PublicKey) (Request Id))} {body : Body Id}
    {response : Response Id} {shelf : Shelf} {text value : String}
    (established : Established platform store)
    (suits : body.Suits platform (evidenceOf platform store moves body) response)
    (displays : Displays platform body response shelf text value) :
    Belongs platform (reached platform store moves).world.store body.userId text ∧
      (evidenceOf platform store moves body).Entry shelf text value := by
  cases displays with
  | file userId fileId fileName mimeType attachement =>
      obtain ⟨row, hash, ⟨first, earlier, search⟩, -, -, entry, content⟩ := suits
      obtain ⟨cast, member, owned⟩ := Database.findFile_some search
      have isUser := Option.some.inj (owned.resolve_left (Option.some_ne_none userId))
      have drawn := (reached_accounts established first).invariant.owned .files _
        (Database.file_owner member)
      rw [← isUser] at drawn
      have isHash : platform.address attachement = hash := content
      rw [isHash]
      exact ⟨⟨row.id, cast, (reached_continues earlier).grows.drawn _ drawn⟩, entry⟩
  | key userId publicKeyId id publicKey =>
      rcases suits with ⟨missing, -⟩ | ⟨shownId, shownKey, isId, isKey, shows⟩
      · cases missing
      · cases isId
        cases isKey
        obtain ⟨row, ⟨first, earlier, search⟩, rfl, entry⟩ := shows
        obtain ⟨_, -, member, matched⟩ := Database.findKey_some search
        have isUser := Option.some.inj (matched.2.1.resolve_left (Option.some_ne_none userId))
        have drawn := (reached_accounts established first).invariant.owned .keys _
          (Database.key_owner member)
        rw [← isUser] at drawn
        exact ⟨⟨row.id, platform.castId_idText row.id,
          (reached_continues earlier).grows.drawn _ drawn⟩, entry⟩

/-- Over every run from an established store, a shown value stands under an identifier of the user
who asks and stems from this user. -/
theorem displays_stems (established : Established platform store)
    (moves : List (Move (Choice Id PublicKey) (Request Id))) (index : Nat) {request : Request Id}
    {response : Response Id} {shelf : Shelf} {text value : String}
    (asked : (reached platform store moves).world.requested index = some request)
    (ended : (reached platform store moves).outcome index = some (.ok response))
    (displays : Displays platform request.body response shelf text value) :
    let last := (reached platform store moves).world
    Belongs platform last.store request.body.userId text ∧
      Stems platform store last request.body.userId shelf text value := by
  obtain ⟨belongs, first, earlier, named, isValue⟩ :=
    displays.belongs established (reached_suits asked ended)
  refine ⟨belongs, ?_⟩
  rw [← isValue]
  exact reached_stems established earlier belongs named

end

end Holonus.Backend
