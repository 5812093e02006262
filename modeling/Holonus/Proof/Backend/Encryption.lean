/-
This file proves under which key the bytes of a served file are encrypted.
-/

import Holonus.Construction.Backend.PlainPlatform
import Holonus.Proof.Backend.Alone

namespace Holonus.Backend

open Holonus.Machine Holonus.File Holonus.Abstract

section
variable {Id PublicKey : Type} [DecidableEq Id] {platform : Platform Id PublicKey}
  {Admitted : Choice Id PublicKey → Prop} {request : Request Id} {Facts : Store Id → Prop}

/-- The bytes are in the network and the chain refers to them. -/
def Stored (platform : Platform Id PublicKey) (fileId : String) (data : Bytes)
    (store : Store Id) : Prop :=
  data ∈ store.ipfs ∧ (store.chain.fileStorage.entries fileId).value = platform.address data

/-- The chain has the text of the public key under the identifier. -/
def Published (platform : Platform Id PublicKey) (publicKey : PublicKey) (id : Id)
    (store : Store Id) : Prop :=
  platform.importPem (store.chain.keyStorage.entries (platform.idText id)).value = some publicKey

instance [DecidableEq PublicKey] (platform : Platform Id PublicKey) (publicKey : PublicKey)
    (id : Id) (store : Store Id) : Decidable (Published platform publicKey id store) :=
  inferInstanceAs (Decidable (_ = _))

/-- The key of the user has the public key on the chain. -/
def Registered (platform : Platform Id PublicKey) (userId : String) (publicKeyId : Ref Id)
    (publicKey : PublicKey) (store : Store Id) : Prop :=
  ∃ row, store.database.findKey platform (KeysCore.condition userId publicKeyId) = .ok (some row) ∧
    Published platform publicKey row.id store

/-- The stored bytes are what a read returns. -/
theorem getFile_returns {userId fileId : String} {data : Bytes} :
    Triple (World.perform platform) (solitary Admitted) 0
      (On request (Stored platform fileId data))
      (FilesCore.getFile userId fileId : Task Id PublicKey (String × String × Bytes))
      (fun file => On request fun _ => file.2.2 = data) fun _ => Running 0 request := by
  have quiet : Quiet platform (solitary Admitted) 0 (On request (Stored platform fileId data)) :=
    solitary_quiet
  have asks : Triple (World.perform platform) (solitary Admitted) 0
      (On request (Stored platform fileId data))
      (ask (.chainGetFile fileId) : Task Id PublicKey File.StoredText)
      (fun stored => On request fun store =>
        stored.value = platform.address data ∧ Stored platform fileId data store)
      fun _ => On request (Stored platform fileId data) := by
    apply solitary_ask
    intro store stored facts answered
    rw [← chainGetFile_ok answered]
    exact ⟨facts.2, facts⟩
  have cats (hash : String) : Triple (World.perform platform) (solitary Admitted) 0
      (On request fun store => hash = platform.address data ∧ Stored platform fileId data store)
      (ask (.ipfsCat hash) : Task Id PublicKey Bytes) (fun bytes => On request fun _ => bytes = data)
      fun _ => Running 0 request := by
    apply solitary_loosen
    apply solitary_ask
    intro store bytes facts answered
    exact platform.address_injective ((ipfsCat_ok answered).2.trans facts.1)
  apply Triple.bind (solitary_loosen (quiet.getTargetUser userId))
  intro user
  apply Triple.assume
  intro _
  apply Triple.bind (solitary_loosen (quiet.usersCheckLocked user.userId))
  intro _
  apply Triple.bind (solitary_loosen (checkFound_keeps quiet.ask_any))
  intro _
  apply Triple.bind (solitary_loosen (quiet.filesCheckLocked fileId))
  intro _
  apply Triple.bind (solitary_loosen (guarded_triple quiet.ask_any))
  intro fileinfo
  apply Triple.bind (solitary_loosen (chainGetFile_triple asks fun _ _ _ holds =>
    holds.mono fun _ facts => facts.2))
  intro bcData
  apply Triple.bind (ipfsCat_triple (cats bcData.value))
  intro ipfsData
  apply Triple.bind (solitary_loosen present_keeps)
  intro row
  exact Triple.pure fun _ _ holds => holds

/-- The facts do not depend on the network, on the drawn identifiers or on the file entries. -/
structure Blind (Facts : Store Id → Prop) : Prop where
  ipfs : ∀ store ipfs, Facts store → Facts { store with ipfs := ipfs }
  drawn : ∀ store drawn, Facts store → Facts { store with drawn := drawn }
  fileStorage : ∀ store storage, Facts store →
    Facts { store with chain := { store.chain with fileStorage := storage } }

section
variable (blind : Blind Facts)
include blind

/-- Storing content keeps the facts and has the content on the network. -/
theorem Blind.add (data : Bytes) :
    Triple (World.perform platform) (solitary Admitted) 0 (On request Facts)
      (IpfsUtil.add data : Task Id PublicKey String)
      (fun hash => On request fun store =>
        hash = platform.address data ∧ Facts store ∧ data ∈ store.ipfs)
      fun _ => On request Facts := by
  apply ipfsAdd_triple
  apply solitary_tell
  intro store session choice value next after facts _ responded
  obtain ⟨same, changed⟩ := ipfsAdd_ok responded
  rw [changed]
  exact ⟨same, blind.ipfs store _ facts,
    List.mem_append_right _ (List.mem_singleton_self data)⟩

/-- Creating a file keeps the facts and the content on the network. -/
theorem Blind.create (userId fileName mimeType hash : String) {data : Bytes} :
    Triple (World.perform platform) (solitary Admitted) 0
      (On request fun store => Facts store ∧ data ∈ store.ipfs)
      (FilesModel.create userId fileName mimeType hash : Task Id PublicKey Id)
      (fun _ => On request fun store => Facts store ∧ data ∈ store.ipfs)
      fun _ => On request fun store => Facts store ∧ data ∈ store.ipfs := by
  apply guarded_triple
  apply solitary_tell
  intro store session choice value next after facts _ responded
  obtain ⟨-, changed, -⟩ := filesCreate_ok responded
  rw [changed]
  exact ⟨blind.drawn store _ facts.1, facts.2⟩

/-- The entry on the chain completes the stored file. -/
theorem Blind.setFile {fileId : String} {data : Bytes} :
    Triple (World.perform platform) (solitary Admitted) 0
      (On request fun store => Facts store ∧ data ∈ store.ipfs)
      (HolonusFileService.setFile fileId (platform.address data) : Task Id PublicKey Unit)
      (fun _ => On request fun store => Facts store ∧ Stored platform fileId data store)
      fun _ => On request fun store => Facts store ∧ data ∈ store.ipfs := by
  apply guarded_triple
  apply solitary_tell
  intro store session choice value next after facts _ responded
  rw [chainSetFile_ok responded]
  refine ⟨blind.fileStorage store _ facts.1, facts.2, ?_⟩
  show (Function.update store.chain.fileStorage.entries fileId _ fileId).value = _
  rw [Function.update_self]

end

/-- A registered key does not depend on the network. -/
theorem blind_registered (userId : String) (publicKeyId : Ref Id) (publicKey : PublicKey) :
    Blind (Registered platform userId publicKeyId publicKey) where
  ipfs _ _ facts := facts
  drawn _ _ facts := facts
  fileStorage _ _ facts := facts

/-- The awaited lookup gives the registered key or nothing. -/
theorem getKey_registered {userId : String} {publicKeyId : Ref Id} {publicKey : PublicKey} :
    Triple (World.perform platform) (solitary Admitted) 0
      (On request (Registered platform userId publicKeyId publicKey))
      (KeysCore.getKey platform userId publicKeyId)
      (fun found world => (∀ key, found = some key → platform.importPem key.2 = some publicKey) ∧
        On request (Registered platform userId publicKeyId publicKey) world)
      fun _ => On request (Registered platform userId publicKeyId publicKey) := by
  have quiet : Quiet platform (solitary Admitted) 0
      (On request (Registered platform userId publicKeyId publicKey)) := solitary_quiet
  have finds : Triple (World.perform platform) (solitary Admitted) 0
      (On request (Registered platform userId publicKeyId publicKey))
      (ask (.keysFindOne (KeysCore.condition userId publicKeyId)) :
        Task Id PublicKey (Option (KeyRow Id)))
      (fun found => On request fun store =>
        Registered platform userId publicKeyId publicKey store ∧
          ∀ row, found = some row → Published platform publicKey row.id store)
      fun _ => On request (Registered platform userId publicKeyId publicKey) := by
    apply solitary_ask
    intro store found facts answered
    refine ⟨facts, ?_⟩
    intro row same
    obtain ⟨registered, searched, published⟩ := facts
    have equal : found = some registered := Except.ok.inj (answered.symm.trans searched)
    rw [Option.some.inj (same.symm.trans equal)]
    exact published
  have presents (found : Option (KeyRow Id)) : Triple (World.perform platform) (solitary Admitted) 0
      (On request fun store => Registered platform userId publicKeyId publicKey store ∧
        ∀ row, found = some row → Published platform publicKey row.id store)
      (present found : Task Id PublicKey (KeyRow Id))
      (fun row => On request fun store =>
        Registered platform userId publicKeyId publicKey store ∧
          Published platform publicKey row.id store)
      fun _ => On request (Registered platform userId publicKeyId publicKey) := by
    apply present_triple
    · exact fun row same world _ holds => holds.mono fun _ facts => ⟨facts.1, facts.2 row same⟩
    · exact fun _ _ holds => holds.mono fun _ facts => facts.1
  have reads (id : Id) : Triple (World.perform platform) (solitary Admitted) 0
      (On request fun store => Registered platform userId publicKeyId publicKey store ∧
        Published platform publicKey id store)
      (ask (.chainGetKey (platform.idText id)) : Task Id PublicKey File.StoredText)
      (fun stored => On request fun store =>
        Registered platform userId publicKeyId publicKey store ∧
          platform.importPem stored.value = some publicKey)
      fun _ => On request fun store => Registered platform userId publicKeyId publicKey store ∧
        Published platform publicKey id store := by
    apply solitary_ask
    intro store stored facts answered
    rw [← chainGetKey_ok answered]
    exact facts
  apply Triple.handle
  · apply Triple.bind (checkFound_keeps quiet.ask_any)
    intro _
    apply Triple.bind (quiet.keysCheckLocked publicKeyId)
    intro _
    apply Triple.bind (guarded_triple finds)
    intro found
    apply Triple.bind (presents found)
    intro key
    apply Triple.bind (chainGetKey_triple (solitary_fall (reads key.id) fun _ facts => facts.1)
      fun _ _ _ holds => holds.mono fun _ facts => facts.1)
    intro stored
    apply Triple.pure
    intro world _ holds
    refine ⟨?_, holds.mono fun _ facts => facts.1⟩
    intro found same
    obtain ⟨-, -, -, facts⟩ := holds
    rw [← Option.some.inj same]
    exact facts.2
  · intro failure
    apply Triple.pure
    intro world _ holds
    refine ⟨?_, holds⟩
    intro found same
    cases same

omit [DecidableEq Id] in
/-- The text of a key decodes to its exported form. -/
theorem pem2der_text {pem : String} {publicKey : PublicKey}
    (imports : platform.importPem pem = some publicKey) :
    CryptoUtil.pem2der platform (.text pem) =
      (pure (platform.exportDer publicKey) : Task Id PublicKey Bytes) := by
  rw [CryptoUtil.pem2der, imports]

omit [DecidableEq Id] in
/-- An exported key encrypts as the key itself. -/
theorem encrypt_exportDer (publicKey : PublicKey) (buffer : Bytes) :
    CryptoUtil.encrypt platform (platform.exportDer publicKey) buffer =
      (pure (platform.encrypt publicKey buffer) : Task Id PublicKey Bytes) := by
  rw [CryptoUtil.encrypt, platform.importDer_exportDer]

/-- A posted file is stored under the registered key. -/
theorem postFile_stores {attempts : Nat} {userId : String} {publicKeyId : Ref Id}
    {publicKey : PublicKey} {fileName mimeType : String} {attachement : Bytes} :
    Triple (World.perform platform) (solitary Admitted) 0
      (On request (Registered platform userId publicKeyId publicKey))
      (FilesCore.postFile platform attempts userId publicKeyId fileName mimeType attachement)
      (fun id => On request
        (Stored platform (platform.idText id) (platform.encrypt publicKey attachement)))
      fun _ => Running 0 request := by
  have quiet : Quiet platform (solitary Admitted) 0
      (On request (Registered platform userId publicKeyId publicKey)) := solitary_quiet
  have blind : Blind (Registered platform userId publicKeyId publicKey) :=
    blind_registered userId publicKeyId publicKey
  apply solitary_transaction fun id store =>
    Registered platform userId publicKeyId publicKey store ∧
      Stored platform (platform.idText id) (platform.encrypt publicKey attachement) store
  · apply Triple.bind (quiet.getTargetUser userId)
    intro user
    apply Triple.assume
    intro _
    apply Triple.bind (quiet.usersCheckLocked user.userId)
    intro _
    apply Triple.bind getKey_registered
    intro found
    apply Triple.assume
    intro registered
    apply Triple.bind present_value
    intro key
    apply Triple.assume
    intro same
    obtain ⟨keyId, pem⟩ := key
    show Triple _ _ _ _ (CryptoUtil.pem2der platform (.text pem) >>= _) _ _
    rw [pem2der_text (registered (keyId, pem) same)]
    apply Triple.pure_bind
    rw [encrypt_exportDer]
    apply Triple.pure_bind
    apply Triple.bind (blind.add (platform.encrypt publicKey attachement))
    intro ipfsPath
    apply solitary_assume
    intro refers
    rw [refers]
    apply Triple.bind (solitary_fall (blind.create user.userId fileName mimeType _)
      fun _ facts => facts.1)
    intro fileId
    apply Triple.bind (solitary_fall blind.setFile fun _ facts => facts.1)
    intro _
    apply Triple.bind (solitary_fall (solitary_calm rfl) fun _ facts => facts.1)
    intro _
    exact Triple.pure fun _ _ holds => holds
  · exact fun _ _ ready => ready.1
  · exact fun _ _ _ ready => ready.2

/-- A replaced file is stored under a drawn key. -/
theorem putFile_stores {attempts : Nat} {userId fileId : String} {publicKey : PublicKey}
    {fileName mimeType : String} {attachement : Bytes}
    (fresh : ∀ key, Admitted (.generate key) → key ≠ publicKey) :
    Triple (World.perform platform) (solitary Admitted) 0 (On request fun _ => True)
      (FilesCore.putFile platform attempts userId fileId fileName mimeType attachement)
      (fun _ => On request fun store => ∃ key, key ≠ publicKey ∧
        Stored platform fileId (platform.encrypt key attachement) store)
      fun _ => Running 0 request := by
  have quiet : Quiet platform (solitary Admitted) 0 (On request fun _ => True) := solitary_quiet
  have blind : Blind fun _ : Store Id => True :=
    ⟨fun _ _ _ => trivial, fun _ _ _ => trivial, fun _ _ _ => trivial⟩
  have draws : Triple (World.perform platform) (solitary Admitted) 0 (On request fun _ => True)
      (CryptoUtil.pem2der platform .object)
      (fun der world => ∃ key, (der = platform.exportDer key ∧ key ≠ publicKey) ∧
        On request (fun _ => True) world)
      fun _ => On request fun _ => True := by
    have generates : Triple (World.perform platform) (solitary Admitted) 0
        (On request fun _ => True) (tell .generateKey : Task Id PublicKey PublicKey)
        (fun key => On request fun _ => key ≠ publicKey ∧ True) fun _ => On request fun _ => True := by
      apply solitary_tell
      intro store session choice key next after _ admitted responded
      have acted := act_of_respond responded
      cases choice <;> cases acted
      exact ⟨fresh key admitted, trivial⟩
    apply Triple.bind generates
    intro key
    apply solitary_assume
    intro different
    exact Triple.pure fun _ _ holds => ⟨key, ⟨rfl, different⟩, holds⟩
  apply solitary_transaction fun _ store => ∃ key, key ≠ publicKey ∧
    Stored platform fileId (platform.encrypt key attachement) store
  · apply Triple.bind (quiet.getTargetUser userId)
    intro user
    apply Triple.assume
    intro _
    apply Triple.bind (checkFound_keeps quiet.ask_any)
    intro _
    apply Triple.bind (quiet.filesCheckLocked fileId)
    intro _
    apply Triple.bind draws
    intro derPublicKey
    apply Triple.choose
    intro key
    apply Triple.assume
    rintro ⟨rfl, different⟩
    rw [encrypt_exportDer]
    apply Triple.pure_bind
    apply Triple.bind (blind.add (platform.encrypt key attachement))
    intro ipfsPath
    apply solitary_assume
    intro refers
    rw [refers]
    apply Triple.bind (solitary_fall (guarded_triple (solitary_calm rfl)) fun _ _ => trivial)
    intro ok
    apply Triple.bind (solitary_fall failIf_keeps fun _ _ => trivial)
    intro _
    apply Triple.bind (solitary_fall blind.setFile fun _ _ => trivial)
    intro _
    apply (solitary_calm rfl).conseq
    · exact fun _ _ holds => holds
    · exact fun _ _ _ holds => holds.mono fun _ facts => ⟨key, different, facts.2⟩
    · exact fun _ _ _ holds => holds.mono fun _ _ => trivial
  · exact fun _ _ _ => trivial
  · exact fun _ _ _ ready => ready

/-- The request stores these bytes for the user, and a posted file uses this key. -/
def Body.Uploads (userId : String) (publicKeyId : Ref Id) (attachement : Bytes) :
    Body Id → Prop
  | .postFile owner key _ _ content =>
      owner = userId ∧ key = publicKeyId ∧ content = attachement
  | .putFile owner _ _ _ content => owner = userId ∧ content = attachement
  | _ => False

/-- The text under which the stored file is read. -/
def Body.fileText (platform : Platform Id PublicKey) : Body Id → Response Id → Option String
  | .postFile _ _ _ _ _, .fileId id => some (platform.idText id)
  | .putFile _ fileId _ _ _, .nothing => some fileId
  | _, _ => none

def Body.isPostFile : Body Id → Bool
  | .postFile _ _ _ _ _ => true
  | _ => false

/-- A response follows the value of a triple. -/
theorem solitary_respond {program : Task Id PublicKey Value} {respond : Value → Response Id}
    {Before : World Id PublicKey → Prop} {Done : Value → Store Id → Prop}
    (triple : Triple (World.perform platform) (solitary Admitted) 0 Before program
      (fun value => On request (Done value)) fun _ => Running 0 request) :
    Triple (World.perform platform) (solitary Admitted) 0 Before (do return respond (← program))
      (fun response => On request fun store => ∃ value, response = respond value ∧ Done value store)
      fun _ => Running 0 request := by
  apply Triple.bind triple
  intro value
  exact Triple.pure fun _ _ holds => holds.mono fun _ facts => ⟨value, rfl, facts⟩

/-- An upload leaves stored bytes under its text, and only a posted file uses the registered
key. -/
theorem stored_of_served
    (unrelated : ∀ first second left right, first ≠ second →
      platform.encrypt first left ≠ platform.encrypt second right)
    {store stored : Store Id} {userId : String} {publicKeyId : Ref Id} {publicKey : PublicKey}
    {attachement : Bytes} (uploads : request.body.Uploads userId publicKeyId attachement)
    (registered : Registered platform userId publicKeyId publicKey store)
    {choices : List (Choice Id PublicKey)}
    (fresh : ∀ key, Choice.generate key ∈ choices → key ≠ publicKey) {response : Response Id}
    (served : serve platform store request choices = some (.ok response, stored))
    {fileId : String} (file : request.body.fileText platform response = some fileId) :
    ∃ data, Stored platform fileId data stored ∧
      (data = platform.encrypt publicKey attachement ↔ request.body.isPostFile = true) := by
  obtain ⟨attempts, body⟩ := request
  cases body with
  | postFile owner key fileName mimeType content =>
      obtain ⟨rfl, rfl, rfl⟩ := uploads
      obtain ⟨id, rfl, holds⟩ := served_of_triple (solitary_respond postFile_stores)
        (fun choice member => member) registered served
      cases file
      exact ⟨_, holds, iff_of_true rfl rfl⟩
  | putFile owner text fileName mimeType content =>
      obtain ⟨rfl, rfl⟩ := uploads
      obtain ⟨-, rfl, key, different, holds⟩ := served_of_triple
        (solitary_respond (putFile_stores fresh)) (fun choice member => member) trivial served
      cases file
      refine ⟨_, holds, iff_of_false (unrelated _ _ _ _ different) ?_⟩
      exact Bool.false_ne_true
  | _ => cases uploads

/-- What a read returns after an upload is encrypted under the registered key of the user exactly
when the upload posted the file. -/
theorem attachement_encrypted_iff
    (unrelated : ∀ first second left right, first ≠ second →
      platform.encrypt first left ≠ platform.encrypt second right)
    {store stored last : Store Id} {userId : String} {publicKeyId : Ref Id}
    {publicKey : PublicKey} {attachement : Bytes} {upload : Request Id}
    (uploads : upload.body.Uploads userId publicKeyId attachement)
    (registered : Registered platform userId publicKeyId publicKey store)
    {choices : List (Choice Id PublicKey)}
    (fresh : ∀ key, Choice.generate key ∈ choices → key ≠ publicKey) {response : Response Id}
    (served : serve platform store upload choices = some (.ok response, stored))
    {fileId : String} (file : upload.body.fileText platform response = some fileId)
    {attempts : Nat} {reader fileName mimeType : String} {bytes : Bytes}
    {reads : List (Choice Id PublicKey)}
    (read : serve platform stored ⟨attempts, .getFile reader fileId⟩ reads =
      some (.ok (.file fileName mimeType bytes), last)) :
    bytes = platform.encrypt publicKey attachement ↔ upload.body.isPostFile = true := by
  obtain ⟨data, holds, iff⟩ := stored_of_served unrelated uploads registered fresh served file
  obtain ⟨found, same, returned⟩ := served_of_triple (solitary_respond getFile_returns)
    (fun choice member => member) holds read
  cases same
  rw [← iff, ← returned]

end

/-- The user has a registered key. -/
def keyedStore : Store PlainId := (reached plain plainStore postedKey).world.store

/-- The user has a registered key and a file. -/
def filedStore : Store PlainId := (reached plain plainStore postedFile).world.store

def postRequest : Request PlainId := ⟨0, .postFile "u" (.text "k") "name" "mime" [7]⟩

def postChoices : List (Choice PlainId UInt8) :=
  List.replicate 10 .proceed ++ [.draw plainFile] ++ List.replicate 4 .proceed

def putRequest : Request PlainId := ⟨0, .putFile "u" "f" "new" "mime" [8]⟩

def putChoices : List (Choice PlainId UInt8) :=
  List.replicate 6 .proceed ++ [.generate 9] ++ List.replicate 6 .proceed

def getRequest : Request PlainId := ⟨0, .getFile "u" "f"⟩

def getChoices : List (Choice PlainId UInt8) := List.replicate 8 .proceed

/-- The posted content is encrypted under the registered key. -/
theorem attachement_encrypted_posted : ([3, 7] : Bytes) = plain.encrypt 3 [7] := by
  have unrelated : ∀ first second left right, first ≠ second →
      plain.encrypt first left ≠ plain.encrypt second right := by
    intro first second left right different same
    exact different (List.head_eq_of_cons_eq same)
  have uploads : postRequest.body.Uploads "u" (.text "k") [7] := ⟨rfl, rfl, rfl⟩
  have registered : Registered plain "u" (.text "k") 3 keyedStore :=
    ⟨⟨plainKey, "u", false, false⟩, by decide +kernel, by decide +kernel⟩
  have fresh : ∀ key, Choice.generate key ∈ postChoices → key ≠ 3 := by
    simp [postChoices]
  have posted : (serve plain keyedStore postRequest postChoices).map Prod.fst =
      some (.ok (.fileId plainFile)) := by decide +kernel
  obtain ⟨⟨outcome, stored⟩, served, same⟩ := Option.map_eq_some_iff.mp posted
  cases same
  have both : ((serve plain keyedStore postRequest postChoices).bind
      fun served => serve plain served.2 getRequest getChoices).map Prod.fst =
        some (.ok (.file "name" "mime" [3, 7])) := by decide +kernel
  rw [served, Option.bind_some] at both
  obtain ⟨⟨found, last⟩, read, equal⟩ := Option.map_eq_some_iff.mp both
  cases equal
  exact (attachement_encrypted_iff unrelated uploads registered fresh served rfl read).mpr rfl

/-- An update encrypts under a key that is not the registered one. -/
theorem putFile_otherKey :
    Registered plain "u" (.text "k") 3 filedStore ∧
      (serve plain filedStore putRequest putChoices).map Prod.fst = some (.ok .nothing) ∧
      ((serve plain filedStore putRequest putChoices).bind
        fun served => serve plain served.2 getRequest getChoices).map Prod.fst =
          some (.ok (.file "new" "mime" (plain.encrypt 9 [8]))) ∧
      plain.encrypt 9 [8] ≠ plain.encrypt 3 [8] := by
  refine ⟨⟨⟨plainKey, "u", false, false⟩, ?_, ?_⟩, ?_, ?_, ?_⟩ <;> decide +kernel

end Holonus.Backend
