/-
This file states which operations each request awaits and which errors it throws.
-/

import Holonus.Construction.Api.Responses
import Holonus.Construction.Backend.Requests
import Holonus.Machine.Protocol
import Holonus.Proof.Backend.Steps

namespace Holonus.Backend

open Holonus.Machine Holonus.Abstract Holonus.Api

/-- The error is one of the table or a foreign one. -/
def Listed (Foreign : Failure → Prop) (table : List (Nat × String)) (failure : Failure) : Prop :=
  shown failure ∈ table ∨ Foreign failure

/-- The packages throw no `boom` error of their own other than a foreign one. -/
def Raw (Foreign : Failure → Prop) (failure : Failure) : Prop :=
  failure.isBoom = false ∨ Foreign failure

/-- The catch blocks pass these errors on. -/
def Passed (Foreign : Failure → Prop) (table : List (Nat × String)) (failure : Failure) : Prop :=
  failure.isBoom = true → Listed Foreign table failure

/-- An error that is no `boom` error is shown as this one. -/
def crash : Nat × String := (500, "Internal Server Error")

namespace Errors

def getTargetUser : List (Nat × String) :=
  [(404, Messages.userNotfoundError), (406, Messages.userUpdateError)] ++
    [(406, Messages.userFindError), crash]

def lookupKey : List (Nat × String) :=
  [(404, Messages.keyNotfoundError), (400, "key is locked"), (406, Messages.userUpdateError),
    (406, Messages.keyFindError), (404, Messages.chainKeyNotfoundError),
    (406, Messages.chainKeyGetError), crash]

def postFile : List (Nat × String) :=
  getTargetUser ++ [(400, "user is locked"), (406, Messages.ipfsAddError),
    (406, Messages.fileCreateError), (406, Messages.chainFileSetError)]

def getFile : List (Nat × String) :=
  getTargetUser ++ [(400, "user is locked"), (404, Messages.fileNotfoundError),
    (400, "file is locked"), (406, Messages.fileFindError), (404, Messages.chainFileNotfoundError),
    (406, Messages.chainFileGetError), (404, Messages.ipfsNotfoundError),
    (406, Messages.ipfsGetError)]

def putFile : List (Nat × String) :=
  getTargetUser ++ [(404, Messages.fileNotfoundError), (400, "file is locked"),
    (406, Messages.ipfsAddError), (406, Messages.fileUpdateError),
    (406, Messages.chainFileSetError)]

def deleteFile : List (Nat × String) :=
  getTargetUser ++ [(406, Messages.fileFindError), (404, Messages.fileNotfoundError),
    (400, "file is locked")]

def postKey : List (Nat × String) :=
  [(409, Messages.keyConflictError), (406, Messages.userUpdateError), (406, Messages.keyCreateError),
    (406, Messages.chainKeySetError), crash]

def putKey : List (Nat × String) :=
  [(404, Messages.keyNotfoundError), (400, "key is locked"), (406, Messages.userUpdateError),
    (406, Messages.chainKeySetError), crash]

def deleteKey : List (Nat × String) :=
  [(404, Messages.keyNotfoundError), (400, "key is locked"), (406, Messages.userUpdateError), crash]

end Errors

section
variable {Foreign : Failure → Prop} {table : List (Nat × String)} {failure : Failure}

/-- A raw error is passed on by a catch block. -/
theorem Raw.passed (raw : Raw Foreign failure) : Passed Foreign table failure := by
  intro isBoom
  rcases raw with other | foreign
  · rw [isBoom] at other
    cases other
  · exact .inr foreign

/-- A listed error is passed on by a catch block. -/
theorem Listed.passed (listed : Listed Foreign table failure) : Passed Foreign table failure :=
  fun _ => listed

/-- A raw error is listed once the table has the crash. -/
theorem Raw.listed (raw : Raw Foreign failure) (crashes : crash ∈ table) :
    Listed Foreign table failure := by
  rcases raw with other | foreign
  · left
    cases failure with
    | boom statusCode message => cases other
    | timeout => exact crashes
    | other transient => exact crashes
  · exact .inr foreign

/-- A catch block turns a passed error into a listed one. -/
theorem Passed.orElse {message : String} (passed : Passed Foreign table failure)
    (replaced : (406, message) ∈ table) : Listed Foreign table (failure.orElse message) := by
  cases failure with
  | boom statusCode text => exact passed rfl
  | timeout => exact .inl replaced
  | other transient => exact .inl replaced

end

section
variable {Operation : Type} {Answered : Operation → Type} {Value : Type}
  {protocol : Protocol Operation Answered Failure} {After : Value → Prop}
  {Foreign : Failure → Prop} {table : List (Nat × String)}

/-- A guarded body throws only listed errors. -/
theorem guarded_obeys {message : String} {body : Program Operation Answered Failure Value}
    (obeys : body.Obeys protocol After (Passed Foreign table))
    (replaced : (406, message) ∈ table) :
    (guarded message body).Obeys protocol After (Listed Foreign table) := by
  apply Program.Obeys.handle obeys
  intro failure passed
  exact Program.Obeys.throw (passed.orElse replaced)

/-- A missing value throws a plain error. -/
theorem present_obeys {found : Option Value} {Thrown : Failure → Prop}
    (after : ∀ value, found = some value → After value) (thrown : Thrown (.other false)) :
    (present found : Program Operation Answered Failure Value).Obeys protocol After Thrown := by
  cases found with
  | none => exact Program.Obeys.throw thrown
  | some value => exact Program.Obeys.pure (after value rfl)

/-- A check that passes has a false condition. -/
theorem failIf_obeys {condition : Bool} {failure : Failure} {Thrown : Failure → Prop}
    (thrown : Thrown failure) :
    (failIf condition failure : Program Operation Answered Failure Unit).Obeys protocol
      (fun _ => condition = false) Thrown := by
  cases condition with
  | false => exact Program.Obeys.pure rfl
  | true => exact Program.Obeys.throw thrown

/-- A check of a successful update never throws. -/
theorem checkOk_obeys {ok : Bool} {failure : Failure} {Thrown : Failure → Prop} (isOk : ok = true) :
    (failIf (!ok) failure : Program Operation Answered Failure Unit).Obeys protocol
      (fun _ => True) Thrown := by
  rw [isOk]
  exact Program.Obeys.pure trivial

end

section
variable {Id PublicKey Value : Type}

/-- What the replies of a run say about the stores. -/
structure Evidence (Id : Type) where
  Stored : String → Prop
  File : String → Option String → FileRow Id → Prop
  Key : KeyCondition Id → KeyRow Id → Prop
  Entry : Shelf → String → String → Prop
  Content : String → Bytes → Prop

/-- Nothing is assumed about the replies. -/
def Evidence.any : Evidence Id where
  Stored _ := True
  File _ _ _ := True
  Key _ _ := True
  Entry _ _ _ := True
  Content _ _ := True

/-- The request uploads the attachement. -/
def Body.Attaches (body : Body Id) (attachement : Bytes) : Prop :=
  (∃ userId publicKeyId fileName mimeType,
      body = .postFile userId publicKeyId fileName mimeType attachement) ∨
    ∃ userId fileId fileName mimeType, body = .putFile userId fileId fileName mimeType attachement

/-- A request performs these operations only, adds only its own attachement in encrypted form and
records only hashes of this kind. -/
def Body.Permits (platform : Platform Id PublicKey) (Stored : String → Prop) (body : Body Id) :
    Op Id → Prop
  | .ask _ => True
  | .act command =>
      match command with
      | .usersUpdateOne userId keysId =>
          (∃ publicKey, body = .postKey userId publicKey) ∨
            keysId = none ∧ ∃ publicKeyId, body = .deleteKey userId publicKeyId
      | .filesCreate userId fileName mimeType hash => Stored hash ∧
          ∃ publicKeyId attachement, body = .postFile userId publicKeyId fileName mimeType attachement
      | .filesUpdateOne fileId userId fileName mimeType =>
          ∃ attachement, body = .putFile userId fileId fileName mimeType attachement
      | .filesDeleteOne fileId userId => body = .deleteFile userId fileId
      | .keysCreate userId => ∃ publicKey, body = .postKey userId publicKey
      | .keysDeleteOne condition => ∃ userId publicKeyId,
          body = .deleteKey userId publicKeyId ∧
            condition = KeysCore.condition userId (.text publicKeyId)
      | .chainSetFile fileId hash => Stored hash ∧
          ((∃ userId publicKeyId fileName mimeType attachement,
              body = .postFile userId publicKeyId fileName mimeType attachement) ∨
            ∃ userId fileName mimeType attachement,
              body = .putFile userId fileId fileName mimeType attachement)
      | .chainSetKey publicKeyId publicKey => ∃ userId,
          body = .postKey userId (some publicKey) ∨ body = .putKey userId publicKeyId (some publicKey)
      | .ipfsAdd data => ∃ key attachement, body.Attaches attachement ∧
          platform.encrypt key attachement = data
      | .generateKey => ∃ userId fileId fileName mimeType attachement,
          body = .putFile userId fileId fileName mimeType attachement
      | _ => True

/-- What a reply says. -/
def Truthful (evidence : Evidence Id) : (op : Op Id) → Reply PublicKey op → Prop
  | .ask (.usersFindOne userId), found => ∀ user, found = some user → user.userId = userId
  | .ask (.filesFindOne fileId userId), found =>
      ∀ row, found = some row → evidence.File fileId userId row
  | .ask (.keysFindOne condition), found => ∀ row, found = some row → evidence.Key condition row
  | .ask (.chainGetFile fileId), stored =>
      File.StoredText.id stored ≠ "" → evidence.Entry .files fileId (File.StoredText.value stored)
  | .ask (.chainGetKey publicKeyId), stored =>
      File.StoredText.id stored ≠ "" →
        evidence.Entry .keys publicKeyId (File.StoredText.value stored)
  | .ask (.ipfsCat hash), data => evidence.Content hash data
  | .act (.ipfsAdd _), hash => evidence.Stored hash
  | .act (.usersUpdateOne _ _), ok | .act (.filesUpdateOne _ _ _ _), ok
  | .act (.filesDeleteOne _ _), ok => ok = true
  | _, _ => True

def protocol (platform : Platform Id PublicKey) (evidence : Evidence Id)
    (Foreign : Failure → Prop) (body : Body Id) : Protocol (Op Id) (Reply PublicKey) Failure where
  Allows := body.Permits platform evidence.Stored
  Answers op reply :=
    match reply with
    | .ok value => Truthful evidence op value
    | .error failure => Raw Foreign failure

variable {platform : Platform Id PublicKey} {evidence : Evidence Id} {Foreign : Failure → Prop}
  {body : Body Id} {table : List (Nat × String)}

/-- A query is always permitted. -/
theorem ask_obeys (query : Query Id) :
    (ask query : Task Id PublicKey (Answer query)).Obeys (protocol platform evidence Foreign body)
      (@Truthful Id PublicKey evidence (.ask query)) (Raw Foreign) :=
  Program.Obeys.call trivial (fun _ truthful => truthful) fun _ raw => raw

/-- A query answers as the evidence knows. -/
theorem ask_truthful (query : Query Id) :
    (ask query : Task Id PublicKey (Answer query)).Obeys (protocol platform evidence Foreign body)
      (@Truthful Id PublicKey evidence (.ask query)) (Passed Foreign table) :=
  (ask_obeys query).conseq (fun _ truthful => truthful) fun _ raw => raw.passed

/-- A query passes its errors on. -/
theorem ask_passes (query : Query Id) :
    (ask query : Task Id PublicKey (Answer query)).Obeys (protocol platform evidence Foreign body)
      (fun _ => True) (Passed Foreign table) :=
  (ask_obeys query).conseq (fun _ _ => trivial) fun _ raw => raw.passed

/-- A permitted command answers as the evidence knows and throws raw errors. -/
theorem tell_obeys {command : Command Id} (permits : body.Permits platform evidence.Stored (.act command)) :
    (tell command : Task Id PublicKey (Result PublicKey command)).Obeys
      (protocol platform evidence Foreign body) (@Truthful Id PublicKey evidence (.act command))
      (Raw Foreign) :=
  Program.Obeys.call permits (fun _ truthful => truthful) fun _ raw => raw

/-- A permitted command outside a catch block crashes at worst. -/
theorem tell_crashes {command : Command Id} (permits : body.Permits platform evidence.Stored (.act command))
    (crashes : crash ∈ table) :
    (tell command : Task Id PublicKey (Result PublicKey command)).Obeys
      (protocol platform evidence Foreign body) (fun _ => True) (Listed Foreign table) :=
  (tell_obeys permits).conseq (fun _ _ => trivial) fun _ raw => raw.listed crashes

/-- A check for existence throws only its two errors. -/
theorem checkFound_obeys {message : String} {find : Task Id PublicKey Bool}
    (finds : find.Obeys (protocol platform evidence Foreign body) (fun _ => True) (Passed Foreign table))
    (errors : [(404, message), (406, Messages.userUpdateError)] ⊆ table) :
    (checkFound message find).Obeys (protocol platform evidence Foreign body) (fun _ => True)
      (Listed Foreign table) := by
  apply guarded_obeys _ (errors (by simp))
  apply Program.Obeys.bind finds
  intro found _
  apply (failIf_obeys _).conseq (fun _ _ => trivial) fun _ passed => passed
  exact Listed.passed (.inl (errors (by simp [shown, Failure.notFound])))

/-- A check for a lock throws only its two errors. -/
theorem checkUnlocked_obeys {message : String} {find : Task Id PublicKey (Option Bool)}
    (finds : find.Obeys (protocol platform evidence Foreign body) (fun _ => True) (Passed Foreign table))
    (errors : [(400, message), (406, Messages.userUpdateError)] ⊆ table) :
    (checkUnlocked message find).Obeys (protocol platform evidence Foreign body) (fun _ => True)
      (Listed Foreign table) := by
  apply guarded_obeys _ (errors (by simp))
  apply Program.Obeys.bind finds
  intro found _
  apply Program.Obeys.bind (present_obeys (fun _ _ => trivial) fun isBoom => by cases isBoom)
  intro isLocked _
  apply (failIf_obeys _).conseq (fun _ _ => trivial) fun _ passed => passed
  exact Listed.passed (.inl (errors (by simp [shown, Failure.badRequest])))

/-- The driver throws no error of a table. -/
theorem transaction_obeys {exec : Task Id PublicKey Value} {attempts : Nat} {After : Value → Prop}
    (obeys : exec.Obeys (protocol platform evidence Foreign body) After (Listed Foreign table))
    (crashes : crash ∈ table) :
    (DbUtil.transaction attempts exec).Obeys (protocol platform evidence Foreign body) After
      (Listed Foreign table) := by
  have attempt {retry : Failure → Task Id PublicKey Value}
      (retries : ∀ failure, Listed Foreign table failure →
        (retry failure).Obeys (protocol platform evidence Foreign body) After (Listed Foreign table)) :
      (DbUtil.attemptTransaction exec retry).Obeys (protocol platform evidence Foreign body) After
        (Listed Foreign table) := by
    apply Program.Obeys.bind (tell_crashes (by exact trivial) crashes)
    intro _ _
    apply Program.Obeys.bind obeys.settled
    intro outcome ended
    cases outcome with
    | ok value =>
        apply Program.Obeys.bind (Program.Obeys.settled (tell_crashes (by exact trivial) crashes))
        intro committed result
        cases committed with
        | ok _ => exact Program.Obeys.pure ended
        | error failure => exact retries failure result
    | error failure =>
        apply Program.Obeys.bind (tell_crashes (by exact trivial) crashes)
        intro _ _
        exact retries failure ended
  have whole : (DbUtil.withTransaction exec attempts).Obeys (protocol platform evidence Foreign body) After
      (Listed Foreign table) := by
    induction attempts with
    | zero =>
        apply attempt
        intro failure listed
        exact Program.Obeys.throw listed
    | succ attempts ih =>
        apply attempt
        intro failure listed
        split
        · exact ih
        · exact Program.Obeys.throw listed
  apply Program.Obeys.bind (tell_crashes (by exact trivial) crashes)
  intro _ _
  exact whole.andFinally ((tell_crashes (by exact trivial) crashes).conseq (fun _ _ => trivial)
    fun _ listed => listed)

/-- The target user has the name that was asked for. -/
theorem getTargetUser_obeys {userId : String} (errors : Errors.getTargetUser ⊆ table) :
    (FilesCore.getTargetUser userId : Task Id PublicKey User).Obeys
      (protocol platform evidence Foreign body) (fun user => user.userId = userId)
      (Listed Foreign table) := by
  apply Program.Obeys.bind (checkFound_obeys (ask_passes _) (List.Subset.trans (by decide) errors))
  intro _ _
  have finds : (UsersModel.findOne userId : Task Id PublicKey (Option User)).Obeys
      (protocol platform evidence Foreign body) (fun found => ∀ user, found = some user → user.userId = userId)
      (Listed Foreign table) := by
    apply guarded_obeys _ (errors (by decide))
    exact (ask_obeys _).conseq (fun _ truthful => truthful) fun _ raw => raw.passed
  apply Program.Obeys.bind finds
  intro found named
  exact present_obeys named (.inl (errors (by decide)))

/-- The lock check of a user throws only its two errors. -/
theorem usersCheckLocked_obeys {userId : String}
    (errors : [(400, "user is locked"), (406, Messages.userUpdateError)] ⊆ table) :
    (UsersModel.checkLocked userId : Task Id PublicKey Unit).Obeys (protocol platform evidence Foreign body)
      (fun _ => True) (Listed Foreign table) := by
  apply checkUnlocked_obeys _ errors
  apply Program.Obeys.bind (ask_passes _)
  intro user _
  exact Program.Obeys.pure trivial

/-- The lock check of a file throws only its two errors. -/
theorem filesCheckLocked_obeys {fileId : String}
    (errors : [(400, "file is locked"), (406, Messages.userUpdateError)] ⊆ table) :
    (FilesModel.checkLocked fileId : Task Id PublicKey Unit).Obeys (protocol platform evidence Foreign body)
      (fun _ => True) (Listed Foreign table) := by
  apply checkUnlocked_obeys _ errors
  apply Program.Obeys.bind (ask_passes _)
  intro file _
  exact Program.Obeys.pure trivial

/-- The lock check of a key throws only its two errors. -/
theorem keysCheckLocked_obeys {id : Ref Id}
    (errors : [(400, "key is locked"), (406, Messages.userUpdateError)] ⊆ table) :
    (KeysModel.checkLocked id : Task Id PublicKey Unit).Obeys (protocol platform evidence Foreign body)
      (fun _ => True) (Listed Foreign table) := by
  apply checkUnlocked_obeys _ errors
  apply Program.Obeys.bind (ask_passes _)
  intro key _
  exact Program.Obeys.pure trivial

/-- An entry of the chain is found or one of two errors is thrown. -/
theorem found_obeys {message missing : String} {asked : Task Id PublicKey File.StoredText}
    {Entry : String → Prop}
    (asks : asked.Obeys (protocol platform evidence Foreign body)
      (fun stored => stored.id ≠ "" → Entry stored.value) (Passed Foreign table))
    (errors : [(404, missing), (406, message)] ⊆ table) :
    (guarded message do
      let stored ← asked
      failIf (stored.id = "") (.notFound missing)
      return stored).Obeys (protocol platform evidence Foreign body)
        (fun stored => Entry stored.value) (Listed Foreign table) := by
  apply guarded_obeys _ (errors (by simp))
  apply Program.Obeys.bind asks
  intro stored entry
  apply Program.Obeys.bind (failIf_obeys (Listed.passed (.inl (errors (by
    simp [shown, Failure.notFound])))))
  intro _ named
  exact Program.Obeys.pure (entry (of_decide_eq_false named))

/-- A shown key is a key of the user with its entry on the chain. -/
def Evidence.ShowsKey (evidence : Evidence Id) (platform : Platform Id PublicKey) (userId : String)
    (publicKeyId : Ref Id) (id : Id) (publicKey : String) : Prop :=
  ∃ row, evidence.Key (KeysCore.condition userId publicKeyId) row ∧ row.id = id ∧
    evidence.Entry .keys (platform.idText id) publicKey

/-- A lookup of a key throws nothing. -/
theorem getKey_obeys {userId : String} {publicKeyId : Ref Id} {Thrown : Failure → Prop} :
    (KeysCore.getKey platform userId publicKeyId).Obeys (protocol platform evidence Foreign body)
      (fun found => ∀ id publicKey, found = some (id, publicKey) →
        evidence.ShowsKey platform userId publicKeyId id publicKey) Thrown := by
  have returns : ∀ failure, Listed Foreign Errors.lookupKey failure →
      (pure none : Task Id PublicKey (Option (Id × String))).Obeys
        (protocol platform evidence Foreign body)
        (fun found => ∀ id publicKey, found = some (id, publicKey) →
          evidence.ShowsKey platform userId publicKeyId id publicKey) Thrown :=
    fun _ _ => Program.Obeys.pure fun _ _ same => nomatch same
  apply Program.Obeys.handle _ returns
  apply Program.Obeys.bind (checkFound_obeys (ask_passes _) (by decide))
  intro _ _
  apply Program.Obeys.bind (keysCheckLocked_obeys (by decide))
  intro _ _
  apply Program.Obeys.bind (guarded_obeys (ask_truthful _) (by decide))
  intro found known
  apply Program.Obeys.bind (present_obeys known (.inl (by decide)))
  intro dbKey isKey
  apply Program.Obeys.bind (found_obeys (ask_truthful _) (by decide))
  intro bcKey entry
  apply Program.Obeys.pure
  intro id publicKey same
  cases same
  exact ⟨dbKey, isKey, rfl, entry⟩

/-- Decoding a key text crashes at worst. -/
theorem pem2der_obeys {pem : String}
    (crashes : crash ∈ table) :
    (CryptoUtil.pem2der platform (.text pem)).Obeys (protocol platform evidence Foreign body)
      (fun _ => True) (Listed Foreign table) := by
  simp only [CryptoUtil.pem2der]
  split
  · exact Program.Obeys.pure trivial
  · exact Program.Obeys.throw (.inl crashes)

/-- Decoding an object generates a key and crashes at worst. -/
theorem pem2derObject_obeys
    (permits : body.Permits platform evidence.Stored (.act .generateKey)) (crashes : crash ∈ table) :
    (CryptoUtil.pem2der platform .object).Obeys (protocol platform evidence Foreign body)
      (fun _ => True) (Listed Foreign table) := by
  apply Program.Obeys.bind (tell_crashes permits crashes)
  intro key _
  exact Program.Obeys.pure trivial

/-- Encrypting uses some key and crashes at worst. -/
theorem encrypt_obeys {publicKey buffer : Bytes} (crashes : crash ∈ table) :
    (CryptoUtil.encrypt platform publicKey buffer).Obeys (protocol platform evidence Foreign body)
      (fun data => ∃ key, platform.encrypt key buffer = data) (Listed Foreign table) := by
  simp only [CryptoUtil.encrypt]
  split
  · exact Program.Obeys.pure ⟨_, rfl⟩
  · exact Program.Obeys.throw (.inl crashes)

/-- The returned address is the one of added content. -/
theorem ipfsAdd_obeys {data : Bytes}
    (permits : body.Permits platform evidence.Stored (.act (.ipfsAdd data)))
    (error : (406, Messages.ipfsAddError) ∈ table) :
    (IpfsUtil.add data : Task Id PublicKey String).Obeys (protocol platform evidence Foreign body)
      evidence.Stored (Listed Foreign table) := by
  apply Program.Obeys.handle (tell_obeys permits)
  intro failure _
  exact Program.Obeys.throw (.inl error)

/-- The network returns content of the hash or throws one of its two errors. -/
theorem ipfsCat_obeys {hash : String}
    (errors : [(404, Messages.ipfsNotfoundError), (406, Messages.ipfsGetError)] ⊆ table) :
    (IpfsUtil.cat hash : Task Id PublicKey Bytes).Obeys (protocol platform evidence Foreign body)
      (evidence.Content hash) (Listed Foreign table) := by
  apply Program.Obeys.handle (ask_obeys _)
  intro failure _
  split
  · exact Program.Obeys.throw (.inl (errors (by simp [shown, Failure.notFound])))
  · exact Program.Obeys.throw (.inl (errors (by simp [shown, Failure.notAcceptable])))

/-- The driver resolves an update with the flag `ok`. -/
theorem guarded_tell {message : String} {command : Command Id}
    (permits : body.Permits platform evidence.Stored (.act command)) (error : (406, message) ∈ table) :
    (guarded message (tell command) : Task Id PublicKey (Result PublicKey command)).Obeys
      (protocol platform evidence Foreign body) (@Truthful Id PublicKey evidence (.act command))
      (Listed Foreign table) :=
  guarded_obeys ((tell_obeys permits).conseq (fun _ truthful => truthful) fun _ raw => raw.passed)
    error

/-- The check for a conflict throws only its two errors. -/
theorem checkConflict_obeys {condition : KeyCondition Id}
    (errors : [(409, Messages.keyConflictError), (406, Messages.userUpdateError)] ⊆ table) :
    (KeysModel.checkConflict condition : Task Id PublicKey Unit).Obeys
      (protocol platform evidence Foreign body) (fun _ => True) (Listed Foreign table) := by
  apply guarded_obeys _ (errors (by simp))
  apply Program.Obeys.bind (ask_passes _)
  intro found _
  apply (failIf_obeys _).conseq (fun _ _ => trivial) fun _ passed => passed
  exact Listed.passed (.inl (errors (by simp [shown, Failure.conflict])))

/-- Posting a file follows its protocol. -/
theorem postFile_obeys {attempts : Nat} {userId : String}
    {publicKeyId : Ref Id} {fileName mimeType : String} {attachement : Bytes} :
    (FilesCore.postFile platform attempts userId publicKeyId fileName mimeType attachement).Obeys
      (protocol platform evidence Foreign (.postFile userId publicKeyId fileName mimeType attachement))
      (fun _ => True) (Listed Foreign Errors.postFile) := by
  apply transaction_obeys _ (by decide)
  apply Program.Obeys.bind (getTargetUser_obeys (by decide))
  intro user named
  apply Program.Obeys.bind (usersCheckLocked_obeys (by decide))
  intro _ _
  apply Program.Obeys.bind getKey_obeys
  intro found _
  apply Program.Obeys.bind (present_obeys (fun _ _ => trivial) (.inl (by decide)))
  intro key _
  apply Program.Obeys.bind (pem2der_obeys (by decide))
  intro derPublicKey _
  apply Program.Obeys.bind (encrypt_obeys (by decide))
  rintro ipfsData ⟨sealer, encrypted⟩
  apply Program.Obeys.bind
    (ipfsAdd_obeys ⟨sealer, attachement, .inl ⟨_, _, _, _, rfl⟩, encrypted⟩ (by decide))
  intro ipfsPath stored
  rw [named]
  apply Program.Obeys.bind (guarded_tell (by exact ⟨stored, _, _, rfl⟩) (by decide))
  intro fileId _
  apply Program.Obeys.bind
    (guarded_tell (by exact ⟨stored, .inl ⟨_, _, _, _, _, rfl⟩⟩) (by decide))
  intro _ _
  apply Program.Obeys.bind (tell_crashes (by exact trivial) (by decide))
  intro _ _
  exact Program.Obeys.pure trivial

/-- A shown file is a file of the user with the content of its entry on the chain. -/
def Evidence.ShowsFile (evidence : Evidence Id) (userId fileId fileName mimeType : String)
    (attachement : Bytes) : Prop :=
  ∃ row hash, evidence.File fileId (some userId) row ∧ row.fileName = fileName ∧
    row.mimeType = mimeType ∧ evidence.Entry .files fileId hash ∧
    evidence.Content hash attachement

/-- Reading a file follows its protocol and shows what the evidence knows. -/
theorem getFile_obeys {userId fileId : String} :
    (FilesCore.getFile userId fileId : Task Id PublicKey (String × String × Bytes)).Obeys
      (protocol platform evidence Foreign (.getFile userId fileId))
      (fun file => evidence.ShowsFile userId fileId file.1 file.2.1 file.2.2)
      (Listed Foreign Errors.getFile) := by
  apply Program.Obeys.bind (getTargetUser_obeys (by decide))
  intro user named
  apply Program.Obeys.bind (usersCheckLocked_obeys (by decide))
  intro _ _
  apply Program.Obeys.bind (checkFound_obeys (ask_passes _) (by decide))
  intro _ _
  apply Program.Obeys.bind (filesCheckLocked_obeys (by decide))
  intro _ _
  rw [named]
  apply Program.Obeys.bind (guarded_obeys (ask_truthful _) (by decide))
  intro fileinfo known
  apply Program.Obeys.bind (found_obeys (ask_truthful _) (by decide))
  intro bcData entry
  apply Program.Obeys.bind (ipfsCat_obeys (by decide))
  intro ipfsData content
  apply Program.Obeys.bind (present_obeys known (.inl (by decide)))
  intro row isRow
  exact Program.Obeys.pure ⟨row, _, isRow, rfl, rfl, entry, content⟩

/-- Updating a file follows its protocol. -/
theorem putFile_obeys {attempts : Nat}
    {userId fileId fileName mimeType : String} {attachement : Bytes} :
    (FilesCore.putFile platform attempts userId fileId fileName mimeType attachement).Obeys
      (protocol platform evidence Foreign (.putFile userId fileId fileName mimeType attachement))
      (fun _ => True) (Listed Foreign Errors.putFile) := by
  apply transaction_obeys _ (by decide)
  apply Program.Obeys.bind (getTargetUser_obeys (by decide))
  intro user named
  apply Program.Obeys.bind (checkFound_obeys (ask_passes _) (by decide))
  intro _ _
  apply Program.Obeys.bind (filesCheckLocked_obeys (by decide))
  intro _ _
  apply Program.Obeys.bind (pem2derObject_obeys ⟨_, _, _, _, _, rfl⟩ (by decide))
  intro derPublicKey _
  apply Program.Obeys.bind (encrypt_obeys (by decide))
  rintro ipfsData ⟨sealer, encrypted⟩
  apply Program.Obeys.bind
    (ipfsAdd_obeys ⟨sealer, attachement, .inr ⟨_, _, _, _, rfl⟩, encrypted⟩ (by decide))
  intro ipfsPath stored
  rw [named]
  apply Program.Obeys.bind (guarded_tell (by exact ⟨_, rfl⟩) (by decide))
  intro ok updated
  apply Program.Obeys.bind (checkOk_obeys updated)
  intro _ _
  apply Program.Obeys.bind
    (guarded_tell (by exact ⟨stored, .inr ⟨_, _, _, _, rfl⟩⟩) (by decide))
  intro _ _
  exact tell_crashes (by exact trivial) (by decide)

/-- Deleting a file follows its protocol. -/
theorem deleteFile_obeys {attempts : Nat} {userId fileId : String} :
    (FilesCore.deleteFile attempts userId fileId : Task Id PublicKey Unit).Obeys
      (protocol platform evidence Foreign (.deleteFile userId fileId)) (fun _ => True)
      (Listed Foreign Errors.deleteFile) := by
  apply transaction_obeys _ (by decide)
  apply Program.Obeys.bind (getTargetUser_obeys (by decide))
  intro user named
  apply Program.Obeys.bind (guarded_obeys (ask_passes _) (by decide))
  intro _ _
  apply Program.Obeys.bind (checkFound_obeys (ask_passes _) (by decide))
  intro _ _
  apply Program.Obeys.bind (filesCheckLocked_obeys (by decide))
  intro _ _
  rw [named]
  apply Program.Obeys.bind ((tell_obeys (by exact rfl)).conseq (fun _ truthful => truthful)
    fun _ raw => raw.listed (by decide))
  intro ok deleted
  exact checkOk_obeys deleted

/-- Posting a key follows its protocol. -/
theorem postKey_obeys {attempts : Nat} {userId : String}
    {publicKey : Option String} :
    (KeysCore.postKey platform attempts userId publicKey).Obeys
      (protocol platform evidence Foreign (.postKey userId publicKey)) (fun _ => True)
      (Listed Foreign Errors.postKey) := by
  apply transaction_obeys _ (by decide)
  apply Program.Obeys.bind (checkConflict_obeys (by decide))
  intro _ _
  apply Program.Obeys.bind (guarded_tell (by exact ⟨_, rfl⟩) (by decide))
  intro publicKeyId _
  apply Program.Obeys.bind (guarded_tell (by exact .inl ⟨_, rfl⟩) (by decide))
  intro ok updated
  apply Program.Obeys.bind (checkOk_obeys updated)
  intro _ _
  apply Program.Obeys.bind (present_obeys (fun _ same => same) (.inl (by decide)))
  intro key same
  apply Program.Obeys.bind (guarded_tell (by exact ⟨_, .inl (congrArg _ same)⟩) (by decide))
  intro _ _
  apply Program.Obeys.bind (tell_crashes (by exact trivial) (by decide))
  intro _ _
  exact Program.Obeys.pure trivial

/-- Updating a key follows its protocol and returns the identifier. -/
theorem putKey_obeys {userId publicKeyId : String} {publicKey : Option String} :
    (KeysCore.putKey userId publicKeyId publicKey : Task Id PublicKey String).Obeys
      (protocol platform evidence Foreign (.putKey userId publicKeyId publicKey)) (· = publicKeyId)
      (Listed Foreign Errors.putKey) := by
  apply Program.Obeys.bind (checkFound_obeys (ask_passes _) (by decide))
  intro _ _
  apply Program.Obeys.bind (keysCheckLocked_obeys (by decide))
  intro _ _
  apply Program.Obeys.bind (present_obeys (fun _ same => same) (.inl (by decide)))
  intro key same
  apply Program.Obeys.bind (guarded_tell (by exact ⟨_, .inr (congrArg _ same)⟩) (by decide))
  intro _ _
  exact Program.Obeys.pure rfl

/-- Deleting a key follows its protocol. -/
theorem deleteKey_obeys {attempts : Nat} {userId publicKeyId : String} :
    (KeysCore.deleteKey attempts userId publicKeyId : Task Id PublicKey Unit).Obeys
      (protocol platform evidence Foreign (.deleteKey userId publicKeyId)) (fun _ => True)
      (Listed Foreign Errors.deleteKey) := by
  apply transaction_obeys _ (by decide)
  apply Program.Obeys.bind (checkFound_obeys (ask_passes _) (by decide))
  intro _ _
  apply Program.Obeys.bind (keysCheckLocked_obeys (by decide))
  intro _ _
  apply Program.Obeys.bind (tell_crashes (by exact ⟨_, _, rfl, rfl⟩) (by decide))
  intro _ _
  apply Program.Obeys.bind (guarded_tell (by exact .inr ⟨rfl, _, rfl⟩) (by decide))
  intro ok updated
  exact checkOk_obeys updated

/-- The errors that a request can throw. -/
def Body.errors : Body Id → List (Nat × String)
  | .postFile _ _ _ _ _ => Errors.postFile
  | .getFile _ _ => Errors.getFile
  | .putFile _ _ _ _ _ => Errors.putFile
  | .deleteFile _ _ => Errors.deleteFile
  | .postKey _ _ => Errors.postKey
  | .getKey _ _ => []
  | .putKey _ _ _ => Errors.putKey
  | .deleteKey _ _ => Errors.deleteKey

/-- The response has the shape that the request asks for, and it shows only what there is. -/
def Body.Suits (platform : Platform Id PublicKey) (evidence : Evidence Id) :
    Body Id → Response Id → Prop
  | .postFile _ _ _ _ _, .fileId _ => True
  | .getFile userId fileId, .file fileName mimeType attachement =>
      evidence.ShowsFile userId fileId fileName mimeType attachement
  | .postKey _ _, .publicKeyId _ => True
  | .getKey userId publicKeyId, .key id publicKey =>
      (id = none ∧ publicKey = none) ∨ ∃ shownId shownKey, id = some shownId ∧
        publicKey = some shownKey ∧
        evidence.ShowsKey platform userId (.text publicKeyId) shownId shownKey
  | .putKey _ publicKeyId _, .publicKeyText text => text = publicKeyId
  | .putFile _ _ _ _ _, .nothing | .deleteFile _ _, .nothing | .deleteKey _ _, .nothing => True
  | _, _ => False

/-- Every request awaits permitted operations and throws errors of its table. -/
theorem program_obeys (platform : Platform Id PublicKey) (request : Request Id) :
    (request.program platform).Obeys (protocol platform evidence Foreign request.body)
      (request.body.Suits platform evidence) (Listed Foreign request.body.errors) := by
  have ends {Value : Type} {program : Task Id PublicKey Value} {respond : Value → Response Id}
      {After : Value → Prop}
      (obeys : program.Obeys (protocol platform evidence Foreign request.body) After
        (Listed Foreign request.body.errors))
      (suits : ∀ value, After value → request.body.Suits platform evidence (respond value)) :
      (do return respond (← program) : Task Id PublicKey (Response Id)).Obeys
        (protocol platform evidence Foreign request.body) (request.body.Suits platform evidence)
        (Listed Foreign request.body.errors) := by
    apply Program.Obeys.bind obeys
    intro value after
    exact Program.Obeys.pure (suits value after)
  obtain ⟨attempts, body⟩ := request
  cases body with
  | postFile userId publicKeyId fileName mimeType attachement =>
      exact ends postFile_obeys fun _ _ => trivial
  | getFile userId fileId => exact ends getFile_obeys fun _ shows => shows
  | putFile userId fileId fileName mimeType attachement =>
      exact ends putFile_obeys fun _ _ => trivial
  | deleteFile userId fileId => exact ends deleteFile_obeys fun _ _ => trivial
  | postKey userId publicKey => exact ends postKey_obeys fun _ _ => trivial
  | getKey userId publicKeyId =>
      apply ends getKey_obeys
      intro found shows
      cases found with
      | none => exact .inl ⟨rfl, rfl⟩
      | some key => exact .inr ⟨key.1, key.2, rfl, rfl, shows key.1 key.2 rfl⟩
  | putKey userId publicKeyId publicKey => exact ends putKey_obeys fun _ same => same
  | deleteKey userId publicKeyId => exact ends deleteKey_obeys fun _ _ => trivial

/-- A staged write returns its own value. -/
theorem staged_ok [DecidableEq Id] {store next : Store Id} {session after : Option (Session Id)}
    {value result : Value} {plan : Database Id → Option (Write Id)}
    (stages : staged store session value plan = (.ok result, next, after)) : result = value := by
  cases session with
  | none => cases stages
  | some pending =>
      cases stages
      rfl

/-- The evidence covers what the stores hold. -/
structure Evidence.Knows [DecidableEq Id] (evidence : Evidence Id)
    (platform : Platform Id PublicKey) (store : Store Id) : Prop where
  file : ∀ fileId userId row, store.database.findFile platform fileId userId = .ok (some row) →
    evidence.File fileId userId row
  key : ∀ condition row, store.database.findKey platform condition = .ok (some row) →
    evidence.Key condition row
  entry : ∀ shelf text, ((store.chain.storage shelf).entries text).id ≠ "" →
    evidence.Entry shelf text ((store.chain.storage shelf).entries text).value
  content : ∀ data ∈ store.ipfs, evidence.Content (platform.address data) data

/-- Without evidence nothing has to be known. -/
theorem Evidence.any_knows [DecidableEq Id] (platform : Platform Id PublicKey) (store : Store Id) :
    Evidence.any.Knows platform store :=
  ⟨fun _ _ _ _ => trivial, fun _ _ _ => trivial, fun _ _ _ => trivial, fun _ _ => trivial⟩

/-- The stores answer as the protocol says. -/
theorem truthful_of_respond [DecidableEq Id] {store next : Store Id}
    {session after : Option (Session Id)} {op : Op Id} {choice : Choice Id PublicKey}
    {value : Reply PublicKey op} (knows : evidence.Knows platform store)
    (responded : respond platform store session op choice = some (.ok value, next, after))
    (added : ∀ data, op = .act (.ipfsAdd data) → evidence.Stored (platform.address data)) :
    Truthful evidence op value := by
  cases op with
  | ask query =>
      have answered : answer platform store query = .ok value := by
        rcases (respond_ask responded).1 with ⟨failure, failed⟩ | answered
        · cases failed
        · exact answered.symm
      cases query with
      | usersFindOne userId =>
          intro user same
          rw [same] at answered
          exact (Database.findUser_some (Except.ok.inj answered)).2
      | filesFindOne fileId userId =>
          intro row same
          rw [same] at answered
          exact knows.file fileId userId row answered
      | keysFindOne condition =>
          intro row same
          rw [same] at answered
          exact knows.key condition row answered
      | chainGetFile fileId =>
          intro named
          have entry := knows.entry .files fileId
          rw [← chainGetFile_ok answered] at named ⊢
          exact entry named
      | chainGetKey publicKeyId =>
          intro named
          have entry := knows.entry .keys publicKeyId
          rw [← chainGetKey_ok answered] at named ⊢
          exact entry named
      | ipfsCat hash =>
          obtain ⟨member, same⟩ := ipfsCat_ok answered
          have content := knows.content value member
          rw [same] at content
          exact content
      | _ => exact trivial
  | act command =>
      have acted := act_of_respond responded
      cases command with
      | usersUpdateOne userId keysId => exact staged_ok (proceeding_eq_some acted)
      | filesUpdateOne fileId userId fileName mimeType =>
          have staging := proceeding_eq_some acted
          simp only [stagedFound] at staging
          split at staging
          · cases staging
          · exact staged_ok staging
      | filesDeleteOne fileId userId =>
          have deleting := proceeding_eq_some acted
          cases found : store.database.findFile platform fileId (some userId) with
          | error failure =>
              rw [found] at deleting
              cases deleting
          | ok row =>
              rw [found] at deleting
              cases row <;> cases deleting <;> rfl
      | ipfsAdd data =>
          have adding := proceeding_eq_some acted
          cases adding
          exact added data rfl
      | _ => exact trivial

/-- An error of the stores themselves is no `boom` error. -/
def Unmade (outcome : Except Failure Value) : Prop :=
  ∀ failure, outcome = .error failure → failure.isBoom = false

section
variable [DecidableEq Id] {platform : Platform Id PublicKey} {store : Store Id}
  {session : Option (Session Id)}

/-- A value is no made error. -/
theorem unmade_ok (value : Value) : Unmade (.ok value) := by
  intro failure failed
  cases failed

/-- A plain error is not made by the service. -/
theorem unmade_other (transient : Bool) :
    Unmade (.error (.other transient) : Except Failure Value) := by
  intro failure failed
  cases failed
  rfl

/-- Mapping the value makes no error. -/
theorem Unmade.map {outcome : Except Failure Value} {Other : Type} (unmade : Unmade outcome)
    (change : Value → Other) : Unmade (outcome.map change) := by
  intro failure failed
  cases outcome with
  | ok value => cases failed
  | error err =>
      have same := Except.error.inj failed
      rw [← same]
      exact unmade err rfl

/-- The chain makes no error of the service. -/
theorem unmade_fromChain (outcome : Except Machine.Fault Value) : Unmade (fromChain outcome) := by
  cases outcome with
  | ok value => exact unmade_ok value
  | error fault => exact unmade_other false

/-- Looking up a file makes no error of the service. -/
theorem unmade_findFile (database : Database Id) (fileId : String) (userId : Option String) :
    Unmade (database.findFile platform fileId userId) := by
  rw [Database.findFile]
  split
  · exact unmade_other false
  · exact unmade_ok _

/-- Looking up a key makes no error of the service. -/
theorem unmade_findKey (database : Database Id) (condition : KeyCondition Id) :
    Unmade (database.findKey platform condition) := by
  rw [Database.findKey]
  cases condition.id.getD .missing with
  | missing => exact unmade_ok _
  | document id => exact unmade_ok _
  | text value =>
      simp only [Ref.resolve]
      split
      · exact unmade_other false
      · exact unmade_ok _

/-- A query makes no error of the service. -/
theorem unmade_answer (query : Query Id) : Unmade (answer platform store query) := by
  cases query with
  | usersExists userId => exact unmade_ok _
  | usersFindOne userId => exact unmade_ok _
  | filesExists fileId userId => exact (unmade_findFile _ _ _).map _
  | filesFindOne fileId userId => exact unmade_findFile _ _ _
  | keysExists condition => exact (unmade_findKey _ _).map _
  | keysFindOne condition => exact unmade_findKey _ _
  | chainGetFile fileId => exact unmade_fromChain _
  | chainGetKey publicKeyId => exact unmade_fromChain _
  | ipfsCat hash =>
      simp only [answer]
      split
      · exact unmade_ok _
      · intro failure failed
        cases failed
        rfl

/-- Staging a write makes no error of the service. -/
theorem unmade_staged (value : Value) (plan : Database Id → Option (Write Id)) :
    Unmade (staged store session value plan).1 := by
  cases session with
  | none => exact unmade_other false
  | some pending => exact unmade_ok value

/-- Staging a write to a row makes no error of the service. -/
theorem unmade_stagedFound {Row : Type} {find : Database Id → Except Failure (Option Row)}
    (finds : Unmade (find store.database)) (write : Row → Write Id) :
    Unmade (stagedFound store session find write).1 := by
  rw [stagedFound]
  split
  · rename_i failure failed
    intro thrown same
    cases same
    exact finds failure failed
  · exact unmade_staged _ _

/-- Creating a row makes no error of the service. -/
theorem unmade_drawnInto {id : Id} {userId : String} {write : Write Id} {effect : Effect Id Id}
    (draws : drawnInto store session id userId write = some effect) : Unmade effect.1 := by
  cases session with
  | none =>
      cases draws
      exact unmade_other false
  | some pending =>
      simp only [drawnInto] at draws
      split at draws
      · cases draws
        exact unmade_ok id
      · cases draws

omit [DecidableEq Id] in
/-- Sending a transaction makes no error of the service. -/
theorem unmade_sentToChain (transaction : File.Transaction) :
    Unmade (sentToChain store session transaction).1 := by
  rw [sentToChain]
  split
  · exact unmade_ok ()
  · exact unmade_other false

/-- A command makes no error of the service. -/
theorem unmade_act {command : Command Id} {choice : Choice Id PublicKey}
    {effect : Effect Id (Result PublicKey command)}
    (acted : act platform store session command choice = some effect) : Unmade effect.1 := by
  have proceeds {Value : Type} {outcome : Effect Id Value} {result : Effect Id Value}
      (unmade : Unmade outcome.1) (proceeded : proceeding outcome choice = some result) :
      Unmade result.1 := by
    rw [← proceeding_eq_some proceeded]
    exact unmade
  cases command with
  | startSession | startTransaction | abortTransaction | endSession | logsCreate =>
      exact proceeds (unmade_ok ()) acted
  | ipfsAdd data => exact proceeds (unmade_ok _) acted
  | commitTransaction =>
      apply proceeds _ acted
      cases session with
      | none => exact unmade_other false
      | some pending =>
          rw [committing]
          split
          · exact unmade_other true
          · exact unmade_ok ()
  | usersUpdateOne userId keysId => exact proceeds (unmade_staged _ _) acted
  | filesCreate userId fileName mimeType hash =>
      obtain ⟨id, drawn⟩ := drawing_eq_some acted
      exact @unmade_drawnInto Id _ store session id userId _ effect drawn
  | keysCreate userId =>
      obtain ⟨id, drawn⟩ := drawing_eq_some acted
      exact @unmade_drawnInto Id _ store session id userId _ effect drawn
  | filesUpdateOne fileId userId fileName mimeType =>
      exact proceeds (unmade_stagedFound (unmade_findFile _ _ _) _) acted
  | filesDeleteOne fileId userId =>
      apply proceeds _ acted
      have finds : Unmade (store.database.findFile platform fileId (some userId)) :=
        unmade_findFile _ _ _
      cases found : store.database.findFile platform fileId (some userId) with
      | error failure =>
          rw [found] at finds
          intro thrown same
          cases same
          exact finds failure rfl
      | ok row => cases row <;> exact unmade_ok true
  | keysDeleteOne condition => exact proceeds (unmade_stagedFound (unmade_findKey _ _) _) acted
  | chainSetFile fileId hash => exact proceeds (unmade_sentToChain _) acted
  | chainSetKey publicKeyId publicKey => exact proceeds (unmade_sentToChain _) acted
  | generateKey =>
      cases choice <;> cases acted
      exact unmade_ok _

/-- A thrown error is injected by the choice, or it is no `boom` error. -/
theorem raw_of_respond {next : Store Id} {after : Option (Session Id)} {op : Op Id}
    {choice : Choice Id PublicKey} {failure : Failure}
    (responded : respond platform store session op choice = some (.error failure, next, after)) :
    choice = .fail failure ∨ failure.isBoom = false := by
  cases op with
  | ask query =>
      cases choice with
      | fail injected =>
          obtain ⟨-, failed, -, -⟩ := failing_eq_some responded
          cases failed
          exact .inl rfl
      | proceed =>
          have answered := congrArg Prod.fst (Option.some.inj responded)
          exact .inr (unmade_answer query failure answered)
      | draw id => cases responded
      | generate key => cases responded
  | act command =>
      rcases respond_act responded with fails | acts
      · obtain ⟨injected, isFail, -, failed, -, -⟩ := fails
        cases failed
        exact .inl isFail
      · exact .inr (unmade_act acts failure rfl)

end

def World.requested (world : World Id PublicKey) (index : Nat) : Option (Request Id) :=
  (world.locals index).map Local.request

/-- The world of the requests remembers them. -/
theorem remembers [DecidableEq Id] (platform : Platform Id PublicKey) :
    (runtime platform).Remembers World.requested where
  enrolled index request world := by
    funext other
    by_cases same : other = index
    · subst same
      rw [Function.update_self]
      show ((Function.update world.locals other (some ⟨request, none, []⟩)) other).map _ = _
      rw [Function.update_self]
      rfl
    · rw [Function.update_of_ne same]
      show ((Function.update world.locals index (some ⟨request, none, []⟩)) other).map _ = _
      rw [Function.update_of_ne same]
      rfl
  performed index op choice world reply next performed := by
    funext other
    obtain ⟨task, session, found, -, locals⟩ := perform_inv performed
    rw [World.requested, World.requested, locals]
    by_cases same : other = index
    · subst same
      rw [Function.update_self, found, Option.map_some, Option.map_some, Local.request_after]
    · rw [Function.update_of_ne same]

end

end Holonus.Backend
