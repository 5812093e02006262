/-
This file proves that evaluations with separate accounts commute.
-/

import Holonus.Machine.Footprint
import Holonus.Proof.Reliability.Footprint

namespace Holonus.Coin

open Holonus.Machine Holonus.Abstract HolonusCoinService

namespace ManageStorage

/-- The row of an account holds its counters and its slots under every record. -/
def row (storage : ManageStorage Record) (holder : Address) :
    (Record → Uint256) × (Record → Nat → Address) :=
  (fun record => storage.accountCount record holder,
    fun record => storage.accountIndex record holder)

/-- Lists with the same row have the same accounts. -/
theorem accounts_congr {left right : ManageStorage Record} {holder : Address}
    (rows : left.row holder = right.row holder) (record : Record) :
    left.accounts record holder = right.accounts record holder := by
  have counts := congrFun (congrArg Prod.fst rows) record
  have slots := congrFun (congrArg Prod.snd rows) record
  simp only [row] at counts slots
  rw [accounts, accounts, counts, slots]

/-- An appended account changes the row of its owner alone. -/
theorem append_row (storage : ManageStorage Record) (record : Record) (owner sender : Address)
    (count : Uint256) (last : Nat) (holder : Address) :
    (storage.append record owner sender count last).row holder =
      if holder = owner then
        (Function.update (storage.row holder).1 record count,
          Function.update (storage.row holder).2 record
            (Function.update ((storage.row holder).2 record) last sender))
      else storage.row holder := by
  have counts := column_update storage.accountCount record owner holder count
  have slots := column_update storage.accountIndex record owner holder
    (Function.update (storage.accountIndex record owner) last sender)
  split
  · rename_i here
    rw [if_pos here] at counts slots
    subst here
    exact Prod.ext counts slots
  · rename_i elsewhere
    rw [if_neg elsewhere] at counts slots
    exact Prod.ext counts slots

section
variable {storage next : ManageStorage Record} {self owner sender : Address} {record : Record}

/-- A successful call changes the row of one account only. -/
theorem addManageAccount_frame
    (added : storage.addManageAccount self record owner sender = .ok next) :
    next.owner = storage.owner ∧ ∀ holder, holder ≠ owner → next.row holder = storage.row holder := by
  obtain ⟨-, outcome⟩ := (addManageAccount_eq_ok storage self record owner sender next).mp added
  split at outcome
  · rw [← outcome]
    exact ⟨rfl, fun _ _ => rfl⟩
  · obtain ⟨count, -, same⟩ := outcome
    rw [← same]
    refine ⟨rfl, fun holder different => ?_⟩
    rw [append_row, if_neg different]

/-- The outcome depends on the row of the owner only, and equal rows stay equal. -/
theorem addManageAccount_follows {other : ManageStorage Record}
    (allowed : other.allowAccount = storage.allowAccount)
    (rows : storage.row owner = other.row owner)
    (added : storage.addManageAccount self record owner sender = .ok next) :
    ∃ last, other.addManageAccount self record owner sender = .ok last ∧
      ∀ holder, storage.row holder = other.row holder → next.row holder = last.row holder := by
  obtain ⟨permitted, outcome⟩ :=
    (addManageAccount_eq_ok storage self record owner sender next).mp added
  have counts : storage.accountCount record owner = other.accountCount record owner :=
    congrFun (congrArg Prod.fst rows) record
  simp only [addManageAccount_eq_ok, ← accounts_congr rows, allowed, permitted, true_and]
  split at outcome
  · rename_i listed
    rw [← outcome]
    refine ⟨other, ?_, fun _ same => same⟩
    rw [if_pos listed]
  · rename_i fresh
    obtain ⟨count, raised, same⟩ := outcome
    refine ⟨other.append record owner sender count (other.accountCount record owner).toNat, ?_, ?_⟩
    · rw [if_neg fresh]
      exact ⟨count, by rw [raised, counts], rfl⟩
    · intro holder equal
      rw [← same, append_row, append_row, counts, equal]

end

end ManageStorage

/-- The cells of the state separate the accounts and the records of the trust graph. -/
inductive Cell where
  | account (holder : Address)
  | record (subject evaluator : Address)
  | shared

def Cell.Content : Cell → Type
  | .account _ => Uint256 × (Record → Uint256) × (Record → Nat → Address)
  | .record _ _ => UserInfo
  | .shared => System

/-- Everything outside the trust graph is shared. -/
def System.outside (system : System) : System :=
  { system with
    eternalStorage := { system.eternalStorage with
      addrUIntStorage := Function.update system.eternalStorage.addrUIntStorage .reliability
        fun _ => 0
      addrGrpUserInfoStorage := Function.update system.eternalStorage.addrGrpUserInfoStorage
        .evaAccount fun _ _ => ⟨0, 0, 0⟩ }
    manageStorage := { system.manageStorage with
      accountIndex := fun _ _ _ => 0
      accountCount := fun _ _ => 0 } }

def System.content (system : System) : (cell : Cell) → cell.Content
  | .account holder =>
      (system.eternalStorage.addrUIntStorage .reliability holder, system.manageStorage.row holder)
  | .record subject evaluator =>
      system.eternalStorage.addrGrpUserInfoStorage .evaAccount subject evaluator
  | .shared => system.outside

/-- The cells hold the whole state. -/
theorem System.eq_of_agree (left right : System)
    (agree : Agree System.content Set.univ left right) : left = right := by
  have shared : left.outside = right.outside := agree .shared trivial
  have account (holder : Address) := agree (.account holder) trivial
  have record (subject evaluator : Address) := agree (.record subject evaluator) trivial
  simp only [System.content] at account record
  obtain ⟨leftEternal, leftManage, leftToken, leftService, leftEvents⟩ := left
  obtain ⟨rightEternal, rightManage, rightToken, rightService, rightEvents⟩ := right
  obtain ⟨leftOwner, leftAllow, leftPairs, leftInfos, leftValues, leftPlain⟩ := leftEternal
  obtain ⟨rightOwner, rightAllow, rightPairs, rightInfos, rightValues, rightPlain⟩ := rightEternal
  obtain ⟨leftKeeper, leftAdmits, leftIndex, leftCount⟩ := leftManage
  obtain ⟨rightKeeper, rightAdmits, rightIndex, rightCount⟩ := rightManage
  simp only [System.outside, System.mk.injEq, EternalStorage.mk.injEq, ManageStorage.mk.injEq,
    and_true] at shared
  obtain ⟨⟨owners, allows, pairs, infos, values, plain⟩, ⟨keepers, admits⟩, tokens, services,
    events⟩ := shared
  have sameValues : leftValues = rightValues := by
    funext key holder
    by_cases same : key = .reliability
    · subst same
      exact congrArg Prod.fst (account holder)
    · have entry := congrFun (congrFun values key) holder
      rw [Function.update_of_ne same, Function.update_of_ne same] at entry
      exact entry
  have sameInfos : leftInfos = rightInfos := by
    funext key subject evaluator
    by_cases same : key = .evaAccount
    · subst same
      exact record subject evaluator
    · have entry := congrFun (congrFun (congrFun infos key) subject) evaluator
      rw [Function.update_of_ne same, Function.update_of_ne same] at entry
      exact entry
  have sameIndex : leftIndex = rightIndex := by
    funext key holder
    exact congrFun (congrArg (fun entry => entry.2.2) (account holder)) key
  have sameCount : leftCount = rightCount := by
    funext key holder
    exact congrFun (congrArg (fun entry => entry.2.1) (account holder)) key
  subst owners allows pairs plain keepers admits tokens services events sameValues sameInfos
  subst sameIndex sameCount
  rfl

/-- A set of accounts owns their cells and the records between them. -/
def ownCells (accounts : Set Address) : Set Cell :=
  {cell | match cell with
    | .account holder => holder ∈ accounts
    | .record subject evaluator => subject ∈ accounts ∧ evaluator ∈ accounts
    | .shared => False}

def readCells (accounts : Set Address) : Set Cell := insert .shared (ownCells accounts)

/-- Every cell that an evaluation writes is one that it reads. -/
theorem ownCells_subset (accounts : Set Address) : ownCells accounts ⊆ readCells accounts :=
  Set.subset_insert _ _

section
variable {accounts : Set Address} {left right system next : System} {owner sender : Address}
  {trustworthy : Int}

/-- Contracts that agree have the same permissions. -/
theorem agree_allowed (agree : Agree System.content (readCells accounts) left right) :
    right.eternalStorage.allowAccount = left.eternalStorage.allowAccount ∧
      right.manageStorage.allowAccount = left.manageStorage.allowAccount ∧
      right.service = left.service := by
  have shared : left.outside = right.outside := agree .shared (Set.mem_insert _ _)
  exact ⟨(congrArg (fun outside => outside.eternalStorage.allowAccount) shared).symm,
    (congrArg (fun outside => outside.manageStorage.allowAccount) shared).symm,
    (congrArg System.service shared).symm⟩

/-- Contracts that agree have the same reliability and row of every account. -/
theorem agree_account (agree : Agree System.content (readCells accounts) left right)
    {holder : Address} (member : holder ∈ accounts) :
    left.eternalStorage.addrUIntStorage .reliability holder =
        right.eternalStorage.addrUIntStorage .reliability holder ∧
      left.manageStorage.row holder = right.manageStorage.row holder :=
  Prod.ext_iff.mp (agree (.account holder) (Set.mem_insert_of_mem _ member))

/-- Contracts that agree have the same record of every pair. -/
theorem agree_record (agree : Agree System.content (readCells accounts) left right)
    {subject evaluator : Address} (first : subject ∈ accounts) (second : evaluator ∈ accounts) :
    left.eternalStorage.addrGrpUserInfoStorage .evaAccount subject evaluator =
      right.eternalStorage.addrGrpUserInfoStorage .evaAccount subject evaluator :=
  agree (.record subject evaluator) (Set.mem_insert_of_mem _ ⟨first, second⟩)

/-- Contracts that agree have the same level of every account. -/
theorem agree_level (agree : Agree System.content (readCells accounts) left right)
    {holder : Address} (member : holder ∈ accounts) :
    left.graph.level holder = right.graph.level holder :=
  congrArg (fun value : Uint256 => levelOf value.toNat) (agree_account agree member).1

/-- The consensus reads the reliability of its evaluator only. -/
theorem agree_reliabilityConsensus (agree : Agree System.content (readCells accounts) left right)
    {holder : Address} (member : holder ∈ accounts) (trust : Int) :
    reliabilityConsensus right holder trust = reliabilityConsensus left holder trust := by
  obtain ⟨allowed, -, service⟩ := agree_allowed agree
  simp only [reliabilityConsensus, wholeReliability, getReliability, EternalStorage.getAddrUIntValue,
    EternalStorage.isAllow, allowed, service, (agree_account agree member).1]

/-- An update writes only cells of its two accounts. -/
theorem fcUpdateReliability_frame (ownerIn : owner ∈ accounts) (senderIn : sender ∈ accounts)
    (succeeds : fcUpdateReliability system owner sender trustworthy = .ok next) :
    Agree System.content (ownCells accounts)ᶜ system next := by
  obtain ⟨-, contribution, -, _, -, total, -, first, firstAdded, second, secondAdded, same⟩ :=
    (fcUpdateReliability_iff system next owner sender trustworthy _ rfl).mp succeeds
  obtain ⟨firstOwner, firstRows⟩ := ManageStorage.addManageAccount_frame firstAdded
  obtain ⟨secondOwner, secondRows⟩ := ManageStorage.addManageAccount_frame secondAdded
  rw [← same]
  intro cell foreign
  cases cell with
  | account holder =>
      have notOwner : holder ≠ owner := fun equal => foreign (equal ▸ ownerIn)
      have notSender : holder ≠ sender := fun equal => foreign (equal ▸ senderIn)
      apply Prod.ext
      · change _ = (system.eternalStorage.putAddrUInt .reliability sender total).addrUIntStorage
          .reliability holder
        rw [EternalStorage.putAddrUInt_self, Function.update_of_ne notSender]
        rfl
      · change system.manageStorage.row holder = second.row holder
        rw [secondRows holder notOwner, firstRows holder notSender]
  | record subject evaluator =>
      change system.eternalStorage.addrGrpUserInfoStorage .evaAccount subject evaluator =
        ((system.eternalStorage.putAddrUInt .reliability sender total).putAddrGrpUserInfo .evaAccount
          sender owner _).addrGrpUserInfoStorage .evaAccount subject evaluator
      rw [putAddrGrpUserInfo_apply]
      by_cases column : evaluator = owner
      · have row : subject ≠ sender := by
          intro equal
          apply foreign
          rw [equal, column]
          exact ⟨senderIn, ownerIn⟩
        rw [writePair_of_row_ne _ _ _ row]
        rfl
      · rw [writePair_of_column_ne _ _ _ _ column]
        rfl
  | shared =>
      change system.outside = (updated system owner sender _ contribution total second).outside
      have keeper := secondOwner.trans firstOwner
      have admits := (ManageStorage.allowAccount_of_addManageAccount secondAdded).trans
        (ManageStorage.allowAccount_of_addManageAccount firstAdded)
      simp only [System.outside, updated, EternalStorage.putAddrGrpUserInfo,
        EternalStorage.putAddrUInt, Function.update_idem, keeper, admits]

/-- States with the same cells of both accounts are updated alike. -/
theorem fcUpdateReliability_follows (ownerIn : owner ∈ accounts) (senderIn : sender ∈ accounts)
    (agree : Agree System.content (readCells accounts) left right)
    (succeeds : fcUpdateReliability left owner sender trustworthy = .ok next) :
    ∃ last, fcUpdateReliability right owner sender trustworthy = .ok last ∧
      Agree System.content (readCells accounts) next last := by
  obtain ⟨allowed, admits, service⟩ := agree_allowed agree
  have info := agree_record agree senderIn ownerIn
  have full := (agree_account agree senderIn).1
  obtain ⟨permitted, contribution, consensus, lowered, withdrawn, total, sum, first, firstAdded, second,
    secondAdded, same⟩ := (fcUpdateReliability_iff left next owner sender trustworthy _ info).mp succeeds
  obtain ⟨firstOther, firstFollows, firstRows⟩ := ManageStorage.addManageAccount_follows admits
    (agree_account agree senderIn).2 firstAdded
  have firstAllowed : firstOther.allowAccount = first.allowAccount := by
    rw [ManageStorage.allowAccount_of_addManageAccount firstFollows, admits,
      ManageStorage.allowAccount_of_addManageAccount firstAdded]
  obtain ⟨secondOther, secondFollows, secondRows⟩ := ManageStorage.addManageAccount_follows firstAllowed
    (firstRows owner (agree_account agree ownerIn).2) secondAdded
  have follows := (fcUpdateReliability_iff right _ owner sender trustworthy _ rfl).mpr
    ⟨by rw [allowed, service]; exact permitted, contribution,
      (agree_reliabilityConsensus agree ownerIn _).trans consensus, lowered,
      by rw [← full]; exact withdrawn, total, sum, firstOther, by rw [service]; exact firstFollows,
      secondOther, by rw [service]; exact secondFollows, rfl⟩
  refine ⟨_, follows, ?_⟩
  have leftKept := fcUpdateReliability_frame ownerIn senderIn succeeds
  have rightKept := fcUpdateReliability_frame ownerIn senderIn follows
  intro cell member
  rcases Set.mem_insert_iff.mp member with shared | own
  · subst shared
    exact (leftKept .shared id).symm.trans ((agree .shared member).trans (rightKept .shared id))
  · rw [← same]
    cases cell with
    | account holder =>
        apply Prod.ext
        · change ((left.eternalStorage.putAddrUInt .reliability sender total).addrUIntStorage
            .reliability holder) = (right.eternalStorage.putAddrUInt .reliability sender
              total).addrUIntStorage .reliability holder
          rw [EternalStorage.putAddrUInt_self, EternalStorage.putAddrUInt_self, Function.update_apply,
            Function.update_apply, (agree_account agree own).1]
        · exact secondRows holder (firstRows holder (agree_account agree own).2)
    | record subject evaluator =>
        change ((left.eternalStorage.putAddrUInt .reliability sender total).putAddrGrpUserInfo
          .evaAccount sender owner _).addrGrpUserInfoStorage .evaAccount subject evaluator =
            ((right.eternalStorage.putAddrUInt .reliability sender total).putAddrGrpUserInfo
              .evaAccount sender owner _).addrGrpUserInfoStorage .evaAccount subject evaluator
        rw [putAddrGrpUserInfo_apply, putAddrGrpUserInfo_apply]
        by_cases column : evaluator = owner
        · by_cases row : subject = sender
          · subst column row
            rw [writePair_self, writePair_self]
          · rw [writePair_of_row_ne _ _ _ row, writePair_of_row_ne _ _ _ row]
            exact agree_record agree own.1 own.2
        · rw [writePair_of_column_ne _ _ _ _ column, writePair_of_column_ne _ _ _ _ column]
          exact agree_record agree own.1 own.2
    | shared => exact absurd own id

/-- The accounts hold everybody that the sender has evaluated. -/
def HoldsList (accounts : Set Address) (sender : Address) (system : System) : Prop :=
  ∀ account ∈ system.manageStorage.accounts .accountEvaList sender, account ∈ accounts

/-- An evaluator that holds its list holds it where the contracts agree. -/
theorem HoldsList.of_agree (agree : Agree System.content (readCells accounts) left right)
    (senderIn : sender ∈ accounts) (holds : HoldsList accounts sender left) :
    HoldsList accounts sender right := by
  rw [HoldsList, ← ManageStorage.accounts_congr (agree_account agree senderIn).2]
  exact holds

/-- An update keeps the list of the sender within the accounts and does not shorten it. -/
theorem HoldsList.update {holder : Address} (holds : HoldsList accounts holder system)
    (senderIn : sender ∈ accounts)
    (succeeds : fcUpdateReliability system owner sender trustworthy = .ok next) :
    HoldsList accounts holder next ∧
      (system.manageStorage.accountCount .accountEvaList holder).toNat ≤
        (next.manageStorage.accountCount .accountEvaList holder).toNat := by
  have lists := accounts_of_fcUpdateReliability succeeds .accountEvaList holder
  rw [if_neg (by simp)] at lists
  rw [← ManageStorage.accounts_length, ← ManageStorage.accounts_length, lists]
  split
  · rename_i here
    rw [if_pos here, ← here.2] at lists
    rw [← here.2, length_addOnce]
    refine ⟨?_, Nat.le_add_right _ _⟩
    intro account member
    rw [lists, mem_addOnce] at member
    rcases member with old | new
    · exact holds account old
    · rw [new]
      exact senderIn
  · rename_i elsewhere
    rw [if_neg elsewhere] at lists
    refine ⟨?_, le_rfl⟩
    intro account member
    rw [lists] at member
    exact holds account member

/-- The loop writes only cells of the sender and of its list. -/
theorem refreshEvaluations_frame (indices : List Nat) (senderIn : sender ∈ accounts)
    (holds : HoldsList accounts sender system)
    (within : ∀ index ∈ indices,
      index < (system.manageStorage.accountCount .accountEvaList sender).toNat)
    (succeeds : refreshEvaluations sender indices system = .ok next) :
    Agree System.content (ownCells accounts)ᶜ system next := by
  induction indices generalizing system with
  | nil =>
      rw [refreshEvaluations, pure_eq_ok] at succeeds
      rw [succeeds]
      exact Agree.refl _ _
  | cons index rest ih =>
      simp only [refreshEvaluations, bind_eq_ok, ManageStorage.getAccountIndex_eq_ok, and_assoc,
        exists_and_left, exists_eq_left'] at succeeds
      obtain ⟨-, middle, once, later⟩ := succeeds
      have listed := holds _ (List.mem_map_of_mem
        (List.mem_range.mpr (within index List.mem_cons_self)))
      obtain ⟨still, longer⟩ := holds.update listed once
      apply (fcUpdateReliability_frame senderIn listed once).trans
      apply ih still _ later
      intro other member
      exact lt_of_lt_of_le (within other (List.mem_cons_of_mem _ member)) longer

/-- The loop takes the same turns in states with the same cells. -/
theorem refreshEvaluations_follows (indices : List Nat) (senderIn : sender ∈ accounts)
    (holds : HoldsList accounts sender left)
    (within : ∀ index ∈ indices,
      index < (left.manageStorage.accountCount .accountEvaList sender).toNat)
    (agree : Agree System.content (readCells accounts) left right)
    (succeeds : refreshEvaluations sender indices left = .ok next) :
    ∃ last, refreshEvaluations sender indices right = .ok last ∧
      Agree System.content (readCells accounts) next last := by
  induction indices generalizing left right with
  | nil =>
      rw [refreshEvaluations, pure_eq_ok] at succeeds
      rw [← succeeds]
      exact ⟨right, rfl, agree⟩
  | cons index rest ih =>
      simp only [refreshEvaluations, bind_eq_ok, ManageStorage.getAccountIndex_eq_ok, and_assoc,
        exists_and_left, exists_eq_left'] at succeeds ⊢
      obtain ⟨permitted, middle, once, later⟩ := succeeds
      obtain ⟨-, admits, service⟩ := agree_allowed agree
      have index_eq : left.manageStorage.accountIndex .accountEvaList sender =
          right.manageStorage.accountIndex .accountEvaList sender :=
        congrFun (congrArg Prod.snd (agree_account agree senderIn).2) .accountEvaList
      have listed := holds _ (List.mem_map_of_mem
        (List.mem_range.mpr (within index List.mem_cons_self)))
      obtain ⟨still, longer⟩ := holds.update listed once
      obtain ⟨reached, follows, alike⟩ := fcUpdateReliability_follows senderIn listed agree once
      obtain ⟨last, rest, same⟩ := ih still (fun other member =>
        lt_of_lt_of_le (within other (List.mem_cons_of_mem _ member)) longer) alike later
      rw [← index_eq, admits, service]
      exact ⟨permitted, last, ⟨reached, follows, rest⟩, same⟩

/-- An evaluation writes only cells of its accounts. -/
theorem callEvaluateReliability_frame (ownerIn : owner ∈ accounts) (senderIn : sender ∈ accounts)
    (holds : HoldsList accounts sender system)
    (succeeds : callEvaluateReliability system owner sender trustworthy = .ok next) :
    Agree System.content (ownCells accounts)ᶜ system next := by
  obtain ⟨-, -, middle, once, -, rest⟩ := (callEvaluateReliability_eq_ok _ _ _ _ _).mp succeeds
  have first := fcUpdateReliability_frame ownerIn senderIn once
  split at rest
  · rw [← rest]
    exact first
  · exact first.trans (refreshEvaluations_frame _ senderIn (holds.update senderIn once).1
      (fun index member => List.mem_range.mp member) rest.2)

/-- An evaluation takes the same turns in states with the same cells. -/
theorem callEvaluateReliability_follows (ownerIn : owner ∈ accounts) (senderIn : sender ∈ accounts)
    (holds : HoldsList accounts sender left)
    (agree : Agree System.content (readCells accounts) left right)
    (succeeds : callEvaluateReliability left owner sender trustworthy = .ok next) :
    ∃ last, callEvaluateReliability right owner sender trustworthy = .ok last ∧
      Agree System.content (readCells accounts) next last := by
  obtain ⟨valid, permitted, middle, once, still, rest⟩ :=
    (callEvaluateReliability_eq_ok _ _ _ _ _).mp succeeds
  obtain ⟨reached, follows, alike⟩ := fcUpdateReliability_follows ownerIn senderIn agree once
  obtain ⟨allowed, -, service⟩ := agree_allowed agree
  obtain ⟨stillAllowed, stillAdmits, stillService⟩ := agree_allowed alike
  simp only [callEvaluateReliability_eq_ok, ← agree_level agree senderIn, follows, Except.ok.injEq,
    exists_eq_left', allowed, service, valid, permitted, true_and, stillAllowed, stillService, still,
    ← agree_level alike senderIn, stillAdmits]
  split at rest
  · rename_i level
    rw [← rest]
    refine ⟨reached, ?_, alike⟩
    rw [if_pos level]
  · rename_i level
    obtain ⟨last, loop, same⟩ := refreshEvaluations_follows _ senderIn
      (holds.update senderIn once).1 (fun index member => List.mem_range.mp member) alike rest.2
    refine ⟨last, ?_, same⟩
    have counts : middle.manageStorage.accountCount .accountEvaList sender =
        reached.manageStorage.accountCount .accountEvaList sender :=
      congrFun (congrArg Prod.fst (agree_account alike senderIn).2) .accountEvaList
    rw [if_neg level, ← counts]
    exact ⟨rest.1, loop⟩

end

/-- These arguments make one evaluation transaction. -/
structure Evaluation where
  msgSender : Address
  owner : Address
  sender : Address
  trustworthy : Int

def Evaluation.transaction (evaluation : Evaluation) : Transaction :=
  ⟨evaluation.msgSender,
    .callEvaluateReliability evaluation.owner evaluation.sender evaluation.trustworthy⟩

/-- An evaluation concerns its two accounts and everybody that the sender has evaluated. -/
def Evaluation.concerned (evaluation : Evaluation) (system : System) : Set Address :=
  {evaluation.owner, evaluation.sender} ∪
    {account | account ∈ system.manageStorage.accounts .accountEvaList evaluation.sender}

/-- Every evaluation is confined to the cells of the concerned accounts. -/
theorem Evaluation.confined (evaluation : Evaluation) (system : System) :
    Confined System.content execute evaluation.transaction
      (readCells (evaluation.concerned system)) (ownCells (evaluation.concerned system)) system := by
  have ownerIn : evaluation.owner ∈ evaluation.concerned system := Or.inl (Or.inl rfl)
  have senderIn : evaluation.sender ∈ evaluation.concerned system := Or.inl (Or.inr rfl)
  have holds : HoldsList (evaluation.concerned system) evaluation.sender system :=
    fun account member => Or.inr member
  refine ⟨ownCells_subset _, ?_, ?_⟩
  · intro other next agree succeeds
    exact callEvaluateReliability_frame ownerIn senderIn (holds.of_agree agree senderIn) succeeds
  · intro left right next toLeft toRight succeeds
    obtain ⟨last, follows, same⟩ := callEvaluateReliability_follows ownerIn senderIn
      (holds.of_agree toLeft senderIn) (toLeft.symm.trans toRight) succeeds
    exact ⟨last, follows, same.mono (ownCells_subset _)⟩

/-- Evaluations of disjoint accounts write what the other does not read. -/
theorem ownCells_disjoint {first second : Set Address} (apart : Disjoint first second) :
    Disjoint (ownCells first) (readCells second) := by
  rw [Set.disjoint_left]
  intro cell one other
  rcases Set.mem_insert_iff.mp other with shared | own
  · subst shared
    exact one
  · cases cell with
    | account holder => exact Set.disjoint_left.mp apart one own
    | record subject evaluator => exact Set.disjoint_left.mp apart one.1 own.1
    | shared => exact one

/-- Two evaluations of separate accounts give the same results in either order. -/
theorem evaluations_commute (deployment : Deployment) (transactions : List Transaction)
    (first second : Evaluation)
    (apart : Disjoint (first.concerned (deployment.after transactions))
      (second.concerned (deployment.after transactions))) :
    (execute (deployment.after (transactions ++ [second.transaction])) first.transaction).isOk =
        (execute (deployment.after transactions) first.transaction).isOk ∧
      (execute (deployment.after (transactions ++ [first.transaction])) second.transaction).isOk =
        (execute (deployment.after transactions) second.transaction).isOk ∧
      (deployment.after (transactions ++ [first.transaction, second.transaction])).eternalStorage =
        (deployment.after
          (transactions ++ [second.transaction, first.transaction])).eternalStorage ∧
      (deployment.after (transactions ++ [first.transaction, second.transaction])).manageStorage =
        (deployment.after
          (transactions ++ [second.transaction, first.transaction])).manageStorage := by
  have one := first.confined (deployment.after transactions)
  have two := second.confined (deployment.after transactions)
  obtain ⟨sameFirst, sameSecond, sameState⟩ := one.commute System.eq_of_agree two
    (ownCells_disjoint apart) (ownCells_disjoint apart.symm)
  simp only [deployment.after_append, sameState]
  exact ⟨sameFirst, sameSecond, trivial, trivial⟩

/-- Account ten evaluates account eleven while account twenty evaluates account twenty-one. -/
theorem echoRun_commute :
    (Deployment.sample.after (echoRun ++
        [⟨10, .callEvaluateReliability 10 11 1⟩, ⟨20, .callEvaluateReliability 20 21 5⟩])).eternalStorage =
      (Deployment.sample.after (echoRun ++
        [⟨20, .callEvaluateReliability 20 21 5⟩,
          ⟨10, .callEvaluateReliability 10 11 1⟩])).eternalStorage := by
  have listed : (Deployment.sample.after echoRun).manageStorage.accounts .accountEvaList 11 = [10] := by
    decide +kernel
  have unlisted : (Deployment.sample.after echoRun).manageStorage.accounts .accountEvaList 21 = [] := by
    decide +kernel
  have apart : Disjoint ((Evaluation.mk 10 10 11 1).concerned (Deployment.sample.after echoRun))
      ((Evaluation.mk 20 20 21 5).concerned (Deployment.sample.after echoRun)) := by
    simp only [Evaluation.concerned, listed, unlisted]
    rw [Set.disjoint_left]
    intro account one other
    simp only [Set.mem_union, Set.mem_insert_iff, Set.mem_singleton_iff, Set.mem_ofPred_eq,
      List.mem_singleton, List.not_mem_nil, or_false] at one other
    rcases other with same | same
    · subst same
      exact absurd one (by decide)
    · subst same
      exact absurd one (by decide)
  exact (evaluations_commute Deployment.sample echoRun ⟨10, 10, 11, 1⟩ ⟨20, 20, 21, 5⟩ apart).2.2.1

end Holonus.Coin
