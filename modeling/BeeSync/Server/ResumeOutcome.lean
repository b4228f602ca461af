import BeeSync.Interaction.Sequential
import BeeSync.Server.MetadataCodec
import BeeSync.Server.ResumeCheck

/-!
# How the recovery of an earlier transfer ends

What is found next to the parts decides between six outcomes. Each of them leaves other
files behind.
-/

set_option autoImplicit false

namespace BeeSync.Server

open Encoding Interaction

namespace TransferMetadata

variable {partsDir filename : Bytes} {fs : Fs FilePath}

/-- What `purge` removes. -/
def purged (partsDir filename : Bytes) (numChunks : Nat) : Set FilePath :=
  insert (metaPath partsDir filename) (partPath partsDir filename '' {idx | idx < numChunks})

theorem ensures_purgeLoop (indices : List Nat) :
    Ensures (FsOp.Sem False) (purgeLoop partsDir filename indices)
      (fun _ fs' => fs' = fs.without (partPath partsDir filename '' {idx | idx ∈ indices})) fs := by
  induction indices generalizing fs with
  | nil => simp [purgeLoop]
  | cons i rest ih =>
      refine Ensures.remove fun _ => ih.mono fun _ fs' same => ?_
      rw [same, Fs.without_without, Set.singleton_union, ← Set.image_insert_eq]
      simp only [List.mem_cons, Set.insert_def, Set.mem_ofPred_eq]

theorem ensures_purge (numChunks : Nat) :
    Ensures (FsOp.Sem False) (purge partsDir filename numChunks)
      (fun _ fs' => fs' = fs.without (purged partsDir filename numChunks)) fs := by
  refine Ensures.remove fun _ => (ensures_purgeLoop (List.range numChunks)).mono ?_
  intro _ fs' same
  rw [same, Fs.without_without, Set.singleton_union]
  simp only [List.mem_range, purged]

/-- The files after a record has been saved. -/
def saved (fs : Fs FilePath) (partsDir filename : Bytes) (metadata : TransferMetadata) :
    Fs FilePath :=
  Function.update (Function.update fs (tmpPath partsDir filename) none)
    (metaPath partsDir filename) (some metadata.toBytes)

theorem saved_metaPath (metadata : TransferMetadata) :
    saved fs partsDir filename metadata (metaPath partsDir filename) = some metadata.toBytes :=
  Function.update_self ..

theorem saved_partPath (metadata : TransferMetadata) (idx : Nat) :
    saved fs partsDir filename metadata (partPath partsDir filename idx) =
      fs (partPath partsDir filename idx) := by
  rw [saved, Function.update_of_ne (partPath_ne_metaPath idx),
    Function.update_of_ne (partPath_ne_tmpPath idx)]

theorem ensures_save (metadata : TransferMetadata) :
    Ensures (FsOp.Sem False) (metadata.save partsDir filename)
      (fun result fs' => result = .ok () ∧ fs' = saved fs partsDir filename metadata) fs := by
  have writing : Ensures (FsOp.Sem False) (writeFile (tmpPath partsDir filename) metadata.toBytes)
      (fun result fs' => result = .ok () ∧
        fs' = Function.update fs (tmpPath partsDir filename) (some metadata.toBytes)) fs :=
    Ensures.writeFile _ ⟨rfl, rfl⟩
  refine writing.attempt (fun _ _ failed => nomatch failed.1) fun _ fs' written => ?_
  rw [written.2]
  refine Ensures.rename (Function.update_self ..) ⟨rfl, ?_⟩
  rw [saved, Function.update_idem]

end TransferMetadata

/-- The record in the metadata file of a transfer. -/
def Stored (fs : Fs FilePath) (receiver : FileReceiver) (metadata : TransferMetadata) : Prop :=
  ∃ data, fs receiver.metaPath = some data ∧ TransferMetadata.fromBytes data = .ok metadata

theorem Stored.unique {fs : Fs FilePath} {receiver : FileReceiver}
    {metadata metadata' : TransferMetadata} (stored : Stored fs receiver metadata)
    (stored' : Stored fs receiver metadata') : metadata' = metadata := by
  obtain ⟨data, found, read⟩ := stored
  obtain ⟨data', found', read'⟩ := stored'
  rw [found] at found'
  cases found'
  rw [read] at read'
  cases read'
  rfl

/-- A record has the parameters of a receiver. -/
structure SameParams (receiver : FileReceiver) (metadata : TransferMetadata) : Prop where
  chunkSize : metadata.chunkSize = receiver.chunkSize
  numChunks : metadata.numChunks = receiver.numChunks
  fileSize : metadata.fileSize = receiver.fileSize
  fullHash : metadata.fullHash = receiver.fullHash

theorem paramsMatch_iff {receiver : FileReceiver} {metadata : TransferMetadata} :
    metadata.paramsMatch receiver.chunkSize receiver.numChunks receiver.fileSize
      receiver.fullHash = true ↔ SameParams receiver metadata := by
  rw [TransferMetadata.paramsMatch, decide_eq_true_iff]
  constructor
  · intro ⟨chunkSize, numChunks, fileSize, fullHash⟩
    exact ⟨chunkSize, numChunks, fileSize, fullHash⟩
  · intro ⟨chunkSize, numChunks, fileSize, fullHash⟩
    exact ⟨chunkSize, numChunks, fileSize, fullHash⟩

namespace FileReceiver

/-- What a receiver purges. -/
def purged (receiver : FileReceiver) : Set FilePath :=
  TransferMetadata.purged receiver.partsDir receiver.filename receiver.numChunks

theorem sameParams_cleanMetadata (receiver : FileReceiver) (metadata : TransferMetadata)
    (validIndices : List Nat) : SameParams receiver (receiver.cleanMetadata metadata validIndices) := by
  rw [cleanMetadata]
  refine List.foldlRecOn validIndices _ ⟨rfl, rfl, rfl, rfl⟩ fun clean same idx _ => ?_
  split
  · exact ⟨same.chunkSize, same.numChunks, same.fileSize, same.fullHash⟩
  · exact same

end FileReceiver

variable [Blake3] {fs : Fs FilePath} {receiver : FileReceiver} {metadata : TransferMetadata}

instance (idx : Nat) : Decidable (Matches fs receiver metadata idx) :=
  decidable_of_iff (∃ part ∈ fs (receiver.partPath idx),
    metadata.chunkHashes.get? idx = some (calcHash part)) Iff.rfl

theorem Matches.mem_keys {idx : Nat} (matched : Matches fs receiver metadata idx) :
    idx ∈ metadata.chunkHashes.keys := by
  obtain ⟨_, _, hashed⟩ := matched
  exact OrderedMap.mem_keys_iff.mpr ⟨_, hashed⟩

/-- Removing other parts makes no difference to one that does not verify. -/
theorem matches_without {idx : Nat} (gone : Set Nat) :
    Matches (fs.without (receiver.partPath '' gone)) receiver metadata idx ↔
      idx ∉ gone ∧ Matches fs receiver metadata idx := by
  by_cases member : idx ∈ gone
  · have absent : fs.without (receiver.partPath '' gone) (receiver.partPath idx) = none :=
      Fs.without_of_mem (Set.mem_image_of_mem receiver.partPath member)
    constructor
    · intro ⟨part, onDisk, _⟩
      exact nomatch absent.symm.trans onDisk
    · exact fun both => absurd member both.1
  · have kept : receiver.partPath idx ∉ receiver.partPath '' gone := by
      intro image
      exact member ((receiver.partPath_injective.mem_set_image).mp image)
    simp only [Matches, Fs.without_of_notMem kept, member, not_false_eq_true, true_and]

/-- `stored` without the entries whose part does not verify. -/
structure Restricts (fs : Fs FilePath) (receiver : FileReceiver)
    (stored metadata : TransferMetadata) : Prop where
  params : SameParams receiver metadata
  chunkHashes : ∀ idx, metadata.chunkHashes.get? idx =
    if Matches fs receiver stored idx then stored.chunkHashes.get? idx else none

/-- The six ways in which the recovery of a transfer ends, with what it returns and the
files it leaves. -/
inductive Recovery (fs : Fs FilePath) (receiver : FileReceiver) :
    Option TransferMetadata → Fs FilePath → Prop where
  | missing (absent : fs receiver.metaPath = none) : Recovery fs receiver none fs
  | unreadable {data : Bytes} {error : TransferMetadata.FormatError}
      (found : fs receiver.metaPath = some data)
      (fails : TransferMetadata.fromBytes data = .error error) :
      Recovery fs receiver none (fs.without receiver.purged)
  | changed {metadata : TransferMetadata} (stored : Stored fs receiver metadata)
      (differs : ¬ SameParams receiver metadata) :
      Recovery fs receiver none (fs.without receiver.purged)
  | corrupt {metadata : TransferMetadata} (stored : Stored fs receiver metadata)
      (params : SameParams receiver metadata) (listed : metadata.chunkHashes.keys ≠ [])
      (all : ∀ idx, ¬ Matches fs receiver metadata idx) :
      Recovery fs receiver none
        ((fs.without (receiver.partPath '' {idx | idx ∈ metadata.chunkHashes.keys})).without
          receiver.purged)
  | intact {metadata : TransferMetadata} (stored : Stored fs receiver metadata)
      (params : SameParams receiver metadata)
      (all : ∀ idx ∈ metadata.chunkHashes.keys, Matches fs receiver metadata idx) :
      Recovery fs receiver (some metadata) fs
  | partly {metadata clean : TransferMetadata} {valid other : Nat}
      (stored : Stored fs receiver metadata) (params : SameParams receiver metadata)
      (matched : Matches fs receiver metadata valid) (listed : other ∈ metadata.chunkHashes.keys)
      (differs : ¬ Matches fs receiver metadata other)
      (restricts : Restricts fs receiver metadata clean) :
      Recovery fs receiver (some clean)
        (TransferMetadata.saved (fs.without (receiver.partPath ''
            {idx | idx ∈ metadata.chunkHashes.keys ∧ ¬ Matches fs receiver metadata idx}))
          receiver.partsDir receiver.filename clean)

namespace FileReceiver

theorem ensures_verifyPart (idx : Nat) :
    Ensures (FsOp.Sem False) (metadata.verifyPart idx receiver.partsDir receiver.filename)
      (fun valid fs' => valid = decide (Matches fs receiver metadata idx) ∧ fs' = fs) fs := by
  rw [TransferMetadata.verifyPart]
  cases listed : metadata.chunkHashes.get? idx with
  | none => simp [Matches, listed]
  | some expected =>
      refine Ensures.readFile (fun absent error => ?_) fun content found => ?_
      · refine ⟨(decide_eq_false ?_).symm, rfl⟩
        rintro ⟨_, onDisk, _⟩
        cases absent.symm.trans onDisk
      · refine ⟨decide_eq_decide.mpr ?_, rfl⟩
        constructor
        · intro same
          rw [← same] at listed
          exact ⟨content, found, listed⟩
        · rintro ⟨part, onDisk, hashed⟩
          cases found.symm.trans onDisk
          exact Option.some.inj (hashed.symm.trans listed)

/-- The parts that verify are listed in the order in which they are checked, the others are
counted and removed. -/
theorem ensures_verifyParts (unchecked validIndices : List Nat) (corruptCount : Nat) :
    Ensures (FsOp.Sem False) (receiver.verifyParts metadata unchecked validIndices corruptCount)
      (fun result fs' =>
        result.1 = validIndices ++ unchecked.filter (Matches fs receiver metadata ·) ∧
        result.2 = corruptCount + unchecked.countP (¬ Matches fs receiver metadata ·) ∧
        fs' = fs.without (receiver.partPath ''
          {idx | idx ∈ unchecked ∧ ¬ Matches fs receiver metadata idx})) fs := by
  induction unchecked generalizing fs validIndices corruptCount with
  | nil => simp [verifyParts]
  | cons idx rest ih =>
      rw [verifyParts]
      refine (ensures_verifyPart idx).bind fun valid fs' verified => ?_
      rw [verified.1, verified.2]
      by_cases matched : Matches fs receiver metadata idx
      · rw [decide_eq_true matched]
        refine (ih (validIndices ++ [idx]) corruptCount).mono fun result fs' checked => ?_
        obtain ⟨valid, corrupt, left⟩ := checked
        refine ⟨?_, ?_, ?_⟩
        · rw [valid]
          simp [matched]
        · rw [corrupt]
          simp [matched]
        · rw [left]
          congr 2
          ext j
          simp only [Set.mem_ofPred_eq, List.mem_cons]
          grind
      · rw [decide_eq_false matched]
        refine Ensures.remove fun _ => ?_
        rw [← Set.image_singleton]
        refine (ih validIndices (corruptCount + 1)).mono fun result fs' checked => ?_
        have same : ∀ j, Matches (fs.without (receiver.partPath '' {idx})) receiver metadata j ↔
            Matches fs receiver metadata j := by
          intro j
          rw [matches_without]
          refine and_iff_right_of_imp fun found here => ?_
          rw [Set.mem_singleton_iff.mp here] at found
          exact matched found
        simp only [same] at checked
        obtain ⟨valid, corrupt, left⟩ := checked
        refine ⟨?_, ?_, ?_⟩
        · rw [valid]
          simp [matched]
        · rw [corrupt]
          simp [matched]
          omega
        · rw [left, Fs.without_without, ← Set.image_union]
          congr 2
          ext j
          simp only [Set.mem_ofPred_eq, List.mem_cons, Set.mem_union, Set.mem_singleton_iff]
          grind

omit [Blake3] in
theorem ensures_load {post : Except TransferMetadata.LoadError (Option TransferMetadata) →
      Fs FilePath → Prop} (missing : fs receiver.metaPath = none → post (.ok none) fs)
    (unreadable : ∀ data error, fs receiver.metaPath = some data →
      TransferMetadata.fromBytes data = .error error → post (.error (.format error)) fs)
    (read : ∀ metadata, Stored fs receiver metadata → post (.ok (some metadata)) fs) :
    Ensures (FsOp.Sem False) (TransferMetadata.load receiver.partsDir receiver.filename) post fs := by
  refine Ensures.exists_ ?_
  cases found : fs (TransferMetadata.metaPath receiver.partsDir receiver.filename) with
  | none => exact missing found
  | some data =>
      refine Ensures.readFile (fun absent => nomatch found.symm.trans absent) fun content same => ?_
      dsimp only [Prog.ret_bind]
      split
      · exact unreadable content _ same ‹_›
      · exact read _ ⟨content, same, ‹_›⟩

omit [Blake3] in
theorem get?_cleanMetadata_eq {validIndices : List Nat}
    (listed : ∀ idx ∈ validIndices, idx ∈ metadata.chunkHashes.keys) (idx : Nat) :
    (receiver.cleanMetadata metadata validIndices).chunkHashes.get? idx =
      if idx ∈ validIndices then metadata.chunkHashes.get? idx else none := by
  have members : idx ∈ (receiver.cleanMetadata metadata validIndices).chunkHashes.keys ↔
      idx ∈ validIndices := mem_keys_cleanMetadata listed idx
  cases found : (receiver.cleanMetadata metadata validIndices).chunkHashes.get? idx with
  | none =>
      rw [OrderedMap.get?_eq_none_iff, members] at found
      rw [if_neg found]
  | some hash =>
      obtain ⟨member, recorded⟩ := get?_cleanMetadata found
      rw [if_pos member, recorded]

/-- Every recovery in which no call fails ends in one of the six ways. -/
theorem ensures_loadOrPurgeMetadata [KeyOrder] (receiver : FileReceiver) (fs : Fs FilePath) :
    Ensures (FsOp.Sem False) receiver.loadOrPurgeMetadata (Recovery fs receiver) fs := by
  have purge : ∀ {gone : Set FilePath}, Recovery fs receiver none
      ((fs.without gone).without receiver.purged) →
      Ensures (FsOp.Sem False)
        ((TransferMetadata.purge receiver.partsDir receiver.filename receiver.numChunks).bind
          fun _ => .ret none) (Recovery fs receiver) (fs.without gone) := by
    intro gone ends
    refine (TransferMetadata.ensures_purge receiver.numChunks).bind fun _ fs' same => ?_
    rw [same]
    exact ends
  rw [loadOrPurgeMetadata, ensures_bind]
  refine ensures_load .missing (fun data error found fails => ?_) fun metadata stored => ?_
  · have ends := @purge ∅
    rw [Fs.without_empty] at ends
    exact ends (.unreadable found fails)
  · dsimp only
    split
    case isFalse differs =>
      have ends := @purge ∅
      rw [Fs.without_empty] at ends
      exact ends (.changed stored fun same => differs (paramsMatch_iff.mpr same))
    case isTrue matched =>
      have params := paramsMatch_iff.mp matched
      have listed : ∀ idx, idx ∈ KeyOrder.keys metadata.chunkHashes ↔
          idx ∈ metadata.chunkHashes.keys := fun idx =>
        (KeyOrder.perm metadata.chunkHashes).mem_iff
      refine (ensures_verifyParts (KeyOrder.keys metadata.chunkHashes) [] 0).bind ?_
      intro ⟨validIndices, corruptCount⟩ fs' checked
      obtain ⟨valid, corrupt, left⟩ := checked
      simp only [listed] at left
      dsimp only at valid corrupt
      rw [List.nil_append] at valid
      rw [Nat.zero_add] at corrupt
      have among : ∀ idx, idx ∈ validIndices ↔ Matches fs receiver metadata idx := by
        intro idx
        rw [valid, List.mem_filter, listed, decide_eq_true_iff]
        exact and_iff_right_of_imp Matches.mem_keys
      dsimp only
      split
      case isTrue some_ =>
        rw [corrupt, gt_iff_lt, List.countP_pos_iff] at some_
        obtain ⟨bad, member, differs⟩ := some_
        split
        case isTrue empty =>
          rw [List.isEmpty_iff] at empty
          have none_ : ∀ idx, ¬ Matches fs receiver metadata idx := by
            intro idx matched
            rw [← among, empty] at matched
            cases matched
          simp only [none_, not_false_eq_true, and_true] at left
          rw [left]
          refine purge (.corrupt stored params (fun nothing => ?_) none_)
          rw [listed, nothing] at member
          cases member
        case isFalse nonempty =>
          obtain ⟨good, valid⟩ := List.exists_mem_of_ne_nil _ (List.isEmpty_iff.not.mp nonempty)
          have recorded : ∀ idx ∈ validIndices, idx ∈ metadata.chunkHashes.keys :=
            fun idx valid => ((among idx).mp valid).mem_keys
          refine (TransferMetadata.ensures_save _).bind fun _ fs'' done => ?_
          rw [done.2, left]
          refine .partly stored params ((among good).mp valid) ((listed bad).mp member)
            (of_decide_eq_true differs) ⟨receiver.sameParams_cleanMetadata metadata validIndices, fun idx => ?_⟩
          rw [get?_cleanMetadata_eq recorded]
          simp only [among]
      case isFalse none_ =>
        have all : ∀ idx ∈ metadata.chunkHashes.keys, Matches fs receiver metadata idx := by
          intro idx member
          rw [corrupt, gt_iff_lt, List.countP_pos_iff] at none_
          by_contra differs
          exact none_ ⟨idx, (listed idx).mpr member, decide_eq_true differs⟩
        have nothing : {idx | idx ∈ metadata.chunkHashes.keys ∧
            ¬ Matches fs receiver metadata idx} = ∅ :=
          Set.eq_empty_iff_forall_notMem.mpr fun idx both => both.2 (all idx both.1)
        rw [nothing, Set.image_empty, Fs.without_empty] at left
        rw [left]
        exact .intact stored params all

end FileReceiver

namespace Restricts

variable {stored : TransferMetadata} (restricts : Restricts fs receiver stored metadata)

include restricts

theorem mem_keys_iff (idx : Nat) :
    idx ∈ metadata.chunkHashes.keys ↔ Matches fs receiver stored idx := by
  rw [OrderedMap.mem_keys_iff, restricts.chunkHashes]
  constructor
  · intro ⟨hash, found⟩
    by_contra differs
    rw [if_neg differs] at found
    cases found
  · intro matched
    rw [if_pos matched]
    exact OrderedMap.mem_keys_iff.mp matched.mem_keys

theorem encodable (encodable : stored.Encodable) (params : SameParams receiver stored) :
    metadata.Encodable := by
  refine encodable.restrict (restricts.params.chunkSize.trans params.chunkSize.symm)
    (restricts.params.numChunks.trans params.numChunks.symm)
    (restricts.params.fileSize.trans params.fileSize.symm) fun idx listed => ?_
  exact ((restricts.mem_keys_iff idx).mp listed).mem_keys

theorem matches_ {fs' : Fs FilePath}
    (unchanged : ∀ idx, Matches fs receiver stored idx →
      fs' (receiver.partPath idx) = fs (receiver.partPath idx)) (idx : Nat)
    (listed : idx ∈ metadata.chunkHashes.keys) : Matches fs' receiver metadata idx := by
  have matched := (restricts.mem_keys_iff idx).mp listed
  have recorded := restricts.chunkHashes idx
  rw [if_pos matched] at recorded
  obtain ⟨part, onDisk, hashed⟩ := matched
  rw [hashed] at recorded
  exact ⟨part, (unchanged idx ⟨part, onDisk, hashed⟩).trans onDisk, recorded⟩

end Restricts

/-- A stored record is of use: it belongs to the transfer, and one of its parts verifies
unless it lists none. -/
structure Usable (fs : Fs FilePath) (receiver : FileReceiver) (stored : TransferMetadata) :
    Prop where
  found : Stored fs receiver stored
  params : SameParams receiver stored
  useful : stored.chunkHashes.keys = [] ∨ ∃ idx, Matches fs receiver stored idx

/-- What a resumed transfer leaves of its files. -/
structure Kept (fs : Fs FilePath) (receiver : FileReceiver) (stored metadata : TransferMetadata)
    (fs' : Fs FilePath) : Prop where
  record : Stored fs' receiver metadata
  gone : ∀ idx ∈ stored.chunkHashes.keys, ¬ Matches fs receiver stored idx →
    fs' (receiver.partPath idx) = none
  unchanged : ∀ idx, Matches fs receiver stored idx →
    fs' (receiver.partPath idx) = fs (receiver.partPath idx)

omit [Blake3] in
theorem FileReceiver.partPath_mem_purged (receiver : FileReceiver) (idx : Nat) :
    receiver.partPath idx ∈ receiver.purged ↔ idx < receiver.numChunks := by
  constructor
  · intro member
    obtain isMeta | part := Set.mem_insert_iff.mp member
    · exact absurd isMeta (TransferMetadata.partPath_ne_metaPath idx)
    · obtain ⟨idx', inRange, same⟩ := part
      cases receiver.partPath_injective same
      exact inRange
  · intro inRange
    exact Set.mem_insert_of_mem _ (Set.mem_image_of_mem receiver.partPath inRange)

namespace Recovery

variable {fs' fs'' : Fs FilePath} {result result' : Option TransferMetadata}

theorem metaPath_none (ended : Recovery fs receiver none fs') : fs' receiver.metaPath = none := by
  have purged : receiver.metaPath ∈ receiver.purged := Set.mem_insert ..
  cases ended with
  | missing absent => exact absent
  | unreadable | changed | corrupt => exact Fs.without_of_mem purged

theorem useless (ended : Recovery fs receiver none fs') : ¬ Usable fs receiver metadata := by
  intro ⟨⟨data, found, read⟩, params, useful⟩
  cases ended with
  | missing absent => exact nomatch absent.symm.trans found
  | unreadable found' fails =>
      cases found.symm.trans found'
      exact nomatch fails.symm.trans read
  | changed stored' differs =>
      cases stored'.unique ⟨data, found, read⟩
      exact differs params
  | corrupt stored' _ listed all =>
      cases stored'.unique ⟨data, found, read⟩
      obtain nothing | ⟨idx, matched⟩ := useful
      · exact listed nothing
      · exact all idx matched

/-- A record of other parameters is purged with the parts that the receiver can have. -/
theorem of_changed (ended : Recovery fs receiver result fs') (stored : Stored fs receiver metadata)
    (differs : ¬ SameParams receiver metadata) :
    result = none ∧ fs' = fs.without receiver.purged := by
  cases ended with
  | missing absent =>
      obtain ⟨_, found, _⟩ := stored
      exact nomatch absent.symm.trans found
  | unreadable | changed => exact ⟨rfl, rfl⟩
  | corrupt stored' params | intact stored' params | partly stored' params =>
      cases stored.unique stored'
      exact absurd params differs

/-- A record that is returned is the right one, and the files are those it speaks of. -/
theorem selected (ended : Recovery fs receiver (some metadata) fs') :
    ∃ stored, Usable fs receiver stored ∧ Restricts fs receiver stored metadata ∧
      Kept fs receiver stored metadata fs' := by
  cases ended with
  | intact stored params all =>
      refine ⟨metadata, ⟨stored, params, ?_⟩, ⟨params, fun idx => ?_⟩, stored, ?_, fun _ _ => rfl⟩
      · cases listed : metadata.chunkHashes.keys with
        | nil => exact .inl rfl
        | cons idx rest =>
            refine .inr ⟨idx, all idx ?_⟩
            rw [listed]
            exact List.mem_cons_self
      · split
        · rfl
        · rename_i differs
          rw [OrderedMap.get?_eq_none_iff]
          exact fun listed => differs (all idx listed)
      · exact fun idx listed differs => absurd (all idx listed) differs
  | @partly stored_ _ valid _ stored params matched _ _ restricts =>
      refine ⟨stored_, ⟨stored, params, .inr ⟨valid, matched⟩⟩, restricts, ?_, ?_, ?_⟩
      · obtain ⟨data, _, read⟩ := stored
        have encodable := restricts.encodable (TransferMetadata.fromBytes_encodable read) params
        exact ⟨_, TransferMetadata.saved_metaPath metadata,
          TransferMetadata.fromBytes_toBytes encodable⟩
      · intro idx listed differs
        rw [FileReceiver.partPath, TransferMetadata.saved_partPath]
        exact Fs.without_of_mem (Set.mem_image_of_mem receiver.partPath ⟨listed, differs⟩)
      · intro idx matched
        rw [FileReceiver.partPath, TransferMetadata.saved_partPath]
        refine Fs.without_of_notMem fun gone => ?_
        exact (receiver.partPath_injective.mem_set_image.mp gone).2 matched

theorem again (ended : Recovery fs receiver result fs')
    (ended' : Recovery fs' receiver result' fs'') : result' = result ∧ fs'' = fs' := by
  cases result with
  | none =>
      have absent := ended.metaPath_none
      have nothing : ∀ metadata, ¬ Stored fs' receiver metadata := fun _ ⟨_, found, _⟩ =>
        nomatch absent.symm.trans found
      cases ended' with
      | missing => exact ⟨rfl, rfl⟩
      | unreadable found => exact nomatch absent.symm.trans found
      | changed stored | corrupt stored | intact stored | partly stored =>
          exact absurd stored (nothing _)
  | some metadata =>
      obtain ⟨stored, _, restricts, kept⟩ := ended.selected
      have all := restricts.matches_ kept.unchanged
      have params := restricts.params
      cases ended' with
      | missing absent =>
          obtain ⟨_, found, _⟩ := kept.record
          exact nomatch absent.symm.trans found
      | unreadable found fails =>
          obtain ⟨_, found', read⟩ := kept.record
          cases found.symm.trans found'
          exact nomatch fails.symm.trans read
      | changed stored' differs =>
          cases stored'.unique kept.record
          exact absurd params differs
      | corrupt stored' _ listed none_ =>
          cases stored'.unique kept.record
          obtain ⟨idx, listed⟩ := List.exists_mem_of_ne_nil _ listed
          exact absurd (all idx listed) (none_ idx)
      | intact stored' =>
          cases stored'.unique kept.record
          exact ⟨rfl, rfl⟩
      | partly stored' _ _ listed differs =>
          cases stored'.unique kept.record
          exact absurd (all _ listed) differs

end Recovery

end BeeSync.Server
