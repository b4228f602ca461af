import BeeSync.Server.Bounds
import BeeSync.Server.ReadLoops
import BeeSync.Server.ResumeSelection

/-!
# Indices that come from disk

The resume section marks the chunks that a record lists. Its indices are read from a file
and compared with nothing: whether one of them is out of range is up to that file and to
the parts next to it, whichever calls fail on the way.
-/

set_option autoImplicit false

namespace BeeSync.Server

open Encoding Interaction

section Bounds

variable [Blake3] {faults : Prop} {fs fs' before : Fs FilePath} {receiver : FileReceiver}
  {metadata : TransferMetadata}

/-- The stored record belongs to the transfer and lists chunks whose parts verify, among them
those of a record. -/
def Backed (fs : Fs FilePath) (receiver : FileReceiver) (metadata : TransferMetadata) : Prop :=
  ∃ stored, Stored fs receiver stored ∧ SameParams receiver stored ∧
    ∀ idx ∈ metadata.chunkHashes.keys, Matches fs receiver stored idx

/-- The parts that are there were there before. -/
def PartsAmong (before fs : Fs FilePath) (receiver : FileReceiver) : Prop :=
  ∀ idx part, fs (receiver.partPath idx) = some part → before (receiver.partPath idx) = some part

omit [Blake3] in
theorem PartsAmong.remove {path : FilePath} {answer : Except IoError Unit}
    (among : PartsAmong before fs receiver)
    (acted : (FsOp.remove path).Sem faults fs answer fs') : PartsAmong before fs' receiver := by
  obtain ⟨_, _, same⟩ | ⟨_, same, _⟩ := acted
  · intro idx part found
    rw [same] at found
    by_cases here : receiver.partPath idx = path
    · rw [here, Function.update_self] at found
      cases found
    · rw [Function.update_of_ne here] at found
      exact among idx part found
  · rw [same]
    exact among

namespace FileReceiver

theorem ensures_verifyPart_sound (idx : Nat) :
    Ensures (FsOp.Sem faults) (metadata.verifyPart idx receiver.partsDir receiver.filename)
      (fun valid fs' => fs' = fs ∧ (valid = true → Matches fs receiver metadata idx)) fs := by
  rw [TransferMetadata.verifyPart]
  cases listed : metadata.chunkHashes.get? idx with
  | none => exact ⟨rfl, by simp⟩
  | some expected =>
      refine Ensures.call trivial fun answer fs' acted => ?_
      obtain ⟨same, ⟨content, found, answered⟩ | ⟨_, error, answered⟩⟩ := acted
      · rw [answered, same]
        refine ⟨rfl, fun verified => ⟨content, found, ?_⟩⟩
        rw [listed, of_decide_eq_true verified]
      · rw [answered, same]
        exact ⟨rfl, by simp⟩

theorem ensures_verifyParts_sound (unchecked validIndices : List Nat) (corruptCount : Nat)
    (among : PartsAmong before fs receiver)
    (sound : ∀ idx ∈ validIndices, Matches before receiver metadata idx) :
    Ensures (FsOp.Sem faults) (receiver.verifyParts metadata unchecked validIndices corruptCount)
      (fun result _ => ∀ idx ∈ result.1, Matches before receiver metadata idx) fs := by
  induction unchecked generalizing fs validIndices corruptCount with
  | nil => exact sound
  | cons idx rest ih =>
      rw [verifyParts]
      refine (ensures_verifyPart_sound idx).bind fun valid fs' verified => ?_
      obtain ⟨same, verifies⟩ := verified
      rw [same]
      cases valid with
      | true =>
          refine ih (validIndices ++ [idx]) corruptCount among fun j member => ?_
          obtain earlier | here := List.mem_append.mp member
          · exact sound j earlier
          · rw [List.mem_singleton.mp here]
            obtain ⟨part, onDisk, hashed⟩ := verifies rfl
            exact ⟨part, among idx part onDisk, hashed⟩
      | false =>
          refine Ensures.call trivial fun answer fs' acted => ?_
          exact ih validIndices (corruptCount + 1) (among.remove acted) sound

omit [Blake3] in
theorem ensures_load_sound (receiver : FileReceiver) (fs : Fs FilePath) :
    Ensures (FsOp.Sem faults) (TransferMetadata.load receiver.partsDir receiver.filename)
      (fun result fs' => fs' = fs ∧
        ∀ stored, result = .ok (some stored) → Stored fs receiver stored) fs := by
  refine Ensures.call trivial fun answer fs' acted => ?_
  obtain ⟨same, _⟩ := acted
  rw [same]
  cases answer with
  | error error => exact ⟨rfl, by simp⟩
  | ok found =>
      cases found with
      | false => exact ⟨rfl, by simp⟩
      | true =>
          refine Ensures.call trivial fun answer fs'' acted' => ?_
          obtain ⟨same', read⟩ := acted'
          rw [same']
          cases answer with
          | error error => exact ⟨rfl, by simp⟩
          | ok data =>
              dsimp only [Prog.ret_bind]
              split
              · exact ⟨rfl, by simp⟩
              · rename_i metadata decoded
                refine ⟨rfl, fun stored same => ?_⟩
                cases same
                obtain ⟨content, onDisk, answered⟩ | ⟨_, _, answered⟩ := read
                · cases answered
                  exact ⟨data, onDisk, decoded⟩
                · cases answered

/-- Whatever fails, the record that is returned is backed by the one on disk. -/
theorem ensures_loadOrPurgeMetadata_sound [KeyOrder] (receiver : FileReceiver)
    (fs : Fs FilePath) :
    Ensures (FsOp.Sem faults) receiver.loadOrPurgeMetadata
      (fun result _ => ∀ metadata, result = some metadata → Backed fs receiver metadata) fs := by
  have purge : ∀ fs' : Fs FilePath, Ensures (FsOp.Sem faults)
      ((TransferMetadata.purge receiver.partsDir receiver.filename receiver.numChunks).bind
        fun _ => .ret none)
      (fun result _ => ∀ metadata, result = some metadata → Backed fs receiver metadata) fs' :=
    fun _ => (Ensures.returned (TransferMetadata.purge_bounded _)).bind fun _ _ _ => by simp
  rw [loadOrPurgeMetadata]
  refine (ensures_load_sound receiver fs).bind fun loaded fs' read => ?_
  obtain ⟨same, sound⟩ := read
  rw [same]
  cases loaded with
  | error error => exact purge fs
  | ok found =>
      cases found with
      | none => simp
      | some stored =>
          dsimp only
          split
          case isFalse => exact purge fs
          case isTrue matched =>
            have params := paramsMatch_iff.mp matched
            have listed : ∀ idx, idx ∈ KeyOrder.keys stored.chunkHashes ↔
                idx ∈ stored.chunkHashes.keys := fun idx =>
              (KeyOrder.perm stored.chunkHashes).mem_iff
            refine ((ensures_verifyParts_sound (KeyOrder.keys stored.chunkHashes) [] 0
              (fun _ _ => id) (by simp)).yields (receiver.verifyParts_yields stored _ [] 0)).bind ?_
            rintro result fs' ⟨valid, among, _, all⟩
            split
            · split
              · exact purge fs'
              · refine (Ensures.returned (TransferMetadata.save_bounded _)).bind fun _ _ _ => ?_
                intro metadata same'
                cases same'
                refine ⟨stored, sound stored rfl, params, fun idx member => valid idx ?_⟩
                refine (mem_keys_cleanMetadata (fun j member => ?_) idx).mp member
                exact (listed j).mp ((among j member).resolve_left List.not_mem_nil)
            · rename_i clean
              intro metadata same'
              cases same'
              refine ⟨stored, sound stored rfl, params, fun idx member => valid idx ?_⟩
              exact all (Nat.eq_zero_of_not_pos clean) idx (.inr ((listed idx).mpr member))

end FileReceiver

/-- The stored record and the parts lead to an index behind the last chunk. -/
def OutOfRange (fs : Fs FilePath) (receiver : FileReceiver) : Prop :=
  ∃ stored, Stored fs receiver stored ∧ SameParams receiver stored ∧
    ∃ idx, receiver.numChunks ≤ idx ∧ Matches fs receiver stored idx

variable [KeyOrder] {Owner : Type} {owner : Owner} {store : Store Owner} {id : ReceiverId}

/-- Whatever fails, the resume section gets by without a panic on other files. -/
theorem ensures_resume_unharmed (present : store.receivers id = some receiver)
    (free : store.holder id = none) (inRange : ¬ OutOfRange store.fs receiver) :
    Ensures (Store.controlSem faults owner) (Control.resume id)
      (fun complete _ => complete.isSome = true) store := by
  refine Store.ensures_lock free present ?_
  refine Ensures.bind (Store.ensures_onFs (receiver.ensures_loadOrPurgeMetadata_sound store.fs)) ?_
  intro result store' ⟨fs, backed, same⟩
  rw [same]
  cases result with
  | none => exact Store.ensures_unlock rfl
  | some metadata =>
      obtain ⟨stored, found, params, verified⟩ := backed metadata rfl
      have within : ∀ idx ∈ KeyOrder.keys metadata.chunkHashes, idx < receiver.numChunks := by
        intro idx listed
        by_contra outside
        have listed := (KeyOrder.perm metadata.chunkHashes).mem_iff.mp listed
        exact inRange ⟨stored, found, params, idx, not_lt.mp outside, verified idx listed⟩
      obtain ⟨marked, all, _⟩ := FileReceiver.markAll_of_lt within
      dsimp only
      rw [all]
      exact Store.ensures_unlock rfl

theorem ensures_resume_panics (present : store.receivers id = some receiver)
    (free : store.holder id = none) (outside : OutOfRange store.fs receiver) :
    Ensures (Store.controlSem False owner) (Control.resume id)
      (fun complete _ => complete = none) store := by
  obtain ⟨stored, found, params, idx, behind, matched⟩ := outside
  refine Store.ensures_lock free present ?_
  refine Ensures.bind (Store.ensures_onFs (receiver.ensures_loadOrPurgeMetadata store.fs)) ?_
  intro result store' ⟨fs, ended, same⟩
  cases result with
  | none => exact absurd ⟨found, params, .inr ⟨idx, matched⟩⟩ ended.useless
  | some metadata =>
      obtain ⟨stored', usable, restricts, _⟩ := ended.selected
      cases found.unique usable.found
      have listed := (restricts.mem_keys_iff idx).mpr matched
      have none_ : receiver.markAll (KeyOrder.keys metadata.chunkHashes) = none :=
        FileReceiver.markAll_eq_none_iff.mpr
          ⟨idx, (KeyOrder.perm metadata.chunkHashes).mem_iff.mpr listed, behind⟩
      dsimp only
      rw [none_]
      rfl

/-- Reading the metadata file and resuming a transfer stay within their bounds, whichever calls
fail, just if no record of the transfer on disk has an entry behind the last chunk whose part
verifies. -/
theorem resume_in_bounds_iff (receiver : FileReceiver) (store : Store Owner) (owner : Owner)
    (id : ReceiverId) (faults : Prop) (present : store.receivers id = some receiver)
    (free : store.holder id = none) :
    ((∀ bytes, store.fs receiver.metaPath = some bytes →
        (TransferMetadata.readBytes bytes).isSome = true) ∧
      Ensures (Store.controlSem faults owner) (Control.resume id)
        (fun complete _ => complete.isSome = true) store) ↔
    ¬ OutOfRange store.fs receiver := by
  constructor
  · intro ⟨_, unharmed⟩ outside
    have panics : Ensures (Store.controlSem False owner) (Control.resume id)
        (fun complete _ => complete = none) store := ensures_resume_panics present free outside
    obtain ⟨complete, store', ran, panicked⟩ := panics.returns
    have harmed := unharmed.post (ran.mono fun _ _ _ _ => Store.controlSem.mono)
    rw [panicked] at harmed
    cases harmed
  · intro inRange
    refine ⟨fun bytes _ => ?_, ensures_resume_unharmed present free inRange⟩
    rw [TransferMetadata.readBytes_eq]
    rfl

end Bounds

namespace ResumeBounds

/-- A record of a one-chunk transfer that lists its second chunk. -/
def sampleMetadata : TransferMetadata :=
  (TransferMetadata.new 2097152 1 1 (Blake3.sample.hash [0x61])).addChunk 1
    (Blake3.sample.hash [0x61])

/-- That record next to the part it lists. -/
def sampleFiles : Fs FilePath :=
  Function.update (Function.update (fun _ => none) (singleReceiver.partPath 1) (some [0x61]))
    singleReceiver.metaPath (some sampleMetadata.toBytes)

/-- The receiver of a one-byte file over those files. -/
def sampleStore (fs : Fs FilePath) : Store Unit :=
  (Store.initial fs).leave 0 singleReceiver

theorem sampleOutOfRange :
    let _ := Blake3.sample
    OutOfRange sampleFiles singleReceiver := by
  intro _
  have found : Stored sampleFiles singleReceiver sampleMetadata :=
    ⟨_, Function.update_self .., TransferMetadata.fromBytes_toBytes
      ⟨by decide, by decide, by decide, by decide, by decide⟩⟩
  refine ⟨sampleMetadata, found, ⟨rfl, rfl, rfl, rfl⟩, 1, le_rfl, [0x61], ?_, rfl⟩
  rw [sampleFiles, Function.update_of_ne (singleReceiver.partPath_ne_metaPath 1),
    Function.update_self]

theorem sampleStored : Stored FinalStatus.sampleFiles singleReceiver FinalStatus.sampleMetadata :=
  ⟨_, Function.update_self .., TransferMetadata.fromBytes_toBytes
    ⟨by decide, by decide, by decide, by decide, by decide⟩⟩

end ResumeBounds

open ResumeBounds in
/-- The record of a transfer that has received its only chunk. -/
theorem resume_in_bounds_iff_one_chunk :
    let _ := Blake3.sample
    let _ := KeyOrder.increasing
    Ensures (Store.controlSem True ()) (Control.resume 0) (fun complete _ => complete.isSome = true)
      (sampleStore FinalStatus.sampleFiles) := by
  let _ := Blake3.sample
  let _ := KeyOrder.increasing
  refine ((resume_in_bounds_iff singleReceiver (sampleStore FinalStatus.sampleFiles) () 0 True
    rfl rfl).mpr ?_).2
  intro ⟨stored, found, _, idx, behind, matched⟩
  cases sampleStored.unique found
  cases List.mem_singleton.mp matched.mem_keys
  cases behind

open ResumeBounds in
/-- The server panics over a record with an entry behind the last chunk. -/
theorem resume_out_of_bounds :
    let _ := Blake3.sample
    let _ := KeyOrder.increasing
    ∃ handshake, parseHandshake Control.sampleHandshake = .ok handshake ∧
      ∃ store : Store Unit,
        store.receivers 0 = some (handshake.receiver (ascii "received") (ascii "received")) ∧
        store.holder 0 = none ∧
        ¬ Ensures (Store.controlSem False ()) (Control.resume 0)
          (fun complete _ => complete.isSome = true) store := by
  intro _ _
  obtain ⟨handshake, accepted, _, _, receiver⟩ := parseHandshake_sampleHandshake
  refine ⟨handshake, accepted, sampleStore sampleFiles, ?_, rfl, fun unharmed => ?_⟩
  · rw [receiver]
    rfl
  · have panics : Ensures (Store.controlSem False ()) (Control.resume 0)
        (fun complete _ => complete = none) (sampleStore sampleFiles) :=
      ensures_resume_panics rfl rfl sampleOutOfRange
    obtain ⟨complete, store', _, harmed, panicked⟩ := (unharmed.and panics).returns
    rw [panicked] at harmed
    cases harmed

end BeeSync.Server
