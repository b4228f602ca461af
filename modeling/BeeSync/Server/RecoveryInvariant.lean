import BeeSync.Server.ReceiverInvariant
import BeeSync.Server.Recovery

/-!
# What holds between any two calls

The record on disk lists only chunks whose part is whole or gone, every marked chunk
is on disk or consumed, and whoever is about to write a part is alone with it. These
facts survive every call, hence every crash.
-/

set_option autoImplicit false

namespace BeeSync.Server

open Encoding Arithmetic Interaction

theorem SameParams.of_params {receiver receiver' : FileReceiver} {metadata : TransferMetadata}
    (same : SameParams receiver metadata) (params : receiver.params = receiver'.params) :
    SameParams receiver' metadata where
  chunkSize := same.chunkSize.trans (congrArg FileReceiver.Params.chunkSize params)
  numChunks := same.numChunks.trans (congrArg FileReceiver.Params.numChunks params)
  fileSize := same.fileSize.trans (congrArg FileReceiver.Params.fileSize params)
  fullHash := same.fullHash.trans (congrArg FileReceiver.Params.fullHash params)

namespace Job

variable [Blake3] (job : Job)

/-- The receiver of the transfer before anything has arrived. -/
def receiver : FileReceiver :=
  job.handshake.receiver job.config.outputDir job.config.tempDir

def tmpPath : FilePath :=
  TransferMetadata.tmpPath job.config.tempDir job.handshake.safeName

section Paths

variable {job} {idx : Nat}

theorem partPath_inj {other : Nat} : job.partPath idx = job.partPath other ↔ idx = other :=
  ⟨TransferMetadata.partPath_injective, fun same => by rw [same]⟩

@[simp] theorem partPath_ne_metaPath : job.partPath idx ≠ job.metaPath :=
  TransferMetadata.partPath_ne_metaPath idx

@[simp] theorem partPath_ne_tmpPath : job.partPath idx ≠ job.tmpPath :=
  TransferMetadata.partPath_ne_tmpPath idx

@[simp] theorem metaPath_ne_tmpPath : job.metaPath ≠ job.tmpPath :=
  TransferMetadata.metaPath_ne_tmpPath

@[simp] theorem partPath_ne_outputPath : job.partPath idx ≠ job.outputPath :=
  job.receiver.partPath_ne_finalPath idx

@[simp] theorem metaPath_ne_outputPath : job.metaPath ≠ job.outputPath :=
  job.receiver.metaPath_ne_finalPath

@[simp] theorem tmpPath_ne_outputPath : job.tmpPath ≠ job.outputPath :=
  job.receiver.tmpPath_ne_finalPath

end Paths

/-- A record of the transfer that lists chunks of the source. -/
structure Valid (metadata : TransferMetadata) : Prop where
  params : SameParams job.receiver metadata
  chunks : ∀ {idx hash}, metadata.chunkHashes.get? idx = some hash →
    idx < job.handshake.numChunks ∧ hash = calcHash (job.chunk idx)

/-- The record on disk lists a chunk. -/
def Listed (fs : Fs FilePath) (idx : Nat) : Prop :=
  ∃ metadata, Stored fs job.receiver metadata ∧ idx ∈ metadata.chunkHashes.keys

/-- A chunk that a restart will find again. -/
def Saved (fs : Fs FilePath) (idx : Nat) : Prop :=
  job.Listed fs idx ∧ fs (job.partPath idx) = some (job.chunk idx)

/-- What any crash leaves. -/
structure Sound (past : Past) : Prop where
  readable : ∀ content, past.fs job.metaPath = some content →
    ∃ metadata, TransferMetadata.fromBytes content = .ok metadata ∧ job.Valid metadata
  /-- A listed part is whole or gone. -/
  parts : ∀ idx, job.Listed past.fs idx →
    past.fs (job.partPath idx) = some (job.chunk idx) ∨ past.fs (job.partPath idx) = none
  acked : ∀ idx ∈ past.acked, idx ∉ past.consumed → job.Saved past.fs idx
  consumed : ∀ idx ∈ past.consumed, past.fs (job.partPath idx) = none
  output : ∀ content, past.fs job.outputPath = some content → content <+: job.source

/-- The files and the chunks that the server has marked, where some chunks are in the record
that are about to be marked. -/
structure Accounts (past : Past) (marked entering : Set Nat) (resumed assembling : Prop) : Prop where
  sound : job.Sound past
  onDisk : ∀ idx ∈ marked, idx ∈ past.consumed ∨ job.Saved past.fs idx
  whole : ¬ assembling → ∀ idx ∈ marked, idx ∉ past.consumed
  kept : resumed → ∀ idx ∈ past.acked, idx ∉ past.consumed → idx ∈ marked
  listed : resumed → ∀ idx, job.Listed past.fs idx → idx ∈ marked ∨ idx ∈ entering

variable {job}

section Records

variable {metadata : TransferMetadata} {fs fs' : Fs FilePath} {idx : Nat}

theorem Valid.inRange (valid : job.Valid metadata) (listed : idx ∈ metadata.chunkHashes.keys) :
    idx < job.handshake.numChunks := by
  obtain ⟨hash, found⟩ := OrderedMap.mem_keys_iff.mp listed
  exact (valid.chunks found).1

theorem Valid.get? (valid : job.Valid metadata) (listed : idx ∈ metadata.chunkHashes.keys) :
    metadata.chunkHashes.get? idx = some (calcHash (job.chunk idx)) := by
  obtain ⟨hash, found⟩ := OrderedMap.mem_keys_iff.mp listed
  rw [found, (valid.chunks found).2]

theorem Valid.encodable (valid : job.Valid metadata) : metadata.Encodable := by
  have coherent : FileReceiver.Coherent job.handshake (job.receiver.setMetadata metadata) :=
    ⟨rfl, rfl, rfl, ⟨valid.params.chunkSize, valid.params.numChunks, valid.params.fileSize,
      valid.params.fullHash⟩, fun _ listed => valid.inRange listed⟩
  exact coherent.encodable

theorem Valid.clean {state : FileReceiver} {validIndices : List Nat} (valid : job.Valid metadata)
    (params : state.params = job.receiver.params) :
    job.Valid (state.cleanMetadata metadata validIndices) where
  params := (state.sameParams_cleanMetadata metadata validIndices).of_params params
  chunks found := valid.chunks (FileReceiver.get?_cleanMetadata found).2

theorem Valid.addChunk (valid : job.Valid metadata) (inRange : idx < job.handshake.numChunks) :
    job.Valid (metadata.addChunk idx (calcHash (job.chunk idx))) where
  params := ⟨valid.params.chunkSize, valid.params.numChunks, valid.params.fileSize,
    valid.params.fullHash⟩
  chunks {other hash} found := by
    by_cases same : other = idx
    · subst same
      rw [TransferMetadata.addChunk, OrderedMap.get?_insert_self] at found
      exact ⟨inRange, (Option.some.inj found).symm⟩
    · rw [TransferMetadata.addChunk, OrderedMap.get?_insert_of_ne _ _ same] at found
      exact valid.chunks found

theorem Valid.stored (valid : job.Valid metadata)
    (found : fs job.metaPath = some metadata.toBytes) : Stored fs job.receiver metadata :=
  ⟨_, found, TransferMetadata.fromBytes_toBytes valid.encodable⟩

theorem listed_iff (stored : Stored fs job.receiver metadata) :
    job.Listed fs idx ↔ idx ∈ metadata.chunkHashes.keys := by
  constructor
  · rintro ⟨metadata', stored', listed⟩
    rwa [stored.unique stored'] at listed
  · exact fun listed => ⟨metadata, stored, listed⟩

theorem listed_congr (same : fs' job.metaPath = fs job.metaPath) :
    job.Listed fs' idx ↔ job.Listed fs idx := by
  have stored : ∀ metadata, Stored fs' job.receiver metadata ↔ Stored fs job.receiver metadata := by
    intro metadata
    have here : fs' job.receiver.metaPath = fs job.receiver.metaPath := same
    rw [Stored, Stored, here]
  simp only [Listed, stored]

theorem not_listed (none_ : fs job.metaPath = none) : ¬ job.Listed fs idx := by
  rintro ⟨metadata, ⟨content, found, _⟩, _⟩
  have absent : fs job.receiver.metaPath = none := none_
  cases absent.symm.trans found

theorem Saved.congr (saved : job.Saved fs idx) (record : fs' job.metaPath = fs job.metaPath)
    (part : fs' (job.partPath idx) = fs (job.partPath idx)) : job.Saved fs' idx :=
  ⟨(listed_congr record).mpr saved.1, part.trans saved.2⟩

end Records

namespace Sound

variable {past : Past} {fs' : Fs FilePath} {idx : Nat}

theorem not_consumed (sound : job.Sound past) (saved : job.Saved past.fs idx) :
    idx ∉ past.consumed := by
  intro consumed
  cases (sound.consumed idx consumed).symm.trans saved.2

theorem untouched {fs : Fs FilePath} (untouched : job.Untouched fs) : job.Sound ⟨fs, ∅, ∅⟩ where
  readable content found := by cases untouched.record.symm.trans found
  parts idx _ := .inr (untouched.parts idx)
  acked _ acked := acked.elim
  consumed _ consumed := consumed.elim
  output content found := by cases untouched.output.symm.trans found

/-- A call that leaves the record and the parts alone. -/
theorem still (sound : job.Sound past) (record : fs' job.metaPath = past.fs job.metaPath)
    (parts : ∀ idx, fs' (job.partPath idx) = past.fs (job.partPath idx))
    (output : ∀ content, fs' job.outputPath = some content → content <+: job.source) :
    job.Sound { past with fs := fs' } where
  readable content found := sound.readable content (record.symm.trans found)
  parts idx listed := by
    have before := sound.parts idx ((listed_congr record).mp listed)
    rwa [← parts] at before
  acked idx acked kept := (sound.acked idx acked kept).congr record (parts idx)
  consumed idx consumed := (parts idx).trans (sound.consumed idx consumed)
  output := output

/-- A part is removed that no restart would find again. -/
theorem remove (sound : job.Sound past) (useless : ¬ job.Saved past.fs idx)
    (removed : fs' (job.partPath idx) = none)
    (others : ∀ path, path ≠ job.partPath idx → fs' path = past.fs path) :
    job.Sound { past with fs := fs' } := by
  have record : fs' job.metaPath = past.fs job.metaPath := others _ partPath_ne_metaPath.symm
  have elsewhere : ∀ other, other ≠ idx →
      fs' (job.partPath other) = past.fs (job.partPath other) := fun other different =>
    others _ fun same => different (partPath_inj.mp same)
  constructor
  · exact fun content found => sound.readable content (record.symm.trans found)
  · intro other listed
    by_cases here : other = idx
    · rw [here]
      exact .inr removed
    · have before := sound.parts other ((listed_congr record).mp listed)
      rwa [← elsewhere other here] at before
  · intro other acked kept
    have saved := sound.acked other acked kept
    by_cases here : other = idx
    · rw [here] at saved
      exact absurd saved useless
    · exact saved.congr record (elsewhere other here)
  · intro other consumed
    by_cases here : other = idx
    · rw [here]
      exact removed
    · exact (elsewhere other here).trans (sound.consumed other consumed)
  · intro content found
    exact sound.output content ((others _ partPath_ne_outputPath.symm).symm.trans found)

/-- The record is removed when no restart would find a chunk again. -/
theorem erase (sound : job.Sound past) (useless : ∀ idx, ¬ job.Saved past.fs idx)
    (removed : fs' job.metaPath = none)
    (others : ∀ path, path ≠ job.metaPath → fs' path = past.fs path) :
    job.Sound { past with fs := fs' } where
  readable content found := by cases removed.symm.trans found
  parts idx listed := absurd listed (not_listed removed)
  acked idx acked kept := absurd (sound.acked idx acked kept) (useless idx)
  consumed idx consumed := (others _ partPath_ne_metaPath).trans (sound.consumed idx consumed)
  output content found := sound.output content
    ((others _ metaPath_ne_outputPath.symm).symm.trans found)

/-- The record is replaced by one that lists whole parts, among them all that a restart would
have found before. -/
theorem replace {metadata : TransferMetadata} (sound : job.Sound past) (valid : job.Valid metadata)
    (replaced : fs' job.metaPath = some metadata.toBytes)
    (parts : ∀ idx, fs' (job.partPath idx) = past.fs (job.partPath idx))
    (output : fs' job.outputPath = past.fs job.outputPath)
    (whole : ∀ idx ∈ metadata.chunkHashes.keys,
      past.fs (job.partPath idx) = some (job.chunk idx) ∨ past.fs (job.partPath idx) = none)
    (lists : ∀ idx ∈ past.acked, job.Saved past.fs idx → idx ∈ metadata.chunkHashes.keys) :
    job.Sound { past with fs := fs' } := by
  have stored := valid.stored replaced
  constructor
  · intro content found
    cases replaced.symm.trans found
    exact ⟨metadata, TransferMetadata.fromBytes_toBytes valid.encodable, valid⟩
  · intro idx listed
    have before := whole idx ((listed_iff stored).mp listed)
    rwa [← parts] at before
  · intro idx acked kept
    have saved := sound.acked idx acked kept
    exact ⟨(listed_iff stored).mpr (lists idx acked saved), (parts idx).trans saved.2⟩
  · exact fun idx consumed => (parts idx).trans (sound.consumed idx consumed)
  · exact fun content found => sound.output content (output.symm.trans found)

end Sound

namespace Accounts

variable {past : Past} {fs' : Fs FilePath} {marked entering : Set Nat}
  {resumed assembling assembling' : Prop} {idx : Nat}

/-- Before the resume section has been left only the files matter. -/
theorem unresumed (sound : job.Sound past) : job.Accounts past ∅ entering False assembling where
  sound := sound
  onDisk _ member := member.elim
  whole _ _ member := member.elim
  kept run := run.elim
  listed run := run.elim

theorem further (accounts : job.Accounts past marked entering resumed assembling)
    (further : assembling → assembling') :
    job.Accounts past marked entering resumed assembling' where
  sound := accounts.sound
  onDisk := accounts.onDisk
  whole unassembled := accounts.whole fun started => unassembled (further started)
  kept := accounts.kept
  listed := accounts.listed

/-- More chunks are about to be marked. -/
theorem enter {entering' : Set Nat}
    (accounts : job.Accounts past marked entering resumed assembling)
    (more : entering ⊆ entering') : job.Accounts past marked entering' resumed assembling where
  sound := accounts.sound
  onDisk := accounts.onDisk
  whole := accounts.whole
  kept := accounts.kept
  listed run idx listed := (accounts.listed run idx listed).imp_right fun waiting => more waiting

theorem still (accounts : job.Accounts past marked entering resumed assembling)
    (record : fs' job.metaPath = past.fs job.metaPath)
    (parts : ∀ idx, fs' (job.partPath idx) = past.fs (job.partPath idx))
    (output : ∀ content, fs' job.outputPath = some content → content <+: job.source)
    (further : assembling → assembling') :
    job.Accounts { past with fs := fs' } marked entering resumed assembling' where
  sound := accounts.sound.still record parts output
  onDisk idx member := (accounts.onDisk idx member).imp_right fun saved =>
    saved.congr record (parts idx)
  whole unassembled := accounts.whole fun started => unassembled (further started)
  kept := accounts.kept
  listed run idx listed := accounts.listed run idx ((listed_congr record).mp listed)

/-- A part is written that is neither marked nor listed. -/
theorem write {past' : Past} (accounts : job.Accounts past marked entering resumed assembling)
    (run : resumed) (unmarked : idx ∉ marked) (unlisted : idx ∉ entering)
    (others : ∀ path, path ≠ job.partPath idx → past'.fs path = past.fs path)
    (fresh : idx ∉ past'.consumed)
    (consumed : ∀ other, other ≠ idx → (other ∈ past'.consumed ↔ other ∈ past.consumed))
    (acked : past'.acked ⊆ past.acked) (unacked : idx ∈ past'.acked → idx ∉ past.consumed) :
    job.Accounts past' marked entering resumed assembling := by
  have record : past'.fs job.metaPath = past.fs job.metaPath := others _ partPath_ne_metaPath.symm
  have elsewhere : ∀ other, other ≠ idx →
      past'.fs (job.partPath other) = past.fs (job.partPath other) := fun other different =>
    others _ fun same => different (partPath_inj.mp same)
  have nowhere : ¬ job.Listed past.fs idx := fun listed =>
    (accounts.listed run idx listed).elim unmarked unlisted
  have different : ∀ {other}, other ∈ past'.acked → other ∉ past'.consumed → other ≠ idx := by
    rintro other member _ rfl
    exact nowhere (accounts.sound.acked other (acked member) (unacked member)).1
  constructor
  · constructor
    · exact fun content found => accounts.sound.readable content (record.symm.trans found)
    · intro other listed
      have before := (listed_congr record).mp listed
      have here : other ≠ idx := fun same => nowhere (same ▸ before)
      rw [elsewhere other here]
      exact accounts.sound.parts other before
    · intro other member kept
      have here := different member kept
      rw [consumed other here] at kept
      exact (accounts.sound.acked other (acked member) kept).congr record (elsewhere other here)
    · intro other member
      have here : other ≠ idx := fun same => fresh (same ▸ member)
      rw [elsewhere other here]
      exact accounts.sound.consumed other ((consumed other here).mp member)
    · intro content found
      exact accounts.sound.output content ((others _ partPath_ne_outputPath.symm).symm.trans found)
  · intro other member
    have here : other ≠ idx := fun same => unmarked (same ▸ member)
    refine (accounts.onDisk other member).imp (consumed other here).mpr fun saved => ?_
    exact saved.congr record (elsewhere other here)
  · intro unassembled other member
    have here : other ≠ idx := fun same => unmarked (same ▸ member)
    rw [consumed other here]
    exact accounts.whole unassembled other member
  · intro run other member kept
    have here := different member kept
    rw [consumed other here] at kept
    exact accounts.kept run other (acked member) kept
  · exact fun run other listed => accounts.listed run other ((listed_congr record).mp listed)

/-- The record is replaced by one with another chunk, whose part is whole. -/
theorem record {metadata : TransferMetadata} {entering' : Set Nat}
    (accounts : job.Accounts past marked entering resumed assembling) (run : resumed)
    (valid : job.Valid metadata) (lists : ∀ other, other ∈ metadata.chunkHashes.keys ↔
      other = idx ∨ other ∈ marked)
    (whole : past.fs (job.partPath idx) = some (job.chunk idx))
    (replaced : fs' job.metaPath = some metadata.toBytes)
    (parts : ∀ idx, fs' (job.partPath idx) = past.fs (job.partPath idx))
    (output : fs' job.outputPath = past.fs job.outputPath) (enters : idx ∈ entering') :
    job.Accounts { past with fs := fs' } marked entering' resumed assembling := by
  have stored := valid.stored replaced
  have onDisk : ∀ other ∈ marked, past.fs (job.partPath other) = some (job.chunk other) ∨
      past.fs (job.partPath other) = none := by
    intro other member
    obtain gone | saved := accounts.onDisk other member
    · exact .inr (accounts.sound.consumed other gone)
    · exact .inl saved.2
  constructor
  · refine accounts.sound.replace valid replaced parts output (fun other listed => ?_) ?_
    · obtain here | member := (lists other).mp listed
      · rw [here]
        exact .inl whole
      · exact onDisk other member
    · intro other acked saved
      refine (lists other).mpr (.inr (accounts.kept run other acked ?_))
      exact accounts.sound.not_consumed saved
  · intro other member
    refine (accounts.onDisk other member).imp_right fun saved => ?_
    exact ⟨(listed_iff stored).mpr ((lists other).mpr (.inr member)), (parts other).trans saved.2⟩
  · exact accounts.whole
  · exact accounts.kept
  · intro _ other listed
    obtain here | member := (lists other).mp ((listed_iff stored).mp listed)
    · rw [here]
      exact .inr enters
    · exact .inl member

/-- A chunk is marked that a restart would find again. -/
theorem mark {entering' marked' : Set Nat}
    (accounts : job.Accounts past marked entering resumed assembling)
    (saved : job.Saved past.fs idx) (marks : ∀ other, other ∈ marked' ↔ other = idx ∨ other ∈ marked)
    (enters : ∀ other ∈ entering, other = idx ∨ other ∈ entering') :
    job.Accounts past marked' entering' resumed assembling where
  sound := accounts.sound
  onDisk other member := by
    obtain here | earlier := (marks other).mp member
    · rw [here]
      exact .inr saved
    · exact accounts.onDisk other earlier
  whole unassembled other member := by
    obtain here | earlier := (marks other).mp member
    · rw [here]
      exact accounts.sound.not_consumed saved
    · exact accounts.whole unassembled other earlier
  kept run other acked kept := (marks other).mpr (.inr (accounts.kept run other acked kept))
  listed run other listed := by
    obtain member | waiting := accounts.listed run other listed
    · exact .inl ((marks other).mpr (.inr member))
    · exact (enters other waiting).imp_left fun here => (marks other).mpr (.inl here)

/-- Chunks are acknowledged that have been marked. -/
theorem ack {acked' : Set Nat} (accounts : job.Accounts past marked entering resumed assembling)
    (acks : ∀ idx ∈ acked', idx ∈ past.acked ∨ idx ∈ marked) :
    job.Accounts { past with acked := acked' } marked entering resumed assembling where
  sound := {
    accounts.sound with
    acked := by
      intro other member kept
      obtain earlier | here := acks other member
      · exact accounts.sound.acked other earlier kept
      · exact (accounts.onDisk other here).resolve_left kept }
  onDisk := accounts.onDisk
  whole := accounts.whole
  kept run other member kept := (acks other member).elim
    (fun earlier => accounts.kept run other earlier kept) id
  listed := accounts.listed

/-- The resume section marks what it has found. -/
theorem resume (sound : job.Sound past) (whole : ∀ idx ∈ marked, job.Saved past.fs idx)
    (all : ∀ idx, job.Listed past.fs idx → idx ∈ marked) :
    job.Accounts past marked entering resumed assembling where
  sound := sound
  onDisk idx member := .inr (whole idx member)
  whole _ idx member := sound.not_consumed (whole idx member)
  kept _ idx acked kept := all idx (sound.acked idx acked kept).1
  listed _ idx listed := .inl (all idx listed)

/-- The assembly removes a part. -/
theorem consume (accounts : job.Accounts past marked entering resumed assembling)
    (started : assembling) (removed : fs' (job.partPath idx) = none)
    (others : ∀ path, path ≠ job.partPath idx → fs' path = past.fs path) {consumed' : Set Nat}
    (consumes : ∀ other, other ∈ consumed' ↔ other ∈ past.consumed ∨ other = idx) :
    job.Accounts ⟨fs', past.acked, consumed'⟩ marked entering resumed assembling := by
  have record : fs' job.metaPath = past.fs job.metaPath := others _ partPath_ne_metaPath.symm
  have elsewhere : ∀ other, other ≠ idx →
      fs' (job.partPath other) = past.fs (job.partPath other) := fun other different =>
    others _ fun same => different (partPath_inj.mp same)
  constructor
  · constructor
    · exact fun content found => accounts.sound.readable content (record.symm.trans found)
    · intro other listed
      by_cases here : other = idx
      · rw [here]
        exact .inr removed
      · have before := accounts.sound.parts other ((listed_congr record).mp listed)
        rwa [← elsewhere other here] at before
    · intro other acked kept
      have before : other ∉ past.consumed := fun gone => kept ((consumes other).mpr (.inl gone))
      have here : other ≠ idx := fun same => kept ((consumes other).mpr (.inr same))
      exact (accounts.sound.acked other acked before).congr record (elsewhere other here)
    · intro other member
      by_cases here : other = idx
      · rw [here]
        exact removed
      · have earlier := ((consumes other).mp member).resolve_right here
        exact (elsewhere other here).trans (accounts.sound.consumed other earlier)
    · intro content found
      exact accounts.sound.output content ((others _ partPath_ne_outputPath.symm).symm.trans found)
  · intro other member
    by_cases here : other = idx
    · exact .inl ((consumes other).mpr (.inr here))
    · exact (accounts.onDisk other member).imp (fun gone => (consumes other).mpr (.inl gone))
        fun saved => saved.congr record (elsewhere other here)
  · exact fun unassembled => absurd started unassembled
  · intro run other acked kept
    exact accounts.kept run other acked fun gone => kept ((consumes other).mpr (.inl gone))
  · exact fun run other listed => accounts.listed run other ((listed_congr record).mp listed)

/-- The assembly removes the record when all parts are gone. -/
theorem erase (accounts : job.Accounts past marked entering resumed assembling) (run : resumed)
    (gone : ∀ idx ∈ marked, past.fs (job.partPath idx) = none)
    (removed : fs' job.metaPath = none)
    (others : ∀ path, path ≠ job.metaPath → fs' path = past.fs path) :
    job.Accounts { past with fs := fs' } marked entering resumed assembling := by
  have unsaved : ∀ idx ∈ marked, ¬ job.Saved past.fs idx := by
    intro idx member saved
    cases (gone idx member).symm.trans saved.2
  have useless : ∀ idx ∈ past.acked, idx ∉ past.consumed → ¬ job.Saved past.fs idx :=
    fun idx acked kept => unsaved idx (accounts.kept run idx acked kept)
  constructor
  · exact {
      readable := fun content found => by cases removed.symm.trans found
      parts := fun idx listed => absurd listed (not_listed removed)
      acked := fun idx acked kept =>
        absurd (accounts.sound.acked idx acked kept) (useless idx acked kept)
      consumed := fun idx consumed =>
        (others _ partPath_ne_metaPath).trans (accounts.sound.consumed idx consumed)
      output := fun content found => accounts.sound.output content
        ((others _ metaPath_ne_outputPath.symm).symm.trans found) }
  · exact fun idx member => .inl ((accounts.onDisk idx member).resolve_right (unsaved idx member))
  · exact accounts.whole
  · exact accounts.kept
  · exact fun _ idx listed => absurd listed (not_listed removed)

end Accounts

end Job

end BeeSync.Server
