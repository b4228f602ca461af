import BeeSync.Server.FinalStatus
import BeeSync.Server.ResumeOutcome
import BeeSync.Server.StoreRules
import BeeSync.Server.StoreRuns

/-!
# What a transfer is resumed with

The handler goes on with exactly the recorded chunks whose parts verify. A record whose
indices do not fit the transfer makes it panic, and parts that a record of other
parameters leaves behind are purged as far as the new number of chunks reaches.
-/

set_option autoImplicit false

namespace BeeSync.Server

open Encoding Interaction

section Selection

variable [Blake3] [KeyOrder]

/-- The control handler goes on with the record, and marks the chunks it lists. -/
theorem ensures_resume {Owner : Type} {owner : Owner} {store : Store Owner} {id : ReceiverId}
    {receiver : FileReceiver} (present : store.receivers id = some receiver)
    (free : store.holder id = none)
    (inRange : ∀ stored, Stored store.fs receiver stored → SameParams receiver stored →
      ∀ idx ∈ stored.chunkHashes.keys, idx < receiver.numChunks) :
    Ensures (Store.controlSem False owner) (Control.resume id)
      (fun complete store' => complete.isSome = true ∧
        ∃ result, Recovery store.fs receiver result store'.fs ∧
          match result with
          | none => store'.receivers id = some receiver
          | some metadata => ∃ marked : FileReceiver, store'.receivers id = some (marked.setMetadata metadata) ∧
              ∀ idx, marked.Received idx ↔
                receiver.Received idx ∨ idx ∈ metadata.chunkHashes.keys) store := by
  refine Store.ensures_lock free present ?_
  refine Ensures.bind (Store.ensures_onFs (receiver.ensures_loadOrPurgeMetadata store.fs)) ?_
  intro result store' ⟨fs, ended, same⟩
  rw [same]
  cases result with
  | none => exact Store.ensures_unlock ⟨rfl, none, ended, Function.update_self ..⟩
  | some metadata =>
      obtain ⟨stored, usable, restricts, _⟩ := ended.selected
      have within : ∀ idx ∈ KeyOrder.keys metadata.chunkHashes, idx < receiver.numChunks := by
        intro idx listed
        have listed := (KeyOrder.perm metadata.chunkHashes).mem_iff.mp listed
        have matched := (restricts.mem_keys_iff idx).mp listed
        exact inRange stored usable.found usable.params idx matched.mem_keys
      obtain ⟨marked, all, received⟩ := FileReceiver.markAll_of_lt within
      dsimp only
      rw [all]
      refine Store.ensures_unlock ⟨rfl, some metadata, ended, marked, Function.update_self .., ?_⟩
      intro idx
      rw [received, (KeyOrder.perm metadata.chunkHashes).mem_iff]

/-- A transfer is resumed with exactly the chunks whose recorded parts verify: when there is
something to resume, what is kept on disk, and what the handler marks. A second recovery
changes nothing. -/
theorem resume_selects_verified (receiver : FileReceiver) (fs : Fs FilePath)
    (inRange : ∀ stored, Stored fs receiver stored → SameParams receiver stored →
      ∀ idx ∈ stored.chunkHashes.keys, idx < receiver.numChunks) :
    Ensures (FsOp.Sem False) receiver.loadOrPurgeMetadata (fun result fs' =>
      (result.isSome = true ↔ ∃ stored, Usable fs receiver stored) ∧
      (∀ metadata, result = some metadata → ∃ stored, Usable fs receiver stored ∧
        Restricts fs receiver stored metadata ∧ Kept fs receiver stored metadata fs') ∧
      Ensures (FsOp.Sem False) receiver.loadOrPurgeMetadata
        (fun result' fs'' => result' = result ∧ fs'' = fs') fs') fs ∧
    ∀ (Owner : Type) (owner : Owner) (store : Store Owner) (id : ReceiverId), store.fs = fs →
      store.receivers id = some receiver → store.holder id = none →
      Ensures (Store.controlSem False owner) (Control.resume id) (fun complete store' =>
        complete.isSome = true ∧ ∃ state, store'.receivers id = some state ∧
          ((∃ stored metadata, Usable fs receiver stored ∧ Restricts fs receiver stored metadata ∧
              state.metadata = metadata ∧ ∀ idx, state.Received idx ↔
                receiver.Received idx ∨ idx ∈ metadata.chunkHashes.keys) ∨
            (∀ stored, ¬ Usable fs receiver stored) ∧ state = receiver)) store := by
  constructor
  · refine (receiver.ensures_loadOrPurgeMetadata fs).mono fun result fs' ended => ?_
    refine ⟨?_, ?_, ?_⟩
    · cases result with
      | none =>
          refine iff_of_false nofun fun ⟨_, usable⟩ => ended.useless usable
      | some metadata =>
          obtain ⟨stored, usable, _⟩ := ended.selected
          exact iff_of_true rfl ⟨stored, usable⟩
    · intro metadata same
      rw [same] at ended
      exact ended.selected
    · exact (receiver.ensures_loadOrPurgeMetadata fs').mono fun _ _ ended' => ended.again ended'
  · intro Owner owner store id here present free
    subst here
    refine (ensures_resume present free inRange).mono fun complete store' reached => ?_
    obtain ⟨unharmed, result, ended, shown⟩ := reached
    refine ⟨unharmed, ?_⟩
    cases result with
    | none => exact ⟨receiver, shown, .inr ⟨fun _ usable => ended.useless usable, rfl⟩⟩
    | some metadata =>
        obtain ⟨marked, shown, received⟩ := shown
        obtain ⟨stored, usable, restricts, _⟩ := ended.selected
        exact ⟨_, shown, .inl ⟨stored, metadata, usable, restricts, rfl, received⟩⟩

end Selection

namespace ResumeSelection

/-- A record of the name in two chunks. -/
def earlierMetadata : TransferMetadata :=
  .new 1 2 2 (Blake3.samples.hash [0x61, 0x62])

/-- The receiver of that file. -/
def doubleReceiver : FileReceiver :=
  .new (ascii "f") 2 1 2 (Blake3.samples.hash [0x61, 0x62]) (ascii "received") (ascii "received")

/-- The record when both chunks have arrived. -/
def doubleMetadata : TransferMetadata :=
  (earlierMetadata.addChunk 0 (Blake3.samples.hash [0x61])).addChunk 1 (Blake3.samples.hash [0x62])

/-- The second part is not what it was when it was recorded. -/
def doubleFiles : Fs FilePath :=
  Function.update (Function.update (Function.update (fun _ => none) (doubleReceiver.partPath 0)
    (some [0x61])) (doubleReceiver.partPath 1) (some [0x63])) doubleReceiver.metaPath
      (some doubleMetadata.toBytes)

theorem doubleStored : Stored doubleFiles doubleReceiver doubleMetadata :=
  ⟨_, Function.update_self .., TransferMetadata.fromBytes_toBytes
    ⟨by decide, by decide, by decide, by decide, by decide⟩⟩

theorem doubleFiles_partPath (idx : Nat) : doubleFiles (doubleReceiver.partPath idx) =
    if idx = 1 then some [0x63] else if idx = 0 then some [0x61] else none := by
  have notMeta : doubleReceiver.partPath idx ≠ doubleReceiver.metaPath :=
    doubleReceiver.partPath_ne_metaPath idx
  simp [doubleFiles, Function.update_apply, notMeta, doubleReceiver.partPath_injective.eq_iff]

theorem doubleFiles_matches {idx : Nat} :
    let _ := Blake3.samples
    Matches doubleFiles doubleReceiver doubleMetadata idx ↔ idx = 0 := by
  intro _
  constructor
  · intro matched
    have listed : idx ∈ [0, 1] := matched.mem_keys
    rcases List.mem_pair.mp listed with first | second
    · exact first
    · subst second
      obtain ⟨part, onDisk, hashed⟩ := matched
      cases (doubleFiles_partPath 1).symm.trans onDisk
      exact absurd hashed (by decide)
  · intro first
    subst first
    exact ⟨_, doubleFiles_partPath 0, rfl⟩

end ResumeSelection

open ResumeSelection in
/-- Two chunks have been recorded, and one of the parts no longer verifies. -/
theorem resume_selects_verified_partly :
    let _ := Blake3.samples
    let _ := KeyOrder.increasing
    Ensures (FsOp.Sem False) doubleReceiver.loadOrPurgeMetadata
      (fun result fs' => (∃ metadata, result = some metadata ∧
          ∀ idx, idx ∈ metadata.chunkHashes.keys ↔ idx = 0) ∧
        fs' (doubleReceiver.partPath 0) = some [0x61] ∧ fs' (doubleReceiver.partPath 1) = none ∧
        Ensures (FsOp.Sem False) doubleReceiver.loadOrPurgeMetadata
          (fun result' fs'' => result' = result ∧ fs'' = fs') fs') doubleFiles := by
  let _ := Blake3.samples
  let _ := KeyOrder.increasing
  have usable : Usable doubleFiles doubleReceiver doubleMetadata :=
    ⟨doubleStored, ⟨rfl, rfl, rfl, rfl⟩, .inr ⟨0, doubleFiles_matches.mpr rfl⟩⟩
  have selects := resume_selects_verified doubleReceiver doubleFiles <| by
    intro stored found _ idx listed
    cases doubleStored.unique found
    have within : ∀ idx ∈ [0, 1], idx < 2 := by decide
    exact within idx listed
  refine selects.1.mono fun result fs' reached => ?_
  obtain ⟨found, kept, again⟩ := reached
  obtain ⟨metadata, same⟩ := Option.isSome_iff_exists.mp (found.mpr ⟨_, usable⟩)
  obtain ⟨stored, ⟨here, _, _⟩, restricts, left⟩ := kept metadata same
  cases doubleStored.unique here
  refine ⟨⟨metadata, same, fun idx => ?_⟩, ?_, ?_, again⟩
  · exact (restricts.mem_keys_iff idx).trans doubleFiles_matches
  · rw [left.unchanged 0 (doubleFiles_matches.mpr rfl), doubleFiles_partPath]
    rfl
  · exact left.gone 1 (by decide) fun matched => absurd (doubleFiles_matches.mp matched) (by decide)

section Stale

variable [Blake3] [KeyOrder]

/-- After a change of parameters every file of the earlier transfer is gone just if none of its
parts lies behind the last chunk of the new one. -/
theorem stale_files_purged_iff (receiver : FileReceiver) (fs : Fs FilePath)
    (metadata : TransferMetadata) (stored : Stored fs receiver metadata)
    (differs : ¬ SameParams receiver metadata) :
    Ensures (FsOp.Sem False) receiver.loadOrPurgeMetadata (fun result fs' => result = none ∧
        fs' receiver.metaPath = none ∧
        ∀ idx < metadata.numChunks, fs' (receiver.partPath idx) = none) fs ↔
      ∀ idx, receiver.numChunks ≤ idx → idx < metadata.numChunks →
        fs (receiver.partPath idx) = none := by
  have ends := receiver.ensures_loadOrPurgeMetadata fs
  constructor
  · intro purges idx behind listed
    obtain ⟨result, fs', _, ⟨_, _, gone⟩, ended⟩ := (purges.and ends).returns
    have kept : receiver.partPath idx ∉ receiver.purged := by
      rw [receiver.partPath_mem_purged]
      exact not_lt.mpr behind
    rw [← gone idx listed, (ended.of_changed stored differs).2, Fs.without_of_notMem kept]
  · intro absent
    refine ends.mono fun result fs' ended => ?_
    obtain ⟨nothing, left⟩ := ended.of_changed stored differs
    subst nothing
    refine ⟨rfl, ended.metaPath_none, fun idx listed => ?_⟩
    rw [left]
    by_cases within : idx < receiver.numChunks
    · exact Fs.without_of_mem ((receiver.partPath_mem_purged idx).mpr within)
    · have behind : receiver.partPath idx ∉ receiver.purged :=
        (receiver.partPath_mem_purged idx).not.mpr within
      rw [Fs.without_of_notMem behind]
      exact absent idx (not_lt.mp within) listed

end Stale

namespace ResumeSelection

/-- The record of two chunks next to the part of the second one. -/
def earlierFiles : Fs FilePath :=
  Function.update (Function.update (fun _ => none) (singleReceiver.partPath 1) (some [0x62]))
    singleReceiver.metaPath (some earlierMetadata.toBytes)

theorem earlierStored : Stored earlierFiles singleReceiver earlierMetadata :=
  ⟨_, Function.update_self .., TransferMetadata.fromBytes_toBytes
    ⟨by decide, by decide, by decide, by decide, by decide⟩⟩

theorem earlierDiffers : ¬ SameParams singleReceiver earlierMetadata :=
  fun same => absurd same.numChunks (by decide)

/-- A record of the name with one chunk of another size. -/
def resizedMetadata : TransferMetadata :=
  .new 1 1 1 (Blake3.sample.hash [0x61])

def resizedFiles : Fs FilePath :=
  Function.update (Function.update (fun _ => none) (singleReceiver.partPath 0) (some [0x61]))
    singleReceiver.metaPath (some resizedMetadata.toBytes)

theorem resizedStored : Stored resizedFiles singleReceiver resizedMetadata :=
  ⟨_, Function.update_self .., TransferMetadata.fromBytes_toBytes
    ⟨by decide, by decide, by decide, by decide, by decide⟩⟩

end ResumeSelection

open ResumeSelection in
/-- With as many chunks as before nothing is left over. -/
theorem stale_files_purged_iff_resized :
    let _ := Blake3.sample
    let _ := KeyOrder.increasing
    Ensures (FsOp.Sem False) singleReceiver.loadOrPurgeMetadata (fun result fs' => result = none ∧
        fs' singleReceiver.metaPath = none ∧
        ∀ idx < resizedMetadata.numChunks, fs' (singleReceiver.partPath idx) = none)
      resizedFiles := by
  let _ := Blake3.sample
  let _ := KeyOrder.increasing
  refine (stale_files_purged_iff singleReceiver resizedFiles resizedMetadata resizedStored
    fun same => absurd same.chunkSize (by decide)).mpr fun idx behind listed => ?_
  exact absurd (lt_of_le_of_lt behind listed) (lt_irrefl _)

open ResumeSelection in
/-- A part behind the last chunk of the new transfer outlives the record that listed it. -/
theorem stale_part_survives :
    let _ := Blake3.sample
    let _ := KeyOrder.increasing
    ¬ ∀ (receiver : FileReceiver) (fs : Fs FilePath) (metadata : TransferMetadata),
      Stored fs receiver metadata → ¬ SameParams receiver metadata →
      Ensures (FsOp.Sem False) receiver.loadOrPurgeMetadata (fun result fs' => result = none ∧
        fs' receiver.metaPath = none ∧
        ∀ idx < metadata.numChunks, fs' (receiver.partPath idx) = none) fs := by
  intro _ _ purges
  have purged := purges singleReceiver earlierFiles earlierMetadata earlierStored earlierDiffers
  have ends := singleReceiver.ensures_loadOrPurgeMetadata earlierFiles
  obtain ⟨result, fs', _, ⟨_, _, gone⟩, ended⟩ := (purged.and ends).returns
  have kept : singleReceiver.partPath 1 ∉ singleReceiver.purged := by
    rw [singleReceiver.partPath_mem_purged]
    exact lt_irrefl 1
  have survives := gone 1 (by decide)
  rw [(ended.of_changed earlierStored earlierDiffers).2, Fs.without_of_notMem kept,
    earlierFiles, Function.update_of_ne (singleReceiver.partPath_ne_metaPath 1),
    Function.update_self] at survives
  cases survives

end BeeSync.Server
