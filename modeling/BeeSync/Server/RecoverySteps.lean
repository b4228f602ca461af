import BeeSync.Server.RecoveryInvariant

/-!
# Recovery and assembly over what a crash leaves

Every call of the resume section and of the assembly leaves files from which a restart can go
on. What has been found so far of the record, or copied so far of the parts, follows the calls.
-/

set_option autoImplicit false

namespace BeeSync.Server

open Encoding Arithmetic Interaction

section Resume

variable [Blake3] (job : Job)

/-- How far the check of the parts has come. -/
structure Job.Checks (fs : Fs FilePath) (metadata : TransferMetadata)
    (unchecked validIndices : List Nat) (corruptCount : Nat) : Prop where
  valid : job.Valid metadata
  stored : Stored fs job.receiver metadata
  whole : ∀ idx ∈ validIndices, idx ∈ metadata.chunkHashes.keys ∧
    fs (job.partPath idx) = some (job.chunk idx)
  others : ∀ idx ∈ metadata.chunkHashes.keys, idx ∈ unchecked ∨ idx ∈ validIndices ∨
    (0 < corruptCount ∧ ¬ job.Saved fs idx)

/-- How far the recovery of the transfer has come. -/
def ResumePhase.Recovered (fs : Fs FilePath) : ResumePhase → Prop
  | .looking | .loading => True
  | .missing | .purgingParts _ => fs job.metaPath = none
  | .verifying metadata unchecked validIndices corruptCount =>
      job.Checks fs metadata unchecked validIndices corruptCount
  | .dropping metadata idx unchecked validIndices corruptCount =>
      job.Checks fs metadata unchecked validIndices corruptCount ∧ 0 < corruptCount ∧
        ¬ job.Saved fs idx
  | .purging => ∀ idx, ¬ job.Saved fs idx
  | .saving clean save => job.Valid clean ∧
      (∀ idx ∈ clean.chunkHashes.keys, fs (job.partPath idx) = some (job.chunk idx)) ∧
        (∀ idx, job.Saved fs idx → idx ∈ clean.chunkHashes.keys) ∧
          save.Drafted clean job.config.tempDir job.handshake.safeName fs
  | .loaded metadata => job.Valid metadata ∧ Stored fs job.receiver metadata ∧
      ∀ idx ∈ metadata.chunkHashes.keys, fs (job.partPath idx) = some (job.chunk idx)

variable {job} {fs : Fs FilePath} {metadata : TransferMetadata} {unchecked validIndices : List Nat}
  {corruptCount : Nat} {state : FileReceiver}

theorem Job.Checks.saved {idx : Nat}
    (checks : job.Checks fs metadata unchecked validIndices corruptCount) :
    job.Saved fs idx ↔ idx ∈ metadata.chunkHashes.keys ∧
      fs (job.partPath idx) = some (job.chunk idx) := by
  rw [Job.Saved, Job.listed_iff checks.stored]

/-- What follows the check of a part has come as far. -/
theorem ResumePhase.recovered_settle (params : state.params = job.receiver.params)
    (checks : job.Checks fs metadata unchecked validIndices corruptCount) :
    (settle state metadata unchecked validIndices corruptCount).Recovered job fs := by
  obtain ⟨valid, stored, whole, others⟩ := checks
  rw [settle.eq_def]
  cases unchecked with
  | cons idx rest =>
      dsimp only
      split
      · rename_i unlisted
        have outside : idx ∉ metadata.chunkHashes.keys := by
          intro listed
          obtain ⟨hash, found⟩ := OrderedMap.mem_keys_iff.mp listed
          cases found.symm.trans unlisted
        refine ⟨⟨valid, stored, whole, fun other listed => ?_⟩, Nat.succ_pos _, fun saved => ?_⟩
        · obtain todo | done | ⟨_, useless⟩ := others other listed
          · refine .inl ((List.mem_cons.mp todo).resolve_left fun here => ?_)
            exact outside (here ▸ listed)
          · exact .inr (.inl done)
          · exact .inr (.inr ⟨Nat.succ_pos _, useless⟩)
        · exact outside ((Job.listed_iff stored).mp saved.1)
      · exact ⟨valid, stored, whole, others⟩
  | nil =>
      have settled : ∀ idx ∈ metadata.chunkHashes.keys, idx ∈ validIndices ∨
          (0 < corruptCount ∧ ¬ job.Saved fs idx) := fun idx listed =>
        (others idx listed).resolve_left List.not_mem_nil
      dsimp only
      split
      · split
        · rename_i empty
          intro idx saved
          obtain done | ⟨_, useless⟩ := settled idx ((Job.listed_iff stored).mp saved.1)
          · rw [List.isEmpty_iff.mp empty] at done
            cases done
          · exact useless saved
        · have listed : ∀ idx, idx ∈ (state.cleanMetadata metadata validIndices).chunkHashes.keys ↔
              idx ∈ validIndices :=
            FileReceiver.mem_keys_cleanMetadata fun idx member => (whole idx member).1
          refine ⟨valid.clean params, fun idx member => ?_, fun idx saved => ?_, trivial⟩
          · exact (whole idx ((listed idx).mp member)).2
          · refine (listed idx).mpr ?_
            exact (settled idx ((Job.listed_iff stored).mp saved.1)).resolve_right
              fun useless => useless.2 saved
      · rename_i uncorrupted
        refine ⟨valid, stored, fun idx listed => (whole idx ?_).2⟩
        exact (settled idx listed).resolve_right fun useless => uncorrupted useless.1

theorem ResumePhase.recovered_judge [KeyOrder] {past : Past} {data : Bytes}
    (params : state.params = job.receiver.params) (sound : job.Sound past)
    (found : past.fs job.metaPath = some data) :
    (judge state data).Recovered job past.fs := by
  obtain ⟨metadata, parsed, valid⟩ := sound.readable data found
  have same : SameParams state metadata := valid.params.of_params params.symm
  rw [judge, parsed]
  dsimp only
  rw [if_pos (paramsMatch_iff.mpr same)]
  refine recovered_settle params ⟨valid, ⟨data, found, parsed⟩, ?_, fun idx listed => ?_⟩
  · intro idx member
    cases member
  · exact .inl ((KeyOrder.perm _).mem_iff.mpr listed)

variable {past : Past} {fs' : Fs FilePath}

/-- A part of the list is checked: it is whole or gone. -/
theorem Job.Checks.check {idx : Nat} (sound : job.Sound past)
    (checks : job.Checks past.fs metadata (idx :: unchecked) validIndices corruptCount) :
    (∀ data, past.fs (job.partPath idx) = some data →
      metadata.chunkHashes.get? idx = some (calcHash data) → job.Checks past.fs metadata unchecked
        (validIndices ++ [idx]) corruptCount) ∧
      ((∀ data, past.fs (job.partPath idx) = some data →
        metadata.chunkHashes.get? idx ≠ some (calcHash data)) →
          job.Checks past.fs metadata unchecked validIndices (corruptCount + 1) ∧
            ¬ job.Saved past.fs idx) := by
  obtain ⟨valid, stored, whole, others⟩ := checks
  constructor
  · intro data found hashed
    have listed : idx ∈ metadata.chunkHashes.keys := OrderedMap.mem_keys_iff.mpr ⟨_, hashed⟩
    have there : past.fs (job.partPath idx) = some (job.chunk idx) := by
      refine (sound.parts idx ((Job.listed_iff stored).mpr listed)).resolve_right fun gone => ?_
      cases gone.symm.trans found
    refine ⟨valid, stored, fun other member => ?_, fun other member => ?_⟩
    · obtain earlier | here := List.mem_append.mp member
      · exact whole other earlier
      · rw [List.mem_singleton.mp here]
        exact ⟨listed, there⟩
    · obtain todo | done | useless := others other member
      · obtain here | later := List.mem_cons.mp todo
        · exact .inr (.inl (List.mem_append_right _ (List.mem_singleton.mpr here)))
        · exact .inl later
      · exact .inr (.inl (List.mem_append_left _ done))
      · exact .inr (.inr useless)
  · intro differs
    have useless : ¬ job.Saved past.fs idx := fun saved =>
      differs _ saved.2 (valid.get? ((Job.listed_iff stored).mp saved.1))
    refine ⟨⟨valid, stored, whole, fun other member => ?_⟩, useless⟩
    obtain todo | done | ⟨_, lost⟩ := others other member
    · obtain here | later := List.mem_cons.mp todo
      · exact .inr (.inr ⟨Nat.succ_pos _, here ▸ useless⟩)
      · exact .inl later
    · exact .inr (.inl done)
    · exact .inr (.inr ⟨Nat.succ_pos _, lost⟩)

/-- Removing a part that no restart would find again does not change what the check has found. -/
theorem Job.Checks.remove {idx : Nat}
    (checks : job.Checks fs metadata unchecked validIndices corruptCount)
    (useless : ¬ job.Saved fs idx) (removed : fs' (job.partPath idx) = none)
    (others : ∀ path, path ≠ job.partPath idx → fs' path = fs path) :
    job.Checks fs' metadata unchecked validIndices corruptCount := by
  obtain ⟨valid, stored, whole, rest⟩ := checks
  have record : fs' job.metaPath = fs job.metaPath := others _ Job.partPath_ne_metaPath.symm
  have stored' : Stored fs' job.receiver metadata := by
    obtain ⟨data, found, parsed⟩ := stored
    exact ⟨data, record.trans found, parsed⟩
  have elsewhere : ∀ other, other ≠ idx →
      fs' (job.partPath other) = fs (job.partPath other) := fun other different =>
    others _ fun same => different (Job.partPath_inj.mp same)
  refine ⟨valid, stored', fun other member => ?_, fun other member => ?_⟩
  · obtain ⟨listed, there⟩ := whole other member
    refine ⟨listed, (elsewhere other fun here => useless ?_).trans there⟩
    rw [← here]
    exact ⟨(Job.listed_iff stored).mpr listed, there⟩
  · refine (rest other member).imp_right (Or.imp_right (And.imp_right fun lost saved => ?_))
    by_cases here : other = idx
    · rw [here] at saved
      cases removed.symm.trans saved.2
    · exact lost (saved.congr record.symm (elsewhere other here).symm)

variable [KeyOrder] {resume resume' : ResumePhase} {op : FsOp FilePath} {answer : op.Res}

/-- Every call of the resume section leaves files that the next restart can recover. -/
theorem ResumeTurn.recovered (turned : ResumeTurn state resume op answer resume')
    (params : state.params = job.receiver.params) (sound : job.Sound past)
    (acted : op.Sem False past.fs answer fs') (recovered : resume.Recovered job past.fs) :
    resume'.Recovered job fs' ∧ job.Sound { past with fs := fs' } := by
  have metaPath : state.metaPath = job.metaPath := FileReceiver.metaPath_of_params params
  have partPath : ∀ idx, state.partPath idx = job.partPath idx :=
    FileReceiver.partPath_of_params params
  cases turned with
  | found =>
      rw [acted.1]
      exact ⟨trivial, sound⟩
  | absent answer different =>
      obtain ⟨same, answered | ⟨fails, _⟩⟩ := acted
      · rw [same]
        refine ⟨?_, sound⟩
        rw [metaPath] at answered
        cases there : past.fs job.metaPath with
        | none => exact there
        | some data =>
            rw [there] at answered
            exact absurd answered different
      · exact fails.elim
  | unreadable error =>
      obtain ⟨same, ⟨_, _, fine⟩ | ⟨absent, _⟩⟩ := acted
      · cases fine
      · rw [same]
        rw [metaPath] at absent
        exact ⟨fun idx saved => Job.not_listed (absent.resolve_right id) saved.1, sound⟩
  | read data =>
      obtain ⟨same, ⟨content, found, answered⟩ | ⟨_, _, fails⟩⟩ := acted
      · cases answered
        rw [same]
        rw [metaPath] at found
        exact ⟨ResumePhase.recovered_judge params sound found, sound⟩
      · cases fails
  | @valid metadata idx rest validIndices corruptCount data hashed =>
      obtain ⟨same, ⟨content, found, answered⟩ | ⟨_, _, fails⟩⟩ := acted
      · cases answered
        rw [same]
        rw [partPath] at found
        have checks := (Job.Checks.check sound recovered).1 data found hashed
        exact ⟨ResumePhase.recovered_settle params checks, sound⟩
      · cases fails
  | @corrupt metadata idx rest validIndices corruptCount answer differs =>
      obtain ⟨same, outcome⟩ := acted
      rw [same]
      have mismatch : ∀ data, past.fs (job.partPath idx) = some data →
          metadata.chunkHashes.get? idx ≠ some (calcHash data) := by
        intro data there
        rw [partPath, there] at outcome
        obtain ⟨content, found, answered⟩ | ⟨absent, _⟩ := outcome
        · cases found
          exact differs data answered
        · cases absent.resolve_right id
      obtain ⟨checks, useless⟩ := (Job.Checks.check sound recovered).2 mismatch
      exact ⟨⟨checks, Nat.succ_pos _, useless⟩, sound⟩
  | @drop metadata idx rest validIndices corruptCount answer =>
      obtain ⟨checks, _, useless⟩ := recovered
      rw [partPath] at acted
      have removed : fs' (job.partPath idx) = none := by
        rw [acted.removed]
        exact Fs.without_of_mem rfl
      have others : ∀ path, path ≠ job.partPath idx → fs' path = past.fs path :=
        fun path different => acted.frame different
      exact ⟨ResumePhase.recovered_settle params (checks.remove useless removed others),
        sound.remove useless removed others⟩
  | purge answer =>
      rw [metaPath] at acted
      have removed : fs' job.metaPath = none := by
        rw [acted.removed]
        exact Fs.without_of_mem rfl
      exact ⟨removed, sound.erase recovered removed fun path different => acted.frame different⟩
  | purgePart idx left answer =>
      rw [partPath] at acted
      have removed : fs' (job.partPath idx) = none := by
        rw [acted.removed]
        exact Fs.without_of_mem rfl
      have others : ∀ path, path ≠ job.partPath idx → fs' path = past.fs path :=
        fun path different => acted.frame different
      have absent : past.fs job.metaPath = none := recovered
      refine ⟨(others _ Job.partPath_ne_metaPath.symm).trans absent, ?_⟩
      exact sound.remove (fun saved => Job.not_listed absent saved.1) removed others
  | @save clean save save' op answer saving =>
      have partsDir : state.partsDir = job.config.tempDir :=
        congrArg FileReceiver.Params.partsDir params
      have filename : state.filename = job.handshake.safeName :=
        congrArg FileReceiver.Params.filename params
      rw [partsDir, filename] at saving
      obtain ⟨valid, whole, lists, drafted⟩ := recovered
      have drafted' := saving.drafted drafted (acted.mono False.elim)
      have parts : ∀ idx, fs' (job.partPath idx) = past.fs (job.partPath idx) := by
        refine fun idx => acted.frame fun writes => ?_
        obtain same | same := saving.writes writes
        · exact Job.partPath_ne_tmpPath same
        · exact Job.partPath_ne_metaPath same
      have output : fs' job.outputPath = past.fs job.outputPath := by
        refine acted.frame fun writes => ?_
        obtain same | same := saving.writes writes
        · exact Job.tmpPath_ne_outputPath same.symm
        · exact Job.metaPath_ne_outputPath same.symm
      have whole' : ∀ idx ∈ clean.chunkHashes.keys,
          fs' (job.partPath idx) = some (job.chunk idx) := fun idx member =>
        (parts idx).trans (whole idx member)
      have elsewhere : ¬ op.writes job.metaPath →
          (ResumePhase.saving clean save').Recovered job fs' ∧ job.Sound { past with fs := fs' } := by
        intro spared
        have record : fs' job.metaPath = past.fs job.metaPath := acted.frame spared
        refine ⟨⟨valid, whole', fun idx saved => ?_, drafted'⟩, ?_⟩
        · exact lists idx (saved.congr record.symm (parts idx).symm)
        · refine sound.still record parts fun content found => ?_
          exact sound.output content (output.symm.trans found)
      cases saving with
      | write writing =>
          exact elsewhere fun writes => Job.metaPath_ne_tmpPath (writing.writes writes)
      | rename =>
          have replaced : fs' job.metaPath = some clean.toBytes := drafted'
          refine ⟨⟨valid, whole', fun idx saved => ?_, drafted'⟩, ?_⟩
          · exact (Job.listed_iff (valid.stored replaced)).mp saved.1
          · refine sound.replace valid replaced parts output (fun idx member => .inl ?_) ?_
            · exact whole idx member
            · exact fun idx _ saved => lists idx saved
      | renameFails => exact drafted'.elim
      | remove => exact drafted.elim

omit [KeyOrder] in
/-- What the resume section marks is what a restart would find. -/
theorem ResumePhase.Recovered.done (recovered : resume.Recovered job fs)
    (ended : resume.Done (some metadata)) : job.Valid metadata ∧ Stored fs job.receiver metadata ∧
      ∀ idx ∈ metadata.chunkHashes.keys, fs (job.partPath idx) = some (job.chunk idx) := by
  obtain loaded | ⟨saved, saving, outcome, done⟩ := ended
  · rw [loaded] at recovered
    exact recovered
  · rw [saving] at recovered
    obtain ⟨valid, whole, _, drafted⟩ := recovered
    cases outcome with
    | ok _ =>
        cases done
        exact ⟨valid, valid.stored drafted, whole⟩
    | error error => exact (drafted.fine done).elim

omit [KeyOrder] in
theorem ResumePhase.Recovered.purged (recovered : resume.Recovered job fs)
    (ended : resume.Done none) : fs job.metaPath = none := by
  obtain missing | purged := ended
  · rw [missing] at recovered
    exact recovered
  · rw [purged] at recovered
    exact recovered

end Resume

section Assembly

variable [Blake3] (job : Job)

/-- The first chunks of the source, one behind the other. -/
def Job.joined (count : Nat) : Bytes := ((List.range count).map job.chunk).flatten

/-- The assembly has consumed the first parts, with a given output. -/
structure Job.Upto (fs : Fs FilePath) (count : Nat) (output : Bytes) : Prop where
  gone : ∀ idx < count, fs (job.partPath idx) = none
  left : ∀ idx, count ≤ idx → idx < job.handshake.numChunks →
    fs (job.partPath idx) = some (job.chunk idx)
  output : fs job.outputPath = some output

/-- The assembly is at a part. -/
structure Job.At (fs : Fs FilePath) (idx : Nat) (rest : List Nat) (absorbed output : Bytes) : Prop
    extends job.Upto fs idx output where
  inRange : idx < job.handshake.numChunks
  rest : rest = List.range' (idx + 1) (job.handshake.numChunks - (idx + 1))
  absorbed : absorbed = job.joined idx

/-- How far the assembly of the file has come. -/
def AssemblePhase.Copied (fs : Fs FilePath) : AssemblePhase → Prop
  | .creating => ∀ idx < job.handshake.numChunks, fs (job.partPath idx) = some (job.chunk idx)
  | .checking left absorbed => ∃ count ≤ job.handshake.numChunks,
      left = List.range' count (job.handshake.numChunks - count) ∧ absorbed = job.joined count ∧
        job.Upto fs count absorbed
  | .opening idx rest absorbed => job.At fs idx rest absorbed absorbed
  | .reading idx rest absorbed copied =>
      job.At fs idx rest absorbed (absorbed ++ copied) ∧ copied <+: job.chunk idx
  | .writing idx rest absorbed copied written unwritten =>
      job.At fs idx rest absorbed (absorbed ++ copied ++ written) ∧
        copied ++ written ++ unwritten <+: job.chunk idx
  | .removing idx rest absorbed copied =>
      job.At fs idx rest absorbed (absorbed ++ copied) ∧ copied = job.chunk idx
  | .assembled result _ => result = .ok true ∧ job.Delivered fs

variable {job} {fs fs' : Fs FilePath} {idx count : Nat} {rest : List Nat}
  {absorbed output output' : Bytes}

theorem Job.joined_succ (count : Nat) :
    job.joined (count + 1) = job.joined count ++ job.chunk count := by
  simp [Job.joined, List.range_succ]

theorem Job.joined_all : job.joined job.handshake.numChunks = job.source := by
  rw [job.numChunks, numChunks_of_pos job.nonempty]
  exact flatten_slices_divCeil _ _ job.handshake.chunkSize_pos

theorem Job.joined_isPrefix (within : count ≤ job.handshake.numChunks) :
    job.joined count <+: job.source := by
  have further : ∀ more, job.joined count <+: job.joined (count + more) := by
    intro more
    induction more with
    | zero => exact List.prefix_rfl
    | succ more ih =>
        rw [← Nat.add_assoc, Job.joined_succ (count + more)]
        exact ih.trans (List.prefix_append _ _)
  have whole := further (job.handshake.numChunks - count)
  rwa [Nat.add_sub_cancel' within, Job.joined_all] at whole

theorem Job.joined_append_isPrefix (inRange : idx < job.handshake.numChunks) {copied : Bytes}
    (copies : copied <+: job.chunk idx) : job.joined idx ++ copied <+: job.source := by
  have whole : job.joined (idx + 1) <+: job.source := Job.joined_isPrefix (Nat.succ_le_of_lt inRange)
  rw [Job.joined_succ] at whole
  exact ((List.prefix_append_right_inj _).mpr copies).trans whole

/-- A call that writes to the output file only. -/
theorem Job.Upto.write (upto : job.Upto fs count output)
    (others : ∀ path, path ≠ job.outputPath → fs' path = fs path)
    (written : fs' job.outputPath = some output') : job.Upto fs' count output' where
  gone idx before := (others _ Job.partPath_ne_outputPath).trans (upto.gone idx before)
  left idx after inRange := (others _ Job.partPath_ne_outputPath).trans (upto.left idx after inRange)
  output := written

theorem Job.Upto.remove (upto : job.Upto fs count output)
    (removed : fs' (job.partPath count) = none)
    (others : ∀ path, path ≠ job.partPath count → fs' path = fs path) :
    job.Upto fs' (count + 1) output where
  gone idx before := by
    by_cases here : idx = count
    · rw [here]
      exact removed
    · refine (others _ fun same => here (Job.partPath_inj.mp same)).trans ?_
      exact upto.gone idx (lt_of_le_of_ne (Nat.le_of_lt_succ before) here)
  left idx after inRange := by
    have different : idx ≠ count := fun same => absurd (same ▸ after) (Nat.not_succ_le_self _)
    refine (others _ fun same => different (Job.partPath_inj.mp same)).trans ?_
    exact upto.left idx (Nat.le_of_succ_le after) inRange
  output := (others _ Job.partPath_ne_outputPath.symm).trans upto.output

theorem Job.At.part (at_ : job.At fs idx rest absorbed output) :
    fs (job.partPath idx) = some (job.chunk idx) :=
  at_.left idx le_rfl at_.inRange

/-- The next part of the list. -/
theorem AssemblePhase.Copied.next
    (copied : (AssemblePhase.checking (idx :: rest) absorbed).Copied job fs) :
    job.At fs idx rest absorbed absorbed := by
  obtain ⟨count, within, left, all, upto⟩ := copied
  have more : job.handshake.numChunks - count ≠ 0 := by
    intro none_
    rw [none_] at left
    cases left
  obtain ⟨size, sized⟩ := Nat.exists_eq_succ_of_ne_zero more
  rw [sized, List.range'_succ] at left
  cases left
  have remaining : job.handshake.numChunks - (idx + 1) = size := by omega
  exact ⟨upto, by omega, by rw [remaining], all⟩

variable {state : FileReceiver} {assembly assembly' : AssemblePhase} {op : FsOp FilePath}
  {answer : op.Res}

/-- Every call of the assembly goes well and brings it on. -/
theorem AssembleTurn.copied (turned : AssembleTurn state assembly op answer assembly')
    (params : state.params = job.receiver.params) (acted : op.Sem False fs answer fs')
    (copied : assembly.Copied job fs) : assembly'.Copied job fs' := by
  have metaPath : state.metaPath = job.metaPath := FileReceiver.metaPath_of_params params
  have partPath : ∀ idx, state.partPath idx = job.partPath idx :=
    FileReceiver.partPath_of_params params
  have finalPath : state.finalPath = job.outputPath :=
    congrArg₂ FilePath.mk (congrArg FileReceiver.Params.outputDir params)
      (congrArg FileReceiver.Params.filename params)
  have numChunks : state.numChunks = job.handshake.numChunks :=
    congrArg FileReceiver.Params.numChunks params
  have fullHash : state.fullHash = job.handshake.fullHash :=
    congrArg FileReceiver.Params.fullHash params
  cases turned with
  | create =>
      obtain ⟨_, same⟩ | ⟨fails, _⟩ := acted
      · rw [finalPath] at same
        rw [same]
        refine ⟨0, Nat.zero_le _, ?_, rfl, ?_⟩
        · rw [numChunks, List.range_eq_range', Nat.sub_zero]
        · refine ⟨nofun, fun idx _ inRange => ?_, Function.update_self _ _ _⟩
          rw [Function.update_of_ne Job.partPath_ne_outputPath]
          exact copied idx inRange
      · exact fails.elim
  | createFails error =>
      obtain ⟨fine, _⟩ | ⟨fails, _⟩ := acted
      · cases fine
      · exact fails.elim
  | found =>
      rw [acted.1]
      exact AssemblePhase.Copied.next copied
  | missing answer different =>
      have next := AssemblePhase.Copied.next copied
      obtain ⟨_, answered | ⟨fails, _⟩⟩ := acted
      · rw [partPath, next.part] at answered
        exact absurd answered different
      · exact fails.elim
  | @open_ idx rest absorbed =>
      have at_ : job.At fs idx rest absorbed absorbed := copied
      rw [acted.1]
      refine ⟨?_, List.nil_prefix⟩
      rwa [List.append_nil]
  | @openFails idx rest absorbed error =>
      have at_ : job.At fs idx rest absorbed absorbed := copied
      obtain ⟨_, ⟨_, fine⟩ | ⟨absent, _⟩⟩ := acted
      · cases fine
      · rw [partPath, at_.part] at absent
        cases absent.resolve_right id
  | @read idx rest absorbed done piece some_ =>
      obtain ⟨at_, copies⟩ := copied
      obtain ⟨same, ⟨_, answered, isPiece⟩ | ⟨fails, _⟩⟩ := acted
      · cases answered
        rw [partPath, at_.part] at isPiece
        rw [same]
        refine ⟨?_, ?_⟩
        · rwa [List.append_nil]
        · obtain ⟨later, whole⟩ := copies
          have behind : (job.chunk idx).drop done.length = later := by
            rw [← whole, List.drop_left]
          rw [List.append_nil, ← whole]
          refine (List.prefix_append_right_inj _).mpr ?_
          rw [← behind]
          exact isPiece.isPrefix
      · exact fails.elim
  | @readEnd idx rest absorbed done =>
      obtain ⟨at_, copies⟩ := copied
      obtain ⟨same, ⟨_, answered, isPiece⟩ | ⟨fails, _⟩⟩ := acted
      · cases answered
        rw [partPath, at_.part] at isPiece
        rw [same]
        refine ⟨at_, copies.eq_of_length_le ?_⟩
        exact (isPiece.atEnd rfl).resolve_right (by decide)
      · exact fails.elim
  | readFails error =>
      obtain ⟨_, ⟨_, fine, _⟩ | ⟨fails, _⟩⟩ := acted
      · cases fine
      · exact fails.elim
  | @write idx rest absorbed done written unwritten byte =>
      obtain ⟨at_, copies⟩ := copied
      obtain ⟨_, same⟩ | ⟨fails, _⟩ := acted
      · rw [finalPath, at_.output, Option.map_some, putByte_end] at same
        have others : ∀ path, path ≠ job.outputPath → fs' path = fs path := by
          intro path different
          rw [same]
          exact Function.update_of_ne different _ _
        have written' : fs' job.outputPath = some (absorbed ++ done ++ (written ++ [byte])) := by
          rw [same, Function.update_self, List.append_assoc _ written]
        have at' : job.At fs' idx rest absorbed (absorbed ++ done ++ (written ++ [byte])) :=
          ⟨at_.toUpto.write others written', at_.inRange, at_.rest, at_.absorbed⟩
        rw [AssemblePhase.settle]
        split
        · rename_i last
          refine ⟨?_, ?_⟩
          · rwa [← List.append_assoc absorbed]
          · rw [last] at copies
            rwa [List.append_assoc] at copies
        · refine ⟨at', ?_⟩
          rwa [List.append_assoc, List.append_assoc, List.singleton_append, ← List.append_assoc]
      · exact fails.elim
  | writeFails byte error =>
      obtain ⟨fine, _⟩ | ⟨fails, _⟩ := acted
      · cases fine
      · exact fails.elim
  | @remove idx rest absorbed done =>
      obtain ⟨at_, whole⟩ := copied
      rw [partPath] at acted
      have removed : fs' (job.partPath idx) = none := by
        rw [acted.removed]
        exact Fs.without_of_mem rfl
      refine ⟨idx + 1, at_.inRange, at_.rest, ?_, ?_⟩
      · rw [Job.joined_succ, at_.absorbed, whole]
      · exact at_.toUpto.remove removed fun path different => acted.frame different
  | @removeFails idx rest absorbed done error =>
      obtain ⟨at_, _⟩ := copied
      obtain ⟨_, fine, _⟩ | ⟨absent, _⟩ := acted
      · cases fine
      · rw [partPath, at_.part] at absent
        cases absent.resolve_right id
  | @finish absorbed answer =>
      obtain ⟨count, within, left, all, upto⟩ := copied
      have last : count = job.handshake.numChunks := by
        have none_ := congrArg List.length left
        rw [List.length_range', List.length_nil] at none_
        omega
      rw [metaPath] at acted
      have others : ∀ path, path ≠ job.metaPath → fs' path = fs path :=
        fun path different => acted.frame different
      rw [last, Job.joined_all] at all
      refine ⟨?_, ?_, ?_, ?_⟩
      · rw [all, fullHash, job.fullHash]
        exact congrArg Except.ok (decide_eq_true rfl)
      · rw [others _ Job.metaPath_ne_outputPath.symm, upto.output, all]
      · intro idx inRange
        rw [others _ Job.partPath_ne_metaPath]
        exact upto.gone idx (by omega)
      · rw [acted.removed]
        exact Fs.without_of_mem rfl

/-- What an assembly has written is the beginning of the source. -/
theorem AssemblePhase.Copied.written (copied : assembly.Copied job fs) (begun : assembly ≠ .creating)
    {content : Bytes} (found : fs job.outputPath = some content) : content <+: job.source := by
  cases assembly with
  | creating => exact absurd rfl begun
  | checking left absorbed =>
      obtain ⟨count, within, _, all, upto⟩ := copied
      cases found.symm.trans upto.output
      rw [all]
      exact Job.joined_isPrefix within
  | opening idx rest absorbed =>
      have at_ : job.At fs idx rest absorbed absorbed := copied
      cases found.symm.trans at_.output
      rw [at_.absorbed]
      exact Job.joined_isPrefix (le_of_lt at_.inRange)
  | reading idx rest absorbed done =>
      obtain ⟨at_, copies⟩ := copied
      cases found.symm.trans at_.output
      rw [at_.absorbed]
      exact Job.joined_append_isPrefix at_.inRange copies
  | writing idx rest absorbed done written unwritten =>
      obtain ⟨at_, copies⟩ := copied
      cases found.symm.trans at_.output
      rw [at_.absorbed, List.append_assoc]
      exact Job.joined_append_isPrefix at_.inRange ((List.prefix_append _ _).trans copies)
  | removing idx rest absorbed done =>
      obtain ⟨at_, whole⟩ := copied
      cases found.symm.trans at_.output
      rw [at_.absorbed]
      exact Job.joined_append_isPrefix at_.inRange (whole ▸ List.prefix_rfl)
  | assembled result absorbed =>
      cases found.symm.trans copied.2.output
      exact List.prefix_rfl

theorem AssembleTurn.begun (turned : AssembleTurn state assembly op answer assembly') :
    assembly' ≠ .creating := by
  intro same
  cases turned with
  | write =>
      rw [AssemblePhase.settle] at same
      split at same <;> cases same
  | _ => cases same

theorem AssembleTurn.creates (turned : AssembleTurn state assembly op answer assembly')
    (first : assembly = .creating) : op = .create state.finalPath := by
  cases turned with
  | create | createFails => rfl
  | _ => cases first

/-- An assembly removes a part that has been copied, removes the record when no part is left, or
writes to the output file. -/
theorem AssembleTurn.changes (turned : AssembleTurn state assembly op answer assembly') :
    (∃ idx rest absorbed copied, assembly = .removing idx rest absorbed copied ∧
      op = .remove (state.partPath idx)) ∨
    (∃ absorbed, assembly = .checking [] absorbed ∧ op = .remove state.metaPath) ∨
    ((∀ path, op.writes path → path = state.finalPath) ∧ ∀ path, op ≠ .remove path) := by
  cases turned with
  | remove | removeFails => exact .inl ⟨_, _, _, _, rfl, rfl⟩
  | finish => exact .inr (.inl ⟨_, rfl, rfl⟩)
  | create | createFails | write | writeFails => exact .inr (.inr ⟨fun _ => id, nofun⟩)
  | found | missing | open_ | openFails | read | readEnd | readFails =>
      exact .inr (.inr ⟨nofun, nofun⟩)

variable {past : Past} {marked entering : Set Nat} {resumed assembling : Prop}

/-- The parts that an assembly removes are accounted for. -/
theorem AssembleTurn.accounts (turned : AssembleTurn state assembly op answer assembly')
    (params : state.params = job.receiver.params) (acted : op.Sem False past.fs answer fs')
    (copied : assembly.Copied job past.fs) (run : resumed)
    (started : assembly ≠ .creating → assembling)
    (inRange : ∀ idx ∈ marked, idx < job.handshake.numChunks)
    (accounts : job.Accounts past marked entering resumed assembling) :
    job.Accounts ⟨fs', past.acked,
        past.consumed ∪ {idx | assembling ∧ op = .remove (job.partPath idx)}⟩
      marked entering resumed (assembling ∨ op = .create job.outputPath) := by
  have metaPath : state.metaPath = job.metaPath := FileReceiver.metaPath_of_params params
  have partPath : ∀ idx, state.partPath idx = job.partPath idx :=
    FileReceiver.partPath_of_params params
  have finalPath : state.finalPath = job.outputPath :=
    congrArg₂ FilePath.mk (congrArg FileReceiver.Params.outputDir params)
      (congrArg FileReceiver.Params.filename params)
  have output : ∀ content, fs' job.outputPath = some content → content <+: job.source :=
    fun content => (turned.copied params acted copied).written turned.begun
  have unconsumed : (∀ idx, op ≠ .remove (job.partPath idx)) →
      past.consumed ∪ {idx | assembling ∧ op = .remove (job.partPath idx)} = past.consumed := by
    intro none_
    ext idx
    simp [none_ idx]
  obtain ⟨idx, rest, absorbed, done, removing, removes⟩ | ⟨absorbed, checking, removes⟩ |
    ⟨only, keeps⟩ := turned.changes
  · have begun : assembling := started (by rw [removing]; nofun)
    rw [partPath] at removes
    subst removes
    have removed : fs' (job.partPath idx) = none := by
      rw [acted.removed]
      exact Fs.without_of_mem rfl
    refine (accounts.consume begun removed (fun path different => acted.frame different) ?_).further
      .inl
    intro other
    refine or_congr_right ⟨fun same => ?_, fun same => ⟨begun, ?_⟩⟩
    · exact (Job.partPath_inj.mp (FsOp.remove.inj same.2)).symm
    · rw [same]
  · rw [metaPath] at removes
    subst removes
    rw [unconsumed fun idx same => Job.partPath_ne_metaPath (FsOp.remove.inj same).symm]
    have removed : fs' job.metaPath = none := by
      rw [acted.removed]
      exact Fs.without_of_mem rfl
    rw [checking] at copied
    obtain ⟨count, within, left, _, upto⟩ := copied
    have last : job.handshake.numChunks ≤ count := by
      have none_ := congrArg List.length left
      rw [List.length_range', List.length_nil] at none_
      omega
    have gone : ∀ idx ∈ marked, past.fs (job.partPath idx) = none := fun idx member =>
      upto.gone idx ((inRange idx member).trans_le last)
    exact (accounts.erase run gone removed fun path different => acted.frame different).further .inl
  · rw [unconsumed fun idx => keeps _]
    have others : ∀ path, path ≠ job.outputPath → fs' path = past.fs path :=
      fun path different => acted.frame fun writes => different ((only path writes).trans finalPath)
    exact accounts.still (others _ Job.metaPath_ne_outputPath)
      (fun idx => others _ Job.partPath_ne_outputPath) output .inl

end Assembly

end BeeSync.Server
