import BeeSync.Server.SessionHistory

/-!
# The checks at the start of a session

The check for an existing file and the recovery of an earlier transfer: what they leave of a
session, whatever their calls answer.
-/

set_option autoImplicit false

namespace BeeSync.Server

open Encoding Interaction

namespace Session

variable [Blake3] {config : Control.Config} {handshake : HandshakeData} {data : Bytes}

section Files

/-- The handler's calls on files. -/
abbrev filesProtocol (config : Control.Config) (data : Bytes) :
    Protocol (FsSig FilePath) History :=
  (protocol config data).comap ControlOp.fs fun _ answer => answer

theorem files_step {op : FsOp FilePath} {before : History → Prop}
    {after : op.Res → History → Prop}
    (step : (protocol config data).Step before (.fs op) after) :
    (filesProtocol config data).Step before op after := by
  intro history inv holds
  obtain ⟨ob, acts⟩ := step history inv holds
  refine ⟨ob, fun answer history' acted => ?_⟩
  obtain ⟨given, same, acted⟩ := acted
  subst same
  exact acts given history' acted

private theorem step_quietFs (parsed : parseHandshake data = .ok handshake)
    {fact : History → Prop} (undisturbed : Undisturbed (outputPath config handshake) fact)
    {op : FsOp FilePath} (quiet : QuietFs (outputPath config handshake) op) :
    (filesProtocol config data).Step fact op fun _ => fact := by
  have quietOp : Quiet (outputPath config handshake) (.fs op) := quiet
  exact files_step ((step_quiet parsed undisturbed quietOp).conseq (fun _ _ holds => holds)
    fun _ _ _ reached => reached.1)

private theorem quietFs_triple {α : Type} (parsed : parseHandshake data = .ok handshake)
    {fact : History → Prop} (undisturbed : Undisturbed (outputPath config handshake) fact)
    {program : FsProg FilePath α} (quiet : program.All (QuietFs (outputPath config handshake))) :
    Triple (filesProtocol config data) fact program fun _ => fact :=
  .uniform (stable_alone _) quiet fun _ quietOp => step_quietFs parsed undisturbed quietOp

/-- A check of the existing file that has failed. -/
private def Unchecked (config : Control.Config) (handshake : HandshakeData) (history : History) :
    Prop :=
  CheckFailed config handshake history ∧ history.written = []

private theorem unchecked_of {before : History} {event : Event ControlSig}
    (stage : Opening config handshake before)
    (fails : History.failures [event] = [outputPath config handshake])
    (silent : History.written [event] = []) :
    Unchecked config handshake (before ++ [event]) := by
  constructor
  · rw [CheckFailed, History.failures_append, fails]
    exact List.mem_append_right _ List.mem_cons_self
  · rw [History.written_append, silent, stage.written, List.append_nil]

/-- What a call of the check leaves. -/
def Checked (config : Control.Config) (handshake : HandshakeData) {α : Type} :
    Except IoError α → History → Prop
  | .ok _ => Opening config handshake
  | .error _ => Unchecked config handshake

private theorem checked_ok {α : Type} {before : History} {event : Event ControlSig} (value : α)
    (stage : Opening config handshake before) (calm : Calm (outputPath config handshake) [event]) :
    Checked config handshake (.ok value : Except IoError α) (before ++ [event]) :=
  Opening.undisturbed before _ stage calm

private theorem step_check {op : FsOp FilePath} {after : op.Res → History → Prop}
    (allowed : ∀ history, (contract config data).ob () (.fs op) history)
    (checks : ∀ before answer, Opening config handshake before →
      after answer (before ++ [⟨.fs op, answer⟩])) :
    (filesProtocol config data).Step (Opening config handshake) op after := by
  apply files_step
  refine (step_call fun history _ => allowed history).conseq (fun _ _ holds => holds) ?_
  intro answer history _ called
  obtain ⟨before, same, stage, _⟩ := called
  rw [same]
  exact checks before answer stage

private theorem step_exists :
    (filesProtocol config data).Step (Opening config handshake)
      (.exists_ (outputPath config handshake)) (Checked config handshake) := by
  refine step_check (fun _ => trivial) ?_
  intro before answer stage
  cases answer with
  | ok found => exact checked_ok found stage ⟨⟨rfl, List.not_mem_nil, rfl⟩, List.not_mem_nil⟩
  | error error => exact unchecked_of stage rfl rfl

private theorem step_openRead :
    (filesProtocol config data).Step (Opening config handshake)
      (.openRead (outputPath config handshake)) (Checked config handshake) := by
  refine step_check (fun _ => trivial) ?_
  intro before answer stage
  cases answer with
  | ok done => exact checked_ok done stage ⟨⟨rfl, List.not_mem_nil, rfl⟩, List.not_mem_nil⟩
  | error error => exact unchecked_of stage rfl rfl

private theorem step_readAt (offset limit : Nat) :
    (filesProtocol config data).Step (Opening config handshake)
      (.readAt (outputPath config handshake) offset limit) (Checked config handshake) := by
  refine step_check (fun _ => trivial) ?_
  intro before answer stage
  cases answer with
  | ok piece => exact checked_ok piece stage ⟨⟨rfl, List.not_mem_nil, rfl⟩, List.not_mem_nil⟩
  | error error => exact unchecked_of stage rfl rfl

private theorem checked_error {α : Type} (error : IoError) :
    Triple (filesProtocol config data) (Unchecked config handshake)
      (.ret (.error error : Except IoError α)) (Checked config handshake) :=
  .ret (stable_alone _) fun _ _ holds => holds

private theorem fileHash_triple (reads : Nat) :
    Triple (filesProtocol config data) (Opening config handshake)
      (fileHash reads (outputPath config handshake)) (Checked config handshake) := by
  have loop : ∀ offset hasher, Triple (filesProtocol config data) (Opening config handshake)
      (fileHashLoop (outputPath config handshake) reads offset hasher)
      (Checked config handshake) := by
    induction reads with
    | zero =>
        intro offset hasher
        have dead : (filesProtocol config data).Step (Opening config handshake) .stuck
            fun _ _ => False := fun _ _ _ => ⟨trivial, nofun⟩
        exact .vis _ (stable_alone _) dead nofun
    | succ reads ih =>
        intro offset hasher
        refine .vis _ (stable_alone _) (step_readAt offset bufferSize) fun answer => ?_
        cases answer with
        | error error => exact checked_error error
        | ok piece =>
            change Triple _ _ (ite _ _ _) _
            split
            · exact .ret (stable_alone _) fun _ _ holds => holds
            · exact ih _ _
  refine .vis _ (stable_alone _) step_openRead fun answer => ?_
  cases answer with
  | error error => exact checked_error error
  | ok _ => exact loop 0 .new

theorem checkExistingFile_triple (reads : Nat) (expectedHash : Digest) :
    Triple (filesProtocol config data) (Opening config handshake)
      (Control.checkExistingFile reads config.outputDir handshake.safeName expectedHash)
      (Checked config handshake) := by
  refine .vis _ (stable_alone _) step_exists fun answer => ?_
  cases answer with
  | error error => exact checked_error error
  | ok found =>
      cases found with
      | false => exact .ret (stable_alone _) fun _ _ holds => holds
      | true =>
          have hashed : Triple (filesProtocol config data) (Opening config handshake)
              ((fileHash reads (outputPath config handshake)).attempt fun existingHash =>
                .ret (.ok (decide (existingHash = expectedHash)))) (Checked config handshake) :=
            .attempt (Checked config handshake) (fileHash_triple reads)
              (fun error => checked_error error) fun _ =>
                .ret (stable_alone _) fun _ _ holds => holds
          exact hashed

end Files

section Resume

/-- The session's own receiver. -/
abbrev own (config : Control.Config) (handshake : HandshakeData) : FileReceiver :=
  handshake.receiver config.outputDir config.tempDir

omit [Blake3] in
theorem auxiliary_ne_outputPath {path : FilePath}
    (auxiliary : FileReceiver.Auxiliary (own config handshake).params path) :
    path ≠ outputPath config handshake := by
  intro same
  subst same
  exact lt_irrefl _ auxiliary

omit [Blake3] in
private theorem quiet_writeFile {path : FilePath} (different : path ≠ outputPath config handshake)
    (content : Bytes) : (writeFile path content).All (QuietFs (outputPath config handshake)) := by
  have written : ∀ offset, (writeAll path offset content).All
      (QuietFs (outputPath config handshake)) := by
    induction content with
    | nil => exact fun _ => trivial
    | cons byte rest ih => exact fun offset => .attempt ⟨trivial, fun _ => trivial⟩ fun _ => ih _
  exact .attempt ⟨different, fun _ => trivial⟩ fun _ => written 0

omit [Blake3] in
private theorem quiet_save (metadata : TransferMetadata) :
    (metadata.save config.tempDir handshake.safeName).All
      (QuietFs (outputPath config handshake)) := by
  have different := auxiliary_ne_outputPath (own config handshake).auxiliary_tmpPath
  refine .attempt (quiet_writeFile different _) fun _ => ⟨trivial, fun renamed => ?_⟩
  cases renamed with
  | ok _ => trivial
  | error error => exact ⟨trivial, fun _ => trivial⟩

omit [Blake3] in
private theorem quiet_purge (numChunks : Nat) :
    (TransferMetadata.purge config.tempDir handshake.safeName numChunks).All
      (QuietFs (outputPath config handshake)) := by
  have loop : ∀ indices, (TransferMetadata.purgeLoop config.tempDir handshake.safeName indices).All
      (QuietFs (outputPath config handshake)) := by
    intro indices
    induction indices with
    | nil => trivial
    | cons i rest ih => exact ⟨trivial, fun _ => ih⟩
  exact ⟨trivial, fun _ => loop _⟩

/-- The parts of a record are being checked: what has been read of them so far. -/
structure Verifying (config : Control.Config) (handshake : HandshakeData) (source : Bytes)
    (metadata : TransferMetadata) (valid : List Nat) (history : History) : Prop where
  written : history.written = []
  checked : ¬ CheckFailed config handshake history
  uncreated : outputPath config handshake ∉ history.creations
  record : ∀ bytes, ((own config handshake).metaPath, bytes) ∈ history.contents ↔ bytes = source
  valid : ∀ idx, idx ∈ valid ↔ ∃ part,
    ((own config handshake).partPath idx, part) ∈ history.contents ∧
      metadata.chunkHashes.get? idx = some (calcHash part)

theorem Verifying.foreignPart_iff {source : Bytes} {metadata : TransferMetadata}
    {valid : List Nat} {history : History} (parsed : TransferMetadata.fromBytes source = .ok metadata)
    (verifying : Verifying config handshake source metadata valid history) :
    ForeignPart config handshake history ↔ ∃ idx ∈ valid, handshake.numChunks ≤ idx := by
  constructor
  · intro foreign
    obtain ⟨bytes, metadata', idx, part, record, parsed', read, listed, outside⟩ := foreign
    have same := (verifying.record bytes).mp record
    subst same
    cases parsed.symm.trans parsed'
    exact ⟨idx, (verifying.valid idx).mpr ⟨part, read, listed⟩, outside⟩
  · intro outside
    obtain ⟨idx, member, outside⟩ := outside
    obtain ⟨part, read, listed⟩ := (verifying.valid idx).mp member
    exact ⟨source, metadata, idx, part, (verifying.record source).mpr rfl, parsed, read, listed,
      outside⟩

/-- What is known of the session once the record has been checked. -/
structure Resumed (config : Control.Config) (handshake : HandshakeData) (listed : List Nat)
    (history : History) : Prop where
  written : history.written = []
  checked : ¬ CheckFailed config handshake history
  uncreated : outputPath config handshake ∉ history.creations
  foreign : ForeignPart config handshake history ↔ ∃ idx ∈ listed, handshake.numChunks ≤ idx

theorem Resumed.undisturbed (listed : List Nat) :
    Undisturbed (outputPath config handshake) (Resumed config handshake listed) := by
  intro history run resumed calm
  constructor
  · rw [History.written_append, calm.written, List.append_nil, resumed.written]
  · simpa [CheckFailed, History.failures_append, calm.failures] using resumed.checked
  · simpa [History.creations_append, calm.creations] using resumed.uncreated
  · rw [ForeignPart, History.contents_append, calm.contents, List.append_nil]
    exact resumed.foreign

theorem Resumed.stage {listed : List Nat} {history : History}
    (resumed : Resumed config handshake listed history)
    (inside : ¬ ∃ idx ∈ listed, handshake.numChunks ≤ idx) :
    Stage config handshake [] history where
  written := resumed.written
  checked := resumed.checked
  native := fun foreign => inside (resumed.foreign.mp foreign)
  uncreated := resumed.uncreated

theorem Resumed.congr {listed listed' : List Nat} {history : History}
    (resumed : Resumed config handshake listed history)
    (same : ∀ idx, idx ∈ listed' ↔ idx ∈ listed) : Resumed config handshake listed' history where
  written := resumed.written
  checked := resumed.checked
  uncreated := resumed.uncreated
  foreign := by simpa only [same] using resumed.foreign

theorem Verifying.resumed {source : Bytes} {metadata : TransferMetadata} {valid : List Nat}
    {history : History} (parsed : TransferMetadata.fromBytes source = .ok metadata)
    (verifying : Verifying config handshake source metadata valid history) :
    Resumed config handshake valid history :=
  ⟨verifying.written, verifying.checked, verifying.uncreated, verifying.foreignPart_iff parsed⟩

theorem Verifying.undisturbed (source : Bytes) (metadata : TransferMetadata) (valid : List Nat) :
    Undisturbed (outputPath config handshake)
      (Verifying config handshake source metadata valid) := by
  intro history run verifying calm
  have contents : (history ++ run).contents = history.contents := by
    rw [History.contents_append, calm.contents, List.append_nil]
  constructor
  · rw [History.written_append, calm.written, List.append_nil, verifying.written]
  · simpa [CheckFailed, History.failures_append, calm.failures] using verifying.checked
  · simpa [History.creations_append, calm.creations] using verifying.uncreated
  · rw [contents]
    exact verifying.record
  · rw [contents]
    exact verifying.valid

theorem Verifying.read {source : Bytes} {metadata : TransferMetadata} {valid : List Nat}
    {history : History} (verifying : Verifying config handshake source metadata valid history)
    (idx : Nat) {expected : Digest} (listed : metadata.chunkHashes.get? idx = some expected)
    (part : Bytes) :
    Verifying config handshake source metadata
      (if calcHash part = expected then valid ++ [idx] else valid)
      (history ++ [⟨.fs (.readFile ((own config handshake).partPath idx)), .ok part⟩]) := by
  have contents : ∀ entry, entry ∈ History.contents (history ++
      [⟨.fs (.readFile ((own config handshake).partPath idx)), .ok part⟩]) ↔
        entry ∈ history.contents ∨ entry = ((own config handshake).partPath idx, part) := by
    intro entry
    rw [History.contents_append, List.mem_append]
    exact or_congr_right List.mem_singleton
  obtain ⟨written, checked, uncreated, record, validSoFar⟩ := verifying
  constructor
  · rw [History.written_append, written]
    rfl
  · simpa [CheckFailed, History.failures_append, History.failures] using checked
  · simpa [History.creations_append, History.creations] using uncreated
  · intro bytes
    rw [contents, record]
    refine or_iff_left fun same => ?_
    exact TransferMetadata.partPath_ne_metaPath idx (congrArg Prod.fst same).symm
  · intro j
    have newly : (∃ found, ((own config handshake).partPath j, found) =
        ((own config handshake).partPath idx, part) ∧
          metadata.chunkHashes.get? j = some (calcHash found)) ↔
        j = idx ∧ calcHash part = expected := by
      constructor
      · intro found
        obtain ⟨bytes, same, hashed⟩ := found
        have index := TransferMetadata.partPath_injective (congrArg Prod.fst same)
        cases congrArg Prod.snd same
        subst index
        rw [listed] at hashed
        exact ⟨rfl, (Option.some.inj hashed).symm⟩
      · intro found
        obtain ⟨index, hashed⟩ := found
        subst index
        exact ⟨part, rfl, by rw [listed, hashed]⟩
    simp only [contents, or_and_right, exists_or, ← validSoFar, newly]
    split <;> simp [*]

variable {source : Bytes} {metadata : TransferMetadata}

private theorem verifyPart_triple (valid : List Nat) (idx : Nat) :
    Triple (filesProtocol config data) (Verifying config handshake source metadata valid)
      (metadata.verifyPart idx config.tempDir handshake.safeName) fun found =>
        Verifying config handshake source metadata (if found then valid ++ [idx] else valid) := by
  rw [TransferMetadata.verifyPart]
  cases listed : metadata.chunkHashes.get? idx with
  | none => exact .ret (stable_alone _) fun _ _ holds => holds
  | some expected =>
      have read : (filesProtocol config data).Step
          (Verifying config handshake source metadata valid)
          (.readFile ((own config handshake).partPath idx)) fun
            | .ok part => Verifying config handshake source metadata
                (if calcHash part = expected then valid ++ [idx] else valid)
            | .error _ => Verifying config handshake source metadata valid := by
        have shows : (protocol config data).Step
            (Verifying config handshake source metadata valid)
            (.fs (.readFile ((own config handshake).partPath idx))) _ :=
          step_call fun _ _ => trivial
        refine files_step (shows.conseq (fun _ _ holds => holds) ?_)
        intro answer history _ called
        obtain ⟨before, same, verifying, _⟩ := called
        subst same
        cases answer with
        | ok part => exact verifying.read idx listed part
        | error error =>
            exact Verifying.undisturbed source metadata valid before _ verifying
              ⟨⟨rfl, List.not_mem_nil, rfl⟩, List.not_mem_nil⟩
      refine .step _ (stable_alone _) read fun answer => ?_
      cases answer with
      | ok part =>
          refine .ret (stable_alone _) fun _ _ holds => ?_
          simpa using holds
      | error error => exact .ret (stable_alone _) fun _ _ holds => holds

/-- What a lock shows of the receiver of the session. -/
def Shown (config : Control.Config) (handshake : HandshakeData) (state : FileReceiver) :
    Prop :=
  state.params = (own config handshake).params

private theorem verifyParts_triple (parsed : parseHandshake data = .ok handshake)
    {state : FileReceiver} (shown : Shown config handshake state) (unchecked valid : List Nat)
    (corruptCount : Nat) :
    Triple (filesProtocol config data) (Verifying config handshake source metadata valid)
      (state.verifyParts metadata unchecked valid corruptCount) fun result =>
        Verifying config handshake source metadata result.1 := by
  have partsDir : state.partsDir = config.tempDir := congrArg FileReceiver.Params.partsDir shown
  have filename : state.filename = handshake.safeName :=
    congrArg FileReceiver.Params.filename shown
  induction unchecked generalizing valid corruptCount with
  | nil => exact .ret (stable_alone _) fun _ _ holds => holds
  | cons idx rest ih =>
      rw [FileReceiver.verifyParts, partsDir, filename]
      refine .bind _ (verifyPart_triple valid idx) fun found => ?_
      cases found with
      | true => exact ih (valid ++ [idx]) corruptCount
      | false =>
          have removed : (filesProtocol config data).Step
              (Verifying config handshake source metadata valid) (.remove (state.partPath idx))
              fun _ => Verifying config handshake source metadata valid :=
            step_quietFs parsed (Verifying.undisturbed source metadata valid) trivial
          exact .step _ (stable_alone _) removed fun _ => ih valid (corruptCount + 1)

/-- Without a part that has been read there is no foreign one. -/
private theorem native_of_contents {history : History}
    (records : ∀ entry ∈ history.contents, entry.1 = (own config handshake).metaPath) :
    ¬ ForeignPart config handshake history := by
  intro foreign
  obtain ⟨_, _, idx, part, _, _, read, _⟩ := foreign
  exact TransferMetadata.partPath_ne_metaPath idx (records _ read)

private theorem step_readRecord :
    (filesProtocol config data).Step (Opening config handshake)
      (.readFile (own config handshake).metaPath) fun
        | .ok source => fun history => Stage config handshake [] history ∧
            ∀ metadata, Verifying config handshake source metadata [] history
        | .error _ => Stage config handshake [] := by
  have shows : (protocol config data).Step (Opening config handshake)
      (.fs (.readFile (own config handshake).metaPath)) _ := step_call fun _ _ => trivial
  refine files_step (shows.conseq (fun _ _ holds => holds) ?_)
  intro answer history _ called
  obtain ⟨before, same, opening, _⟩ := called
  subst same
  cases answer with
  | error error =>
      exact (Opening.undisturbed before _ opening
        ⟨⟨rfl, List.not_mem_nil, rfl⟩, List.not_mem_nil⟩).toStage
  | ok source =>
      have contents : (before ++ [⟨.fs (.readFile (own config handshake).metaPath), .ok source⟩] :
          History).contents = [((own config handshake).metaPath, source)] := by
        rw [History.contents_append, opening.unread]
        rfl
      have written : (before ++ [⟨.fs (.readFile (own config handshake).metaPath), .ok source⟩] :
          History).written = [] := by
        rw [History.written_append, opening.written]
        rfl
      have checked := opening.checked
      have uncreated := opening.uncreated
      have stage : Stage config handshake []
          (before ++ [⟨.fs (.readFile (own config handshake).metaPath), .ok source⟩]) := by
        refine ⟨⟨written, ?_, native_of_contents ?_⟩, ?_⟩
        · simpa [CheckFailed, History.failures_append, History.failures] using checked
        · simp [contents]
        · simpa [History.creations_append, History.creations] using uncreated
      refine ⟨stage, fun metadata => ⟨written, stage.checked, stage.uncreated, ?_, ?_⟩⟩
      · simp [contents]
      · intro idx
        have different : (own config handshake).partPath idx ≠ (own config handshake).metaPath :=
          TransferMetadata.partPath_ne_metaPath idx
        simp [contents, different]

/-- What loading the record leaves. -/
private def Loaded (config : Control.Config) (handshake : HandshakeData) :
    Except TransferMetadata.LoadError (Option TransferMetadata) → History → Prop
  | .ok (some metadata), history => ∃ source,
      TransferMetadata.fromBytes source = .ok metadata ∧
        Verifying config handshake source metadata [] history
  | _, history => Stage config handshake [] history

private theorem load_triple (parsed : parseHandshake data = .ok handshake) :
    Triple (filesProtocol config data) (Opening config handshake)
      (TransferMetadata.load config.tempDir handshake.safeName) (Loaded config handshake) := by
  have different := auxiliary_ne_outputPath (own config handshake).auxiliary_metaPath
  have absent : Triple (filesProtocol config data) (Opening config handshake)
      (.ret (.ok none)) (Loaded config handshake) :=
    .ret (stable_alone _) fun _ _ holds => holds.toStage
  have looked : (filesProtocol config data).Step (Opening config handshake)
      (.exists_ (own config handshake).metaPath) fun _ => Opening config handshake :=
    step_quietFs parsed Opening.undisturbed different
  refine .step _ (stable_alone _) looked fun answer => ?_
  cases answer with
  | error error => exact absent
  | ok found =>
      cases found with
      | false => exact absent
      | true =>
          refine .step _ (stable_alone _) step_readRecord fun answer => ?_
          cases answer with
          | error error => exact .ret (stable_alone _) fun _ _ holds => holds
          | ok source =>
              dsimp only [Prog.ret_bind]
              cases format : TransferMetadata.fromBytes source with
              | error error => exact .ret (stable_alone _) fun _ _ holds => holds.1
              | ok metadata =>
                  exact .ret (stable_alone _) fun _ _ holds => ⟨source, format, holds.2 metadata⟩

variable [KeyOrder]

/-- What the recovery of an earlier transfer leaves. -/
private def Recovered (config : Control.Config) (handshake : HandshakeData) :
    Option TransferMetadata → History → Prop
  | some metadata => Resumed config handshake metadata.chunkHashes.keys
  | none => Stage config handshake []

/-- Checking all parts of a record: the valid entries decide whether one is foreign. -/
private theorem checkParts_triple (parsed : parseHandshake data = .ok handshake)
    {state : FileReceiver} (shown : Shown config handshake state)
    (format : TransferMetadata.fromBytes source = .ok metadata) :
    Triple (filesProtocol config data) (Verifying config handshake source metadata [])
      (state.verifyParts metadata (KeyOrder.keys metadata.chunkHashes) [] 0) fun result history =>
        Resumed config handshake result.1 history ∧
          (∀ idx ∈ result.1, idx ∈ metadata.chunkHashes.keys) ∧
            (¬ 0 < result.2 → ∀ idx ∈ metadata.chunkHashes.keys, idx ∈ result.1) := by
  have keys : ∀ idx, idx ∈ KeyOrder.keys metadata.chunkHashes ↔
      idx ∈ metadata.chunkHashes.keys := fun idx =>
    (KeyOrder.perm metadata.chunkHashes).mem_iff
  have checked : Triple (filesProtocol config data)
      (Verifying config handshake source metadata []) _ _ :=
    (verifyParts_triple parsed shown (KeyOrder.keys metadata.chunkHashes) [] 0).yields
      (state.verifyParts_yields metadata (KeyOrder.keys metadata.chunkHashes) [] 0)
  refine checked.conseq (fun _ _ holds => holds) fun result history _ checked => ?_
  obtain ⟨verifying, among, _, all⟩ := checked
  refine ⟨verifying.resumed format, fun idx member => ?_, fun clean idx member => ?_⟩
  · exact (keys idx).mp ((among idx member).resolve_left List.not_mem_nil)
  · exact all (Nat.eq_zero_of_not_pos clean) idx (.inr ((keys idx).mpr member))

private theorem loadOrPurge_triple (parsed : parseHandshake data = .ok handshake)
    {state : FileReceiver} (shown : Shown config handshake state) :
    Triple (filesProtocol config data) (Opening config handshake) state.loadOrPurgeMetadata
      (Recovered config handshake) := by
  have partsDir : state.partsDir = config.tempDir := congrArg FileReceiver.Params.partsDir shown
  have filename : state.filename = handshake.safeName :=
    congrArg FileReceiver.Params.filename shown
  have purged : Triple (filesProtocol config data) (Stage config handshake [])
      ((TransferMetadata.purge config.tempDir handshake.safeName state.numChunks).bind fun _ =>
        .ret none) (Recovered config handshake) :=
    .bind _ (quietFs_triple parsed (Stage.undisturbed []) (quiet_purge _)) fun _ =>
      .ret (stable_alone _) fun _ _ holds => holds
  rw [FileReceiver.loadOrPurgeMetadata, partsDir, filename]
  refine .bind _ (load_triple parsed) fun loaded => ?_
  cases loaded with
  | error error => exact purged
  | ok record =>
      cases record with
      | none => exact .ret (stable_alone _) fun _ _ holds => holds
      | some metadata =>
          intro history inv loaded
          obtain ⟨source, format, verifying⟩ := loaded
          change wp _ (ite _ _ _) _ _
          split
          · refine Triple.bind _ (checkParts_triple parsed shown format) (fun result => ?_)
              history inv verifying
            intro history' inv' checked
            obtain ⟨resumed, listed, all⟩ := checked
            change wp _ (ite _ _ _) _ _
            split
            case isTrue corrupt =>
              split
              case isTrue nothing =>
                refine purged history' inv' (resumed.stage ?_)
                simp [List.isEmpty_iff.mp nothing]
              case isFalse =>
                let clean := state.cleanMetadata metadata result.1
                have kept : Resumed config handshake clean.chunkHashes.keys history' :=
                  resumed.congr (FileReceiver.mem_keys_cleanMetadata listed)
                have saved : Triple (filesProtocol config data)
                    (Resumed config handshake clean.chunkHashes.keys)
                    (clean.save config.tempDir handshake.safeName) _ :=
                  quietFs_triple parsed (Resumed.undisturbed _) (quiet_save clean)
                refine Triple.bind _ saved (fun _ => ?_) history' inv' kept
                exact .ret (stable_alone _) fun _ _ holds => holds
            case isFalse clean =>
              refine Triple.ret (stable_alone _) (fun _ _ holds => holds) history' inv' ?_
              exact resumed.congr fun idx => ⟨all clean idx, listed idx⟩
          · refine purged history inv ((verifying.resumed format).stage ?_)
            simp

end Resume

section Receiver

variable {receiver : ReceiverId} {fact : History → Prop}

private theorem created_kept {op : ControlOp} {before after : History} {answer : op.Res}
    (acted : (protocol config data).sem op before answer after)
    (created : Created config handshake receiver before) :
    Created config handshake receiver after := by
  obtain ⟨⟨same, _⟩, _⟩ := acted
  rw [same]
  exact List.mem_append_left _ created

theorem step_lock (parsed : parseHandshake data = .ok handshake)
    (undisturbed : Undisturbed (outputPath config handshake) fact)
    (created : ∀ history, fact history → Created config handshake receiver history) :
    (protocol config data).Step fact (.lock receiver) fun state history =>
      (Shown config handshake state ∧ fact history) ∧
        ∃ before, history = before ++ [⟨.lock receiver, state⟩] ∧ fact before := by
  have quiet : Quiet (outputPath config handshake) (.lock receiver) := trivial
  refine (step_quiet parsed undisturbed quiet).conseq (fun _ _ holds => holds) ?_
  intro state history _ reached
  obtain ⟨known, before, same, known', _, shows⟩ := reached
  exact ⟨⟨shows _ (created before known'), known⟩, before, same, known'⟩

theorem step_unlock (parsed : parseHandshake data = .ok handshake)
    (undisturbed : Undisturbed (outputPath config handshake) fact) (state : FileReceiver) :
    (protocol config data).Step fact (.unlock receiver state) fun _ history => fact history ∧
      ∃ before, history = before ++ [⟨.unlock receiver state, ()⟩] ∧ fact before := by
  have quiet : Quiet (outputPath config handshake) (.unlock receiver state) := trivial
  refine (step_quiet parsed undisturbed quiet).conseq (fun _ _ holds => holds) ?_
  intro answer history _ reached
  obtain ⟨known, before, same, known', _⟩ := reached
  exact ⟨known, before, same, known'⟩

/-- Every chunk was marked when the receiver was last left. -/
def LeftComplete (receiver : ReceiverId) (history : History) : Prop :=
  ∃ state, ⟨.unlock receiver state, ()⟩ ∈ history ∧ state.isComplete = true

/-- What the resume section leaves. -/
private def ResumeEnds (config : Control.Config) (handshake : HandshakeData)
    (receiver : ReceiverId) : Option Bool → History → Prop
  | none, history => ForeignPart config handshake history ∧ history.written = []
  | some complete, history =>
      (Stage config handshake [] history ∧ Created config handshake receiver history) ∧
        (complete = true → LeftComplete receiver history)

theorem resume_triple [KeyOrder] (parsed : parseHandshake data = .ok handshake) :
    Triple (protocol config data)
      (fun history => Opening config handshake history ∧
        Created config handshake receiver history)
      (Control.resume receiver) (ResumeEnds config handshake receiver) := by
  refine .step _ (stable_alone _) (step_lock parsed
    (Opening.undisturbed.and (Created.undisturbed receiver)) fun _ holds => holds.2) fun state => ?_
  intro history inv holds
  obtain ⟨⟨shown, holds⟩, _⟩ := holds
  have numChunks : state.numChunks = handshake.numChunks :=
    congrArg FileReceiver.Params.numChunks shown
  have loaded : Triple (protocol config data) _ (Control.onFs state.loadOrPurgeMetadata) _ :=
    (Triple.embed (loadOrPurge_triple parsed shown)).frame
      (stable_alone (Created config handshake receiver)) fun _ _ _ _ acted => created_kept acted
  refine Triple.bind _ loaded (fun record => ?_) history inv holds
  cases record with
  | none =>
      refine .step _ (stable_alone _) (step_unlock parsed
        ((Stage.undisturbed []).and (Created.undisturbed receiver)) state) fun _ =>
          .ret (stable_alone _) ?_
      intro history' _ left
      exact ⟨left.1, fun complete => by cases complete⟩
  | some metadata =>
      have keys : ∀ idx, idx ∈ KeyOrder.keys metadata.chunkHashes ↔
          idx ∈ metadata.chunkHashes.keys := fun idx =>
        (KeyOrder.perm metadata.chunkHashes).mem_iff
      have outside : state.markAll (KeyOrder.keys metadata.chunkHashes) = none ↔
          ∃ idx ∈ metadata.chunkHashes.keys, handshake.numChunks ≤ idx := by
        simp only [FileReceiver.markAll_eq_none_iff, keys, numChunks]
      dsimp only
      cases all : state.markAll (KeyOrder.keys metadata.chunkHashes) with
      | none =>
          refine .ret (stable_alone _) fun history' _ holds => ?_
          obtain ⟨resumed, _⟩ := holds
          exact ⟨resumed.foreign.mpr (outside.mp all), resumed.written⟩
      | some marked =>
          have inside : ¬ ∃ idx ∈ metadata.chunkHashes.keys, handshake.numChunks ≤ idx := by
            rw [← outside, all]
            exact Option.some_ne_none marked
          have leaves : Triple (protocol config data)
              (fun history => Stage config handshake [] history ∧
                Created config handshake receiver history)
              ((Control.call (.unlock receiver (marked.setMetadata metadata))).bind fun _ =>
                .ret (some (decide (marked.receivedChunks.count true = marked.numChunks))))
              (ResumeEnds config handshake receiver) := by
            refine .step _ (stable_alone _) (step_unlock parsed ((Stage.undisturbed []).and
              (Created.undisturbed receiver)) _) fun _ => .ret (stable_alone _) ?_
            intro history' _ left
            obtain ⟨known, before, same, _⟩ := left
            refine ⟨known, fun complete => ⟨marked.setMetadata metadata, ?_, ?_⟩⟩
            · rw [same]
              exact List.mem_append_right _ List.mem_cons_self
            · have complete := FileReceiver.isComplete_of_count (of_decide_eq_true complete)
              exact complete
          exact leaves.conseq (fun history' _ holds => ⟨holds.1.stage inside, holds.2⟩)
            fun _ _ _ left => left

end Receiver

end Session

end BeeSync.Server
