import BeeSync.Server.FrameRules
import BeeSync.Server.ReceiverStates

/-!
# What an acknowledgment says

A chunk is recorded in memory before the record is saved. Where saving fails the client is
told that the chunk was refused, while the receiver goes on as if it had arrived.
-/

set_option autoImplicit false

namespace BeeSync.Server

open Encoding Interaction

namespace TransferMetadata

/-- How the saving of a record ends. -/
def SaveEnds (files : Fs FilePath) (partsDir filename : Bytes) (metadata : TransferMetadata) :
    Except IoError Unit → Watched FilePath → Prop
  | .ok _, world => world = ⟨saved files partsDir filename metadata, none⟩
  | .error _, world => ∃ call : FsOp FilePath, call.writes (tmpPath partsDir filename) ∧
      world.failed = some call

theorem ensures_saveEnds (metadata : TransferMetadata) (partsDir filename : Bytes)
    (files : Fs FilePath) :
    Ensures FsOp.Watch (metadata.save partsDir filename)
      (SaveEnds files partsDir filename metadata) ⟨files, none⟩ := by
  have written : Ensures FsOp.Watch (writeFile (tmpPath partsDir filename) metadata.toBytes)
      (Written (tmpPath partsDir filename) files none metadata.toBytes) ⟨files, none⟩ :=
    .written metadata.toBytes
  apply written.attempt
  · intro error world reached
    obtain ⟨call, writes, failed⟩ := reached
    exact ⟨call, (writes _).mpr rfl, failed⟩
  · intro _ world reached
    have moving : (FsOp.rename (tmpPath partsDir filename) (metaPath partsDir filename)).Bounded := trivial
    have writes : (FsOp.rename (tmpPath partsDir filename) (metaPath partsDir filename)).writes
        (tmpPath partsDir filename) := Or.inl rfl
    rw [reached]
    apply Ensures.watched moving
    · intro answer files' acted
      obtain ⟨content, found, answered, same⟩ | ⟨missing, _⟩ := acted
      · rw [Function.update_self] at found
        cases found
        rw [answered, same, Function.update_idem]
        exact rfl
      · rw [Function.update_self] at missing
        cases missing.resolve_right id
    · intro answer errs
      obtain ⟨error, rfl⟩ := errs
      have removing : (FsOp.remove (tmpPath partsDir filename)).Bounded := trivial
      apply Ensures.watched removing
      · exact fun _ _ _ => ⟨_, writes, rfl⟩
      · exact fun _ _ => ⟨_, writes, rfl⟩

end TransferMetadata

section

variable [Blake3]

theorem FileReceiver.ensures_recordChunk (state : FileReceiver) (chunk : ChunkInHand)
    (files : Fs FilePath) :
    Ensures FsOp.Watch (state.recordChunk chunk.idx (calcHash chunk.data))
      (fun result world => result.1 = state.recorded chunk ∧
        TransferMetadata.SaveEnds files state.partsDir state.filename
          (state.recorded chunk).metadata result.2 world)
      ⟨files, none⟩ := by
  refine Ensures.bind (TransferMetadata.ensures_saveEnds _ _ _ files) ?_
  exact fun _ _ ends => ⟨rfl, ends⟩

/-- How the processing of a frame ends: the receiver and the files afterwards, and what has
been sent. -/
inductive FrameEnds (fs : Fs FilePath) (state : FileReceiver) (data : Bytes) :
    FileReceiver → Watched FilePath → List Bytes → Prop where
  | refused {sent : List Bytes} (negative : sent ≠ [[Chunk.ackOk]]) :
      FrameEnds fs state data state ⟨fs, none⟩ sent
  | unwritten {chunk : ChunkInHand} {call : FsOp FilePath} {files : Fs FilePath}
      (carries : Carries state data chunk)
      (writes : ∀ changed, call.writes changed ↔ changed = state.partPath chunk.idx) :
      FrameEnds fs state data state.setFailed ⟨files, some call⟩ [[Chunk.ackHashMismatch]]
  | unsaved {chunk : ChunkInHand} {call : FsOp FilePath} {files : Fs FilePath}
      (carries : Carries state data chunk) (writes : call.writes state.tmpPath) :
      FrameEnds fs state data (state.recorded chunk).setFailed ⟨files, some call⟩
        [[Chunk.ackHashMismatch]]
  | taken {chunk : ChunkInHand} (carries : Carries state data chunk) :
      FrameEnds fs state data (state.recorded chunk)
        ⟨TransferMetadata.saved
          (Function.update fs (state.partPath chunk.idx) (some chunk.data))
          state.partsDir state.filename (state.recorded chunk).metadata, none⟩ [[Chunk.ackOk]]

namespace Data

variable {Owner : Type} {owner : Owner} {store : Store Owner} {receiver : ReceiverId}
  {state : FileReceiver} {data : Bytes} {chunk : ChunkInHand}

/-- The world after a frame. -/
def EndsIn (store : Store Owner) (receiver : ReceiverId) (state : FileReceiver) (data : Bytes)
    (sent : List Bytes) (world : Traced Owner) : Prop :=
  ∃ after watched, FrameEnds store.fs state data after watched sent ∧
    world.store = (store.withFs watched.files).leave receiver after ∧
      world.failed = watched.failed

theorem endsIn_refused (ready : store.Ready receiver state) {sent : List Bytes}
    (negative : sent ≠ [[Chunk.ackOk]]) {sent' : List Bytes} :
    EndsIn store receiver state data sent ⟨store, none, sent'⟩ :=
  ⟨state, ⟨store.fs, none⟩, .refused negative, ready.kept.symm, rfl⟩

/-- A chunk whose hash is right is written, and recorded if that went well. -/
theorem ensures_storing (ready : store.Ready receiver state) (carries : Carries state data chunk) :
    Ensures (Traced.sem owner) (storing receiver chunk (state.partPath chunk.idx))
      (fun ack world => world.sent = [] ∧ (world.failed = none → ack = Chunk.ackOk) ∧
        EndsIn store receiver state data [[ack]] world) ⟨store, none, []⟩ := by
  have written : Ensures FsOp.Watch (writeFile (state.partPath chunk.idx) chunk.data)
      (Written (state.partPath chunk.idx) store.fs none chunk.data) ⟨store.fs, none⟩ :=
    .written chunk.data
  refine Ensures.bind (Traced.ensures_onFs written) ?_
  intro result world reached
  obtain ⟨watched, reached, rfl⟩ := reached
  have ready' : (store.withFs watched.files).Ready receiver state := ⟨ready.free, ready.found⟩
  cases result with
  | error error =>
      obtain ⟨call, writes, failed⟩ := reached
      apply Traced.ensures_lock ready'
      apply Traced.ensures_unlock ready'
      refine ⟨rfl, fun fine => ?_, _, ⟨watched.files, some call⟩, .unwritten carries writes, rfl, failed⟩
      exact nomatch failed.symm.trans fine
  | ok _ =>
      cases reached
      apply Traced.ensures_lock ready'
      refine Ensures.bind (Traced.ensures_onFs (state.ensures_recordChunk chunk _)) ?_
      intro (after, result) world reached
      obtain ⟨watched, ⟨same, ends⟩, rfl⟩ := reached
      cases same
      have ready'' : (store.withFs watched.files).Ready receiver state := ⟨ready.free, ready.found⟩
      cases result with
      | ok _ =>
          cases ends
          apply Traced.ensures_unlock ready''
          exact ⟨rfl, fun _ => rfl, _, _, .taken carries, rfl, rfl⟩
      | error error =>
          obtain ⟨call, writes, failed⟩ := ends
          apply Traced.ensures_unlock ready''
          refine ⟨rfl, fun fine => ?_, _, ⟨watched.files, some call⟩, .unsaved carries writes, rfl, failed⟩
          exact nomatch failed.symm.trans fine

/-- A chunk of the right size with its hash is refused only where a call on the files fails. -/
theorem ensures_accepted (ready : store.Ready receiver state) (carries : Carries state data chunk) :
    Ensures (Traced.sem owner) (processChunk receiver data)
      (fun _ world => (world.failed = none → world.sent = [[Chunk.ackOk]]) ∧
        EndsIn store receiver state data world.sent world) ⟨store, none, []⟩ := by
  obtain ⟨header, parsed, index, expected, long, bytes, hash⟩ := carries.header
  rw [index] at expected
  rw [processChunk, parsed]
  simp only [if_neg (not_lt.mpr long), index]
  apply Traced.ensures_look ready
  simp only [expected, ne_eq, not_true_eq_false, if_false, ← bytes]
  rw [verifyAndWriteChunk, if_pos hash]
  have stores := @ensures_storing _ Owner owner store receiver state data _ ready carries
  refine Ensures.bind (Traced.ensures_look ready stores) ?_
  intro ack world reached
  obtain ⟨nothing, accepted, ends⟩ := reached
  apply Traced.ensures_sendFrame
  intro answer
  rw [nothing]
  exact ⟨fun fine => by rw [accepted fine, List.nil_append], ends⟩

theorem ensures_processChunk (ready : store.Ready receiver state) (data : Bytes) :
    Ensures (Traced.sem owner) (processChunk receiver data)
      (fun _ world => EndsIn store receiver state data world.sent world) ⟨store, none, []⟩ := by
  have silent : EndsIn store receiver state data [] ⟨store, none, []⟩ :=
    endsIn_refused ready (by decide)
  have negative : EndsIn store receiver state data [[Chunk.ackHashMismatch]]
      ⟨store, none, [[Chunk.ackHashMismatch]]⟩ := endsIn_refused ready (by decide)
  by_cases valid : ∃ chunk, Carries state data chunk
  case pos =>
    obtain ⟨chunk, carries⟩ := valid
    exact (ensures_accepted ready carries).mono fun _ _ reached => reached.2
  rw [processChunk]
  cases parsed : parseChunkHeader data with
  | none => exact silent
  | some header =>
      dsimp only
      split
      · exact silent
      · rename_i long
        apply Traced.ensures_look ready
        cases sized : expectedChunkSize state.fileSize state.chunkSize state.numChunks
            header.chunkIndex with
        | none => exact silent
        | some expected =>
            dsimp only
            split
            · exact silent
            · rename_i same
              rw [← not_not.mp same] at sized
              rw [verifyAndWriteChunk]
              split
              case isFalse =>
                apply Traced.ensures_sendFrame
                exact fun _ => negative
              case isTrue verified =>
                exact absurd ⟨⟨header.chunkIndex, field data Chunk.headerSize header.chunkSize⟩,
                  header, parsed, rfl, sized, not_lt.mp long, rfl, verified⟩ valid

end Data

/-- A chunk has been taken in: its index and no other is marked anew, with its hash, and part
and record are on disk. -/
structure TakenIn (state after : FileReceiver) (fs : Fs FilePath) (chunk : ChunkInHand) :
    Prop where
  marked : ∀ index, after.Received index ↔ state.Received index ∨ index = chunk.idx
  hash : after.metadata.chunkHashes.get? chunk.idx = some (calcHash chunk.data)
  others : ∀ index ≠ chunk.idx,
    after.metadata.chunkHashes.get? index = state.metadata.chunkHashes.get? index
  part : fs (state.partPath chunk.idx) = some chunk.data
  saved : Stored fs state after.metadata

/-- The chunk of an acknowledged frame has been taken in, and a frame that is not acknowledged
has changed nothing but the flag of failure. -/
structure AckTruthful (state after : FileReceiver) (fs : Fs FilePath) (data : Bytes)
    (sent : List Bytes) : Prop where
  acknowledged : sent = [[Chunk.ackOk]] →
    ∃ chunk, Carries state data chunk ∧ TakenIn state after fs chunk
  refused : sent ≠ [[Chunk.ackOk]] → after = state ∨ after = state.setFailed

namespace FileReceiver

variable {state : FileReceiver} {chunk : ChunkInHand}

/-- The chunk is marked and recorded with its hash already. -/
def OnRecord (state : FileReceiver) (chunk : ChunkInHand) : Prop :=
  state.Received chunk.idx ∧
    state.metadata.chunkHashes.get? chunk.idx = some (calcHash chunk.data)

/-- Recording changes nothing for a chunk that is on record already, and for no other. -/
theorem onRecord_recorded (inRange : chunk.idx < state.numChunks) :
    (state.recorded chunk).OnRecord chunk :=
  ⟨received_mark_self inRange, OrderedMap.get?_insert_self ..⟩

theorem OnRecord.recorded_eq (onRecord : state.OnRecord chunk) : state.recorded chunk = state := by
  obtain ⟨received, recorded⟩ := onRecord
  have flags : state.receivedChunks.set chunk.idx true = state.receivedChunks := by
    obtain ⟨inside, marked⟩ := List.getElem?_eq_some_iff.mp received
    rw [← marked, List.set_getElem_self]
  have hashes : state.metadata.chunkHashes.insert chunk.idx (calcHash chunk.data) =
      state.metadata.chunkHashes := by
    apply OrderedMap.ext_get?
    intro index
    by_cases same : index = chunk.idx
    · rw [same, OrderedMap.get?_insert_self, recorded]
    · exact OrderedMap.get?_insert_of_ne _ _ same
  simp only [FileReceiver.recorded, mark, setMetadata, TransferMetadata.addChunk, flags, hashes]

theorem recorded_setFailed_iff (inRange : chunk.idx < state.numChunks) :
    (state.recorded chunk).setFailed = state ∨ (state.recorded chunk).setFailed = state.setFailed ↔
      state.OnRecord chunk := by
  constructor
  · intro same
    have onRecord : (state.recorded chunk).setFailed.OnRecord chunk := onRecord_recorded inRange
    obtain same | same := same
    · rwa [same] at onRecord
    · rw [same] at onRecord
      exact onRecord
  · intro onRecord
    exact .inr (congrArg setFailed onRecord.recorded_eq)

end FileReceiver

theorem takenIn_recorded {state : FileReceiver} {chunk : ChunkInHand} (fs : Fs FilePath)
    (inRange : chunk.idx < state.numChunks)
    (encodable : (state.recorded chunk).metadata.Encodable) :
    TakenIn state (state.recorded chunk) (TransferMetadata.saved
      (Function.update fs (state.partPath chunk.idx) (some chunk.data))
      state.partsDir state.filename (state.recorded chunk).metadata) chunk := by
  constructor
  case marked =>
    intro index
    by_cases same : index = chunk.idx
    · rw [same]
      exact ⟨fun _ => .inr rfl, fun _ => FileReceiver.received_mark_self inRange⟩
    · exact (FileReceiver.received_mark_of_ne same).trans (or_iff_left same).symm
  case hash => exact OrderedMap.get?_insert_self ..
  case others => exact fun index different => OrderedMap.get?_insert_of_ne _ _ different
  case part =>
    exact (TransferMetadata.saved_partPath _ _).trans (Function.update_self ..)
  case saved =>
    exact ⟨_, TransferMetadata.saved_metaPath _, TransferMetadata.fromBytes_toBytes encodable⟩

/-- What a client hears of a frame is true just if saving the record does not fail, or fails
for a chunk that is on record already. -/
theorem ack_truthful_iff [KeyOrder] {Owner : Type} (owner : Owner) (store : Store Owner)
    (receiver : ReceiverId) (state : FileReceiver) (data : Bytes)
    {handshake : HandshakeData} {outputDir partsDir : Bytes}
    (lived : FileReceiver.Lived handshake outputDir partsDir state)
    (ready : store.Ready receiver state) :
    Ensures (Traced.sem owner) (Data.processChunk receiver data)
      (fun _ world => ∃ after, world.store.receivers receiver = some after ∧
        (AckTruthful state after world.store.fs data world.sent ↔
          ∀ chunk call, Carries state data chunk → world.failed = some call →
            call.writes state.tmpPath → state.OnRecord chunk))
      ⟨store, none, []⟩ := by
  refine (Data.ensures_processChunk ready data).mono fun _ world ends => ?_
  obtain ⟨after, watched, ends, stored, failed⟩ := ends
  have files : world.store.fs = watched.files := congrArg Store.fs stored
  refine ⟨after, (congrFun (congrArg Store.receivers stored) receiver).trans Store.leave_self, ?_⟩
  rw [files, failed]
  generalize world.sent = sent at ends ⊢
  cases ends with
  | refused negative =>
      constructor
      · exact fun _ _ _ _ same => nomatch same
      · exact fun _ => ⟨fun positive => absurd positive negative, fun _ => .inl rfl⟩
  | unwritten carries writes =>
      constructor
      · intro _ other call _ same saves
        cases same
        exact absurd ((writes _).mp saves).symm (TransferMetadata.partPath_ne_tmpPath _)
      · exact fun _ => ⟨fun positive => absurd positive (by decide), fun _ => .inr rfl⟩
  | @unsaved chunk call left carries writes =>
      have refused : AckTruthful state (state.recorded chunk).setFailed left data
          [[Chunk.ackHashMismatch]] ↔ state.OnRecord chunk := by
        rw [← FileReceiver.recorded_setFailed_iff carries.inRange]
        constructor
        · exact fun truthful => truthful.refused (by decide)
        · exact fun same => ⟨fun positive => absurd positive (by decide), fun _ => same⟩
      rw [refused]
      constructor
      · intro onRecord other call carries' _ _
        rwa [carries'.unique carries]
      · exact fun onRecord => onRecord chunk call carries rfl writes
  | @taken chunk carries =>
      have encodable := (lived.coherent.recorded carries.inRange).encodable
      constructor
      · exact fun _ _ _ _ same => nomatch same
      · intro _
        refine ⟨fun _ => ⟨chunk, carries, takenIn_recorded _ carries.inRange encodable⟩, ?_⟩
        exact fun negative => absurd rfl negative

end

namespace ChunkRecording

/-- The receiver of a one-byte file, and no files. -/
def store : Store Unit := (Store.initial fun _ => none).leave 0 singleReceiver

theorem ready : store.Ready 0 singleReceiver := ⟨rfl, Store.leave_self⟩

theorem lived :
    let _ := Blake3.sample
    let _ := KeyOrder.increasing
    ∃ handshake, FileReceiver.Lived handshake (ascii "received") (ascii "received")
      singleReceiver := by
  intro _ _
  obtain ⟨handshake, _, _, _, same⟩ := parseHandshake_sampleHandshake
  rw [← same]
  exact ⟨handshake, .created⟩

end ChunkRecording

open ChunkRecording in
theorem ack_truthful_iff_one_chunk :
    let _ := Blake3.sample
    let _ := KeyOrder.increasing
    let frame := (Client.chunkMessage 0 0 [0x61]).flatten
    Ensures (Traced.sem ()) (Data.processChunk 0 frame)
      (fun _ world => ∃ after, world.store.receivers 0 = some after ∧
        (AckTruthful singleReceiver after world.store.fs frame world.sent ↔
          ∀ chunk call, Carries singleReceiver frame chunk → world.failed = some call →
            call.writes singleReceiver.tmpPath → singleReceiver.OnRecord chunk))
      ⟨store, none, []⟩ := by
  intro _ _ frame
  obtain ⟨handshake, lived⟩ := lived
  exact ack_truthful_iff () store 0 singleReceiver frame lived ready

namespace ChunkRecording

/-- The part has been written. -/
def written : Store Unit := store.put (singleReceiver.partPath 0) (some [0x61])

theorem written_ready : written.Ready 0 singleReceiver := ⟨rfl, ready.found⟩

theorem runs_writePart :
    Runs (fun op => Traced.sem () (.fs op)) (writeFile (singleReceiver.partPath 0) [0x61])
      ⟨store, none, []⟩ (.ret (.ok ())) ⟨written, none, []⟩ := by
  let put (content : Bytes) : Traced Unit :=
    ⟨store.put (singleReceiver.partPath 0) (some content), none, []⟩
  have create : Traced.sem () (.fs (.create (singleReceiver.partPath 0))) ⟨store, none, []⟩ (.ok ())
      (put []) := ⟨⟨_, none⟩, .inl ⟨.inl ⟨rfl, rfl⟩, rfl⟩, rfl⟩
  have write : ∀ content byte, Traced.sem ()
      (.fs (.writeAt (singleReceiver.partPath 0) content.length byte)) (put content) (.ok ())
      (put (content ++ [byte])) := by
    intro content byte
    have appended : (put (content ++ [byte])).store.fs = Function.update (put content).store.fs
        (singleReceiver.partPath 0) (((put content).store.fs (singleReceiver.partPath 0)).map
          fun old => putByte old content.length byte) := by
      simp [put, Store.put, putByte_end]
    exact ⟨⟨_, none⟩, .inl ⟨.inl ⟨rfl, appended⟩, rfl⟩, rfl⟩
  exact Runs.writeFile put create write [0x61]

theorem runs_unsaved :
    let _ := Blake3.sample
    Runs (Traced.sem ()) (Data.processChunk 0 (Client.chunkMessage 0 0 [0x61]).flatten)
      ⟨store, none, []⟩ (.ret (some (.ok ())))
      ⟨written.leave 0 (singleReceiver.recorded singleChunk).setFailed,
        some (.create singleReceiver.tmpPath), [[Chunk.ackHashMismatch]]⟩ := by
  intro _
  have looks : Runs (Traced.sem ()) (Data.processChunk 0 (Client.chunkMessage 0 0 [0x61]).flatten)
      ⟨store, none, []⟩ ((Data.storing 0 singleChunk (singleReceiver.partPath 0)).bind fun ack =>
        (Data.call (.sendFrame [ack])).bind fun sent => .ret (some sent)) ⟨store, none, []⟩ :=
    runs_processChunk (carries_singleChunk rfl) ⟨_, ready.locks, rfl⟩ ⟨_, ready.releases, rfl⟩
      ⟨_, ready.locks, rfl⟩ ⟨_, ready.releases, rfl⟩
  have fails : Runs (fun op => Traced.sem () (.fs op))
      (singleReceiver.recordChunk 0 (calcHash [0x61])) ⟨written.hold 0 (), none, []⟩
      (.ret (singleReceiver.recorded singleChunk, .error ⟨""⟩))
      ⟨written.hold 0 (), some (.create singleReceiver.tmpPath), []⟩ :=
    .vis (.error ⟨""⟩) ⟨⟨_, _⟩, .inr ⟨⟨_, rfl⟩, rfl⟩, rfl⟩ .refl
  have records : Runs (Traced.sem ()) (Data.recording 0 singleChunk) ⟨written, none, []⟩
      (.ret Chunk.ackHashMismatch) ⟨written.leave 0
        (singleReceiver.recorded singleChunk).setFailed, some (.create singleReceiver.tmpPath), []⟩ :=
    .vis singleReceiver ⟨_, written_ready.locks, rfl⟩
      ((Runs.onFs fails).bind (.vis () ⟨_, written_ready.unlocks _, rfl⟩ .refl))
  have stores : Runs (Traced.sem ()) (Data.storing 0 singleChunk (singleReceiver.partPath 0))
      ⟨store, none, []⟩ (.ret Chunk.ackHashMismatch) _ := (Runs.onFs runs_writePart).bind records
  exact looks.trans (stores.bind (.vis (.ok () : Except IoError Unit) rfl .refl))

end ChunkRecording

open ChunkRecording in
/-- The chunk is refused, and it is recorded. -/
theorem refused_chunk_recorded :
    let _ := Blake3.sample
    let _ := KeyOrder.increasing
    ¬ ∀ (store : Store Unit) (receiver : ReceiverId) (state : FileReceiver) (data : Bytes)
      (handshake : HandshakeData) (outputDir partsDir : Bytes),
      FileReceiver.Lived handshake outputDir partsDir state → store.Ready receiver state →
      Ensures (Traced.sem ()) (Data.processChunk receiver data)
        (fun _ world => ∃ after, world.store.receivers receiver = some after ∧
          AckTruthful state after world.store.fs data world.sent) ⟨store, none, []⟩ := by
  intro _ _ truthful
  obtain ⟨handshake, lived⟩ := lived
  have holds := truthful store 0 singleReceiver (Client.chunkMessage 0 0 [0x61]).flatten handshake
    _ _ lived ready
  have ran := runs_unsaved
  obtain ⟨after, found, truthful⟩ := holds.post ran
  cases Store.leave_self.symm.trans found
  have same := truthful.refused (by decide)
  rw [FileReceiver.recorded_setFailed_iff (by decide)] at same
  exact absurd same.1 (by decide)

end BeeSync.Server
