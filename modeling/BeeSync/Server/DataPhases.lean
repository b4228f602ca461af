import BeeSync.Server.Data
import BeeSync.Server.FilePhases

/-!
# The phases of a data server task

What a task may ask for next: which receiver it serves, whether it holds its lock, and how
far it has come with the chunk in its hands.
-/

set_option autoImplicit false

namespace BeeSync.Server

open Encoding Interaction

/-- A chunk that has been accepted, by its index and its bytes. -/
structure ChunkInHand where
  idx : Nat
  data : Bytes

inductive DataPhase where
  /-- Not connected. -/
  | idle
  /-- Between two frames, or done with one. -/
  | connected (receiver : ReceiverId)
  /-- The lock is held to look at the receiver. -/
  | looking (receiver : ReceiverId) (state : FileReceiver)
  | received (receiver : ReceiverId) (frame : Bytes)
  | sizing (receiver : ReceiverId) (frame : Bytes) (state : FileReceiver)
  | accepted (receiver : ReceiverId) (chunk : ChunkInHand)
  | placing (receiver : ReceiverId) (chunk : ChunkInHand) (state : FileReceiver)
  | storing (receiver : ReceiverId) (chunk : ChunkInHand) (path : FilePath) (phase : WritePhase)
  | failing (receiver : ReceiverId) (state : FileReceiver)
  | recording (receiver : ReceiverId) (chunk : ChunkInHand) (state : FileReceiver)
      (phase : SavePhase)
  | recorded (receiver : ReceiverId) (chunk : ChunkInHand)

section Turns

variable [Blake3]

/-- A frame brings a chunk of the right size with its hash. -/
structure Carries (state : FileReceiver) (frame : Bytes) (chunk : ChunkInHand) : Prop where
  header : ∃ header, parseChunkHeader frame = some header ∧ header.chunkIndex = chunk.idx ∧
    expectedChunkSize state.fileSize state.chunkSize state.numChunks header.chunkIndex =
        some header.chunkSize ∧
      Chunk.headerSize + header.chunkSize + Chunk.hashSize ≤ frame.length ∧
        chunk.data = field frame Chunk.headerSize header.chunkSize ∧
          (calcHash chunk.data).bytes =
            field frame (Chunk.headerSize + header.chunkSize) Chunk.hashSize

/-- The receiver as `record_chunk` leaves it. -/
def FileReceiver.recorded (state : FileReceiver) (chunk : ChunkInHand) : FileReceiver :=
  (state.mark chunk.idx).setMetadata (state.metadata.addChunk chunk.idx (calcHash chunk.data))

theorem Carries.inRange {state : FileReceiver} {frame : Bytes} {chunk : ChunkInHand}
    (carries : Carries state frame chunk) : chunk.idx < state.numChunks := by
  obtain ⟨header, _, index, expected, _⟩ := carries.header
  rw [← index]
  exact index_lt_of_expectedChunkSize expected

theorem Carries.unique {state : FileReceiver} {frame : Bytes} {chunk chunk' : ChunkInHand}
    (carries : Carries state frame chunk) (carries' : Carries state frame chunk') :
    chunk = chunk' := by
  obtain ⟨header, parsed, index, _, _, bytes, _⟩ := carries
  obtain ⟨header', parsed', index', _, _, bytes', _⟩ := carries'
  cases parsed.symm.trans parsed'
  cases chunk
  cases chunk'
  congr 1
  · exact index.symm.trans index'
  · exact bytes.trans bytes'.symm

theorem Carries.of_params {state state' : FileReceiver} {frame : Bytes} {chunk : ChunkInHand}
    (carries : Carries state frame chunk) (params : state'.params = state.params) :
    Carries state' frame chunk := by
  have fileSize : state'.fileSize = state.fileSize := congrArg FileReceiver.Params.fileSize params
  have chunkSize : state'.chunkSize = state.chunkSize := congrArg FileReceiver.Params.chunkSize params
  have numChunks : state'.numChunks = state.numChunks := congrArg FileReceiver.Params.numChunks params
  obtain ⟨header, parsed, index, expected, rest⟩ := carries.header
  rw [← fileSize, ← chunkSize, ← numChunks] at expected
  exact ⟨header, parsed, index, expected, rest⟩

/-- Requests that concern neither a receiver nor a file, outside of a connection. -/
def DataOp.Idle : DataOp → Prop
  | .start | .accept | .closeStream | .dropListener _ | .getReceiver _ => True
  | _ => False

inductive DataTurn : Turns DataSig DataPhase where
  | idle (op : DataOp) (quiet : op.Idle) (answer : op.Res) : DataTurn .idle op answer .idle
  | connect (port : UInt16) (receiver : ReceiverId) :
      DataTurn .idle (.getReceiver port) (some receiver) (.connected receiver)
  | look {receiver : ReceiverId} (state : FileReceiver) :
      DataTurn (.connected receiver) (.lock receiver) state (.looking receiver state)
  | leave {receiver : ReceiverId} {state : FileReceiver} :
      DataTurn (.looking receiver state) (.unlock receiver state) () (.connected receiver)
  | receive {receiver : ReceiverId} (frame : Bytes) (noQuery : frame ≠ [Chunk.queryMagic]) :
      DataTurn (.connected receiver) .recvFrame (.ok frame) (.received receiver frame)
  | hear {receiver : ReceiverId} (answer : Except IoError Bytes) :
      DataTurn (.connected receiver) .recvFrame answer (.connected receiver)
  | reply {receiver : ReceiverId} (payload : Bytes) (noAck : payload ≠ [Chunk.ackOk])
      (answer : Except IoError Unit) :
      DataTurn (.connected receiver) (.sendFrame payload) answer (.connected receiver)
  | close {receiver : ReceiverId} : DataTurn (.connected receiver) .closeStream () .idle
  | size {receiver : ReceiverId} {frame : Bytes} (state : FileReceiver) :
      DataTurn (.received receiver frame) (.lock receiver) state (.sizing receiver frame state)
  | refuse {receiver : ReceiverId} {frame : Bytes} {state : FileReceiver} :
      DataTurn (.sizing receiver frame state) (.unlock receiver state) () (.connected receiver)
  | accept {receiver : ReceiverId} {frame : Bytes} {state : FileReceiver} {chunk : ChunkInHand}
      (carries : Carries state frame chunk) :
      DataTurn (.sizing receiver frame state) (.unlock receiver state) () (.accepted receiver chunk)
  | place {receiver : ReceiverId} {chunk : ChunkInHand} (state : FileReceiver) :
      DataTurn (.accepted receiver chunk) (.lock receiver) state (.placing receiver chunk state)
  | placed {receiver : ReceiverId} {chunk : ChunkInHand} {state : FileReceiver} :
      DataTurn (.placing receiver chunk state) (.unlock receiver state) ()
        (.storing receiver chunk (state.partPath chunk.idx) .opening)
  | store {receiver : ReceiverId} {chunk : ChunkInHand} {path : FilePath}
      {phase phase' : WritePhase} {op : FsOp FilePath} {answer : op.Res} :
      WriteTurn path chunk.data phase op answer phase' →
        DataTurn (.storing receiver chunk path phase) (.fs op) answer
          (.storing receiver chunk path phase')
  | fail {receiver : ReceiverId} {chunk : ChunkInHand} {path : FilePath} (state : FileReceiver) :
      DataTurn (.storing receiver chunk path .failed) (.lock receiver) state
        (.failing receiver state)
  | failed {receiver : ReceiverId} {state : FileReceiver} :
      DataTurn (.failing receiver state) (.unlock receiver state.setFailed) ()
        (.connected receiver)
  | record {receiver : ReceiverId} {chunk : ChunkInHand} {path : FilePath} (state : FileReceiver) :
      DataTurn (.storing receiver chunk path (.writing chunk.data.length)) (.lock receiver) state
        (.recording receiver chunk state (.writing .opening))
  | save {receiver : ReceiverId} {chunk : ChunkInHand} {state : FileReceiver}
      {phase phase' : SavePhase} {op : FsOp FilePath} {answer : op.Res} :
      SaveTurn (state.recorded chunk).metadata state.partsDir state.filename phase op answer phase' →
        DataTurn (.recording receiver chunk state phase) (.fs op) answer
          (.recording receiver chunk state phase')
  | recorded {receiver : ReceiverId} {chunk : ChunkInHand} {state : FileReceiver} :
      DataTurn (.recording receiver chunk state (.saved (.ok ())))
        (.unlock receiver (state.recorded chunk)) () (.recorded receiver chunk)
  | unsaved {receiver : ReceiverId} {chunk : ChunkInHand} {state : FileReceiver}
      {phase : SavePhase} {error : IoError} (ended : phase.Done (.error error)) :
      DataTurn (.recording receiver chunk state phase)
        (.unlock receiver (state.recorded chunk).setFailed) () (.connected receiver)
  | acknowledge {receiver : ReceiverId} {chunk : ChunkInHand} (answer : Except IoError Unit) :
      DataTurn (.recorded receiver chunk) (.sendFrame [Chunk.ackOk]) answer (.connected receiver)

/-- The chunk that a task has accepted and not recorded yet. -/
def DataPhase.inHand : DataPhase → Option ChunkInHand
  | .accepted _ chunk | .placing _ chunk _ | .storing _ chunk _ _ | .recording _ chunk _ _ =>
      some chunk
  | _ => none

/-- A chunk in the hands of a task has just been accepted or has been there before. -/
theorem DataTurn.inHand {phase phase' : DataPhase} {op : DataOp} {answer : op.Res}
    {chunk : ChunkInHand} (turned : DataTurn phase op answer phase')
    (holds : phase'.inHand = some chunk) : phase.inHand = some chunk ∨
      ∃ receiver frame state, phase = .sizing receiver frame state ∧ Carries state frame chunk := by
  cases turned with
  | accept carries =>
      cases holds
      exact .inr ⟨_, _, _, rfl, carries⟩
  | place | placed | store | record | save => exact .inl holds
  | _ => cases holds

theorem DataTurn.path {phase phase' : DataPhase} {op : DataOp} {answer : op.Res}
    {receiver : ReceiverId} {chunk : ChunkInHand} {path : FilePath} {writing : WritePhase}
    (turned : DataTurn phase op answer phase') (there : phase' = .storing receiver chunk path writing) :
    (∃ writing', phase = .storing receiver chunk path writing') ∨
      ∃ state, phase = .placing receiver chunk state ∧ path = state.partPath chunk.idx := by
  cases turned with
  | placed =>
      cases there
      exact .inr ⟨_, rfl, rfl⟩
  | store =>
      cases there
      exact .inl ⟨_, rfl⟩
  | _ => cases there

/-- The phase in which a turn of the loops of a task ends. -/
def DataState.Ends : DataState → DataPhase → Prop
  | .connected _ receiver, phase => phase = .connected receiver
  | .accepting _, phase | .ended, phase => phase = .idle

namespace DataPhase

variable (receiver : ReceiverId) (port : UInt16)

private theorem disconnect_follows :
    (Data.disconnect port).Follows DataTurn DataState.Ends (.connected receiver) :=
  fun _ => ⟨.idle, .close, rfl⟩

/-- The end of a chunk that has been written or refused. -/
private def Acknowledges (chunk : ChunkInHand) (ack : UInt8) (phase : DataPhase) : Prop :=
  (ack = Chunk.ackOk ∧ phase = .recorded receiver chunk) ∨
    (ack = Chunk.ackHashMismatch ∧ phase = .connected receiver)

private theorem fail_follows (chunk : ChunkInHand) (path : FilePath) :
    ((Data.call (.lock receiver)).bind fun state =>
      (Data.call (.unlock receiver state.setFailed)).bind fun _ =>
        .ret Chunk.ackHashMismatch).Follows DataTurn (Acknowledges receiver chunk)
          (.storing receiver chunk path .failed) :=
  fun state => ⟨_, .fail state, fun _ => ⟨_, .failed, .inr ⟨rfl, rfl⟩⟩⟩

private theorem record_follows (chunk : ChunkInHand) (path : FilePath) :
    ((Data.call (.lock receiver)).bind fun state =>
      (Data.onFs (state.recordChunk chunk.idx (calcHash chunk.data))).bind fun
        | (changed, .ok ()) =>
          (Data.call (.unlock receiver changed)).bind fun _ => .ret Chunk.ackOk
        | (changed, .error _) =>
          (Data.call (.unlock receiver changed.setFailed)).bind fun _ =>
            .ret Chunk.ackHashMismatch).Follows DataTurn (Acknowledges receiver chunk)
              (.storing receiver chunk path (.writing chunk.data.length)) := by
  intro state
  refine ⟨_, .record state, ?_⟩
  have saves : (state.recordChunk chunk.idx (calcHash chunk.data)).Follows
      (SaveTurn (state.recorded chunk).metadata state.partsDir state.filename)
      (fun result phase => result.1 = state.recorded chunk ∧ SavePhase.Done result.2 phase)
      (.writing .opening) :=
    (save_follows (state.recorded chunk).metadata state.partsDir state.filename).bind
      fun _ _ done => ⟨rfl, done⟩
  have embedded : (Data.onFs (state.recordChunk chunk.idx (calcHash chunk.data))).Follows
      DataTurn _ (.recording receiver chunk state (.writing .opening)) :=
    saves.embed (DataPhase.recording receiver chunk state) fun _ _ _ _ turned => .save turned
  refine embedded.bind fun result phase reached => ?_
  obtain ⟨changed, outcome⟩ := result
  obtain ⟨phase', same, whole, done⟩ := reached
  cases whole
  subst same
  cases outcome with
  | ok _ =>
      cases done
      exact fun _ => ⟨_, .recorded, .inl ⟨rfl, rfl⟩⟩
  | error error => exact fun _ => ⟨_, .unsaved done, .inr ⟨rfl, rfl⟩⟩

private theorem verifyAndWriteChunk_follows (chunk : ChunkInHand) (hash : Bytes)
    (same : (calcHash chunk.data).bytes = hash) :
    (Data.verifyAndWriteChunk receiver chunk.idx chunk.data hash).Follows DataTurn
      (Acknowledges receiver chunk) (.accepted receiver chunk) := by
  rw [Data.verifyAndWriteChunk, if_pos same]
  refine fun state => ⟨_, .place state, fun _ => ⟨_, .placed, ?_⟩⟩
  have stores : (Data.onFs (writeFile (state.partPath chunk.idx) chunk.data)).Follows DataTurn _
      (.storing receiver chunk (state.partPath chunk.idx) .opening) :=
    (writeFile_follows (state.partPath chunk.idx) chunk.data).embed
      (DataPhase.storing receiver chunk (state.partPath chunk.idx)) fun _ _ _ _ turned =>
        .store turned
  refine stores.recover (fun error phase reached => ?_) fun _ phase reached => ?_
  · obtain ⟨phase', same, failed⟩ := reached
    cases failed
    subst same
    exact fail_follows receiver chunk _
  · obtain ⟨phase', same, written⟩ := reached
    cases written
    subst same
    exact record_follows receiver chunk _

/-- A frame is dealt with from a phase that receiving it can lead to. -/
private theorem processChunk_follows (frame : Bytes) (noQuery : frame ≠ [Chunk.queryMagic]) :
    ∃ phase, DataTurn (.connected receiver) .recvFrame (.ok frame) phase ∧
      (Data.processChunk receiver frame).Follows DataTurn
        (fun _ phase => phase = .connected receiver) phase := by
  rw [Data.processChunk]
  cases parsed : parseChunkHeader frame with
  | none => exact ⟨_, .hear (.ok frame), rfl⟩
  | some header =>
      by_cases short : frame.length < Chunk.headerSize + header.chunkSize + Chunk.hashSize
      · refine ⟨_, .hear (.ok frame), ?_⟩
        simp only [if_pos short]
        exact rfl
      · refine ⟨_, .receive frame noQuery, ?_⟩
        simp only [if_neg short]
        refine fun state => ⟨_, .size state, ?_⟩
        let chunk : ChunkInHand :=
          ⟨header.chunkIndex, field frame Chunk.headerSize header.chunkSize⟩
        have refused : ∀ answer, ∃ phase, DataTurn (.sizing receiver frame state)
            (.unlock receiver state) answer phase ∧ phase = .connected receiver :=
          fun _ => ⟨_, .refuse, rfl⟩
        cases expected : expectedChunkSize state.fileSize state.chunkSize state.numChunks
            header.chunkIndex with
        | none =>
            simp only [Prog.ret_bind, expected]
            exact refused
        | some size =>
            by_cases fits : header.chunkSize = size
            · subst fits
              simp only [Prog.ret_bind, expected, ne_eq, not_true_eq_false, if_false]
              by_cases same : (calcHash chunk.data).bytes =
                  field frame (Chunk.headerSize + header.chunkSize) Chunk.hashSize
              · have carries : Carries state frame chunk :=
                  ⟨header, parsed, rfl, expected, not_lt.mp short, rfl, same⟩
                refine fun _ => ⟨_, .accept carries, ?_⟩
                refine (verifyAndWriteChunk_follows receiver chunk _ same).bind ?_
                intro ack phase reached
                obtain ⟨isOk, there⟩ | ⟨isMismatch, there⟩ := reached
                · subst isOk there
                  exact fun answer => ⟨_, .acknowledge answer, rfl⟩
                · subst isMismatch there
                  exact fun answer => ⟨_, .reply _ (by decide) answer, rfl⟩
              · refine fun _ => ⟨_, .refuse, ?_⟩
                rw [Data.verifyAndWriteChunk, if_neg same]
                exact fun answer => ⟨_, .reply _ (by decide) answer, rfl⟩
            · simp only [Prog.ret_bind, expected, ne_eq, fits, not_false_eq_true, if_true]
              exact refused

private theorem handleQuery_follows :
    (Data.handleQuery receiver).Follows DataTurn (fun _ phase => phase = .connected receiver)
      (.connected receiver) := by
  refine fun state => ⟨_, .look state, fun _ => ⟨_, .leave, fun answer => ⟨_, ?_, rfl⟩⟩⟩
  refine .reply _ (fun same => ?_) answer
  have length := congrArg List.length same
  simp [queryResponse] at length
  omega

theorem serveFrame_follows :
    (Data.serveFrame port receiver).Follows DataTurn DataState.Ends (.connected receiver) := by
  refine fun state => ⟨_, .look state, fun _ => ⟨_, .leave, ?_⟩⟩
  change Prog.Follows _ _ (ite _ _ _) _
  split
  · exact disconnect_follows receiver port
  · intro answer
    cases answer with
    | error error => exact ⟨_, .hear (.error error), disconnect_follows receiver port⟩
    | ok frame =>
        change ∃ phase, _ ∧ Prog.Follows _ _ (ite _ _ _) phase
        split
        · exact ⟨_, .hear (.ok frame), disconnect_follows receiver port⟩
        · split
          · refine ⟨_, .hear (.ok frame), (handleQuery_follows receiver).recover ?_ ?_⟩
            · intro _ phase there
              rw [there]
              exact disconnect_follows receiver port
            · exact fun _ phase there => there
          · rename_i noQuery
            obtain ⟨phase, turned, processed⟩ := processChunk_follows receiver frame noQuery
            refine ⟨phase, turned, processed.bind fun result phase there => ?_⟩
            rw [there]
            cases result with
            | some _ => exact rfl
            | none =>
                exact fun _ => ⟨_, .close, fun _ => ⟨_, .idle (.dropListener port) trivial (), rfl⟩⟩

theorem acceptConnection_follows :
    (Data.acceptConnection port).Follows DataTurn DataState.Ends .idle := by
  intro answer
  cases answer with
  | error error =>
      exact ⟨_, .idle .accept trivial (.error error), fun _ =>
        ⟨_, .idle (.dropListener port) trivial (), rfl⟩⟩
  | ok _ =>
      refine ⟨_, .idle .accept trivial (.ok ()), fun found => ?_⟩
      cases found with
      | none =>
          exact ⟨_, .idle (.getReceiver port) trivial none, fun _ =>
            ⟨_, .idle .closeStream trivial (), rfl⟩⟩
      | some receiver => exact ⟨_, .connect port receiver, rfl⟩

theorem task_follows : Data.task.Follows DataTurn DataState.Ends .idle :=
  fun answer => ⟨_, .idle .start trivial answer, rfl⟩

theorem again_follows {state : DataState} {rest : DataProg DataState}
    (again : Data.again state = some rest) {phase : DataPhase} (ended : state.Ends phase) :
    rest.Follows DataTurn DataState.Ends phase := by
  cases state with
  | accepting port =>
      cases again
      cases ended
      exact acceptConnection_follows port
  | connected port receiver =>
      cases again
      cases ended
      exact serveFrame_follows receiver port
  | ended => cases again

end DataPhase

end Turns

end BeeSync.Server
