import BeeSync.Server.DataPhases

/-!
# What a data server task says to its peer

The phases of a data server task, with what it owes the peer: which frame it has taken, and
which reply it is about to send. Without the frames and the replies they are the phases in
which the task deals with its receiver and the files.
-/

set_option autoImplicit false

namespace BeeSync.Server

open Encoding Interaction

inductive ServePhase where
  /-- No connection has been accepted. -/
  | away
  /-- The receiver is not known yet. -/
  | greeted
  /-- Between two frames. -/
  | listening (receiver : ReceiverId)
  | glancing (receiver : ReceiverId) (state : FileReceiver)
  | ready (receiver : ReceiverId)
  | asked (receiver : ReceiverId)
  | counting (receiver : ReceiverId) (state : FileReceiver)
  | telling (receiver : ReceiverId) (flags : List Bool)
  | received (receiver : ReceiverId) (frame : Bytes) (header : ChunkHeader)
  | sizing (receiver : ReceiverId) (frame : Bytes) (header : ChunkHeader) (state : FileReceiver)
  | accepted (receiver : ReceiverId) (frame : Bytes) (chunk : ChunkInHand)
  | placing (receiver : ReceiverId) (frame : Bytes) (chunk : ChunkInHand) (state : FileReceiver)
  | storing (receiver : ReceiverId) (frame : Bytes) (chunk : ChunkInHand) (path : FilePath)
      (phase : WritePhase)
  | failing (receiver : ReceiverId) (frame : Bytes) (state : FileReceiver)
  | recording (receiver : ReceiverId) (frame : Bytes) (chunk : ChunkInHand) (state : FileReceiver)
      (phase : SavePhase)
  | recorded (receiver : ReceiverId) (frame : Bytes) (chunk : ChunkInHand)
  | refused (receiver : ReceiverId) (frame : Bytes)
  /-- The connection is to be closed, whether a receiver was found or not. -/
  | leaving (receiver : Option ReceiverId)
  /-- The task has panicked. -/
  | doomed (receiver : ReceiverId)
  | dropping
  | ended

namespace ServePhase

/-- The phase without what concerns the peer. -/
def inner : ServePhase → DataPhase
  | .away | .greeted | .dropping | .ended => .idle
  | .listening receiver | .ready receiver | .asked receiver | .telling receiver _
  | .refused receiver _ | .doomed receiver => .connected receiver
  | .leaving receiver => receiver.elim .idle .connected
  | .glancing receiver state | .counting receiver state => .looking receiver state
  | .received receiver frame _ => .received receiver frame
  | .sizing receiver frame _ state => .sizing receiver frame state
  | .accepted receiver _ chunk => .accepted receiver chunk
  | .placing receiver _ chunk state => .placing receiver chunk state
  | .storing receiver _ chunk path phase => .storing receiver chunk path phase
  | .failing receiver _ state => .failing receiver state
  | .recording receiver _ chunk state phase => .recording receiver chunk state phase
  | .recorded receiver _ chunk => .recorded receiver chunk

end ServePhase

/-- The peer announces the size that is expected of the chunk. -/
def ChunkHeader.Fits (header : ChunkHeader) (state : FileReceiver) : Prop :=
  expectedChunkSize state.fileSize state.chunkSize state.numChunks header.chunkIndex =
    some header.chunkSize

section Turns

variable [Blake3]

inductive ServeTurn (port : UInt16) : Turns DataSig ServePhase where
  | start : ServeTurn port .away .start port .away
  | greet : ServeTurn port .away .accept (.ok ()) .greeted
  | unaccepted (error : IoError) : ServeTurn port .away .accept (.error error) .dropping
  | find (receiver : ReceiverId) :
      ServeTurn port .greeted (.getReceiver port) (some receiver) (.listening receiver)
  | missing : ServeTurn port .greeted (.getReceiver port) none (.leaving none)
  | glance {receiver : ReceiverId} (state : FileReceiver) :
      ServeTurn port (.listening receiver) (.lock receiver) state (.glancing receiver state)
  | goOn {receiver : ReceiverId} {state : FileReceiver} (working : state.failed = false) :
      ServeTurn port (.glancing receiver state) (.unlock receiver state) () (.ready receiver)
  | giveUp {receiver : ReceiverId} {state : FileReceiver} (broken : state.failed = true) :
      ServeTurn port (.glancing receiver state) (.unlock receiver state) () (.leaving (some receiver))
  | deaf {receiver : ReceiverId} (error : IoError) :
      ServeTurn port (.ready receiver) .recvFrame (.error error) (.leaving (some receiver))
  | dismissed {receiver : ReceiverId} :
      ServeTurn port (.ready receiver) .recvFrame (.ok []) (.leaving (some receiver))
  | query {receiver : ReceiverId} :
      ServeTurn port (.ready receiver) .recvFrame (.ok [Chunk.queryMagic]) (.asked receiver)
  | crash {receiver : ReceiverId} (frame : Bytes) (headless : parseChunkHeader frame = none)
      (noQuery : frame ≠ [Chunk.queryMagic]) :
      ServeTurn port (.ready receiver) .recvFrame (.ok frame) (.doomed receiver)
  | overlook {receiver : ReceiverId} (frame : Bytes) (header : ChunkHeader)
      (parsed : parseChunkHeader frame = some header)
      (short : frame.length < Chunk.headerSize + header.chunkSize + Chunk.hashSize) :
      ServeTurn port (.ready receiver) .recvFrame (.ok frame) (.listening receiver)
  | receive {receiver : ReceiverId} (frame : Bytes) (header : ChunkHeader)
      (parsed : parseChunkHeader frame = some header)
      (noQuery : frame ≠ [Chunk.queryMagic]) :
      ServeTurn port (.ready receiver) .recvFrame (.ok frame) (.received receiver frame header)
  | count {receiver : ReceiverId} (state : FileReceiver) :
      ServeTurn port (.asked receiver) (.lock receiver) state (.counting receiver state)
  | counted {receiver : ReceiverId} {state : FileReceiver} :
      ServeTurn port (.counting receiver state) (.unlock receiver state) ()
        (.telling receiver state.receivedChunks)
  | tell {receiver : ReceiverId} {flags : List Bool} :
      ServeTurn port (.telling receiver flags) (.sendFrame (queryResponse flags)) (.ok ())
        (.listening receiver)
  | untold {receiver : ReceiverId} {flags : List Bool} (error : IoError) :
      ServeTurn port (.telling receiver flags) (.sendFrame (queryResponse flags)) (.error error)
        (.leaving (some receiver))
  | size {receiver : ReceiverId} {frame : Bytes} {header : ChunkHeader} (state : FileReceiver) :
      ServeTurn port (.received receiver frame header) (.lock receiver) state
        (.sizing receiver frame header state)
  | ignore {receiver : ReceiverId} {frame : Bytes} {header : ChunkHeader} {state : FileReceiver}
      (misfit : ¬ header.Fits state) :
      ServeTurn port (.sizing receiver frame header state) (.unlock receiver state) ()
        (.listening receiver)
  | refuse {receiver : ReceiverId} {frame : Bytes} {header : ChunkHeader} {state : FileReceiver}
      (corrupt : (calcHash (field frame Chunk.headerSize header.chunkSize)).bytes ≠
        field frame (Chunk.headerSize + header.chunkSize) Chunk.hashSize) :
      ServeTurn port (.sizing receiver frame header state) (.unlock receiver state) ()
        (.refused receiver frame)
  | accept {receiver : ReceiverId} {frame : Bytes} {header : ChunkHeader} {state : FileReceiver}
      {chunk : ChunkInHand} (carries : Carries state frame chunk) :
      ServeTurn port (.sizing receiver frame header state) (.unlock receiver state) ()
        (.accepted receiver frame chunk)
  | place {receiver : ReceiverId} {frame : Bytes} {chunk : ChunkInHand} (state : FileReceiver) :
      ServeTurn port (.accepted receiver frame chunk) (.lock receiver) state
        (.placing receiver frame chunk state)
  | placed {receiver : ReceiverId} {frame : Bytes} {chunk : ChunkInHand} {state : FileReceiver} :
      ServeTurn port (.placing receiver frame chunk state) (.unlock receiver state) ()
        (.storing receiver frame chunk (state.partPath chunk.idx) .opening)
  | store {receiver : ReceiverId} {frame : Bytes} {chunk : ChunkInHand} {path : FilePath}
      {phase phase' : WritePhase} {op : FsOp FilePath} {answer : op.Res} :
      WriteTurn path chunk.data phase op answer phase' →
        ServeTurn port (.storing receiver frame chunk path phase) (.fs op) answer
          (.storing receiver frame chunk path phase')
  | fail {receiver : ReceiverId} {frame : Bytes} {chunk : ChunkInHand} {path : FilePath}
      (state : FileReceiver) :
      ServeTurn port (.storing receiver frame chunk path .failed) (.lock receiver) state
        (.failing receiver frame state)
  | failed {receiver : ReceiverId} {frame : Bytes} {state : FileReceiver} :
      ServeTurn port (.failing receiver frame state) (.unlock receiver state.setFailed) ()
        (.refused receiver frame)
  | record {receiver : ReceiverId} {frame : Bytes} {chunk : ChunkInHand} {path : FilePath}
      (state : FileReceiver) :
      ServeTurn port (.storing receiver frame chunk path (.writing chunk.data.length)) (.lock receiver)
        state (.recording receiver frame chunk state (.writing .opening))
  | save {receiver : ReceiverId} {frame : Bytes} {chunk : ChunkInHand} {state : FileReceiver}
      {phase phase' : SavePhase} {op : FsOp FilePath} {answer : op.Res} :
      SaveTurn (state.recorded chunk).metadata state.partsDir state.filename phase op answer phase' →
        ServeTurn port (.recording receiver frame chunk state phase) (.fs op) answer
          (.recording receiver frame chunk state phase')
  | recorded {receiver : ReceiverId} {frame : Bytes} {chunk : ChunkInHand} {state : FileReceiver} :
      ServeTurn port (.recording receiver frame chunk state (.saved (.ok ())))
        (.unlock receiver (state.recorded chunk)) () (.recorded receiver frame chunk)
  | unsaved {receiver : ReceiverId} {frame : Bytes} {chunk : ChunkInHand} {state : FileReceiver}
      {phase : SavePhase} {error : IoError} (ended : phase.Done (.error error)) :
      ServeTurn port (.recording receiver frame chunk state phase)
        (.unlock receiver (state.recorded chunk).setFailed) () (.refused receiver frame)
  | acknowledge {receiver : ReceiverId} {frame : Bytes} {chunk : ChunkInHand}
      (answer : Except IoError Unit) :
      ServeTurn port (.recorded receiver frame chunk) (.sendFrame [Chunk.ackOk]) answer
        (.listening receiver)
  | reject {receiver : ReceiverId} {frame : Bytes} (answer : Except IoError Unit) :
      ServeTurn port (.refused receiver frame) (.sendFrame [Chunk.ackHashMismatch]) answer
        (.listening receiver)
  | leave {receiver : Option ReceiverId} : ServeTurn port (.leaving receiver) .closeStream () .away
  | unwind {receiver : ReceiverId} : ServeTurn port (.doomed receiver) .closeStream () .dropping
  | drop : ServeTurn port .dropping (.dropListener port) () .ended

/-- Whoever watches only the receiver and the files sees the inner phases. -/
theorem ServeTurn.inner {port : UInt16} {phase phase' : ServePhase} {op : DataOp}
    {answer : op.Res} (turned : ServeTurn port phase op answer phase') :
    DataTurn phase.inner op answer phase'.inner := by
  cases turned with
  | start => exact .idle .start trivial port
  | greet => exact .idle .accept trivial (.ok ())
  | unaccepted error => exact .idle .accept trivial (.error error)
  | find receiver => exact .connect port receiver
  | missing => exact .idle (.getReceiver port) trivial none
  | glance state | count state => exact .look state
  | goOn | giveUp | counted => exact .leave
  | deaf | dismissed | query | crash | overlook => exact .hear _
  | receive frame header parsed noQuery => exact .receive frame noQuery
  | tell | untold =>
      refine .reply _ (fun same => ?_) _
      have length := congrArg List.length same
      simp [queryResponse] at length
      omega
  | size state => exact .size state
  | ignore | refuse => exact .refuse
  | accept carries => exact .accept carries
  | place state => exact .place state
  | placed => exact .placed
  | store writing => exact .store writing
  | fail state => exact .fail state
  | failed => exact .failed
  | record state => exact .record state
  | save saving => exact .save saving
  | recorded => exact .recorded
  | unsaved ended => exact .unsaved ended
  | acknowledge answer => exact .acknowledge answer
  | reject answer => exact .reply _ (by decide) answer
  | @leave receiver =>
      cases receiver with
      | none => exact .idle .closeStream trivial ()
      | some receiver => exact .close
  | unwind => exact .close
  | drop => exact .idle (.dropListener port) trivial ()

/-- The phase in which a turn of the loops of a task ends. -/
def DataState.Serves (port : UInt16) : DataState → ServePhase → Prop
  | .connected here receiver, phase => here = port ∧ phase = .listening receiver
  | .accepting here, phase => here = port ∧ phase = .away
  | .ended, phase => phase = .ended

namespace ServePhase

variable (port : UInt16) (receiver : ReceiverId)

private theorem disconnect_follows (found : Option ReceiverId) :
    (Data.disconnect port).Follows (ServeTurn port) (DataState.Serves port) (.leaving found) :=
  fun _ => ⟨_, .leave, rfl, rfl⟩

/-- The end of a chunk that has been written or refused. -/
private def Settles (frame : Bytes) (chunk : ChunkInHand) (ack : UInt8) (phase : ServePhase) :
    Prop :=
  (ack = Chunk.ackOk ∧ phase = .recorded receiver frame chunk) ∨
    (ack = Chunk.ackHashMismatch ∧ phase = .refused receiver frame)

private theorem record_follows (frame : Bytes) (chunk : ChunkInHand) (path : FilePath) :
    ((Data.call (.lock receiver)).bind fun state =>
      (Data.onFs (state.recordChunk chunk.idx (calcHash chunk.data))).bind fun
        | (changed, .ok ()) =>
          (Data.call (.unlock receiver changed)).bind fun _ => .ret Chunk.ackOk
        | (changed, .error _) =>
          (Data.call (.unlock receiver changed.setFailed)).bind fun _ =>
            .ret Chunk.ackHashMismatch).Follows (ServeTurn port) (Settles receiver frame chunk)
              (.storing receiver frame chunk path (.writing chunk.data.length)) := by
  intro state
  refine ⟨_, .record state, ?_⟩
  have saves : (state.recordChunk chunk.idx (calcHash chunk.data)).Follows
      (SaveTurn (state.recorded chunk).metadata state.partsDir state.filename)
      (fun result phase => result.1 = state.recorded chunk ∧ SavePhase.Done result.2 phase)
      (.writing .opening) :=
    (save_follows (state.recorded chunk).metadata state.partsDir state.filename).bind
      fun _ _ done => ⟨rfl, done⟩
  have embedded : (Data.onFs (state.recordChunk chunk.idx (calcHash chunk.data))).Follows
      (ServeTurn port) _ (.recording receiver frame chunk state (.writing .opening)) :=
    saves.embed (ServePhase.recording receiver frame chunk state) fun _ _ _ _ turned => .save turned
  refine embedded.bind fun result phase reached => ?_
  obtain ⟨changed, outcome⟩ := result
  obtain ⟨phase', same, whole, done⟩ := reached
  cases whole
  subst same
  cases outcome with
  | ok _ =>
      cases done
      exact fun _ => ⟨_, .recorded, .inl ⟨rfl, rfl⟩⟩
  | error error => exact fun _ => ⟨_, .unsaved done, .inr ⟨rfl, rfl⟩⟩

private theorem verifyAndWriteChunk_follows (frame : Bytes) (chunk : ChunkInHand) (hash : Bytes)
    (same : (calcHash chunk.data).bytes = hash) :
    (Data.verifyAndWriteChunk receiver chunk.idx chunk.data hash).Follows (ServeTurn port)
      (Settles receiver frame chunk) (.accepted receiver frame chunk) := by
  rw [Data.verifyAndWriteChunk, if_pos same]
  refine fun state => ⟨_, .place state, fun _ => ⟨_, .placed, ?_⟩⟩
  have stores : (Data.onFs (writeFile (state.partPath chunk.idx) chunk.data)).Follows (ServeTurn port) _
      (.storing receiver frame chunk (state.partPath chunk.idx) .opening) :=
    (writeFile_follows (state.partPath chunk.idx) chunk.data).embed
      (ServePhase.storing receiver frame chunk (state.partPath chunk.idx)) fun _ _ _ _ turned =>
        .store turned
  refine stores.recover (fun error phase reached => ?_) fun _ phase reached => ?_
  · obtain ⟨phase', same, failed⟩ := reached
    cases failed
    subst same
    exact fun state => ⟨_, .fail state, fun _ => ⟨_, .failed, .inr ⟨rfl, rfl⟩⟩⟩
  · obtain ⟨phase', same, written⟩ := reached
    cases written
    subst same
    exact record_follows port receiver frame chunk _

/-- What becomes of a chunk whose size is looked at. -/
private theorem sizing_follows (frame : Bytes) (header : ChunkHeader) (state : FileReceiver)
    (parsed : parseChunkHeader frame = some header)
    (long : Chunk.headerSize + header.chunkSize + Chunk.hashSize ≤ frame.length) :
    ((Data.call (.unlock receiver state)).bind fun _ =>
      match expectedChunkSize state.fileSize state.chunkSize state.numChunks header.chunkIndex with
      | none => .ret (some (.ok ()))
      | some expected =>
        if header.chunkSize ≠ expected then .ret (some (.ok ()))
        else
          (Data.verifyAndWriteChunk receiver header.chunkIndex
              (field frame Chunk.headerSize header.chunkSize)
              (field frame (Chunk.headerSize + header.chunkSize) Chunk.hashSize)).bind fun ack =>
            (Data.call (.sendFrame [ack])).bind fun sent => .ret (some sent)).Follows (ServeTurn port)
              (fun result phase => result ≠ none ∧ phase = .listening receiver)
              (.sizing receiver frame header state) := by
  cases expected : expectedChunkSize state.fileSize state.chunkSize state.numChunks
      header.chunkIndex with
  | none =>
      have misfit : ¬ header.Fits state := by
        rw [ChunkHeader.Fits, expected]
        exact nofun
      exact fun _ => ⟨_, .ignore misfit, nofun, rfl⟩
  | some size =>
      by_cases fits : header.chunkSize = size
      · subst fits
        simp only [ne_eq, not_true_eq_false, if_false]
        let chunk : ChunkInHand :=
          ⟨header.chunkIndex, field frame Chunk.headerSize header.chunkSize⟩
        by_cases same : (calcHash chunk.data).bytes =
            field frame (Chunk.headerSize + header.chunkSize) Chunk.hashSize
        · have carries : Carries state frame chunk := ⟨header, parsed, rfl, expected, long, rfl, same⟩
          refine fun _ => ⟨_, .accept carries, ?_⟩
          refine (verifyAndWriteChunk_follows port receiver frame chunk _ same).bind ?_
          intro ack phase reached
          obtain ⟨isOk, there⟩ | ⟨isMismatch, there⟩ := reached
          · subst isOk there
            exact fun answer => ⟨_, .acknowledge answer, nofun, rfl⟩
          · subst isMismatch there
            exact fun answer => ⟨_, .reject answer, nofun, rfl⟩
        · refine fun _ => ⟨_, .refuse same, ?_⟩
          rw [Data.verifyAndWriteChunk, if_neg same]
          exact fun answer => ⟨_, .reject answer, nofun, rfl⟩
      · simp only [ne_eq, fits, not_false_eq_true, if_true]
        have misfit : ¬ header.Fits state := by
          rw [ChunkHeader.Fits, expected]
          exact fun same => fits (Option.some.inj same).symm
        exact fun _ => ⟨_, .ignore misfit, nofun, rfl⟩

/-- A frame is dealt with from a phase that receiving it can lead to. -/
private theorem processChunk_follows (frame : Bytes) (noQuery : frame ≠ [Chunk.queryMagic]) :
    ∃ phase, ServeTurn port (.ready receiver) .recvFrame (.ok frame) phase ∧
      (Data.processChunk receiver frame).Follows (ServeTurn port)
        (fun result phase => (result ≠ none ∧ phase = .listening receiver) ∨
          result = none ∧ phase = .doomed receiver) phase := by
  rw [Data.processChunk]
  cases parsed : parseChunkHeader frame with
  | none => exact ⟨_, .crash frame parsed noQuery, .inr ⟨rfl, rfl⟩⟩
  | some header =>
      by_cases short : frame.length < Chunk.headerSize + header.chunkSize + Chunk.hashSize
      · refine ⟨_, .overlook frame header parsed short, ?_⟩
        simp only [if_pos short]
        exact .inl ⟨Option.some_ne_none _, rfl⟩
      · refine ⟨_, .receive frame header parsed noQuery, ?_⟩
        simp only [if_neg short]
        refine fun state => ⟨_, .size state, ?_⟩
        exact (sizing_follows port receiver frame header state parsed (not_lt.mp short)).mono
          fun _ _ reached => .inl reached

theorem serveFrame_follows :
    (Data.serveFrame port receiver).Follows (ServeTurn port) (DataState.Serves port) (.listening receiver) := by
  refine fun state => ⟨_, .glance state, fun _ => ?_⟩
  change ∃ phase, _ ∧ Prog.Follows _ _ (ite _ _ _) phase
  split
  · rename_i broken
    exact ⟨_, .giveUp broken, disconnect_follows port _⟩
  · rename_i working
    refine ⟨_, .goOn (Bool.eq_false_iff.mpr working), fun answer => ?_⟩
    cases answer with
    | error error => exact ⟨_, .deaf error, disconnect_follows port _⟩
    | ok frame =>
        change ∃ phase, _ ∧ Prog.Follows _ _ (ite _ _ _) phase
        split
        · rename_i nothing
          rw [List.isEmpty_iff.mp nothing]
          exact ⟨_, .dismissed, disconnect_follows port _⟩
        · split
          · rename_i query
            subst query
            refine ⟨_, .query, fun state => ⟨_, .count state, fun _ => ⟨_, .counted, ?_⟩⟩⟩
            intro answer
            cases answer with
            | error error => exact ⟨_, .untold error, disconnect_follows port _⟩
            | ok _ => exact ⟨_, .tell, rfl, rfl⟩
          · rename_i noQuery
            obtain ⟨phase, turned, processed⟩ := processChunk_follows port receiver frame noQuery
            refine ⟨phase, turned, processed.bind fun result phase reached => ?_⟩
            obtain ⟨some_, there⟩ | ⟨none_, there⟩ := reached
            · rw [there]
              cases result with
              | some _ => exact ⟨rfl, rfl⟩
              | none => exact absurd rfl some_
            · rw [there, none_]
              exact fun _ => ⟨_, .unwind, fun _ => ⟨_, .drop, rfl⟩⟩

theorem acceptConnection_follows :
    (Data.acceptConnection port).Follows (ServeTurn port) (DataState.Serves port) .away := by
  intro answer
  cases answer with
  | error error => exact ⟨_, .unaccepted error, fun _ => ⟨_, .drop, rfl⟩⟩
  | ok _ =>
      refine ⟨_, .greet, fun found => ?_⟩
      cases found with
      | none => exact ⟨_, .missing, disconnect_follows port none⟩
      | some receiver => exact ⟨_, .find receiver, rfl, rfl⟩

end ServePhase

/-- A data server task, and the port that it has been spawned for. -/
inductive TaskPhase where
  | unspawned
  | spawned (port : UInt16) (phase : ServePhase)

def TaskPhase.serve : TaskPhase → ServePhase
  | .unspawned => .away
  | .spawned _ phase => phase

inductive TaskTurn : Turns DataSig TaskPhase where
  | start (port : UInt16) : TaskTurn .unspawned .start port (.spawned port .away)
  | serve {port : UInt16} {phase phase' : ServePhase} {op : DataOp} {answer : op.Res} :
      ServeTurn port phase op answer phase' →
        TaskTurn (.spawned port phase) op answer (.spawned port phase')

theorem TaskTurn.serve_turn {phase phase' : TaskPhase} {op : DataOp} {answer : op.Res}
    (turned : TaskTurn phase op answer phase') :
    ∃ port, ServeTurn port phase.serve op answer phase'.serve ∧
      (phase = .unspawned ∨ phase = .spawned port phase.serve) := by
  cases turned with
  | start port => exact ⟨port, .start, .inl rfl⟩
  | serve turned => exact ⟨_, turned, .inr rfl⟩

/-- The phase in which a turn of a task ends. -/
def DataState.Hosts (state : DataState) (phase : TaskPhase) : Prop :=
  ∃ port serving, phase = .spawned port serving ∧ state.Serves port serving

theorem TaskPhase.task_follows : Data.task.Follows TaskTurn DataState.Hosts .unspawned :=
  fun port => ⟨_, .start port, port, _, rfl, rfl, rfl⟩

theorem TaskPhase.again_follows {state : DataState} {rest : DataProg DataState}
    (again : Data.again state = some rest) {phase : TaskPhase} (ended : state.Hosts phase) :
    rest.Follows TaskTurn DataState.Hosts phase := by
  obtain ⟨port, serving, spawned, serves⟩ := ended
  subst spawned
  have served : rest.Follows (ServeTurn port) (DataState.Serves port) serving := by
    cases state with
    | accepting here =>
        obtain ⟨same, away⟩ := serves
        subst same away
        cases again
        exact ServePhase.acceptConnection_follows here
    | connected here receiver =>
        obtain ⟨same, listening⟩ := serves
        subst same listening
        cases again
        exact ServePhase.serveFrame_follows here receiver
    | ended => cases again
  refine (served.lift (TaskPhase.spawned port) fun _ _ _ _ => .serve).mono fun state phase reached => ?_
  obtain ⟨phase', same, serves⟩ := reached
  exact ⟨port, phase', same, serves⟩

end Turns

end BeeSync.Server
