import BeeSync.Server.DataRuns
import BeeSync.Server.ResumeOutcome
import BeeSync.Server.Store

/-!
# Runs over a store

How transfers go when no call fails: a handshake without an earlier transfer up to the
waiting loop, a chunk that is stored and recorded, and the assembly of a single part.
-/

set_option autoImplicit false

namespace BeeSync.Server

open Encoding Interaction

/-- What is left of a handler while it assembles. -/
def Control.building (transfer : Transfer) (state : FileReceiver)
    (program : FsProg FilePath (Except IoError Bool)) : ControlProg ControlState :=
  (((((onFs program).bind fun result =>
    (call (.unlock transfer.receiver state)).bind fun _ => .ret result).recover
      (fun _ => .ret false) .ret).bind fun success =>
        (call (.sendFrame [finalStatus success])).bind fun _ =>
          (cleanup transfer.ports).bind fun _ => .ret (.returned (.ok ())))).bind closing

/-- What is left of a handler that has to report success. -/
def Control.reporting (transfer : Transfer) : ControlProg ControlState :=
  ((call (.sendFrame [finalStatus true])).bind fun _ =>
    (cleanup transfer.ports).bind fun _ => .ret (.returned (.ok ()))).bind closing

namespace Store

variable {Owner : Type} {owner : Owner} {store : Store Owner} {receiver : ReceiverId}
  {state : FileReceiver}

def put (store : Store Owner) (path : FilePath) (content : Option Bytes) : Store Owner :=
  { store with fs := Function.update store.fs path content }

def leave (store : Store Owner) (receiver : ReceiverId) (state : FileReceiver) : Store Owner :=
  { store with receivers := Function.update store.receivers receiver (some state) }

def hold (store : Store Owner) (receiver : ReceiverId) (owner : Owner) : Store Owner :=
  { store with holder := Function.update store.holder receiver (some owner) }

def enlist (store : Store Owner) (port : UInt16) (receiver : ReceiverId) : Store Owner :=
  { store with registry := fun other => if other ∈ [port] then some receiver else store.registry other }

def withFs (store : Store Owner) (fs : Fs FilePath) : Store Owner := { store with fs := fs }

@[simp] theorem put_self (path : FilePath) (content : Option Bytes) :
    (store.put path content).fs path = content :=
  Function.update_self _ _ _

@[simp] theorem leave_self : (store.leave receiver state).receivers receiver = some state :=
  Function.update_self _ _ _

/-- Every receiver of the store satisfies a predicate. -/
def All (holds : FileReceiver → Prop) (store : Store Owner) : Prop :=
  ∀ receiver state, store.receivers receiver = some state → holds state

theorem all_initial (holds : FileReceiver → Prop) (fs : Fs FilePath) :
    (initial fs : Store Owner).All holds := by
  intro receiver state found
  cases found

theorem All.leave {holds : FileReceiver → Prop} (all : store.All holds) (receiver : ReceiverId)
    {state : FileReceiver} (mine : holds state) : (store.leave receiver state).All holds := by
  intro other state' found
  by_cases here : other = receiver
  · subst here
    cases (Function.update_self _ _ _).symm.trans found
    exact mine
  · exact all other state' ((Function.update_of_ne here _ _).symm.trans found)

/-- A receiver that nobody holds, as it is. -/
structure Ready (store : Store Owner) (receiver : ReceiverId) (state : FileReceiver) : Prop where
  free : store.holder receiver = none
  found : store.receivers receiver = some state

theorem Ready.locks (ready : store.Ready receiver state) :
    lockSem owner receiver store state (store.hold receiver owner) :=
  ⟨ready.free, ready.found, rfl⟩

/-- Who takes a lock and releases it changes no more than the receiver. -/
theorem Ready.unlocks (ready : store.Ready receiver state) (state' : FileReceiver) :
    unlockSem receiver state' (store.hold receiver owner) (store.leave receiver state') := by
  have free : Function.update store.holder receiver none = store.holder := by
    rw [← ready.free, Function.update_eq_self]
  rw [unlockSem, hold, leave]
  dsimp only
  rw [Function.update_idem, free]

theorem Ready.kept (ready : store.Ready receiver state) : store.leave receiver state = store := by
  have found : Function.update store.receivers receiver (some state) = store.receivers := by
    rw [← ready.found, Function.update_eq_self]
  rw [leave, found]

theorem Ready.releases (ready : store.Ready receiver state) :
    unlockSem receiver state (store.hold receiver owner) store := by
  have unlocks : unlockSem receiver state (store.hold receiver owner) _ := ready.unlocks state
  rwa [ready.kept] at unlocks

/-- The store after the record has been saved. -/
def save (store : Store Owner) (state : FileReceiver) : Store Owner :=
  (store.put state.tmpPath none).put state.metaPath (some state.metadata.toBytes)

theorem save_partPath (idx : Nat) :
    (store.save state).fs (state.partPath idx) = store.fs (state.partPath idx) := by
  have notMeta : state.partPath idx ≠ state.metaPath := TransferMetadata.partPath_ne_metaPath idx
  have notTmp : state.partPath idx ≠ state.tmpPath := TransferMetadata.partPath_ne_tmpPath idx
  exact (Function.update_of_ne notMeta _ _).trans (Function.update_of_ne notTmp _ _)

theorem All.enlist {holds : FileReceiver → Prop} (all : store.All holds) (port : UInt16)
    (receiver : ReceiverId) : (store.enlist port receiver).All holds :=
  all

section Data

variable [Blake3] {port : UInt16} {frame : Bytes} {chunk : ChunkInHand}

omit [Blake3] in
theorem runs_start (port : UInt16) :
    Runs (dataSem False owner) Data.task store (.ret (.accepting port)) store :=
  .vis port rfl .refl

omit [Blake3] in
theorem runs_connect (registered : store.registry port = some receiver) :
    Runs (dataSem False owner) (Data.acceptConnection port) store
      (.ret (.connected port receiver)) store :=
  .vis (.ok ()) rfl (.vis (some receiver) ⟨registered.symm, rfl⟩ .refl)

/-- The store after a chunk has been recorded. -/
def record (store : Store Owner) (receiver : ReceiverId) (state : FileReceiver)
    (chunk : ChunkInHand) : Store Owner :=
  (store.save (state.recorded chunk)).leave receiver (state.recorded chunk)

/-- The store after a chunk has been received and recorded. -/
def receive (store : Store Owner) (receiver : ReceiverId) (state : FileReceiver)
    (chunk : ChunkInHand) : Store Owner :=
  (store.put (state.partPath chunk.idx) (some chunk.data)).record receiver state chunk

theorem receive_partPath : (store.receive receiver state chunk).fs (state.partPath chunk.idx) =
    some chunk.data := by
  have kept : ((store.put (state.partPath chunk.idx) (some chunk.data)).save
      (state.recorded chunk)).fs ((state.recorded chunk).partPath chunk.idx) = _ :=
    save_partPath chunk.idx
  exact kept.trans (put_self _ _)

/-- The output file is not touched. -/
theorem receive_finalPath : (store.receive receiver state chunk).fs state.finalPath =
    store.fs state.finalPath := by
  have notMeta : state.finalPath ≠ state.metaPath := state.metaPath_ne_finalPath.symm
  have notTmp : state.finalPath ≠ state.tmpPath := state.tmpPath_ne_finalPath.symm
  have notPart : state.finalPath ≠ state.partPath chunk.idx :=
    (state.partPath_ne_finalPath chunk.idx).symm
  exact (Function.update_of_ne notMeta _ _).trans
    ((Function.update_of_ne notTmp _ _).trans (Function.update_of_ne notPart _ _))

theorem All.receive {holds : FileReceiver → Prop} (all : store.All holds)
    (mine : holds (state.recorded chunk)) : (store.receive receiver state chunk).All holds :=
  All.leave all receiver mine

theorem receive_metaPath : (store.receive receiver state chunk).fs state.metaPath =
    some (state.recorded chunk).metadata.toBytes :=
  put_self _ _

variable (owner receiver state frame chunk) in
/-- A task that takes a chunk, stage by stage. -/
def chunkSem (op : DataOp) (before : ChunkStage × Store Owner) (answer : op.Res)
    (after : ChunkStage × Store Owner) : Prop :=
  ChunkTurn receiver state frame chunk before.1 op answer after.1 ∧
    dataSem False owner op before.2 answer after.2

/-- A task takes the chunk and writes its part. -/
theorem runs_store (ready : store.Ready receiver state) (carries : Carries state frame chunk)
    (unfailed : state.failed = false) :
    Runs (chunkSem owner receiver state frame chunk) (Data.serveFrame port receiver)
      (.looking, store) (Data.acknowledging port receiver (Data.recording receiver chunk))
      (.holding, store.put (state.partPath chunk.idx) (some chunk.data)) := by
  have look : chunkSem owner receiver state frame chunk (.lock receiver) (.looking, store) state
      (.looking, store.hold receiver owner) := ⟨.look, ready.locks⟩
  have leave : chunkSem owner receiver state frame chunk (.unlock receiver state)
      (.looking, store.hold receiver owner) () (.looking, store) := ⟨.leave, ready.releases⟩
  have hear : chunkSem owner receiver state frame chunk .recvFrame (.looking, store) (.ok frame)
      (.holding, store) := ⟨.hear, rfl⟩
  have lock : chunkSem owner receiver state frame chunk (.lock receiver) (.holding, store) state
      (.holding, store.hold receiver owner) := ⟨.lock, ready.locks⟩
  have unlock : chunkSem owner receiver state frame chunk (.unlock receiver state)
      (.holding, store.hold receiver owner) () (.holding, store) := ⟨.unlock, ready.releases⟩
  have serves : Runs (chunkSem owner receiver state frame chunk) (Data.serveFrame port receiver)
      (.looking, store) (Data.acknowledging port receiver
        (Data.storing receiver chunk (state.partPath chunk.idx))) (.holding, store) :=
    runs_serveFrame carries unfailed look leave hear lock unlock lock unlock
  have writes : Runs (fun op => chunkSem owner receiver state frame chunk (.fs op))
      (writeFile (state.partPath chunk.idx) chunk.data) (.holding, store) (.ret (.ok ()))
      (.holding, store.put (state.partPath chunk.idx) (some chunk.data)) := by
    refine .writeFile (fun content => (ChunkStage.holding, store.put _ (some content))) ?_
      (fun content byte => ?_) _
    · exact ⟨.create, _, .inl ⟨rfl, rfl⟩, rfl⟩
    · refine ⟨.write _ _, _, .inl ⟨rfl, rfl⟩, ?_⟩
      simp [put, putByte_end]
  exact serves.trans (runs_storing writes)

/-- A task records the chunk and acknowledges it. -/
theorem runs_record (ready : store.Ready receiver state) :
    Runs (chunkSem owner receiver state frame chunk)
      (Data.acknowledging port receiver (Data.recording receiver chunk)) (.holding, store)
      (.ret (.connected port receiver)) (.acknowledged, store.record receiver state chunk) := by
  have ready' : (store.save (state.recorded chunk)).Ready receiver state := ⟨ready.free, ready.found⟩
  let holding : Store Owner := store.hold receiver owner
  have lock : chunkSem owner receiver state frame chunk (.lock receiver) (.holding, store) state
      (.holding, holding) := ⟨.lock, ready.locks⟩
  have starts : chunkSem owner receiver state frame chunk (.fs (.create state.tmpPath))
      (.holding, holding) (.ok ()) (.saving, holding.put state.tmpPath (some [])) :=
    ⟨.start, _, .inl ⟨rfl, rfl⟩, rfl⟩
  have fills : ∀ content byte, chunkSem owner receiver state frame chunk
      (.fs (.writeAt state.tmpPath content.length byte))
      (.saving, holding.put state.tmpPath (some content)) (.ok ())
      (.saving, holding.put state.tmpPath (some (content ++ [byte]))) := by
    intro content byte
    refine ⟨.fill _ _, _, .inl ⟨rfl, rfl⟩, ?_⟩
    simp [put, putByte_end]
  have renames : chunkSem owner receiver state frame chunk
      (.fs (.rename state.tmpPath state.metaPath))
      (.saving, holding.put state.tmpPath (some (state.recorded chunk).metadata.toBytes)) (.ok ())
      (.saved, (store.save (state.recorded chunk)).hold receiver owner) := by
    refine ⟨.rename, _, .inl ⟨_, put_self _ _, rfl, rfl⟩, ?_⟩
    simp only [holding, hold, save, put, Function.update_idem]
    rfl
  have saves : Runs (fun op => chunkSem owner receiver state frame chunk (.fs op))
      ((state.recorded chunk).metadata.save state.partsDir state.filename)
      (.holding, holding) (.ret (.ok ()))
      (.saved, (store.save (state.recorded chunk)).hold receiver owner) :=
    Server.runs_save (fun content => (.saving, holding.put state.tmpPath (some content))) starts
      fills renames
  have records : Runs (chunkSem owner receiver state frame chunk) (Data.recording receiver chunk)
      (.holding, store) (.ret Chunk.ackOk) (.recorded, store.record receiver state chunk) :=
    runs_recording lock saves ⟨.record, ready'.unlocks _⟩
  exact runs_acknowledging records ⟨.acknowledge, rfl⟩

end Data

section Control

open Server.Control

/-- Calls that change no file. -/
def Reads : FsOp FilePath → Prop
  | .exists_ _ | .readFile _ | .openRead _ | .readAt _ _ _ => True
  | _ => False

/-- The meaning of some calls when none fails. -/
def among (calls : FsOp FilePath → Prop) (op : FsOp FilePath) (before : Fs FilePath)
    (answer : op.Res) (after : Fs FilePath) : Prop :=
  calls op ∧ op.Sem False before answer after

/-- The meaning of some operations of a handler when no call on files fails. -/
def within (allowed : (op : ControlOp) → op.Res → Prop) (owner : Owner) (op : ControlOp)
    (before : Store Owner) (answer : op.Res) (after : Store Owner) : Prop :=
  allowed op answer ∧ controlSem False owner op before answer after

/-- A handler that hears a frame, changes no file and leaves receivers of a certain kind. -/
def Reading (data : Bytes) (leaves : FileReceiver → Prop) : (op : ControlOp) → op.Res → Prop
  | .recvFrame, answer => answer = .ok data
  | .unlock _ state, _ => leaves state
  | .fs op, _ => Reads op
  | _, _ => True

/-- A handler that hears a frame. -/
def Hearing (data : Bytes) : (op : ControlOp) → op.Res → Prop
  | .recvFrame, answer => answer = .ok data
  | _, _ => True

/-- A handler that works on its receiver and on the files. -/
def Filing : (op : ControlOp) → op.Res → Prop
  | .fs _, _ | .lock _, _ | .unlock _ _, _ => True
  | _, _ => False

theorem Reading.hearing {data : Bytes} {leaves : FileReceiver → Prop} {op : ControlOp}
    {answer : op.Res} (reads : Reading data leaves op answer) : Hearing data op answer := by
  cases op with
  | recvFrame => exact reads
  | _ => trivial

@[reducible] def readSem (owner : Owner) (data : Bytes) (leaves : FileReceiver → Prop) :
    (op : ControlOp) → Store Owner → op.Res → Store Owner → Prop :=
  within (Reading data leaves) owner

theorem runs_files {α : Type} {calls : FsOp FilePath → Prop}
    {allowed : (op : ControlOp) → op.Res → Prop}
    (admits : ∀ (op : FsOp FilePath) (answer : op.Res), calls op → allowed (.fs op) answer)
    (store : Store Owner) {program rest : FsProg FilePath α} {fs fs' : Fs FilePath}
    (ran : Runs (among calls) program fs rest fs') :
    Runs (within allowed owner) (Control.onFs program) (store.withFs fs) (Control.onFs rest)
      (store.withFs fs') := by
  induction ran with
  | refl => exact .refl
  | vis answer acted _ ih => exact .vis answer ⟨admits _ answer acted.1, _, acted.2, rfl⟩ ih

theorem runs_of_within {α : Type} {allowed : (op : ControlOp) → op.Res → Prop}
    {program rest : ControlProg α} {after : Store Owner}
    (ran : Runs (within allowed owner) program store rest after) :
    Runs (controlSem False owner) program store rest after :=
  ran.mono fun _ _ _ _ acted => acted.2

variable {data : Bytes} {leaves : FileReceiver → Prop}

theorem runs_bindNext (refused : List UInt16) (port : UInt16) (rest : List UInt16) :
    Runs (readSem owner data leaves) (bindNext (refused ++ port :: rest)) store
      (.ret (some port, rest)) store := by
  induction refused with
  | nil => exact .vis (.ok ()) ⟨trivial, rfl⟩ .refl
  | cons other refused ih => exact .vis (.error ⟨"address in use"⟩) ⟨trivial, rfl⟩ ih

variable {refused untried : List UInt16} {port : UInt16} {count maxParallel : Nat}

theorem runs_allocateSockets (one : min count maxParallel = 1)
    (ports : dataPorts = refused ++ port :: untried) :
    Runs (readSem owner data leaves) (allocateSockets count maxParallel) store
      (.ret (.ok [port])) store := by
  rw [allocateSockets, one, ports]
  have bound : Runs (readSem owner data leaves) (bindLoop 1 (refused ++ port :: untried) [])
      store (.ret [port]) store := (runs_bindNext refused port untried).bind .refl
  exact .vis true ⟨trivial, rfl⟩ (bound.bind .refl)

variable [Blake3] {config : Config} {handshake : HandshakeData}

/-- A transfer with a single data port, up to the waiting loop. -/
theorem runs_transferChunks (one : min handshake.numChunks config.maxParallel = 1)
    (ports : dataPorts = refused ++ port :: untried) :
    Runs (readSem owner data leaves) (transferChunks config handshake receiver) store
      (waitForCompletion config.reads ⟨handshake, receiver, [port]⟩) (store.enlist port receiver) := by
  have allocated : Runs (readSem owner data leaves)
      (allocateSockets handshake.numChunks config.maxParallel) store (.ret (.ok [port])) store :=
    runs_allocateSockets one ports
  exact allocated.bind (.vis () ⟨trivial, rfl⟩ (.vis (.ok ()) ⟨trivial, rfl⟩
    (.vis () ⟨trivial, rfl⟩ .refl)))

theorem runs_wait {transfer : Transfer} (ready : store.Ready transfer.receiver state)
    (left : leaves state) (incomplete : state.isComplete = false) (unfailed : state.failed = false) :
    Runs (readSem owner data leaves) (waitForCompletion config.reads transfer) store
      (.ret (.waiting transfer)) store := by
  refine .vis state ⟨trivial, ready.locks⟩ (.vis () ⟨left, ready.releases⟩ ?_)
  simp only [Prog.ret_bind, incomplete, unfailed]
  exact .vis .idle ⟨trivial, rfl⟩ .refl

/-- Parts that match the record are all found valid. -/
theorem runs_verifyParts {fs : Fs FilePath} {metadata : TransferMetadata} (unchecked : List Nat)
    (intact : ∀ idx ∈ unchecked, Matches fs state metadata idx) (valid : List Nat) :
    Runs (among Reads) (state.verifyParts metadata unchecked valid 0) fs
      (.ret (valid ++ unchecked, 0)) fs := by
  induction unchecked generalizing valid with
  | nil =>
      rw [List.append_nil]
      exact .refl
  | cons head rest ih =>
      obtain ⟨⟨part, onDisk, hash⟩, later⟩ := List.forall_mem_cons.mp intact
      have verified : Runs (among Reads) (metadata.verifyPart head state.partsDir state.filename) fs
          (.ret true) fs := by
        rw [TransferMetadata.verifyPart, hash]
        refine .vis (.ok part) ⟨trivial, rfl, .inl ⟨part, onDisk, rfl⟩⟩ ?_
        simp only [Prog.ret_bind, decide_true]
        exact .refl
      have checked := ih later (valid ++ [head])
      rw [List.append_assoc, List.singleton_append] at checked
      exact verified.bind checked

variable [KeyOrder]

/-- A record all of whose parts match it is taken over as it is. -/
theorem runs_loadOrPurge {fs : Fs FilePath} {metadata : TransferMetadata}
    (stored : Stored fs state metadata) (same : SameParams state metadata)
    (intact : ∀ idx ∈ metadata.chunkHashes.keys, Matches fs state metadata idx) :
    Runs (among Reads) state.loadOrPurgeMetadata fs (.ret (some metadata)) fs := by
  obtain ⟨data, recorded, parsed⟩ := stored
  have found : Except.ok true = (Except.ok (fs state.metaPath).isSome : Except IoError Bool) := by
    rw [recorded]
    rfl
  have verified := runs_verifyParts (KeyOrder.keys metadata.chunkHashes)
    (fun idx listed => intact idx ((KeyOrder.perm metadata.chunkHashes).mem_iff.mp listed)) []
  refine .vis (.ok true) ⟨trivial, rfl, .inl found⟩ (.vis (.ok data)
    ⟨trivial, rfl, .inl ⟨data, recorded, rfl⟩⟩ ?_)
  simp only [Prog.ret_bind, parsed, if_pos (paramsMatch_iff.mpr same)]
  exact verified.bind .refl

theorem runs_resume (ready : store.Ready receiver state) (left : leaves state)
    (absent : store.fs state.metaPath = none) :
    Runs (readSem owner data leaves) (resume receiver) store (.ret (some false)) store := by
  have looked : Runs (among Reads) state.loadOrPurgeMetadata store.fs (.ret none) store.fs :=
    .vis (.ok false) ⟨trivial, rfl,
      .inl (congrArg (fun content => Except.ok content.isSome) absent).symm⟩ .refl
  have files : Runs (readSem owner data leaves) (Control.onFs state.loadOrPurgeMetadata)
      (store.hold receiver owner) (.ret none) (store.hold receiver owner) :=
    runs_files (fun _ _ reads => reads) (store.hold receiver owner) looked
  exact .vis state ⟨trivial, ready.locks⟩ (files.bind (.vis () ⟨left, ready.releases⟩ .refl))

/-- The chunks of a record whose parts are all there are marked. -/
theorem runs_resume_recorded {metadata : TransferMetadata} {marked : FileReceiver}
    (ready : store.Ready receiver state) (stored : Stored store.fs state metadata)
    (same : SameParams state metadata)
    (intact : ∀ idx ∈ metadata.chunkHashes.keys, Matches store.fs state metadata idx)
    (marks : state.markAll (KeyOrder.keys metadata.chunkHashes) = some marked)
    (left : leaves (marked.setMetadata metadata)) :
    Runs (readSem owner data leaves) (resume receiver) store
      (.ret (some (decide (marked.receivedChunks.count true = marked.numChunks))))
      (store.leave receiver (marked.setMetadata metadata)) := by
  have files : Runs (readSem owner data leaves) (Control.onFs state.loadOrPurgeMetadata)
      (store.hold receiver owner) (.ret (some metadata)) (store.hold receiver owner) :=
    runs_files (fun _ _ reads => reads) (store.hold receiver owner)
      (runs_loadOrPurge stored same intact)
  refine .vis state ⟨trivial, ready.locks⟩ (files.bind ?_)
  dsimp only
  rw [marks]
  exact .vis () ⟨left, ready.unlocks _⟩ .refl

theorem runs_receiveFile (fresh : store.receivers receiver = none) :
    Runs (readSem owner data leaves) (receiveFile config handshake) store
      ((resume receiver).bind fun
        | none => .ret .panicked
        | some true => confirmComplete config receiver
        | some false => transferChunks config handshake receiver)
      (store.leave receiver (handshake.receiver config.outputDir config.tempDir)) := by
  have temporary : Runs (readSem owner data leaves)
      (if config.tempDir ≠ config.outputDir then call (.createDirAll config.tempDir)
        else .ret (.ok ()) : ControlProg (Except IoError Unit)) store (.ret (.ok ())) store := by
    split
    · exact .vis (.ok ()) ⟨trivial, rfl⟩ .refl
    · exact .refl
  exact .vis (.ok ()) ⟨trivial, rfl⟩ (temporary.bind (.vis receiver ⟨trivial, fresh, rfl⟩ .refl))

theorem runs_handleControlConnection (something : data.isEmpty = false)
    (parsed : parseHandshake data = .ok handshake)
    (absent : store.fs ⟨config.outputDir, handshake.safeName⟩ = none) :
    Runs (readSem owner data leaves) (handleControlConnection config) store
      (receiveFile config handshake) store := by
  have checked : Runs (among Reads) (checkExistingFile config.reads config.outputDir
      handshake.safeName handshake.fullHash) store.fs (.ret (.ok false)) store.fs :=
    .vis (.ok false) ⟨trivial, rfl,
      .inl (congrArg (fun content => Except.ok content.isSome) absent).symm⟩ .refl
  have files : Runs (readSem owner data leaves) (Control.onFs (checkExistingFile config.reads
      config.outputDir handshake.safeName handshake.fullHash)) store (.ret (.ok false)) store :=
    runs_files (fun _ _ reads => reads) store checked
  refine .vis (.ok data) ⟨rfl, rfl⟩ ?_
  change Runs _ (ite _ _ _) _ _ _
  rw [something, parsed]
  exact files.bind .refl

/-- A handler that accepts a transfer and finds chunks missing in it, up to the waiting loop. -/
theorem runs_handshake {after : Store Owner} (something : data.isEmpty = false)
    (parsed : parseHandshake data = .ok handshake)
    (one : min handshake.numChunks config.maxParallel = 1)
    (ports : dataPorts = refused ++ port :: untried) (fresh : store.receivers receiver = none)
    (absent : store.fs ⟨config.outputDir, handshake.safeName⟩ = none)
    (resumed : Runs (readSem owner data leaves) (resume receiver)
      (store.leave receiver (handshake.receiver config.outputDir config.tempDir))
      (.ret (some false)) after)
    (ready : after.Ready receiver state) (left : leaves state)
    (incomplete : state.isComplete = false) (unfailed : state.failed = false) :
    Runs (readSem owner data leaves) (Control.task config) store
      (.ret (.waiting ⟨handshake, receiver, [port]⟩)) (after.enlist port receiver) := by
  have served : (after.enlist port receiver).Ready receiver state := ⟨ready.free, ready.found⟩
  have waiting : Runs (readSem owner data leaves)
      (waitForCompletion config.reads ⟨handshake, receiver, [port]⟩) _ _ _ :=
    runs_wait served left incomplete unfailed
  have transferred := (runs_transferChunks one ports).trans waiting
  have received : Runs (readSem owner data leaves) (receiveFile config handshake) store _ _ :=
    (runs_receiveFile fresh).trans (resumed.bind transferred)
  have handled := (runs_handleControlConnection something parsed absent).trans received
  exact handled.bind .refl

/-- The same for a file of which there is no record. -/
theorem runs_handshake_new (something : data.isEmpty = false)
    (parsed : parseHandshake data = .ok handshake)
    (one : min handshake.numChunks config.maxParallel = 1)
    (ports : dataPorts = refused ++ port :: untried) (fresh : store.receivers receiver = none)
    (unlocked : store.holder receiver = none)
    (absent : store.fs ⟨config.outputDir, handshake.safeName⟩ = none)
    (unrecorded : store.fs (handshake.receiver config.outputDir config.tempDir).metaPath = none)
    (left : leaves (handshake.receiver config.outputDir config.tempDir))
    (incomplete : (handshake.receiver config.outputDir config.tempDir).isComplete = false) :
    Runs (readSem owner data leaves) (Control.task config) store
      (.ret (.waiting ⟨handshake, receiver, [port]⟩))
      ((store.leave receiver (handshake.receiver config.outputDir config.tempDir)).enlist port
        receiver) := by
  have ready : (store.leave receiver (handshake.receiver config.outputDir config.tempDir)).Ready
      receiver (handshake.receiver config.outputDir config.tempDir) :=
    ⟨unlocked, leave_self⟩
  exact runs_handshake something parsed one ports fresh absent (runs_resume ready left unrecorded)
    ready left incomplete rfl

omit [KeyOrder] in
/-- A transfer of a single part that has a record is assembled. -/
theorem runs_assemble {fs : Fs FilePath} {content record : Bytes} {reads : Nat}
    (single : state.numChunks = 1) (part : fs (state.partPath 0) = some content)
    (recorded : fs state.metaPath = some record) (something : content ≠ [])
    (short : content.length ≤ bufferSize) (hashed : calcHash content = state.fullHash) :
    Runs (FsOp.Sem False) (state.assemble (reads + 2)) fs (.ret (.ok true))
      (Function.update (Function.update (Function.update fs state.finalPath (some content))
        (state.partPath 0) none) state.metaPath none) := by
  have created : FsOp.Sem False (.create state.finalPath) fs (.ok ())
      (Function.update fs state.finalPath (some [])) := .inl ⟨rfl, rfl⟩
  have there : ∀ output, Function.update fs state.finalPath (some output) (state.partPath 0) =
      some content := fun output => by
    rw [Function.update_of_ne (state.partPath_ne_finalPath 0), part]
  have copies : Runs (FsOp.Sem False) (writeAll state.finalPath 0 content)
      (Function.update fs state.finalPath (some [])) (.ret (.ok ()))
      (Function.update fs state.finalPath (some content)) :=
    Runs.writeAll (fun output => Function.update fs state.finalPath (some output))
      (fun output byte => .inl ⟨rfl, by simp [putByte_end]⟩) [] content
  have read : Runs (FsOp.Sem False) (FileReceiver.copyPart state.finalPath (state.partPath 0)
      (reads + 2) 0 0 .new) (Function.update fs state.finalPath (some []))
      (.ret (.ok (content.length, .update .new content)))
      (Function.update fs state.finalPath (some content)) := by
    have pieces : ∀ piece offset, IsPiece content offset bufferSize piece → ∀ output,
        FsOp.Sem False (.readAt (state.partPath 0) offset bufferSize)
          (Function.update fs state.finalPath (some output)) (.ok piece)
          (Function.update fs state.finalPath (some output)) := by
      intro piece offset isPiece output
      refine ⟨rfl, .inl ⟨piece, rfl, ?_⟩⟩
      rw [there output]
      exact isPiece
    have whole : IsPiece content 0 bufferSize content :=
      ⟨List.prefix_rfl, short, fun nothing => absurd nothing something⟩
    have ended : IsPiece content content.length bufferSize [] :=
      ⟨List.nil_prefix, Nat.zero_le _, fun _ => .inl le_rfl⟩
    have more : content.length ≠ 0 := fun none_ => something (List.eq_nil_of_length_eq_zero none_)
    refine .vis (.ok content) (pieces content 0 whole []) ?_
    simp only [Prog.ret_bind, if_neg more, Nat.zero_add]
    exact copies.bind (.vis (.ok []) (pieces [] content.length ended content) .refl)
  have opened : FsOp.Sem False (.openRead (state.partPath 0))
      (Function.update fs state.finalPath (some [])) (.ok ())
      (Function.update fs state.finalPath (some [])) := by
    refine ⟨rfl, .inl ⟨?_, rfl⟩⟩
    rw [there []]
    rfl
  have found : FsOp.Sem False (.exists_ (state.partPath 0))
      (Function.update fs state.finalPath (some [])) (.ok true)
      (Function.update fs state.finalPath (some [])) := by
    refine ⟨rfl, .inl ?_⟩
    rw [there []]
    rfl
  have removes : ∀ {files : Fs FilePath} {path : FilePath} {bytes : Bytes},
      files path = some bytes →
        FsOp.Sem False (.remove path) files (.ok ()) (Function.update files path none) := by
    intro files path bytes present
    refine .inl ⟨?_, rfl, rfl⟩
    rw [present]
    rfl
  have kept : Function.update (Function.update fs state.finalPath (some content))
      (state.partPath 0) none state.metaPath = some record := by
    have different : state.metaPath ≠ state.partPath 0 :=
      (TransferMetadata.partPath_ne_metaPath 0).symm
    rw [Function.update_of_ne different, Function.update_of_ne state.metaPath_ne_finalPath, recorded]
  have finished : (Hasher.update .new content).finalize = state.fullHash := hashed
  rw [FileReceiver.assemble, single]
  refine .vis (.ok ()) created (.vis (.ok true) found (.vis (.ok ()) opened ?_))
  refine read.bind (.vis (.ok ()) (removes (there content)) (.vis (.ok ()) (removes kept) ?_))
  simp only [Prog.ret_bind, finished, decide_true]
  exact .refl

omit [KeyOrder] in
theorem runs_assembleFile {result : Except IoError Bool} {fs : Fs FilePath}
    (ready : store.Ready receiver state)
    (assembles : Runs (FsOp.Sem False) (state.assemble config.reads) store.fs (.ret result) fs) :
    Runs (within (Hearing data) owner) (assembleFile config.reads receiver) store (.ret result)
      (store.withFs fs) := by
  have ready' : (store.withFs fs).Ready receiver state := ⟨ready.free, ready.found⟩
  have called : Runs (among fun _ => True) (state.assemble config.reads) store.fs (.ret result) fs :=
    assembles.mono fun _ _ _ _ acted => ⟨trivial, acted⟩
  have files : Runs (within (Hearing data) owner) (Control.onFs (state.assemble config.reads))
      (store.hold receiver owner) (.ret result) ((store.hold receiver owner).withFs fs) :=
    runs_files (fun _ _ _ => trivial) (store.hold receiver owner) called
  exact .vis state ⟨trivial, ready.locks⟩
    (files.bind (.vis () ⟨trivial, ready'.releases⟩ .refl))

/-- A handler that finds no chunk missing assembles the file at once. -/
theorem runs_complete {after : Store Owner} {fs : Fs FilePath} (something : data.isEmpty = false)
    (parsed : parseHandshake data = .ok handshake) (fresh : store.receivers receiver = none)
    (absent : store.fs ⟨config.outputDir, handshake.safeName⟩ = none)
    (resumed : Runs (readSem owner data leaves) (resume receiver)
      (store.leave receiver (handshake.receiver config.outputDir config.tempDir))
      (.ret (some true)) after)
    (ready : after.Ready receiver state)
    (assembles : Runs (FsOp.Sem False) (state.assemble config.reads) after.fs (.ret (.ok true)) fs) :
    Runs (within (Hearing data) owner) (Control.task config) store (.ret (.returned (.ok ())))
      (after.withFs fs) := by
  have received : Runs (readSem owner data leaves) (receiveFile config handshake) store
      (confirmComplete config receiver) after :=
    (runs_receiveFile fresh).trans (resumed.bind .refl)
  have handled := (runs_handleControlConnection something parsed absent).trans received
  have confirms : Runs (within (Hearing data) owner) (confirmComplete config receiver) after
      (.ret (.returned (.ok ()))) (after.withFs fs) :=
    .vis (.ok ()) ⟨trivial, rfl⟩
      ((runs_assembleFile ready assembles).bind (.vis (.ok ()) ⟨trivial, rfl⟩ .refl))
  have hears : Runs (within (Hearing data) owner) (handleControlConnection config) store
      (confirmComplete config receiver) after :=
    handled.mono fun _ _ _ _ acted => ⟨acted.1.hearing, acted.2⟩
  exact (hears.trans confirms).bind (.vis () ⟨trivial, rfl⟩ .refl)

omit [KeyOrder] in
theorem runs_building {transfer : Transfer} (ready : store.Ready transfer.receiver state)
    (complete : state.isComplete = true) (unfailed : state.failed = false)
    {rest : FsProg FilePath (Except IoError Bool)} {fs : Fs FilePath}
    (assembles : Runs (FsOp.Sem False) (state.assemble config.reads) store.fs rest fs) :
    Runs (within Filing owner) ((waitForCompletion config.reads transfer).bind closing) store
      (building transfer state rest) ((store.hold transfer.receiver owner).withFs fs) := by
  have called : Runs (among fun _ => True) (state.assemble config.reads) store.fs rest fs :=
    assembles.mono fun _ _ _ _ acted => ⟨trivial, acted⟩
  have files : Runs (within Filing owner) (Control.onFs (state.assemble config.reads))
      (store.hold transfer.receiver owner) (Control.onFs rest)
      ((store.hold transfer.receiver owner).withFs fs) :=
    runs_files (fun _ _ _ => trivial) (store.hold transfer.receiver owner) called
  have locks : within Filing owner (.lock transfer.receiver) store state
      (store.hold transfer.receiver owner) := ⟨trivial, ready.locks⟩
  have releases : within Filing owner (.unlock transfer.receiver state)
      (store.hold transfer.receiver owner) () store := ⟨trivial, ready.releases⟩
  have finishes : Runs (within Filing owner) ((finish config.reads transfer).bind closing) store
      (building transfer state rest) ((store.hold transfer.receiver owner).withFs fs) := by
    refine Runs.within (.vis state locks (.vis () releases (.vis state locks (.vis () releases ?_))))
    simp only [complete, unfailed]
    exact .vis state locks files.within.within.within
  refine .vis state locks (.vis () releases ?_)
  simp only [Prog.ret_bind, complete, Bool.true_or, if_true]
  exact finishes

omit [KeyOrder] in
theorem runs_reporting {transfer : Transfer} (ready : store.Ready transfer.receiver state)
    (complete : state.isComplete = true) (unfailed : state.failed = false) {fs : Fs FilePath}
    (assembles : Runs (FsOp.Sem False) (state.assemble config.reads) store.fs (.ret (.ok true)) fs) :
    Runs (within Filing owner) ((waitForCompletion config.reads transfer).bind closing) store
      (reporting transfer) (store.withFs fs) := by
  have ready' : (store.withFs fs).Ready transfer.receiver state := ⟨ready.free, ready.found⟩
  have built : Runs (within Filing owner) (building transfer state (.ret (.ok true)))
      ((store.withFs fs).hold transfer.receiver owner) (reporting transfer) (store.withFs fs) :=
    .vis () ⟨trivial, ready'.releases⟩ .refl
  exact (runs_building ready complete unfailed assembles).trans built

omit [Blake3] [KeyOrder] in
theorem runs_cleanup :
    Runs (controlSem False owner) (((cleanup [port]).bind fun _ =>
      .ret (.returned (.ok ()))).bind closing) store (.ret (.returned (.ok ())))
      { store with registry := Function.update store.registry port none } :=
  .vis () rfl (.vis () rfl (.vis () rfl .refl))

end Control

end Store

section Follow

variable {Owner World : Type} [Blake3]

/-- What a task does to the store with an acceptable chunk can be followed in a world, and a
property of the world is kept that depends on how far the task has come. -/
def FollowsChunk (sem : (op : DataOp) → World → op.Res → World → Prop)
    (storeOf : World → Store Owner) (owner : Owner) (receiver : ReceiverId) (state : FileReceiver)
    (frame : Bytes) (chunk : ChunkInHand) (kept : ChunkStage → World → Prop) : Prop :=
  ∀ stage (op : DataOp) (answer : op.Res) stage' world store,
    ChunkTurn receiver state frame chunk stage op answer stage' → kept stage world →
      Store.dataSem False owner op (storeOf world) answer store →
        ∃ world', sem op world answer world' ∧ storeOf world' = store ∧ kept stage' world'

namespace FollowsChunk

variable {sem : (op : DataOp) → World → op.Res → World → Prop} {storeOf : World → Store Owner}
  {owner : Owner} {receiver : ReceiverId} {state : FileReceiver} {frame : Bytes}
  {chunk : ChunkInHand} {kept : ChunkStage → World → Prop} {world : World} {port : UInt16}

theorem runs (follows : FollowsChunk sem storeOf owner receiver state frame chunk kept)
    {stage stage' : ChunkStage} {program rest : DataProg DataState} {store : Store Owner}
    (holds : kept stage world)
    (ran : Runs (Store.chunkSem owner receiver state frame chunk) program (stage, storeOf world)
      rest (stage', store)) :
    ∃ world', Runs sem program world rest world' ∧ storeOf world' = store ∧ kept stage' world' := by
  refine Runs.simulate (fun before world => storeOf world = before.2 ∧ kept before.1 world) ?_
    ⟨rfl, holds⟩ ran
  intro op before world answer after related acted
  obtain ⟨here, holds⟩ := related
  obtain ⟨turned, acted⟩ := acted
  rw [← here] at acted
  exact follows _ op answer _ world _ turned holds acted

theorem stores (follows : FollowsChunk sem storeOf owner receiver state frame chunk kept)
    (ready : (storeOf world).Ready receiver state) (carries : Carries state frame chunk)
    (unfailed : state.failed = false) (holds : kept .looking world) :
    ∃ world', Runs sem (Data.serveFrame port receiver) world
        (Data.acknowledging port receiver (Data.recording receiver chunk)) world' ∧
      storeOf world' = (storeOf world).put (state.partPath chunk.idx) (some chunk.data) ∧
        kept .holding world' :=
  follows.runs holds (Store.runs_store ready carries unfailed)

theorem records (follows : FollowsChunk sem storeOf owner receiver state frame chunk kept)
    (ready : (storeOf world).Ready receiver state) (holds : kept .holding world) :
    ∃ world', Runs sem (Data.acknowledging port receiver (Data.recording receiver chunk)) world
        (.ret (.connected port receiver)) world' ∧
      storeOf world' = (storeOf world).record receiver state chunk ∧ kept .acknowledged world' :=
  follows.runs holds (Store.runs_record ready)

/-- A task receives a chunk, records and acknowledges it. -/
theorem receives (follows : FollowsChunk sem storeOf owner receiver state frame chunk kept)
    (ready : (storeOf world).Ready receiver state) (carries : Carries state frame chunk)
    (unfailed : state.failed = false) (holds : kept .looking world) :
    ∃ world', Runs sem (Data.serveFrame port receiver) world (.ret (.connected port receiver))
        world' ∧ storeOf world' = (storeOf world).receive receiver state chunk ∧
          kept .acknowledged world' := by
  have ready' : ((storeOf world).put (state.partPath chunk.idx) (some chunk.data)).Ready receiver
      state := ⟨ready.free, ready.found⟩
  exact follows.runs holds ((Store.runs_store ready carries unfailed).trans
    (Store.runs_record ready'))

end FollowsChunk

end Follow

section Sample

theorem dataPorts_first : ∃ untried, dataPorts = 45000 :: 45001 :: untried := by
  have counted : ∃ later, List.range totalDataPorts = 0 :: 1 :: later :=
    ⟨((List.range 999).map Nat.succ).map Nat.succ, by
      rw [totalDataPorts, dataPortEnd, dataPortStart, List.range_succ_eq_map,
        List.range_succ_eq_map]
      rfl⟩
  obtain ⟨later, counted⟩ := counted
  rw [dataPorts, counted]
  exact ⟨_, rfl⟩

/-- The receiver of a one-byte file, before anything has arrived. -/
def singleReceiver : FileReceiver :=
  .new (ascii "f") 1 2097152 1 (@calcHash .sample [0x61]) (ascii "received") (ascii "received")

/-- Its only chunk. -/
def singleChunk : ChunkInHand := ⟨0, [0x61]⟩

set_option maxRecDepth 8000 in
theorem parseHandshake_sampleHandshake :
    ∃ handshake, parseHandshake Control.sampleHandshake = .ok handshake ∧
      handshake.safeName = ascii "f" ∧ handshake.numChunks = 1 ∧
        handshake.receiver (ascii "received") (ascii "received") = singleReceiver :=
  ⟨_, rfl, rfl, rfl, rfl⟩

theorem carries_singleChunk {state : FileReceiver} (params : state.params = singleReceiver.params) :
    let _ := Blake3.sample
    Carries state (Client.chunkMessage 0 0 [0x61]).flatten singleChunk := by
  intro _
  have fileSize : state.fileSize = 1 := congrArg FileReceiver.Params.fileSize params
  have chunkSize : state.chunkSize = 2097152 := congrArg FileReceiver.Params.chunkSize params
  have numChunks : state.numChunks = 1 := congrArg FileReceiver.Params.numChunks params
  refine carries_chunkMessage (by decide) (by simp) ?_
  rw [fileSize, chunkSize, numChunks]
  rfl

end Sample

end BeeSync.Server
