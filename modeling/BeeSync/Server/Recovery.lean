import BeeSync.ChunkGeometry
import BeeSync.ChunkMessage
import BeeSync.Server.Hosting

/-!
# Crashes and restarts

One file is sent again and again to a server that may crash between any two calls on
its files. A lifetime of the server is a run over the files the last crash left; its
clients are honest. Kept in mind across the lifetimes is which chunks have been
acknowledged and which parts an assembly has consumed.
-/

set_option autoImplicit false

namespace BeeSync.Server

open Encoding Arithmetic Interaction

/-- A non-empty file, the handshake that describes it, and the server it is sent to. -/
structure Job [Blake3] where
  config : Control.Config
  handshake : HandshakeData
  source : Bytes
  nonempty : 0 < source.length
  fileSize : handshake.fileSize = source.length
  numChunks : handshake.numChunks = Client.numChunks source.length handshake.chunkSize
  fullHash : handshake.fullHash = calcHash source
  /-- The bound on read loops is no limit. -/
  enough : source.length < config.reads

/-- What a crash leaves. -/
structure Past where
  fs : Fs FilePath
  /-- Chunks that have been acknowledged, except for parts that were consumed and then
  created again. -/
  acked : Set Nat
  /-- Chunks whose part an assembly has removed and nobody has created again. -/
  consumed : Set Nat

structure Lifetime where
  store : Store (Role Unit)
  acked : Set Nat
  consumed : Set Nat
  /-- The chunk in the frame that a data server task has received last. -/
  serving : Nat → Option Nat
  /-- The chunks that the client has sent. -/
  sent : Set Nat
  /-- The chunks that the resume section has marked. -/
  recovered : Set Nat
  /-- The resume section has run. -/
  resumed : Prop
  /-- An assembly has been started. -/
  assembling : Prop

namespace Lifetime

/-- The chunks that are marked as received. -/
def marked (lifetime : Lifetime) : Set Nat :=
  {idx | ∃ receiver state, lifetime.store.receivers receiver = some state ∧ state.Received idx}

def past (lifetime : Lifetime) : Past := ⟨lifetime.store.fs, lifetime.acked, lifetime.consumed⟩

/-- A server that has just been started. -/
def initial (past : Past) : Lifetime where
  store := .initial past.fs
  acked := past.acked
  consumed := past.consumed
  serving := fun _ => none
  sent := ∅
  recovered := ∅
  resumed := False
  assembling := False

end Lifetime

/-- The index of the chunk in a frame. -/
def headerIndex (frame : Bytes) : Option Nat :=
  (parseChunkHeader frame).map ChunkHeader.chunkIndex

namespace Job

variable [Blake3] (job : Job)

/-- The source bytes of a chunk. -/
def chunk (idx : Nat) : Bytes := slice job.source job.handshake.chunkSize idx

def partPath (idx : Nat) : FilePath :=
  TransferMetadata.partPath job.config.tempDir job.handshake.safeName idx

def metaPath : FilePath :=
  TransferMetadata.metaPath job.config.tempDir job.handshake.safeName

def outputPath : FilePath := ⟨job.config.outputDir, job.handshake.safeName⟩

/-- What a client makes of a chunk, from what a read of the source at its offset brings. -/
structure Message (idx : Nat) (frame : Bytes) : Prop where
  inRange : idx < job.handshake.numChunks
  read : ∃ piece,
    IsPiece job.source (idx * job.handshake.chunkSize) (job.chunk idx).length piece ∧
      frame = (Client.chunkMessage idx (idx * job.handshake.chunkSize) piece).flatten

/-- A chunk is sent only if the server has not had it from the start, and once: a client sends
again what it is told to be bad, and gives up on anything else. -/
structure Honest (lifetime : Lifetime) (idx : Nat) (frame : Bytes) : Prop
    extends job.Message idx frame where
  unsent : idx ∉ lifetime.sent
  missing : idx ∉ lifetime.recovered

/-- What a client sends on the control connection: the handshake of the job. -/
def Greets : (op : ControlOp) → op.Res → Prop
  | .recvFrame, .ok data => parseHandshake data = .ok job.handshake
  | _, _ => True

/-- What a client sends on a data connection: queries and chunks. -/
def Transmits (lifetime : Lifetime) : (op : DataOp) → op.Res → Prop
  | .recvFrame, .ok frame => frame = [Chunk.queryMagic] ∨ ∃ idx, job.Honest lifetime idx frame
  | _, _ => True

/-- Creating the output file starts the assembly, and what is removed from then on is
consumed. -/
def noteControl (lifetime : Lifetime) (store : Store (Role Unit)) : ControlOp → Lifetime
  | .fs op => { lifetime with
      store := store
      consumed := lifetime.consumed ∪ {idx | lifetime.assembling ∧ op = .remove (job.partPath idx)}
      assembling := lifetime.assembling ∨ op = .create job.outputPath }
  | .unlock _ state => { lifetime with
      store := store
      recovered := {idx | (lifetime.resumed → idx ∈ lifetime.recovered) ∧
        (¬ lifetime.resumed → state.Received idx)}
      resumed := True }
  | _ => { lifetime with store := store }

/-- A consumed part that is created again is a new one, which has not been acknowledged. -/
def noteData (task : Nat) (lifetime : Lifetime) (store : Store (Role Unit)) :
    (op : DataOp) → op.Res → Lifetime
  | .recvFrame, .ok frame => { lifetime with
      store := store
      serving := Function.update lifetime.serving task (headerIndex frame)
      sent := lifetime.sent ∪ {idx | headerIndex frame = some idx} }
  | .sendFrame payload, _ => { lifetime with
      store := store
      acked := lifetime.acked ∪ {idx | payload = [Chunk.ackOk] ∧ lifetime.serving task = some idx} }
  | .fs op, _ => { lifetime with
      store := store
      acked := lifetime.acked \ {idx | op = .create (job.partPath idx) ∧ idx ∈ lifetime.consumed}
      consumed := lifetime.consumed \ {idx | op = .create (job.partPath idx)} }
  | _, _ => { lifetime with store := store }

/-- No call on files fails. -/
def acts : Acts Unit Lifetime
  | .control _, op, lifetime, answer, lifetime' => ∃ store,
      Store.controlSem False (Role.control ()) op lifetime.store answer store ∧
        job.Greets op answer ∧ lifetime' = job.noteControl lifetime store op
  | .data task, op, lifetime, answer, lifetime' => ∃ store,
      Store.dataSem False (Role.data task) op lifetime.store answer store ∧
        job.Transmits lifetime op answer ∧ lifetime' = job.noteData task lifetime store op answer

/-- No file of the transfer exists. -/
structure Untouched (fs : Fs FilePath) : Prop where
  parts : ∀ idx, fs (job.partPath idx) = none
  record : fs job.metaPath = none
  output : fs job.outputPath = none

section Runs

variable [KeyOrder]

def system : System (Role Unit) Role.sig Role.Ctl Lifetime :=
  serverSystem job.config job.acts

/-- A server that has just been started over what the last one left. -/
def start (past : Past) : Pool (@Role.sig Unit) Role.Ctl Lifetime :=
  serverStart job.config (.initial past)

/-- What any number of crashes can leave. -/
inductive Survives : Past → Prop where
  | untouched {fs : Fs FilePath} : job.Untouched fs → Survives ⟨fs, ∅, ∅⟩
  | crash {past : Past} {pool : Pool (@Role.sig Unit) Role.Ctl Lifetime} : Survives past →
      Reaches job.system (fun _ => True) (job.start past) pool → Survives pool.world.past

end Runs

/-- The file is where it belongs, and nothing else is left of the transfer. -/
structure Delivered (fs : Fs FilePath) : Prop where
  output : fs job.outputPath = some job.source
  parts : ∀ idx < job.handshake.numChunks, fs (job.partPath idx) = none
  record : fs job.metaPath = none

/-- Recovery as it should be, in any state of a lifetime. -/
structure Recovered (pool : Pool (@Role.sig Unit) Role.Ctl Lifetime) : Prop where
  /-- Once the resume section has run, and until parts are consumed, a marked chunk is on
  disk as in the source. -/
  whole : pool.world.resumed → ¬ pool.world.assembling →
    ∀ idx ∈ pool.world.marked, pool.world.store.fs (job.partPath idx) = some (job.chunk idx)
  /-- No acknowledged chunk is lost unless its part has been consumed. -/
  kept : pool.world.resumed →
    ∀ idx ∈ pool.world.acked, idx ∉ pool.world.consumed → idx ∈ pool.world.marked
  /-- A started assembly is never held up. -/
  proceeds : pool.world.assembling → ∀ op next, pool.prog (.control ()) = .vis op next →
    ∃ answer lifetime, job.acts (.control ()) op pool.world answer lifetime
  /-- It succeeds, with the source as its output and nothing left of the transfer. -/
  delivers : pool.world.assembling → ∀ payload next,
    pool.prog (.control ()) = .vis (.sendFrame payload) next →
      payload = [Handshake.respOk] ∧ job.Delivered pool.world.store.fs
  /-- The handler does not end before. -/
  ends : pool.world.assembling → ∀ value, pool.prog (.control ()) = .ret value →
    job.Delivered pool.world.store.fs

end Job

end BeeSync.Server
