import BeeSync.ChunkMessage
import BeeSync.Interaction.FileRules
import BeeSync.Server.DataPhases

/-!
# A turn of a data server task

How a task takes an acceptable chunk message when no call fails, in any world: it looks at
its receiver, writes the part without the lock, and records it under the lock.
-/

set_option autoImplicit false

namespace BeeSync.Server

open Encoding Arithmetic Interaction

variable [Blake3]

theorem carries_chunkMessage {state : FileReceiver} {idx offset : Nat} {data : Bytes}
    (index : idx < 2 ^ 32) (size : data.length < 2 ^ 32)
    (expected : expectedChunkSize state.fileSize state.chunkSize state.numChunks idx =
      some data.length) :
    Carries state (Client.chunkMessage idx offset data).flatten ⟨idx, data⟩ := by
  have parsed := parseChunkHeader_chunkMessage idx offset data
  rw [asU32_of_lt index, asU32_of_lt size] at parsed
  exact ⟨_, parsed, rfl, expected, (chunkMessage_length idx offset data).ge,
    (chunkMessage_data idx offset data).symm, (chunkMessage_hash idx offset data).symm⟩

namespace Data

/-- What is left of a chunk once its part has been written. -/
def recording (receiver : ReceiverId) (chunk : ChunkInHand) : DataProg UInt8 :=
  (call (.lock receiver)).bind fun state =>
    (onFs (state.recordChunk chunk.idx (calcHash chunk.data))).bind fun
      | (recorded, .ok ()) => (call (.unlock receiver recorded)).bind fun _ => .ret Chunk.ackOk
      | (recorded, .error _) =>
        (call (.unlock receiver recorded.setFailed)).bind fun _ => .ret Chunk.ackHashMismatch

/-- What is left of a chunk once the path of its part is known. -/
def storing (receiver : ReceiverId) (chunk : ChunkInHand) (path : FilePath) : DataProg UInt8 :=
  (onFs (writeFile path chunk.data)).recover
    (fun _ => (call (.lock receiver)).bind fun state =>
      (call (.unlock receiver state.setFailed)).bind fun _ => .ret Chunk.ackHashMismatch)
    fun _ => recording receiver chunk

/-- The acknowledgment and the end of the turn. -/
def acknowledging (port : UInt16) (receiver : ReceiverId) (program : DataProg UInt8) :
    DataProg DataState :=
  (program.bind fun ack => (call (.sendFrame [ack])).bind fun sent => .ret (some sent)).bind fun
    | some _ => .ret (.connected port receiver)
    | none => (call .closeStream).bind fun _ =>
        (call (.dropListener port)).bind fun _ => .ret .ended

end Data

/-- How far a task has come with an acceptable chunk. -/
inductive ChunkStage where
  | looking
  /-- The frame is there, and the part is on its way to disk. -/
  | holding
  /-- The temporary record is being written. -/
  | saving
  | saved
  | recorded
  | acknowledged
  deriving DecidableEq

/-- What a task does with the chunk when no call fails. -/
inductive ChunkTurn (receiver : ReceiverId) (state : FileReceiver) (frame : Bytes)
    (chunk : ChunkInHand) : Turns DataSig ChunkStage where
  | look : ChunkTurn receiver state frame chunk .looking (.lock receiver) state .looking
  | leave : ChunkTurn receiver state frame chunk .looking (.unlock receiver state) () .looking
  | hear : ChunkTurn receiver state frame chunk .looking .recvFrame (.ok frame) .holding
  | lock : ChunkTurn receiver state frame chunk .holding (.lock receiver) state .holding
  | unlock : ChunkTurn receiver state frame chunk .holding (.unlock receiver state) () .holding
  | create : ChunkTurn receiver state frame chunk .holding
      (.fs (.create (state.partPath chunk.idx))) (.ok ()) .holding
  | write (offset : Nat) (byte : UInt8) : ChunkTurn receiver state frame chunk .holding
      (.fs (.writeAt (state.partPath chunk.idx) offset byte)) (.ok ()) .holding
  | start : ChunkTurn receiver state frame chunk .holding (.fs (.create state.tmpPath)) (.ok ())
      .saving
  | fill (offset : Nat) (byte : UInt8) : ChunkTurn receiver state frame chunk .saving
      (.fs (.writeAt state.tmpPath offset byte)) (.ok ()) .saving
  | rename : ChunkTurn receiver state frame chunk .saving
      (.fs (.rename state.tmpPath state.metaPath)) (.ok ()) .saved
  | record : ChunkTurn receiver state frame chunk .saved (.unlock receiver (state.recorded chunk))
      () .recorded
  | acknowledge : ChunkTurn receiver state frame chunk .recorded (.sendFrame [Chunk.ackOk]) (.ok ())
      .acknowledged

section Runs

variable {World : Type} {sem : (op : DataOp) → World → op.Res → World → Prop}
  {port : UInt16} {receiver : ReceiverId} {chunk : ChunkInHand}

omit [Blake3] in
theorem Runs.onFs {α : Type} {program rest : FsProg FilePath α} {before after : World}
    (ran : Runs (fun op => sem (.fs op)) program before rest after) :
    Runs sem (Data.onFs program) before (Data.onFs rest) after := by
  have lifts : ∀ (op : FsOp FilePath) before (answer : op.Res) after,
      sem (.fs op) before answer after → ∃ given : op.Res, given = answer ∧
        sem (.fs op) before given after := fun _ _ answer _ acted => ⟨answer, rfl, acted⟩
  exact Runs.embed lifts ran

theorem runs_processChunk {state : FileReceiver} {frame : Bytes}
    (carries : Carries state frame chunk) {w₀ w₁ w₂ w₃ w₄ : World}
    (size : sem (.lock receiver) w₀ state w₁) (accept : sem (.unlock receiver state) w₁ () w₂)
    (place : sem (.lock receiver) w₂ state w₃) (placed : sem (.unlock receiver state) w₃ () w₄) :
    Runs sem (Data.processChunk receiver frame) w₀
      ((Data.storing receiver chunk (state.partPath chunk.idx)).bind fun ack =>
        (Data.call (.sendFrame [ack])).bind fun sent => .ret (some sent)) w₄ := by
  obtain ⟨header, parsed, index, expected, long, bytes, hash⟩ := carries.header
  have taken : Runs sem (Data.verifyAndWriteChunk receiver chunk.idx chunk.data
      (field frame (Chunk.headerSize + header.chunkSize) Chunk.hashSize)) w₂
      (Data.storing receiver chunk (state.partPath chunk.idx)) w₄ := by
    rw [Data.verifyAndWriteChunk, if_pos hash]
    exact .vis state place (.vis () placed .refl)
  rw [Data.processChunk, parsed]
  simp only [if_neg (not_lt.mpr long)]
  refine .vis state size (.vis () accept ?_)
  rw [index] at expected
  simp only [Prog.ret_bind, index, expected, ne_eq, not_true_eq_false, if_false, ← bytes]
  exact taken.within

theorem runs_serveFrame {state : FileReceiver} {frame : Bytes} (carries : Carries state frame chunk)
    (unfailed : state.failed = false) {w₀ w₁ w₂ w₃ w₄ w₅ w₆ w₇ : World}
    (look : sem (.lock receiver) w₀ state w₁) (leave : sem (.unlock receiver state) w₁ () w₂)
    (hear : sem .recvFrame w₂ (.ok frame) w₃)
    (size : sem (.lock receiver) w₃ state w₄) (accept : sem (.unlock receiver state) w₄ () w₅)
    (place : sem (.lock receiver) w₅ state w₆) (placed : sem (.unlock receiver state) w₆ () w₇) :
    Runs sem (Data.serveFrame port receiver) w₀ (Data.acknowledging port receiver
      (Data.storing receiver chunk (state.partPath chunk.idx))) w₇ := by
  obtain ⟨header, _, _, _, long, _, _⟩ := carries.header
  have something : ¬ frame.isEmpty := by
    intro nothing
    rw [List.isEmpty_iff.mp nothing] at long
    simp [Chunk.headerSize] at long
  have noQuery : frame ≠ [Chunk.queryMagic] := by
    intro query
    rw [query] at long
    simp [Chunk.headerSize] at long
    omega
  refine .vis state look (.vis () leave ?_)
  simp only [Prog.ret_bind, unfailed]
  refine .vis (.ok frame) hear ?_
  simp only [Prog.ret_bind, something, noQuery]
  exact (runs_processChunk carries size accept place placed).within

theorem runs_storing {path : FilePath} {before after : World}
    (writes : Runs (fun op => sem (.fs op)) (writeFile path chunk.data) before (.ret (.ok ())) after) :
    Runs sem (Data.acknowledging port receiver (Data.storing receiver chunk path)) before
      (Data.acknowledging port receiver (Data.recording receiver chunk)) after := by
  have stored : Runs sem (Data.storing receiver chunk path) before
      (Data.recording receiver chunk) after :=
    (Runs.onFs writes).bind .refl
  exact stored.within.within

theorem runs_recording {state : FileReceiver} {w₀ w₁ w₂ w₃ : World}
    (record : sem (.lock receiver) w₀ state w₁)
    (saves : Runs (fun op => sem (.fs op)) ((state.recorded chunk).metadata.save state.partsDir
      state.filename) w₁ (.ret (.ok ())) w₂)
    (recorded : sem (.unlock receiver (state.recorded chunk)) w₂ () w₃) :
    Runs sem (Data.recording receiver chunk) w₀ (.ret Chunk.ackOk) w₃ := by
  have records : Runs (fun op => sem (.fs op)) (state.recordChunk chunk.idx (calcHash chunk.data))
      w₁ (.ret (state.recorded chunk, .ok ())) w₂ := saves.bind .refl
  exact .vis state record ((Runs.onFs records).bind (.vis () recorded .refl))

omit [Blake3] in
theorem runs_acknowledging {program : DataProg UInt8} {ack : UInt8} {before middle after : World}
    (ran : Runs sem program before (.ret ack) middle)
    (acknowledge : sem (.sendFrame [ack]) middle (.ok ()) after) :
    Runs sem (Data.acknowledging port receiver program) before (.ret (.connected port receiver))
      after := by
  have acknowledged : Runs sem (program.bind fun ack =>
      (Data.call (.sendFrame [ack])).bind fun sent => .ret (some sent)) before
        (.ret (some (.ok ()))) after := ran.bind (.vis (.ok ()) acknowledge .refl)
  exact acknowledged.bind .refl

omit [Blake3] in
theorem runs_save {sem : (op : FsOp FilePath) → World → op.Res → World → Prop}
    {metadata : TransferMetadata} {partsDir filename : Bytes} {before after : World}
    (put : Bytes → World)
    (create : sem (.create (TransferMetadata.tmpPath partsDir filename)) before (.ok ()) (put []))
    (write : ∀ content byte, sem (.writeAt (TransferMetadata.tmpPath partsDir filename)
      content.length byte) (put content) (.ok ()) (put (content ++ [byte])))
    (rename : sem (.rename (TransferMetadata.tmpPath partsDir filename)
      (TransferMetadata.metaPath partsDir filename)) (put metadata.toBytes) (.ok ()) after) :
    Runs sem (metadata.save partsDir filename) before (.ret (.ok ())) after :=
  (Runs.writeFile put create write metadata.toBytes).bind (.vis (.ok ()) rename .refl)

end Runs

end BeeSync.Server
