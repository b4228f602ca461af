import BeeSync.Encoding.Checked
import BeeSync.Server.Data

/-!
# Frames and bounds

`process_chunk` once more, with every index and slice as a read that may panic. The lock
may show any state of the receiver that other tasks have left, as long as it is the receiver
of the same transfer.
-/

set_option autoImplicit false

namespace BeeSync.Server

open Encoding Interaction

/-- The lock of the receiver shows a receiver of the transfer. -/
def ShowsParams (params : FileReceiver.Params) : (op : DataOp) → op.Res → Prop
  | .lock _, state => state.params = params
  | _, _ => True

/-- The header as `process_chunk` reads it. -/
def readChunkHeader (data : Bytes) : Option ChunkHeader := do
  let chunkIndex ← numberAt data 0 4
  let chunkOffset ← numberAt data 4 8
  let chunkSize ← numberAt data 12 4
  return ⟨chunkIndex, chunkOffset, chunkSize⟩

theorem readChunkHeader_eq (data : Bytes) : readChunkHeader data = parseChunkHeader data := by
  rw [readChunkHeader, parseChunkHeader]
  split
  case isTrue short =>
    have size : numberAt data 12 4 = none := numberAt_of_lt short (by decide)
    simp [size]
  case isFalse long =>
    have complete : 16 ≤ data.length := not_lt.mp long
    simp [numberAt_of_le (show 0 + 4 ≤ data.length by omega),
      numberAt_of_le (show 4 + 8 ≤ data.length by omega),
      numberAt_of_le (show 12 + 4 ≤ data.length by omega)]

namespace Data

section Checks

variable [Blake3]

/-- `verify_and_write_chunk`: nothing stands for a panic. -/
def verifyAndRecordChunk (receiver : ReceiverId) (chunkIndex : Nat) (chunkData : Bytes)
    (chunkHashRcvd : Bytes) : DataProg (Option UInt8) :=
  if (calcHash chunkData).bytes = chunkHashRcvd then
    (call (.lock receiver)).bind fun state =>
      (call (.unlock receiver state)).bind fun _ =>
        (onFs (writeFile (state.partPath chunkIndex) chunkData)).recover
          (fun _ => (call (.lock receiver)).bind fun state =>
            (call (.unlock receiver state.setFailed)).bind fun _ =>
              .ret (some Chunk.ackHashMismatch))
          fun _ => (call (.lock receiver)).bind fun state =>
            -- `received_chunks[index] = true`
            if chunkIndex < state.receivedChunks.length then
              (onFs (state.recordChunk chunkIndex (calcHash chunkData))).bind fun
                | (recorded, .ok ()) =>
                  (call (.unlock receiver recorded)).bind fun _ => .ret (some Chunk.ackOk)
                | (recorded, .error _) =>
                  (call (.unlock receiver recorded.setFailed)).bind fun _ =>
                    .ret (some Chunk.ackHashMismatch)
            else .ret none
  else .ret (some Chunk.ackHashMismatch)

/-- `process_chunk`: nothing stands for a panic. -/
def checkChunk (receiver : ReceiverId) (data : Bytes) : DataProg (Option (Except IoError Unit)) :=
  match readChunkHeader data with
  | none => .ret none
  | some header =>
    if data.length < Chunk.headerSize + header.chunkSize + Chunk.hashSize then .ret (some (.ok ()))
    else
      (call (.lock receiver)).bind fun state =>
        (call (.unlock receiver state)).bind fun _ =>
          match expectedChunkSize state.fileSize state.chunkSize state.numChunks
              header.chunkIndex with
          | none => .ret (some (.ok ()))
          | some expected =>
            if header.chunkSize ≠ expected then .ret (some (.ok ()))
            else
              match sliced data Chunk.headerSize (Chunk.headerSize + header.chunkSize),
                sliced data (Chunk.headerSize + header.chunkSize)
                  (Chunk.headerSize + header.chunkSize + Chunk.hashSize) with
              | some chunkData, some chunkHashRcvd =>
                (verifyAndRecordChunk receiver header.chunkIndex chunkData chunkHashRcvd).bind fun
                  | none => .ret none
                  | some ack => (call (.sendFrame [ack])).bind fun sent => .ret (some sent)
              | _, _ => .ret none

variable {params : FileReceiver.Params}

theorem verifyAndRecordChunk_agrees (receiver : ReceiverId) {chunkIndex : Nat}
    (chunkData chunkHashRcvd : Bytes) (inRange : chunkIndex < params.numChunks) :
    Prog.AgreesWhen (ShowsParams params)
      (verifyAndRecordChunk receiver chunkIndex chunkData chunkHashRcvd)
      ((verifyAndWriteChunk receiver chunkIndex chunkData chunkHashRcvd).bind fun ack =>
        .ret (some ack)) := by
  rw [verifyAndRecordChunk, verifyAndWriteChunk]
  split
  case isFalse => exact .ret _
  case isTrue =>
    refine .vis _ fun state _ => .vis _ fun _ _ => ?_
    simp only [Prog.ret_bind, Prog.recover, Prog.bind_assoc]
    refine .bind (.refl _) fun written => ?_
    cases written with
    | error error => exact .vis _ fun _ _ => .vis _ fun _ _ => .ret _
    | ok _ =>
        refine .vis _ fun state shown => ?_
        have sized : chunkIndex < state.receivedChunks.length := by
          have numChunks : state.numChunks = params.numChunks :=
            congrArg FileReceiver.Params.numChunks shown
          rw [state.sized, numChunks]
          exact inRange
        simp only [Prog.ret_bind, if_pos sized, Prog.bind_assoc]
        refine .bind (.refl _) fun result => ?_
        obtain ⟨recorded, saved⟩ := result
        cases saved with
        | error error => exact .vis _ fun _ _ => .ret _
        | ok _ => exact .vis _ fun _ _ => .ret _

/-- With its bounds checks the program does what it does without them. -/
theorem checkChunk_agrees (receiver : ReceiverId) (data : Bytes) :
    Prog.AgreesWhen (ShowsParams params) (checkChunk receiver data) (processChunk receiver data) := by
  rw [checkChunk, processChunk, readChunkHeader_eq]
  cases parseChunkHeader data with
  | none => exact .ret _
  | some header =>
      dsimp only
      split
      case isTrue => exact .ret _
      case isFalse complete =>
        refine .vis _ fun state shown => .vis _ fun _ _ => ?_
        simp only [Prog.ret_bind]
        cases expected : expectedChunkSize state.fileSize state.chunkSize state.numChunks
            header.chunkIndex with
        | none => exact .ret _
        | some size =>
            have inRange : header.chunkIndex < params.numChunks := by
              have numChunks : state.numChunks = params.numChunks :=
                congrArg FileReceiver.Params.numChunks shown
              rw [← numChunks]
              exact index_lt_of_expectedChunkSize expected
            have chunkData : sliced data Chunk.headerSize (Chunk.headerSize + header.chunkSize) =
                some (field data Chunk.headerSize header.chunkSize) := by
              rw [sliced_of_le (by omega) (by omega), Nat.add_sub_cancel_left]
            have chunkHash : sliced data (Chunk.headerSize + header.chunkSize)
                (Chunk.headerSize + header.chunkSize + Chunk.hashSize) =
                  some (field data (Chunk.headerSize + header.chunkSize) Chunk.hashSize) := by
              rw [sliced_of_le (by omega) (by omega), Nat.add_sub_cancel_left]
            dsimp only
            split
            case isTrue => exact .ret _
            case isFalse =>
              rw [chunkData, chunkHash]
              have verified := verifyAndRecordChunk_agrees receiver
                (field data Chunk.headerSize header.chunkSize)
                (field data (Chunk.headerSize + header.chunkSize) Chunk.hashSize) inRange
              have answered := verified.bind fun ack : Option UInt8 => Prog.AgreesWhen.refl
                (match ack with
                  | none => .ret none
                  | some ack => (call (.sendFrame [ack])).bind fun sent => .ret (some sent))
              rw [Prog.bind_assoc] at answered
              exact answered

/-- A frame is processed without an index or slice out of range, whatever calls fail and
whatever other connections do to the receiver meanwhile, just if it holds a whole header. -/
theorem chunk_frame_in_bounds_iff (params : FileReceiver.Params) (receiver : ReceiverId)
    (data : Bytes) :
    (checkChunk receiver data).YieldsWhen (ShowsParams params) (fun result => result.isSome = true) ↔
      Chunk.headerSize ≤ data.length := by
  rw [(checkChunk_agrees receiver data).yields, processChunk, parseChunkHeader]
  split
  case h_1 missing =>
    split at missing
    case isTrue short => exact iff_of_false nofun (not_le.mpr short)
    case isFalse => cases missing
  case h_2 header parsed =>
    split at parsed
    case isTrue => cases parsed
    case isFalse long =>
      refine iff_of_true ?_ (not_lt.mp long)
      split
      · rfl
      · refine fun state _ _ _ => ?_
        simp only [Prog.ret_bind]
        split
        · rfl
        split
        · rfl
        · exact Prog.YieldsWhen.bind _ fun _ _ _ => rfl

end Checks

set_option maxRecDepth 8000 in
/-- A frame of a single byte that is no query ends the task that serves the port. -/
theorem short_frame_panics :
    let _ := Blake3.sample
    ¬ ∀ (bytes : Bytes) (handshake : HandshakeData) (outputDir tempDir : Bytes)
        (receiver : ReceiverId) (data : Bytes), parseHandshake bytes = .ok handshake →
      1 ≤ data.length → data.length ≤ Frame.maxPayload → data ≠ [Chunk.queryMagic] →
      (checkChunk receiver data).YieldsWhen
        (ShowsParams (handshake.receiver outputDir tempDir).params)
        (fun result => result.isSome = true) := by
  intro _ survives
  have accepted : ∃ handshake, parseHandshake Control.sampleHandshake = .ok handshake := ⟨_, rfl⟩
  obtain ⟨handshake, accepted⟩ := accepted
  have survived := survives _ handshake [] [] 0 [0] accepted (by decide) (by decide) (by decide)
  cases survived

end Data

end BeeSync.Server
