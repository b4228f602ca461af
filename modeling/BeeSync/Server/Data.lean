import BeeSync.Server.Control

/-!
# The data server tasks

One task owns the listener of each data port. It serves the connections on its
port one after the other, and each connection frame by frame.
-/

set_option autoImplicit false

namespace BeeSync.Server

open Encoding Interaction

inductive DataOp where
  | start
  | accept
  | getReceiver (port : UInt16)
  | fs (op : FsOp FilePath)
  | recvFrame
  | sendFrame (payload : Bytes)
  | lock (receiver : ReceiverId)
  | unlock (receiver : ReceiverId) (state : FileReceiver)
  | closeStream
  | dropListener (port : UInt16)

@[reducible] def DataOp.Res : DataOp → Type
  | .start => UInt16
  | .accept => Except IoError Unit
  | .getReceiver _ => Option ReceiverId
  | .fs op => op.Res
  | .recvFrame => Except IoError Bytes
  | .sendFrame _ => Except IoError Unit
  | .lock _ => FileReceiver
  | _ => Unit

@[reducible] def DataSig : Sig := ⟨DataOp, DataOp.Res⟩

abbrev DataProg (α : Type) := Prog DataSig α

/-- Where a data server task stands between two turns of its loops. -/
inductive DataState where
  | accepting (port : UInt16)
  | connected (port : UInt16) (receiver : ReceiverId)
  | ended

namespace Data

@[reducible] def call (op : DataOp) : DataProg op.Res :=
  .vis op .ret

def onFs {α : Type} (program : FsProg FilePath α) : DataProg α :=
  program.embed DataOp.fs fun _ answer => answer

/-- `handle_query`. -/
def handleQuery (receiver : ReceiverId) : DataProg (Except IoError Unit) :=
  (call (.lock receiver)).bind fun state =>
    (call (.unlock receiver state)).bind fun _ =>
      call (.sendFrame (queryResponse state.receivedChunks))

section Chunks

variable [Blake3]

/-- `verify_and_write_chunk`: the acknowledgment. -/
def verifyAndWriteChunk (receiver : ReceiverId) (chunkIndex : Nat) (chunkData : Bytes)
    (chunkHashRcvd : Bytes) : DataProg UInt8 :=
  if (calcHash chunkData).bytes = chunkHashRcvd then
    (call (.lock receiver)).bind fun state =>
      (call (.unlock receiver state)).bind fun _ =>
        (onFs (writeFile (state.partPath chunkIndex) chunkData)).recover
          (fun _ => (call (.lock receiver)).bind fun state =>
            (call (.unlock receiver state.setFailed)).bind fun _ => .ret Chunk.ackHashMismatch)
          fun _ => (call (.lock receiver)).bind fun state =>
            (onFs (state.recordChunk chunkIndex (calcHash chunkData))).bind fun
              | (recorded, .ok ()) =>
                (call (.unlock receiver recorded)).bind fun _ => .ret Chunk.ackOk
              | (recorded, .error _) =>
                (call (.unlock receiver recorded.setFailed)).bind fun _ =>
                  .ret Chunk.ackHashMismatch
  else .ret Chunk.ackHashMismatch

/-- `process_chunk`: nothing stands for the panic on a frame shorter than a header. -/
def processChunk (receiver : ReceiverId) (data : Bytes) : DataProg (Option (Except IoError Unit)) :=
  match parseChunkHeader data with
  | none => .ret none
  | some header =>
    if data.length < Chunk.headerSize + header.chunkSize + Chunk.hashSize then .ret (some (.ok ()))
    else
      (call (.lock receiver)).bind fun state =>
        (call (.unlock receiver state)).bind fun _ =>
          match expectedChunkSize state.fileSize state.chunkSize state.numChunks
              header.chunkIndex with
          | none => .ret (some (.ok ()))
          | some expected =>
            if header.chunkSize ≠ expected then .ret (some (.ok ()))
            else
              (verifyAndWriteChunk receiver header.chunkIndex
                  (field data Chunk.headerSize header.chunkSize)
                  (field data (Chunk.headerSize + header.chunkSize) Chunk.hashSize)).bind fun ack =>
                (call (.sendFrame [ack])).bind fun sent => .ret (some sent)

/-- The connection is dropped and the task accepts the next one. -/
def disconnect (port : UInt16) : DataProg DataState :=
  (call .closeStream).bind fun _ => .ret (.accepting port)

/-- One turn of the loop of `handle_data_connection`. -/
def serveFrame (port : UInt16) (receiver : ReceiverId) : DataProg DataState :=
  (call (.lock receiver)).bind fun state =>
    (call (.unlock receiver state)).bind fun _ =>
      if state.failed then disconnect port
      else (call .recvFrame).recover (fun _ => disconnect port) fun data =>
        if data.isEmpty then disconnect port
        else if data = [Chunk.queryMagic] then
          (handleQuery receiver).recover (fun _ => disconnect port) fun _ =>
            .ret (.connected port receiver)
        else (processChunk receiver data).bind fun
          | some _ => .ret (.connected port receiver)
          -- a panic unwinds the task: the connection and the listener close
          | none => (call .closeStream).bind fun _ =>
              (call (.dropListener port)).bind fun _ => .ret .ended

/-- One turn of the accept loop, up to the loop over the frames of a connection. -/
def acceptConnection (port : UInt16) : DataProg DataState :=
  (call .accept).recover
    (fun _ => (call (.dropListener port)).bind fun _ => .ret .ended) fun _ =>
      (call (.getReceiver port)).bind fun
        | none => disconnect port
        | some receiver => .ret (.connected port receiver)

/-- A data server task before its control handler has spawned it. -/
def task : DataProg DataState :=
  (call .start).bind fun port => .ret (.accepting port)

def again : DataState → Option (DataProg DataState)
  | .accepting port => some (acceptConnection port)
  | .connected port receiver => some (serveFrame port receiver)
  | .ended => none

end Chunks

end Data

end BeeSync.Server
