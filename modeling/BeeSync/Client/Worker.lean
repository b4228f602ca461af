import BeeSync.Client.Wire

/-!
# The client's workers

A worker opens one connection to a data port, asks which chunks the server has,
and sends its remaining chunks one after the other, each with a number of attempts.
-/

set_option autoImplicit false

namespace BeeSync.Client

open Encoding Interaction

structure WorkerConfig where
  host : String
  port : UInt16
  filepath : Bytes
  chunkIndices : List Nat
  chunkSize : Nat
  fileSize : Nat
  retries : Nat

/-- The chunks a worker takes for delivered and those it failed to deliver. -/
structure WorkerResult where
  okList : List Nat
  failList : List Nat
  deriving DecidableEq, Repr

inductive WorkerOp where
  | start
  | loadShutdown
  | storeShutdown
  | connect (host : String) (port : UInt16)
  | sendFrame (payload : Bytes)
  | sendParts (parts : List Bytes)
  | recvFrame
  | fs (op : FsOp Bytes)
  | closeStream
  /-- The task ends, with nothing after a panic. -/
  | finish (result : Option WorkerResult)

@[reducible] def WorkerOp.Res : WorkerOp → Type
  | .start => WorkerConfig
  | .loadShutdown => Bool
  | .connect _ _ => Except IoError Unit
  | .sendFrame _ => Except IoError Unit
  | .sendParts _ => Except IoError Unit
  | .recvFrame => Except IoError Bytes
  | .fs op => op.Res
  | _ => Unit

@[reducible] def WorkerSig : Sig := ⟨WorkerOp, WorkerOp.Res⟩

abbrev WorkerProg (α : Type) := Prog WorkerSig α

/-- Errors of `send_chunk`. -/
inductive SendError where
  | io (error : IoError)
  | emptyAck
  | rejected
  deriving DecidableEq, Repr

def SendError.message : SendError → String
  | .io error => error.message
  | .emptyAck => "Empty ACK"
  | .rejected => "chunk rejected by server"

namespace Worker

@[reducible] def call (op : WorkerOp) : WorkerProg op.Res :=
  .vis op .ret

/-- An operation whose error ends `send_chunk`. -/
def tryIo {α β : Type} (program : WorkerProg (Except IoError α))
    (rest : α → WorkerProg (Except SendError β)) : WorkerProg (Except SendError β) :=
  program.recover (fun error => .ret (.error (.io error))) rest

/-- The attempts of `send_chunk` that are left. -/
def sendAttempts (parts : List Bytes) : Nat → WorkerProg (Except SendError Bool)
  | 0 => .ret (.ok false)
  | remaining + 1 =>
    tryIo (call (.sendParts parts)) fun _ =>
      (call .loadShutdown).bind fun
        | true => .ret (.ok true)
        | false => tryIo (call .recvFrame) fun ack =>
          match ack with
          | [] => if remaining > 0 then sendAttempts parts remaining else .ret (.error .emptyAck)
          | status :: _ =>
            if status = Chunk.ackOk then .ret (.ok true)
            else if remaining > 0 then sendAttempts parts remaining
            else .ret (.error .rejected)

/-- The operations between a worker's start and its end. -/
def Inside : WorkerOp → Prop
  | .start | .finish _ | .fs .stuck => False
  | _ => True

theorem sendAttempts_inside (parts : List Bytes) (remaining : Nat) :
    (sendAttempts parts remaining).All Inside := by
  induction remaining with
  | zero => trivial
  | succ remaining ih =>
      refine Prog.All.recover ⟨trivial, fun _ => trivial⟩ (fun _ => trivial) fun _ => ?_
      refine ⟨trivial, fun shutdown => ?_⟩
      cases shutdown with
      | true => trivial
      | false =>
          refine Prog.All.recover ⟨trivial, fun _ => trivial⟩ (fun _ => trivial) fun ack => ?_
          split
          · split
            · exact ih
            · trivial
          · split
            · trivial
            · split
              · exact ih
              · trivial

section Sending

variable [Blake3]

/-- `send_chunk`: one read of the file, then the attempts. -/
def sendChunk (filepath : Bytes) (chunkIndex chunkOffset chunkSize retries : Nat) :
    WorkerProg (Except SendError Bool) :=
  tryIo (call (.fs (.openRead filepath))) fun _ =>
    tryIo (call (.fs (.readAt filepath chunkOffset chunkSize))) fun chunkData =>
      sendAttempts (chunkMessage chunkIndex chunkOffset chunkData) retries

/-- `query_received`: nothing stands for its panic. -/
def queryReceived : WorkerProg (Option (Except IoError (List Nat))) :=
  (call (.sendFrame [Chunk.queryMagic])).recover (fun error => .ret (some (.error error))) fun _ =>
    (call .recvFrame).recover (fun error => .ret (some (.error error))) fun resp =>
      match parseReceived resp with
      | some received => .ret (some (.ok received))
      | none => .ret none

/-- The loop of `worker` over its chunks. -/
def sendChunks (config : WorkerConfig) (already : List Nat) :
    List Nat → WorkerResult → WorkerProg WorkerResult
  | [], result => .ret result
  | idx :: rest, result =>
    (call .loadShutdown).bind fun
      | true => .ret result
      | false =>
        if already.contains idx then sendChunks config already rest result
        else
          match chunkRange config.fileSize config.chunkSize idx with
          | none =>
            sendChunks config already rest { result with failList := result.failList ++ [idx] }
          | some (offset, actualSize) =>
            (sendChunk config.filepath idx offset actualSize config.retries).bind fun
              | .ok true =>
                sendChunks config already rest { result with okList := result.okList ++ [idx] }
              | .ok false | .error _ =>
                (call .storeShutdown).bind fun _ =>
                  sendChunks config already rest { result with failList := result.failList ++ [idx] }

/-- `worker`: nothing stands for a panic. -/
def worker (config : WorkerConfig) : WorkerProg (Option WorkerResult) :=
  (call .loadShutdown).bind fun
    | true => .ret (some ⟨[], []⟩)
    | false =>
      (call (.connect config.host config.port)).recover
        (fun _ => .ret (some ⟨[], config.chunkIndices⟩)) fun _ =>
          queryReceived.bind fun
            | none => .ret none
            | some (.error _) => .ret (some ⟨[], config.chunkIndices⟩)
            | some (.ok already) =>
              (sendChunks config already config.chunkIndices ⟨[], []⟩).bind fun result =>
                .ret (some result)

theorem sendChunks_inside (config : WorkerConfig) (already indices : List Nat)
    (result : WorkerResult) : (sendChunks config already indices result).All Inside := by
  induction indices generalizing result with
  | nil => trivial
  | cons idx rest ih =>
      refine ⟨trivial, fun shutdown => ?_⟩
      cases shutdown with
      | true => trivial
      | false =>
          simp only [Prog.ret_bind]
          split
          · exact ih _
          · split
            · exact ih _
            · refine Prog.All.bind ?_ fun sent => ?_
              · refine Prog.All.recover ⟨trivial, fun _ => trivial⟩ (fun _ => trivial) fun _ => ?_
                exact Prog.All.recover ⟨trivial, fun _ => trivial⟩ (fun _ => trivial) fun _ =>
                  sendAttempts_inside _ _
              · split
                · exact ih _
                all_goals exact ⟨trivial, fun _ => ih _⟩

theorem worker_inside (config : WorkerConfig) :
    (worker config).All Inside := by
  refine ⟨trivial, fun shutdown => ?_⟩
  cases shutdown with
  | true => trivial
  | false =>
      refine Prog.All.recover ⟨trivial, fun _ => trivial⟩ (fun _ => trivial) fun _ => ?_
      refine Prog.All.bind ?_ fun received => ?_
      · refine Prog.All.recover ⟨trivial, fun _ => trivial⟩ (fun _ => trivial) fun _ => ?_
        refine Prog.All.recover ⟨trivial, fun _ => trivial⟩ (fun _ => trivial) fun resp => ?_
        split <;> trivial
      · split
        · trivial
        · trivial
        · exact Prog.All.bind (sendChunks_inside _ _ _ _) fun _ => trivial

/-- A worker task before it is spawned, up to the result its handle yields. -/
def task : WorkerProg Unit :=
  (call .start).bind fun config =>
    (worker config).bind fun result =>
      (call .closeStream).bind fun _ => call (.finish result)

end Sending

end Worker

end BeeSync.Client
