import BeeSync.Server.FileReceiver
import BeeSync.Server.Wire

/-!
# The control connection handler

One handler runs for each control connection: it parses the handshake, resumes an
earlier transfer, allocates data ports, waits for the chunks, assembles the file
and reports. The handler is a program over the resources it shares with the other
tasks of the server.
-/

set_option autoImplicit false

namespace BeeSync.Server

open Encoding Interaction

/-- A shared receiver, by identity. -/
abbrev ReceiverId := Nat

/-- The receiver that is created for a handshake. -/
def HandshakeData.receiver (handshake : HandshakeData) (outputDir tempDir : Bytes) : FileReceiver :=
  .new handshake.safeName handshake.fileSize handshake.chunkSize handshake.numChunks
    handshake.fullHash outputDir tempDir

/-- What reading the control stream while waiting may bring. -/
inductive Poll where
  | idle
  | data
  | disconnected
  deriving DecidableEq, Repr

inductive ControlOp where
  | fs (op : FsOp FilePath)
  | createDirAll (dir : Bytes)
  | recvFrame
  | sendFrame (payload : Bytes)
  | newReceiver (receiver : FileReceiver)
  | lock (receiver : ReceiverId)
  | unlock (receiver : ReceiverId) (state : FileReceiver)
  | pollStream
  /-- A handshake has at most 1,000,000 chunks: the cast of the count to `u32` keeps it. -/
  | tryReservePorts (count : Nat)
  | releasePorts (count : Nat)
  | bind (port : UInt16)
  /-- The listeners bound so far go out of scope in `allocate_sockets`. -/
  | dropSockets (ports : List UInt16)
  /-- The allocated listeners go out of scope in the handler. -/
  | dropDataSocks (ports : List UInt16)
  | registerReceivers (ports : List UInt16) (receiver : ReceiverId)
  | removeReceiver (port : UInt16)
  | spawnDataServer (port : UInt16)
  | closeStream

@[reducible] def ControlOp.Res : ControlOp → Type
  | .fs op => op.Res
  | .createDirAll _ => Except IoError Unit
  | .recvFrame => Except IoError Bytes
  | .sendFrame _ => Except IoError Unit
  | .newReceiver _ => ReceiverId
  | .lock _ => FileReceiver
  | .pollStream => Poll
  | .tryReservePorts _ => Bool
  | .bind _ => Except IoError Unit
  | _ => Unit

@[reducible] def ControlSig : Sig := ⟨ControlOp, ControlOp.Res⟩

abbrev ControlProg (α : Type) := Prog ControlSig α

/-- What an accepted transfer keeps while it waits for its chunks. -/
structure Transfer where
  handshake : HandshakeData
  receiver : ReceiverId
  ports : List UInt16

/-- Where a handler stands: waiting is the loop of `wait_for_completion`, which is
entered again after every poll. -/
inductive ControlState where
  | waiting (transfer : Transfer)
  | returned (result : Except IoError Unit)
  | panicked

def dataPortStart : Nat := 45000

def dataPortEnd : Nat := 46000

def totalDataPorts : Nat := dataPortEnd - dataPortStart + 1

/-- The data ports in the order in which they are tried. -/
def dataPorts : List UInt16 :=
  (List.range totalDataPorts).map fun i => UInt16.ofNat (dataPortStart + i)

namespace Control

@[reducible] def call (op : ControlOp) : ControlProg op.Res :=
  .vis op .ret

/-- File system programs run by the handler. -/
def onFs {α : Type} (program : FsProg FilePath α) : ControlProg α :=
  program.embed ControlOp.fs fun _ answer => answer

def sendHandshakeResponse (status : UInt8) (ports : List UInt16) :
    ControlProg (Except IoError Unit) :=
  call (.sendFrame (handshakeResponse status ports))

/-- Answer the handshake without ports and end, with the error of the send if any. -/
def answer (status : UInt8) : ControlProg ControlState :=
  (sendHandshakeResponse status []).bind fun result => .ret (.returned result)

section Steps

variable [Blake3]

def checkExistingFile (reads : Nat) (outputDir safeName : Bytes) (expectedHash : Digest) :
    FsProg FilePath (Except IoError Bool) :=
  (FsOp.exists_ (FilePath.mk outputDir safeName)).call.attempt fun
    | false => .ret (.ok false)
    | true => (fileHash reads (FilePath.mk outputDir safeName)).attempt fun existingHash =>
        .ret (.ok (decide (existingHash = expectedHash)))

/-- The resume section: whether all chunks are present, or nothing for its panic. -/
def resume [KeyOrder] (receiver : ReceiverId) : ControlProg (Option Bool) :=
  (call (.lock receiver)).bind fun state =>
    (onFs state.loadOrPurgeMetadata).bind fun
      | none => (call (.unlock receiver state)).bind fun _ => .ret (some false)
      | some metadata =>
        match state.markAll (KeyOrder.keys metadata.chunkHashes) with
        | none => .ret none
        | some marked =>
          (call (.unlock receiver (marked.setMetadata metadata))).bind fun _ =>
            .ret (some (decide (marked.receivedChunks.count true = marked.numChunks)))

def assembleFile (reads : Nat) (receiver : ReceiverId) : ControlProg (Except IoError Bool) :=
  (call (.lock receiver)).bind fun state =>
    (onFs (state.assemble reads)).bind fun result =>
      (call (.unlock receiver state)).bind fun _ => .ret result

/-- The final status byte. -/
def finalStatus (success : Bool) : UInt8 :=
  if success then Handshake.respOk else Handshake.respErr

def removeReceivers : List UInt16 → ControlProg Unit
  | [] => .ret ()
  | port :: rest => (call (.removeReceiver port)).bind fun _ => removeReceivers rest

/-- `cleanup`: dropping the task handles detaches the tasks and does nothing else. -/
def cleanup (ports : List UInt16) : ControlProg Unit :=
  (removeReceivers ports).bind fun _ =>
    if ports.length > 0 then call (.releasePorts ports.length) else .ret ()

/-- What the handler does once it stops waiting. -/
def finish (reads : Nat) (transfer : Transfer) : ControlProg ControlState :=
  (call (.lock transfer.receiver)).bind fun state =>
    (call (.unlock transfer.receiver state)).bind fun _ =>
      let completed := state.isComplete
      (call (.lock transfer.receiver)).bind fun state =>
        (call (.unlock transfer.receiver state)).bind fun _ =>
          let failed := state.failed
          let outcome : ControlProg Bool :=
            if failed then .ret false
            else if !completed then .ret false
            else (assembleFile reads transfer.receiver).recover (fun _ => .ret false) .ret
          outcome.bind fun success =>
            (call (.sendFrame [finalStatus success])).bind fun _ =>
              (cleanup transfer.ports).bind fun _ => .ret (.returned (.ok ()))

/-- One turn of the loop of `wait_for_completion`. -/
def waitForCompletion (reads : Nat) (transfer : Transfer) : ControlProg ControlState :=
  (call (.lock transfer.receiver)).bind fun state =>
    (call (.unlock transfer.receiver state)).bind fun _ =>
      if state.isComplete || state.failed then finish reads transfer
      else (call .pollStream).bind fun
        | .idle => .ret (.waiting transfer)
        | .data => .ret (.waiting transfer)
        | .disconnected => finish reads transfer

end Steps

/-- Bind the first port that can be bound. -/
def bindNext : List UInt16 → ControlProg (Option UInt16 × List UInt16)
  | [] => .ret (none, [])
  | port :: rest =>
    (call (.bind port)).recover (fun _ => bindNext rest) fun _ => .ret (some port, rest)

/-- The loop over the sockets: every turn goes on where the last one stopped. -/
def bindLoop : Nat → List UInt16 → List UInt16 → ControlProg (List UInt16)
  | 0, _, sockets => .ret sockets
  | turns + 1, untried, sockets =>
    (bindNext untried).bind fun
      | (some port, rest) => bindLoop turns rest (sockets ++ [port])
      | (none, rest) => bindLoop turns rest sockets

inductive AllocateError where
  | notEnoughPorts (needed : Nat)
  | rangeExhausted
  deriving DecidableEq, Repr

def AllocateError.message : AllocateError → String
  | .notEnoughPorts needed =>
    "Not enough data ports available (need " ++ toString needed ++ ", have " ++
      toString totalDataPorts ++ ")"
  | .rangeExhausted =>
    "Failed to allocate data port (range " ++ toString dataPortStart ++ "-" ++
      toString dataPortEnd ++ ")"

/-- `allocate_sockets`: on the second error the bound listeners go out of scope, the
reservation stays. -/
def allocateSockets (count maxParallel : Nat) : ControlProg (Except AllocateError (List UInt16)) :=
  let numSocks := min count maxParallel
  (call (.tryReservePorts numSocks)).bind fun
    | false => .ret (.error (.notEnoughPorts numSocks))
    | true => (bindLoop numSocks dataPorts []).bind fun sockets =>
        if sockets.length < numSocks then
          (call (.dropSockets sockets)).bind fun _ => .ret (.error .rangeExhausted)
        else .ret (.ok sockets)

def spawnDataServers : List UInt16 → ControlProg Unit
  | [] => .ret ()
  | port :: rest => (call (.spawnDataServer port)).bind fun _ => spawnDataServers rest

section Handler

variable [Blake3] [KeyOrder]

/-- The server's configuration as the handler sees it, and the bound on read loops. -/
structure Config where
  outputDir : Bytes
  tempDir : Bytes
  maxParallel : Nat
  reads : Nat

/-- From the allocation of the ports to the loop that waits for the chunks. -/
def transferChunks (config : Config) (handshake : HandshakeData) (receiver : ReceiverId) :
    ControlProg ControlState :=
  (allocateSockets handshake.numChunks config.maxParallel).recover
    (fun _ => answer Handshake.respErr) fun ports =>
      (call (.registerReceivers ports receiver)).bind fun _ =>
        (sendHandshakeResponse Handshake.respOk ports).recover
          -- the listeners are still owned by the handler and close with it
          (fun error => (call (.dropDataSocks ports)).bind fun _ => .ret (.returned (.error error)))
          fun _ => (spawnDataServers ports).bind fun _ =>
            waitForCompletion config.reads ⟨handshake, receiver, ports⟩

/-- The branch of a transfer all of whose chunks are present. -/
def confirmComplete (config : Config) (receiver : ReceiverId) : ControlProg ControlState :=
  (sendHandshakeResponse Handshake.respComplete []).recover
    (fun error => .ret (.returned (.error error))) fun _ =>
      (assembleFile config.reads receiver).bind fun result =>
        let success := match result with
          | .ok true => true
          | .ok false | .error _ => false
        (call (.sendFrame [finalStatus success])).bind fun _ => .ret (.returned (.ok ()))

/-- What follows the check for an existing file. -/
def receiveFile (config : Config) (handshake : HandshakeData) : ControlProg ControlState :=
  (call (.createDirAll config.outputDir)).recover (fun _ => answer Handshake.respErr) fun _ =>
    let tempDir : ControlProg (Except IoError Unit) :=
      if config.tempDir ≠ config.outputDir then call (.createDirAll config.tempDir)
      else .ret (.ok ())
    tempDir.recover (fun _ => answer Handshake.respErr) fun _ =>
      (call (.newReceiver (.new handshake.safeName handshake.fileSize handshake.chunkSize
          handshake.numChunks handshake.fullHash config.outputDir config.tempDir))).bind
        fun receiver => (resume receiver).bind fun
          | none => .ret .panicked
          | some true => confirmComplete config receiver
          | some false => transferChunks config handshake receiver

/-- `handle_control_connection`. -/
def handleControlConnection (config : Config) : ControlProg ControlState :=
  (call .recvFrame).recover (fun _ => .ret (.returned (.ok ()))) fun data =>
    if data.isEmpty then .ret (.returned (.ok ()))
    else
      match parseHandshake data with
      | .error _ => answer Handshake.respErr
      | .ok handshake =>
        (onFs (checkExistingFile config.reads config.outputDir handshake.safeName
            handshake.fullHash)).recover (fun error => .ret (.returned (.error error))) fun
          | true => answer Handshake.respExists
          | false => receiveFile config handshake

/-- The stream is dropped when the handler is through. -/
def closing (state : ControlState) : ControlProg ControlState :=
  match state with
  | .waiting transfer => .ret (.waiting transfer)
  | done => (call .closeStream).bind fun _ => .ret done

/-- The task of a control connection. -/
def task (config : Config) : ControlProg ControlState :=
  (handleControlConnection config).bind closing

/-- How the task goes on after a turn of its waiting loop. -/
def again (config : Config) : ControlState → Option (ControlProg ControlState)
  | .waiting transfer => some ((waitForCompletion config.reads transfer).bind closing)
  | _ => none

end Handler

/-- A server with the default parallel limit and one directory. -/
def sampleConfig : Config where
  outputDir := ascii "received"
  tempDir := ascii "received"
  maxParallel := 100
  reads := 10

/-- The handshake of a one-byte file. -/
def sampleHandshake : Bytes :=
  Handshake.magic ++ [0, 1] ++ ascii "f" ++ toBigEndian 8 1 ++ toBigEndian 4 2097152 ++
    toBigEndian 4 1 ++ (Blake3.sample.hash [0x61]).bytes

/-- The handshake of the two-byte file `ab`, sent in two chunks. -/
def sampleHandshakes : Bytes :=
  Handshake.magic ++ [0, 1] ++ ascii "f" ++ toBigEndian 8 2 ++ toBigEndian 4 1 ++
    toBigEndian 4 2 ++ (Blake3.samples.hash [0x61, 0x62]).bytes

end Control

end BeeSync.Server
