import BeeSync.Client.Worker

/-!
# The client's main task

The client measures the file, performs the handshake, distributes the chunks over
workers, and takes its exit code from the outcome.
-/

set_option autoImplicit false

namespace BeeSync.Client

open Encoding Interaction

/-- The client's configuration. The caller has divided by the chunk size before. -/
structure ClientConfig where
  host : String
  port : UInt16
  filepath : Bytes
  chunkSize : Nat
  parallel : Nat
  retries : Nat
  chunkSize_pos : 0 < chunkSize

inductive MainOp where
  | isFile (path : Bytes)
  | metadataLen (path : Bytes)
  | fs (op : FsOp Bytes)
  | connect (host : String) (port : UInt16)
  | sendFrame (payload : Bytes)
  | recvFrame
  /-- The receive of `recv_final_status`. -/
  | recvFinal
  | loadShutdown
  | spawnWorker (worker : Nat) (config : WorkerConfig)
  | joinWorker (worker : Nat)
  | closeStream

@[reducible] def MainOp.Res : MainOp → Type
  | .isFile _ => Bool
  | .metadataLen _ => Except IoError Nat
  | .fs op => op.Res
  | .connect _ _ => Except IoError Unit
  | .sendFrame _ => Except IoError Unit
  | .recvFrame => Except IoError Bytes
  | .recvFinal => Except IoError Bytes
  | .loadShutdown => Bool
  | .joinWorker _ => Option WorkerResult
  | _ => Unit

@[reducible] def MainSig : Sig := ⟨MainOp, MainOp.Res⟩

abbrev MainProg (α : Type) := Prog MainSig α

namespace Main

@[reducible] def call (op : MainOp) : MainProg op.Res :=
  .vis op .ret

def onFs {α : Type} (program : FsProg Bytes α) : MainProg α :=
  program.embed MainOp.fs fun _ answer => answer

/-- Errors of `setup_transfer` and `build_handshake`. -/
inductive SetupError where
  | fileNotFound (path : Bytes)
  | invalidFilename
  | fileSize (error : IoError)
  | io (error : IoError)

/-- `setup_transfer`: file size and number of chunks. -/
def setupTransfer (config : ClientConfig) : MainProg (Except SetupError (Nat × Nat)) :=
  (call (.isFile config.filepath)).bind fun
    | false => .ret (.error (.fileNotFound config.filepath))
    | true => (call (.metadataLen config.filepath)).bind fun result =>
        let fileSize := match result with
          | .ok length => length
          | .error _ => 0
        .ret (.ok (fileSize, numChunks fileSize config.chunkSize))

/-- `build_handshake`. -/
def buildHandshake [Blake3] (reads : Nat) (filepath : Bytes) (chunkSize : Nat) :
    MainProg (Except SetupError Bytes) :=
  match fileName filepath with
  | none => .ret (.error .invalidFilename)
  | some name =>
    (call (.metadataLen filepath)).recover (fun error => .ret (.error (.fileSize error)))
      fun fileSize =>
        (onFs (fileHash reads filepath)).recover (fun error => .ret (.error (.io error)))
          fun fullHash =>
            .ret (.ok (encodeHandshake (fromUtf8Lossy name) fileSize chunkSize fullHash))

/-- `perform_handshake`: status and ports, or nothing for its error code 1. -/
def performHandshake [Blake3] (reads : Nat) (config : ClientConfig) :
    MainProg (Option (UInt8 × List UInt16)) :=
  (call (.connect config.host config.port)).recover (fun _ => .ret none) fun _ =>
    (buildHandshake reads config.filepath config.chunkSize).recover (fun _ => .ret none)
      fun handshakeMsg =>
        (call (.sendFrame handshakeMsg)).recover (fun _ => .ret none) fun _ =>
          (call .recvFrame).recover (fun _ => .ret none) fun response =>
            match parseResponse response with
            | .error _ => .ret none
            | .ok (status, dataPorts) => .ret (some (status, dataPorts))

/-- Receive the final status and turn it into the exit code. -/
def confirm : MainProg Nat :=
  (call .recvFinal).recover (fun _ => .ret 1) fun data =>
    match data with
    | [] => .ret 1
    | status :: _ => .ret (if status = Handshake.respOk then 0 else 1)

/-- The number of workers of `setup_workers`. -/
def numWorkers (config : ClientConfig) (dataPorts : List UInt16) : Nat :=
  if dataPorts.isEmpty then 0 else min config.parallel dataPorts.length

/-- What a worker is given. -/
def workerConfig (config : ClientConfig) (dataPorts : List UInt16) (fileSize worker : Nat)
    (chunkIndices : List Nat) : WorkerConfig where
  host := config.host
  port := dataPorts.getD (worker % dataPorts.length) 0
  filepath := config.filepath
  chunkIndices := chunkIndices
  chunkSize := config.chunkSize
  fileSize := fileSize
  retries := config.retries

/-- The spawning loop of `run_workers`: the handles of the workers that have chunks. -/
def spawnWorkers (config : ClientConfig) (dataPorts : List UInt16) (fileSize : Nat) :
    List (List Nat × Nat) → List Nat → MainProg (List Nat)
  | [], handles => .ret handles
  | (chunkList, worker) :: rest, handles =>
    if chunkList.isEmpty then spawnWorkers config dataPorts fileSize rest handles
    else
      (call (.spawnWorker worker (workerConfig config dataPorts fileSize worker chunkList))).bind
        fun _ => spawnWorkers config dataPorts fileSize rest (handles ++ [worker])

/-- The joining loop of `run_workers`: a panicked worker contributes nothing. -/
def joinWorkers : List Nat → List Nat → MainProg (List Nat)
  | [], allFailed => .ret allFailed
  | worker :: rest, allFailed =>
    (call (.joinWorker worker)).bind fun
      | some result => joinWorkers rest (allFailed ++ result.failList)
      | none => joinWorkers rest allFailed

/-- `run_workers`: the failed chunks. -/
def runWorkers (config : ClientConfig) (assignments : List (List Nat)) (dataPorts : List UInt16)
    (fileSize : Nat) : MainProg (List Nat) :=
  (spawnWorkers config dataPorts fileSize assignments.zipIdx []).bind fun handles =>
    joinWorkers handles []

/-- What the client does once it has data ports. -/
def transfer (config : ClientConfig) (fileSize numChunks : Nat) (dataPorts : List UInt16) :
    MainProg Nat :=
  let assignments := workerAssignments numChunks (numWorkers config dataPorts)
  if dataPorts.isEmpty then confirm
  else
    (runWorkers config assignments dataPorts fileSize).bind fun allFailed =>
      (call .loadShutdown).bind fun
        | true => .ret 0
        | false => if allFailed.isEmpty then confirm else .ret 1

/-- `run_client`, up to the exit code. -/
def runClient [Blake3] (reads : Nat) (config : ClientConfig) : MainProg Nat :=
  (setupTransfer config).recover (fun _ => .ret 1) fun (fileSize, numChunks) =>
    (performHandshake reads config).bind fun
      | none => .ret 1
      | some (status, dataPorts) =>
        if status = Handshake.respOk then transfer config fileSize numChunks dataPorts
        else if status = Handshake.respExists then .ret 0
        else if status = Handshake.respComplete then confirm
        else .ret 1

/-- The main task: the control connection closes with it. -/
def task [Blake3] (reads : Nat) (config : ClientConfig) : MainProg Nat :=
  (runClient reads config).bind fun exitCode =>
    (call .closeStream).bind fun _ => .ret exitCode

end Main

end BeeSync.Client
