import BeeSync.Client.Session
import BeeSync.Interaction.Exchange
import BeeSync.Server.Hosting

/-!
# A client and a server

The client sends one file to a server that has nothing else to do. What one side writes the
other one reads: the control connection and the connections of the workers carry frames, and
a worker reaches the data server task that listens on its port. With faults, any call of any
side may fail; without, calls fail only where the peer or the files leave them no choice.
-/

set_option autoImplicit false

namespace BeeSync.EndToEnd

open Encoding Interaction Server

/-- A connection, and which of its ends have been closed. -/
structure Link where
  up : Lane Bytes
  down : Lane Bytes
  /-- The client has closed its end. -/
  hungUp : Bool
  /-- The server has closed its end. -/
  dropped : Bool

namespace Link

def fresh : Link := ⟨.empty, .empty, false, false⟩

/-- The workers ask on their connections, and the data server tasks answer. -/
def exchange (link : Link) : Exchange Bytes Bytes := ⟨link.up, link.down⟩

end Link

/-- A frame is received, unless it is too long or nothing is left to come. -/
def Receives (faults : Prop) (closed : Bool) (lane : Lane Bytes) (answer : Except IoError Bytes)
    (lane' : Lane Bytes) : Prop :=
  (∃ frame, lane.next = some frame ∧ frame.length ≤ Frame.maxPayload ∧ answer = .ok frame ∧
      lane' = lane.advance) ∨
    ((faults ∨ (∃ frame, lane.next = some frame ∧ Frame.maxPayload < frame.length) ∨
        (closed = true ∧ lane.next = none)) ∧
      (∃ error, answer = .error error) ∧ lane' = lane)

/-- A frame is sent, unless nobody can receive it any more. -/
def Sends (faults : Prop) (closed : Bool) (lane : Lane Bytes) (payload : Bytes)
    (answer : Except IoError Unit) (lane' : Lane Bytes) : Prop :=
  (answer = .ok () ∧ lane' = lane.write payload) ∨
    ((faults ∨ closed = true) ∧ (∃ error, answer = .error error) ∧ lane' = lane)

/-- What connects the two sides. -/
structure Net where
  control : Link
  /-- The connections of the workers. -/
  links : Nat → Link
  listening : UInt16 → Bool
  /-- The workers whose connections have not been accepted, by port. -/
  backlog : UInt16 → List Nat
  /-- The data server tasks that have been spawned, and their ports. -/
  tasks : Nat → Option UInt16
  /-- The worker whose connection a data server task has accepted. -/
  serves : Nat → Option Nat
  permits : Nat

/-- Both sides and what they are about. -/
structure Scene where
  client : Client.ClientConfig
  server : Control.Config
  source : Bytes
  /-- The files of the client. -/
  disk : Fs Bytes
  found : disk client.filepath = some source
  /-- The ports that no other program has. -/
  free : UInt16 → Prop
  /-- The bound on the read loops of the client. -/
  reads : Nat
  /-- The length of a file is a `u64`. -/
  sizeFits : source.length < 2 ^ 64
  /-- The length of no frame outgrows its prefix. -/
  chunkFits : client.chunkSize + Chunk.headerSize + Chunk.hashSize < 2 ^ 32
  /-- File systems have shorter names. -/
  nameFits : ∀ name, fileName client.filepath = some name → (fromUtf8Lossy name).length < 2 ^ 16

structure World where
  session : Client.Session
  store : Store (Role Unit)
  net : Net

inductive Tid where
  | main
  | worker (index : Nat)
  | control
  | data (task : Nat)
  deriving DecidableEq

@[reducible] def sig : Tid → Sig
  | .main => Client.MainSig
  | .worker _ => Client.WorkerSig
  | .control => ControlSig
  | .data _ => DataSig

@[reducible] def Ctl : Tid → Type
  | .main => Nat
  | .worker _ => Unit
  | .control => ControlState
  | .data _ => DataState

namespace Net

def initial : Net where
  control := .fresh
  links := fun _ => .fresh
  listening := fun _ => false
  backlog := fun _ => []
  tasks := fun _ => none
  serves := fun _ => none
  permits := totalDataPorts

def setLink (net : Net) (worker : Nat) (link : Link) : Net :=
  { net with links := Function.update net.links worker link }

def setControl (net : Net) (link : Link) : Net := { net with control := link }

/-- Listeners that close: whoever waits for them is turned away. -/
def close (net : Net) (ports : List UInt16) : Net :=
  { net with
    listening := fun port => if port ∈ ports then false else net.listening port
    backlog := fun port => if port ∈ ports then [] else net.backlog port
    links := fun worker =>
      if ∃ port ∈ ports, worker ∈ net.backlog port then { net.links worker with dropped := true }
      else net.links worker }

variable (scene : Scene) (faults : Prop)

/-- A read that brings as much as it is asked for, up to the end of the file. -/
def Fills : (op : FsOp Bytes) → op.Res → Prop
  | .readAt path offset limit, .ok piece =>
      piece.length = min limit (((scene.disk path).getD []).length - offset)
  | _, _ => True

/-- The client only reads its files. -/
def fsSem (op : FsOp Bytes) (answer : op.Res) : Prop :=
  op.Sem faults scene.disk answer scene.disk ∧ (faults ∨ Fills scene op answer)

def mainSem : (op : Client.MainOp) → Net → op.Res → Net → Prop
  -- a path that cannot be looked up is no file
  | .isFile path, net, answer, net' =>
      (answer = (scene.disk path).isSome ∨ faults ∧ answer = false) ∧ net' = net
  | .metadataLen path, net, answer, net' =>
      ((∃ content, scene.disk path = some content ∧ answer = .ok content.length) ∨
        (faults ∨ scene.disk path = none) ∧ ∃ error, answer = .error error) ∧ net' = net
  | .fs op, net, answer, net' => fsSem scene faults op answer ∧ net' = net
  | .connect _ _, net, answer, net' =>
      (answer = .ok () ∨ faults ∧ ∃ error, answer = .error error) ∧ net' = net
  | .sendFrame payload, net, answer, net' => ∃ lane,
      Sends faults net.control.dropped net.control.up payload answer lane ∧
        net' = net.setControl { net.control with up := lane }
  | .recvFrame, net, answer, net' | .recvFinal, net, answer, net' => ∃ lane,
      Receives faults net.control.dropped net.control.down answer lane ∧
        net' = net.setControl { net.control with down := lane }
  | .closeStream, net, _, net' => net' = net.setControl { net.control with hungUp := true }
  | .loadShutdown, net, _, net' | .spawnWorker _ _, net, _, net' | .joinWorker _, net, _, net' =>
      net' = net

/-- A connection waits for the task that listens on its port. -/
def connect (net : Net) (worker : Nat) (port : UInt16) : Net :=
  { net.setLink worker .fresh with
    backlog := Function.update net.backlog port (net.backlog port ++ [worker]) }

def workerSem (worker : Nat) : (op : Client.WorkerOp) → Net → op.Res → Net → Prop
  | .connect _ port, net, answer, net' =>
      (answer = .ok () ∧ net.listening port = true ∧ net' = net.connect worker port) ∨
        ((faults ∨ net.listening port = false) ∧ (∃ error, answer = .error error) ∧ net' = net)
  | .sendFrame payload, net, answer, net' => ∃ lane,
      Sends faults (net.links worker).dropped (net.links worker).up payload answer lane ∧
        net' = net.setLink worker { net.links worker with up := lane }
  | .sendParts parts, net, answer, net' => ∃ lane,
      Sends faults (net.links worker).dropped (net.links worker).up parts.flatten answer lane ∧
        net' = net.setLink worker { net.links worker with up := lane }
  | .recvFrame, net, answer, net' => ∃ lane,
      Receives faults (net.links worker).dropped (net.links worker).down answer lane ∧
        net' = net.setLink worker { net.links worker with down := lane }
  | .fs op, net, answer, net' => fsSem scene faults op answer ∧ net' = net
  | .closeStream, net, _, net' =>
      net' = net.setLink worker { net.links worker with hungUp := true }
  | .start, net, _, net' | .loadShutdown, net, _, net' | .storeShutdown, net, _, net'
  | .finish _, net, _, net' => net' = net

def controlSem : (op : ControlOp) → Net → op.Res → Net → Prop
  | .createDirAll _, net, answer, net' =>
      (answer = .ok () ∨ faults ∧ ∃ error, answer = .error error) ∧ net' = net
  | .recvFrame, net, answer, net' => ∃ lane,
      Receives faults net.control.hungUp net.control.up answer lane ∧
        net' = net.setControl { net.control with up := lane }
  | .sendFrame payload, net, answer, net' => ∃ lane,
      Sends faults net.control.hungUp net.control.down payload answer lane ∧
        net' = net.setControl { net.control with down := lane }
  | .pollStream, net, .idle, net' => net' = net
  -- a byte is taken away from the next frame
  | .pollStream, net, .data, net' => net.control.up.next ≠ none ∧ ∃ lane,
      net' = net.setControl { net.control with up := lane }
  | .pollStream, net, .disconnected, net' =>
      (faults ∨ net.control.hungUp = true ∧ net.control.up.next = none) ∧ net' = net
  | .tryReservePorts count, net, answer, net' =>
      (answer = true ∧ count ≤ net.permits ∧ net' = { net with permits := net.permits - count }) ∨
        (answer = false ∧ net.permits < count ∧ net' = net)
  | .releasePorts count, net, _, net' => net' = { net with permits := net.permits + count }
  | .bind port, net, answer, net' =>
      (answer = .ok () ∧ scene.free port ∧ net.listening port = false ∧
        net' = { net with listening := Function.update net.listening port true }) ∨
      ((faults ∨ ¬ scene.free port ∨ net.listening port = true) ∧
        (∃ error, answer = .error error) ∧ net' = net)
  | .dropSockets ports, net, _, net' | .dropDataSocks ports, net, _, net' =>
      net' = net.close ports
  | .spawnDataServer port, net, _, net' => ∃ task, net.tasks task = none ∧
      net' = { net with tasks := Function.update net.tasks task (some port) }
  | .closeStream, net, _, net' => net' = net.setControl { net.control with dropped := true }
  | .fs _, net, _, net' | .newReceiver _, net, _, net' | .lock _, net, _, net'
  | .unlock _ _, net, _, net' | .registerReceivers _ _, net, _, net'
  | .removeReceiver _, net, _, net' => net' = net

/-- The oldest connection that waits on a port is accepted. -/
def accept (net : Net) (task : Nat) (port : UInt16) (worker : Nat) (others : List Nat) : Net :=
  { net with
    backlog := Function.update net.backlog port others
    serves := Function.update net.serves task (some worker) }

/-- The server closes the connection that a task serves. -/
def hangUp (net : Net) (task worker : Nat) : Net :=
  { net.setLink worker { net.links worker with dropped := true } with
    serves := Function.update net.serves task none }

def dataSem (task : Nat) : (op : DataOp) → Net → op.Res → Net → Prop
  | .start, net, answer, net' => net.tasks task = some answer ∧ net' = net
  | .accept, net, answer, net' =>
      (answer = .ok () ∧ ∃ port worker others, net.tasks task = some port ∧
        net.backlog port = worker :: others ∧ net' = net.accept task port worker others) ∨
      (faults ∧ (∃ error, answer = .error error) ∧ net' = net)
  | .recvFrame, net, answer, net' => ∃ worker lane, net.serves task = some worker ∧
      Receives faults (net.links worker).hungUp (net.links worker).up answer lane ∧
        net' = net.setLink worker { net.links worker with up := lane }
  | .sendFrame payload, net, answer, net' => ∃ worker lane, net.serves task = some worker ∧
      Sends faults (net.links worker).hungUp (net.links worker).down payload answer lane ∧
        net' = net.setLink worker { net.links worker with down := lane }
  | .closeStream, net, _, net' => ∃ worker, net.serves task = some worker ∧
      net' = net.hangUp task worker
  | .dropListener port, net, _, net' => net' = net.close [port]
  | .getReceiver _, net, _, net' | .fs _, net, _, net' | .lock _, net, _, net'
  | .unlock _ _, net, _, net' => net' = net

end Net

namespace Scene

variable (scene : Scene) (faults : Prop)

/-- What a call does to the session of the client, to the store of the server, and to what
connects them. -/
def sem : (tid : Tid) → (op : (sig tid).Op) → World → (sig tid).Res op → World → Prop
  | .main, op, world, answer, world' => ∃ session net,
      Client.Session.mainSem op world.session answer session ∧
        Net.mainSem scene faults op world.net answer net ∧ world' = ⟨session, world.store, net⟩
  | .worker index, op, world, answer, world' => ∃ session net,
      Client.Session.workerSem index op world.session answer session ∧
        Net.workerSem scene faults index op world.net answer net ∧
          world' = ⟨session, world.store, net⟩
  | .control, op, world, answer, world' => ∃ store net,
      Store.controlSem faults (Role.control ()) op world.store answer store ∧
        Net.controlSem scene faults op world.net answer net ∧ world' = ⟨world.session, store, net⟩
  | .data task, op, world, answer, world' => ∃ store net,
      Store.dataSem faults (Role.data task) op world.store answer store ∧
        Net.dataSem faults task op world.net answer net ∧ world' = ⟨world.session, store, net⟩

variable [Blake3] [KeyOrder]

def system : System Tid sig Ctl World where
  sem := scene.sem faults
  again
    | .control => Control.again scene.server
    | .data _ => Data.again
    | _ => fun _ => none

/-- Both sides are about to run, over the files that the server has. -/
def start (files : Fs FilePath) : Pool sig Ctl World where
  prog
    | .main => Client.Main.task scene.reads scene.client
    | .worker _ => Client.Worker.task
    | .control => Control.task scene.server
    | .data _ => Data.task
  world := ⟨.initial, .initial files, .initial⟩

end Scene

/-- The size of its file is not kept from the client. -/
def Measures (label : Label sig) : Prop :=
  ∀ path error, label ≠ ⟨.main, .metadataLen path, .error error⟩

end BeeSync.EndToEnd
