import BeeSync.Client.Run
import BeeSync.Interaction.ThreadPool

/-!
# A client against any server

The main task and its workers run interleaved. What the network and the file
system answer is left open; the tasks share the shutdown flag and the table of
spawned and finished workers. Nobody presses Ctrl+C.
-/

set_option autoImplicit false

namespace BeeSync.Client

open Encoding Interaction

inductive Tid where
  | main
  | worker (index : Nat)
  deriving DecidableEq

@[reducible] def sig : Tid → Sig
  | .main => MainSig
  | .worker _ => WorkerSig

@[reducible] def Ctl : Tid → Type
  | .main => Nat
  | .worker _ => Unit

/-- What the tasks share, and what the main task has been told. -/
structure Session where
  shutdown : Bool
  spawned : Nat → Option WorkerConfig
  finished : Nat → Option (Option WorkerResult)
  /-- The handshake response received. -/
  response : Option Bytes
  /-- The final status frame received. -/
  finalFrame : Option Bytes
  /-- The failed chunks that joined workers have reported. -/
  failures : List Nat

namespace Session

def initial : Session where
  shutdown := false
  spawned := fun _ => none
  finished := fun _ => none
  response := none
  finalFrame := none
  failures := []

/-- The frame a receive brought, if it succeeded. -/
def received (before : Option Bytes) : Except IoError Bytes → Option Bytes
  | .ok data => some data
  | .error _ => before

def reported : Option WorkerResult → List Nat
  | some result => result.failList
  | none => []

def mainSem : (op : MainOp) → Session → op.Res → Session → Prop
  | .loadShutdown, session, answer, session' => answer = session.shutdown ∧ session' = session
  | .spawnWorker worker config, session, _, session' =>
      session' = { session with spawned := Function.update session.spawned worker (some config) }
  | .joinWorker worker, session, answer, session' =>
      session.finished worker = some answer ∧
        session' = { session with failures := session.failures ++ reported answer }
  | .recvFrame, session, answer, session' =>
      session' = { session with response := received session.response answer }
  | .recvFinal, session, answer, session' =>
      session' = { session with finalFrame := received session.finalFrame answer }
  | _, session, _, session' => session' = session

def workerSem (worker : Nat) : (op : WorkerOp) → Session → op.Res → Session → Prop
  | .start, session, answer, session' =>
      session.spawned worker = some answer ∧ session' = session
  | .loadShutdown, session, answer, session' => answer = session.shutdown ∧ session' = session
  | .storeShutdown, session, _, session' => session' = { session with shutdown := true }
  | .finish result, session, _, session' =>
      session' = { session with finished := Function.update session.finished worker (some result) }
  | _, session, _, session' => session' = session

def sem : (tid : Tid) → (op : (sig tid).Op) → Session → (sig tid).Res op → Session → Prop
  | .main => mainSem
  | .worker index => workerSem index

/-- The tasks of a client; none of them loops. -/
def system : System Tid sig Ctl Session where
  sem := sem
  again := fun _ _ => none

/-- A client about to run. -/
def start [Blake3] (reads : Nat) (config : ClientConfig) : Pool sig Ctl Session where
  prog
    | .main => Main.task reads config
    | .worker _ => Worker.task
  world := initial

/-- A worker stores the shutdown flag, which it does when a chunk has failed. -/
def StoresShutdown (label : Label sig) : Prop :=
  ∃ worker answer, label = ⟨.worker worker, .storeShutdown, answer⟩

/-- The exit code tells the truth: success means that the server said so, and a
client that knows of failed chunks does not report success. -/
structure Truthful (session : Session) (exitCode : Nat) : Prop where
  confirmed : exitCode = 0 →
    (∃ data dataPorts, session.response = some data ∧
      parseResponse data = .ok (Handshake.respExists, dataPorts)) ∨
    (∃ rest, session.finalFrame = some (Handshake.respOk :: rest))
  failed : session.failures ≠ [] → exitCode ≠ 0

end Session

end BeeSync.Client
