import BeeSync.Server.Data
import BeeSync.Server.PortDiscipline
import BeeSync.Interaction.ThreadPool

/-!
# The data ports of a server

Any number of control handlers and data server tasks run interleaved over the
permit pool, the listeners of the operating system and the registry of receivers.
What streams, files and receivers answer is left open. A listener belongs to the
task that holds it and closes with it; dropping a task handle closes nothing.
-/

set_option autoImplicit false

namespace BeeSync.Server

open Encoding Interaction

inductive Tid (handlers : Nat) where
  | control (handler : Fin handlers)
  | data (task : Nat)
  deriving DecidableEq

variable {handlers : Nat}

@[reducible] def sig : Tid handlers → Sig
  | .control _ => ControlSig
  | .data _ => DataSig

@[reducible] def Ctl : Tid handlers → Type
  | .control _ => ControlState
  | .data _ => DataState

/-- How far a handler is with its ports. -/
inductive Phase where
  | allocating
  | serving
  | cleaning
  deriving DecidableEq

structure Ports (handlers : Nat) where
  /-- Permits available in the pool. -/
  permits : Nat
  /-- The task that holds the listener bound to a port. -/
  listener : UInt16 → Option (Tid handlers)
  /-- The registry of active receivers. -/
  registry : UInt16 → Option ReceiverId
  /-- The data server tasks that have been spawned, and the ports they serve. -/
  tasks : Nat → Option UInt16
  /-- The permits a handler has reserved and not given back. -/
  held : Fin handlers → Nat
  /-- The ports a handler has allocated. -/
  allocated : Fin handlers → List UInt16
  phase : Fin handlers → Phase

namespace Ports

def initial (handlers : Nat) : Ports handlers where
  permits := totalDataPorts
  listener := fun _ => none
  registry := fun _ => none
  tasks := fun _ => none
  held := fun _ => 0
  allocated := fun _ => []
  phase := fun _ => .allocating

/-- Listeners that close. -/
def close (ports : Ports handlers) (closed : List UInt16) : Ports handlers :=
  { ports with listener := fun port => if port ∈ closed then none else ports.listener port }

open Function in
/-- The effect of a control handler's operation. -/
def controlSem (handler : Fin handlers) :
    (op : ControlOp) → Ports handlers → op.Res → Ports handlers → Prop
  | .tryReservePorts count, ports, answer, ports' =>
      (answer = true ∧ count ≤ ports.permits ∧
        ports' = { ports with
          permits := ports.permits - count
          held := update ports.held handler (ports.held handler + count)
          phase := update ports.phase handler .allocating }) ∨
      (answer = false ∧ ports.permits < count ∧ ports' = ports)
  | .releasePorts count, ports, _, ports' =>
      ports' = { ports with
        permits := ports.permits + count
        held := update ports.held handler (ports.held handler - count) }
  | .bind port, ports, answer, ports' =>
      (answer = .ok () ∧ ports.listener port = none ∧
        ports' = { ports with
          listener := update ports.listener port (some (.control handler))
          allocated := update ports.allocated handler (ports.allocated handler ++ [port]) }) ∨
      ((∃ error, answer = .error error) ∧ ports' = ports)
  | .dropSockets sockets, ports, _, ports' =>
      ports' = { ports.close sockets with allocated := update ports.allocated handler [] }
  | .dropDataSocks sockets, ports, _, ports' => ports' = ports.close sockets
  | .registerReceivers registered receiver, ports, _, ports' =>
      ports' = { ports with
        registry := fun port => if port ∈ registered then some receiver else ports.registry port
        phase := update ports.phase handler .serving }
  | .removeReceiver port, ports, _, ports' =>
      ports' = { ports with
        registry := update ports.registry port none
        phase := update ports.phase handler .cleaning }
  | .spawnDataServer port, ports, _, ports' => ∃ task, ports.tasks task = none ∧
      ports' = { ports with
        tasks := update ports.tasks task (some port)
        listener := update ports.listener port (some (.data task)) }
  | _, ports, _, ports' => ports' = ports

/-- The effect of a data server task's operation. -/
def dataSem (task : Nat) : (op : DataOp) → Ports handlers → op.Res → Ports handlers → Prop
  | .start, ports, answer, ports' => ports.tasks task = some answer ∧ ports' = ports
  | .getReceiver port, ports, answer, ports' => answer = ports.registry port ∧ ports' = ports
  | .dropListener port, ports, _, ports' => ports' = ports.close [port]
  | _, ports, _, ports' => ports' = ports

def sem : (tid : Tid handlers) → (op : (sig tid).Op) → Ports handlers → (sig tid).Res op →
    Ports handlers → Prop
  | .control handler => controlSem handler
  | .data task => dataSem task

end Ports

abbrev ServerPool (handlers : Nat) := @Pool (Tid handlers) sig Ctl (Ports handlers)

namespace Ports

variable [Blake3] [KeyOrder]

def system (handlers : Nat) (config : Control.Config) :
    System (Tid handlers) sig Ctl (Ports handlers) where
  sem := sem
  again
    | .control _ => Control.again config
    | .data _ => Data.again

/-- Handlers about to run, and data server tasks not yet spawned. -/
def start (handlers : Nat) (config : Control.Config) : ServerPool handlers where
  prog
    | .control _ => Control.task config
    | .data _ => Data.task
  world := initial handlers

end Ports

/-- A handler has ended. -/
def Ended (pool : ServerPool handlers) (handler : Fin handlers) : Prop :=
  ∃ state, pool.prog (.control handler) = .ret state ∧ ∀ transfer, state ≠ .waiting transfer

section Sample

/-- Listeners go out of scope. -/
def ControlOp.dropsListeners : ControlOp → Bool
  | .dropSockets _ | .dropDataSocks _ => true
  | _ => false

/-- Listeners go out of scope, or the receiver of a port is removed. -/
def ControlOp.letsGo : ControlOp → Bool
  | .removeReceiver _ => true
  | op => op.dropsListeners

theorem ControlOp.dropsListeners_of_letsGo {op : ControlOp} (keeps : op.letsGo = false) :
    op.dropsListeners = false := by
  cases op with
  | removeReceiver => cases keeps
  | _ => exact keeps

namespace Ports

/-- The receiver of a one-byte file. -/
def sampleReceiver [Blake3] : FileReceiver :=
  .new (ascii "f") 1 2097152 1 (calcHash [0x61]) (ascii "received") (ascii "received")

/-- A handler has bound the first data port. -/
def sampleBound (handler : Fin handlers) : Ports handlers :=
  { initial handlers with
    permits := 1000
    held := Function.update (fun _ => 0) handler 1
    listener := Function.update (fun _ => none) 45000 (some (.control handler))
    allocated := Function.update (fun _ => []) handler [45000]
    phase := Function.update (fun _ => .allocating) handler .allocating }

def sampleRegistered (handler : Fin handlers) : Ports handlers :=
  { sampleBound handler with
    registry := fun port => if port ∈ [45000] then some 0 else none
    phase := Function.update (sampleBound handler).phase handler .serving }

/-- Its response has been sent, and its data server task owns the listener. -/
def sampleServing (handler : Fin handlers) : Ports handlers :=
  { sampleRegistered handler with
    tasks := Function.update (fun _ => none) 0 (some 45000)
    listener := Function.update (sampleRegistered handler).listener 45000 (some (.data 0)) }

/-- The handler has cleaned up. -/
def sampleReleased (handler : Fin handlers) : Ports handlers :=
  { sampleServing handler with
    permits := 1001
    held := Function.update (sampleServing handler).held handler 0
    registry := Function.update (sampleServing handler).registry 45000 none
    phase := Function.update (sampleServing handler).phase handler .cleaning }

set_option maxRecDepth 4000 in
/-- The handshake of a one-byte file has been accepted, and its handler waits for the chunk. -/
theorem sample_serving (handler : Fin handlers) :
    let _ := Blake3.sample
    let _ := KeyOrder.increasing
    ∃ handshake, Runs
      (fun op before answer after => controlSem handler op before answer after ∧
        ControlOp.letsGo op = false)
      (Control.task Control.sampleConfig) (initial handlers)
      ((Control.waitForCompletion 10 ⟨handshake, 0, [45000]⟩).bind Control.closing)
      (sampleServing handler) := by
  intro _ _
  have ran : Runs
      (fun op before answer after => controlSem handler op before answer after ∧
        ControlOp.letsGo op = false)
      (Control.task Control.sampleConfig) (initial handlers)
      ((Control.waitForCompletion 10 ⟨_, 0, [45000]⟩).bind Control.closing)
      (sampleServing handler) :=
    .vis (.ok Control.sampleHandshake) ⟨rfl, rfl⟩
      (.vis (.ok false) ⟨rfl, rfl⟩
      (.vis (.ok ()) ⟨rfl, rfl⟩
      (.vis 0 ⟨rfl, rfl⟩
      (.vis sampleReceiver ⟨rfl, rfl⟩
      (.vis (.ok false) ⟨rfl, rfl⟩
      (.vis () ⟨rfl, rfl⟩
      (.vis true ⟨.inl ⟨rfl, Nat.le_of_ble_eq_true rfl, rfl⟩, rfl⟩
      (.vis (.ok ()) ⟨.inl ⟨rfl, rfl, rfl⟩, rfl⟩
      (.vis () ⟨rfl, rfl⟩
      (.vis (.ok ()) ⟨rfl, rfl⟩
      (.vis () ⟨⟨0, rfl, rfl⟩, rfl⟩ .refl)))))))))))
  exact ⟨_, ran⟩

end Ports

end Sample

end BeeSync.Server
