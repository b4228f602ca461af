import BeeSync.Server.Control

/-!
# How a control handler uses data ports

The handler's use of ports, whatever the world it runs in: it holds nothing, then
reserves and binds, registers, serves, and gives back. A world that explains the
port operations along these stages explains the whole handler.
-/

set_option autoImplicit false

namespace BeeSync.Server

open Encoding Interaction

namespace Control

/-- Operations that do not concern ports. -/
def PortFree : ControlOp → Prop
  | .tryReservePorts _ | .releasePorts _ | .bind _ | .dropSockets _ | .dropDataSocks _
    | .registerReceivers _ _ | .removeReceiver _ | .spawnDataServer _ => False
  | _ => True

/-- The stages of a handler and how the port operations lead through them. -/
structure PortDiscipline {World : Type} (P : Protocol ControlSig World) where
  free : World → Prop
  /-- So many permits are reserved and these listeners bound. -/
  reserved : Nat → List UInt16 → World → Prop
  serving : List UInt16 → World → Prop
  /-- Of these ports, the latter are still to be removed from the registry. -/
  cleaning : List UInt16 → List UInt16 → World → Prop
  stable_free : P.Stable free
  stable_reserved : ∀ count bound, P.Stable (reserved count bound)
  stable_serving : ∀ ports, P.Stable (serving ports)
  stable_cleaning : ∀ ports left, P.Stable (cleaning ports left)
  quiet_free : ∀ op, PortFree op → P.Step free op fun _ => free
  quiet_serving : ∀ ports op, PortFree op → P.Step (serving ports) op fun _ => serving ports
  reserve : ∀ count, P.Step free (.tryReservePorts count) fun
    | true => reserved count []
    | false => free
  bind : ∀ count bound port, P.Step (reserved count bound) (.bind port) fun
    | .ok _ => reserved count (bound ++ [port])
    | .error _ => reserved count bound
  dropSockets : ∀ count bound, bound.length < count →
    P.Step (reserved count bound) (.dropSockets bound) fun _ => free
  register : ∀ ports receiver,
    P.Step (reserved ports.length ports) (.registerReceivers ports receiver) fun _ => serving ports
  dropDataSocks : ∀ ports, P.Step (serving ports) (.dropDataSocks ports) fun _ => free
  spawn : ∀ ports, ∀ port ∈ ports,
    P.Step (serving ports) (.spawnDataServer port) fun _ => serving ports
  leave : ∀ ports world, serving ports world → cleaning ports ports world
  remove : ∀ ports port left,
    P.Step (cleaning ports (port :: left)) (.removeReceiver port) fun _ => cleaning ports left
  release : ∀ ports, 0 < ports.length →
    P.Step (cleaning ports []) (.releasePorts ports.length) fun _ => free
  nothing : ∀ world, cleaning [] [] world → free world

section FsPrograms

theorem fs_portFree {α : Type} (program : FsProg FilePath α) : (onFs program).All PortFree :=
  .embed (.of_forall (fun _ => trivial) program)

variable [Blake3]

theorem resume_portFree [KeyOrder] (receiver : ReceiverId) : (resume receiver).All PortFree := by
  refine .bind (.call trivial) fun state => .bind (fs_portFree _) fun loaded => ?_
  cases loaded with
  | none => exact .bind (.call trivial) fun _ => trivial
  | some metadata =>
      dsimp only
      split
      · trivial
      · exact .bind (.call trivial) fun _ => trivial

theorem assembleFile_portFree (reads : Nat) (receiver : ReceiverId) :
    (assembleFile reads receiver).All PortFree :=
  .bind (.call trivial) fun _ => .bind (fs_portFree _) fun _ => .bind (.call trivial) fun _ =>
    trivial

end FsPrograms

namespace PortDiscipline

variable {World : Type} {P : Protocol ControlSig World} (discipline : PortDiscipline P)

/-- What a handler holds where it stands. -/
def holds : ControlState → World → Prop
  | .waiting transfer => discipline.serving transfer.ports
  | _ => discipline.free

variable {discipline} {α : Type}

theorem free_triple {program : ControlProg α} (all : program.All PortFree) :
    Triple P discipline.free program fun _ => discipline.free :=
  .uniform discipline.stable_free all discipline.quiet_free

theorem serving_triple {program : ControlProg α} (ports : List UInt16)
    (all : program.All PortFree) :
    Triple P (discipline.serving ports) program fun _ => discipline.serving ports :=
  .uniform (discipline.stable_serving ports) all (discipline.quiet_serving ports)

theorem answer_triple (status : UInt8) :
    Triple P discipline.free (answer status) discipline.holds :=
  .bind (fun _ => discipline.free) (free_triple (.call trivial)) fun _ =>
    .ret discipline.stable_free fun _ _ free => free

theorem bindNext_triple (count : Nat) (bound untried : List UInt16) :
    Triple P (discipline.reserved count bound) (bindNext untried) fun
      | (some port, _) => discipline.reserved count (bound ++ [port])
      | (none, _) => discipline.reserved count bound := by
  induction untried with
  | nil => exact .ret (discipline.stable_reserved count bound) fun _ _ reserved => reserved
  | cons port rest ih =>
      refine .step _ (discipline.stable_reserved count bound) (discipline.bind count bound port) ?_
      intro result
      cases result with
      | ok _ => exact .ret (discipline.stable_reserved count _) fun _ _ reserved => reserved
      | error error => exact ih

theorem bindLoop_triple (count turns : Nat) (untried bound : List UInt16) :
    Triple P (discipline.reserved count bound) (bindLoop turns untried bound) fun sockets world =>
      discipline.reserved count sockets world ∧ sockets.length ≤ turns + bound.length := by
  induction turns generalizing untried bound with
  | zero =>
      exact .ret (discipline.stable_reserved count bound) fun _ _ reserved =>
        ⟨reserved, by omega⟩
  | succ turns ih =>
      refine .bind _ (bindNext_triple count bound untried) fun (found, rest) => ?_
      cases found with
      | some port =>
          refine (ih rest (bound ++ [port])).conseq (fun _ _ reserved => reserved) ?_
          rintro sockets world _ ⟨reserved, few⟩
          rw [List.length_append, List.length_singleton] at few
          exact ⟨reserved, by omega⟩
      | none =>
          refine (ih rest bound).conseq (fun _ _ reserved => reserved) ?_
          rintro sockets world _ ⟨reserved, few⟩
          exact ⟨reserved, by omega⟩

theorem allocateSockets_triple (count maxParallel : Nat) :
    Triple P discipline.free (allocateSockets count maxParallel) fun
      | .ok ports => discipline.reserved ports.length ports
      | .error _ => discipline.free := by
  refine .step _ discipline.stable_free (discipline.reserve _) fun accepted => ?_
  cases accepted with
  | false => exact .ret discipline.stable_free fun _ _ free => free
  | true =>
      refine .bind _ (bindLoop_triple (min count maxParallel) _ _ []) fun sockets => ?_
      have stable : P.Stable fun world =>
          discipline.reserved (min count maxParallel) sockets world ∧
            sockets.length ≤ min count maxParallel + 0 :=
        (discipline.stable_reserved _ _).and (.const _)
      split
      case isTrue short =>
        refine .step (fun _ => discipline.free) stable ?_ fun _ =>
          .ret discipline.stable_free fun _ _ free => free
        exact (discipline.dropSockets _ sockets short).conseq (fun _ _ holds => holds.1)
          fun _ _ _ free => free
      case isFalse full =>
        refine .ret stable fun world _ ⟨reserved, few⟩ => ?_
        rw [List.length_nil, Nat.add_zero] at few
        have all : sockets.length = min count maxParallel := le_antisymm few (not_lt.mp full)
        change discipline.reserved sockets.length sockets world
        rwa [all]

theorem removeReceivers_triple (ports left : List UInt16) :
    Triple P (discipline.cleaning ports left) (removeReceivers left)
      fun _ => discipline.cleaning ports [] := by
  induction left with
  | nil => exact .ret (discipline.stable_cleaning ports []) fun _ _ cleaning => cleaning
  | cons port rest ih =>
      exact .step _ (discipline.stable_cleaning ports _) (discipline.remove ports port rest)
        fun _ => ih

theorem cleanup_triple (ports : List UInt16) :
    Triple P (discipline.serving ports) (cleanup ports) fun _ => discipline.free := by
  refine .bind (fun _ => discipline.cleaning ports []) ?_ fun _ => ?_
  · exact (removeReceivers_triple ports ports).conseq
      (fun world _ serving => discipline.leave ports world serving) fun _ _ _ cleaning => cleaning
  · split
    case isTrue some =>
      exact .step _ (discipline.stable_cleaning ports []) (discipline.release ports some) fun _ =>
        .ret discipline.stable_free fun _ _ free => free
    case isFalse none =>
      have empty : ports = [] := List.eq_nil_of_length_eq_zero (by omega)
      subst empty
      exact .ret (discipline.stable_cleaning [] []) fun world _ cleaning =>
        discipline.nothing world cleaning

theorem spawnDataServers_triple (ports : List UInt16) {left : List UInt16}
    (known : ∀ port ∈ left, port ∈ ports) :
    Triple P (discipline.serving ports) (spawnDataServers left)
      fun _ => discipline.serving ports := by
  induction left with
  | nil => exact .ret (discipline.stable_serving ports) fun _ _ serving => serving
  | cons port rest ih =>
      exact .step _ (discipline.stable_serving ports)
        (discipline.spawn ports port (known port List.mem_cons_self)) fun _ =>
          ih fun other member => known other (List.mem_cons_of_mem port member)

theorem closing_triple (state : ControlState) :
    Triple P (discipline.holds state) (closing state) discipline.holds := by
  cases state with
  | waiting transfer => exact .ret (discipline.stable_serving _) fun _ _ serving => serving
  | returned result | panicked =>
      exact .bind _ (free_triple (.call trivial)) fun _ =>
        .ret discipline.stable_free fun _ _ free => free

variable [Blake3]

theorem finish_triple (reads : Nat) (transfer : Transfer) :
    Triple P (discipline.serving transfer.ports) (finish reads transfer) discipline.holds := by
  refine .bind _ (serving_triple transfer.ports (.call trivial)) fun state => ?_
  refine .bind _ (serving_triple transfer.ports (.call trivial)) fun _ => ?_
  refine .bind _ (serving_triple transfer.ports (.call trivial)) fun state' => ?_
  refine .bind _ (serving_triple transfer.ports (.call trivial)) fun _ => ?_
  refine .bind _ (serving_triple transfer.ports ?_) fun success => ?_
  · split
    · trivial
    · split
      · trivial
      · exact Prog.All.recover (assembleFile_portFree reads transfer.receiver)
          (fun _ => trivial) fun _ => trivial
  refine .bind _ (serving_triple transfer.ports (.call trivial)) fun _ => ?_
  refine .bind _ (cleanup_triple transfer.ports) fun _ => ?_
  exact .ret discipline.stable_free fun _ _ free => free

theorem waitForCompletion_triple (reads : Nat) (transfer : Transfer) :
    Triple P (discipline.serving transfer.ports) (waitForCompletion reads transfer)
      discipline.holds := by
  have waits : Triple P (discipline.serving transfer.ports)
      (.ret (.waiting transfer)) discipline.holds :=
    .ret (discipline.stable_serving _) fun _ _ serving => serving
  refine .bind _ (serving_triple transfer.ports (.call trivial)) fun state => ?_
  refine .bind _ (serving_triple transfer.ports (.call trivial)) fun _ => ?_
  split
  · exact finish_triple reads transfer
  · refine .bind _ (serving_triple transfer.ports (.call trivial)) fun poll => ?_
    cases poll with
    | idle | data => exact waits
    | disconnected => exact finish_triple reads transfer

theorem transferChunks_triple (config : Config) (handshake : HandshakeData)
    (receiver : ReceiverId) :
    Triple P discipline.free (transferChunks config handshake receiver) discipline.holds := by
  refine .recover _ (allocateSockets_triple handshake.numChunks config.maxParallel)
    (fun _ => answer_triple _) fun ports => ?_
  refine .step _ (discipline.stable_reserved _ ports) (discipline.register ports receiver) fun _ => ?_
  refine .recover (fun _ => discipline.serving ports)
    (serving_triple ports (.call trivial)) (fun error => ?_) fun _ => ?_
  · exact .step _ (discipline.stable_serving ports) (discipline.dropDataSocks ports) fun _ =>
      .ret discipline.stable_free fun _ _ free => free
  · exact .bind _ (spawnDataServers_triple ports fun _ member => member) fun _ =>
      waitForCompletion_triple config.reads ⟨handshake, receiver, ports⟩

theorem confirmComplete_triple (config : Config) (receiver : ReceiverId) :
    Triple P discipline.free (confirmComplete config receiver) discipline.holds := by
  refine .recover _ (free_triple (.call trivial))
    (fun _ => .ret discipline.stable_free fun _ _ free => free) fun _ => ?_
  refine .bind _ (free_triple (assembleFile_portFree config.reads receiver)) fun result => ?_
  exact .bind _ (free_triple (.call trivial)) fun _ =>
    .ret discipline.stable_free fun _ _ free => free

variable [KeyOrder]

theorem receiveFile_triple (config : Config) (handshake : HandshakeData) :
    Triple P discipline.free (receiveFile config handshake) discipline.holds := by
  refine .recover _ (free_triple (.call trivial)) (fun _ => answer_triple _) fun _ => ?_
  refine .recover _ (free_triple ?_) (fun _ => answer_triple _) fun _ => ?_
  · split
    · exact .call trivial
    · trivial
  refine .bind _ (free_triple (.call trivial)) fun receiver => ?_
  refine .bind _ (free_triple (resume_portFree receiver)) fun complete => ?_
  cases complete with
  | none => exact .ret discipline.stable_free fun _ _ free => free
  | some complete =>
      cases complete with
      | true => exact confirmComplete_triple config receiver
      | false => exact transferChunks_triple config handshake receiver

theorem handleControlConnection_triple (config : Config) :
    Triple P discipline.free (handleControlConnection config) discipline.holds := by
  have ends : ∀ result, Triple P discipline.free (.ret (.returned result)) discipline.holds :=
    fun _ => .ret discipline.stable_free fun _ _ free => free
  refine .recover _ (free_triple (.call trivial)) (fun _ => ends _) fun data => ?_
  split
  · exact ends _
  · split
    · exact answer_triple _
    · refine .recover _ (free_triple (fs_portFree _)) (fun _ => ends _) fun present => ?_
      cases present with
      | true => exact answer_triple _
      | false => exact receiveFile_triple config _

variable (discipline) in
theorem task_triple (config : Config) :
    Triple P discipline.free (task config) discipline.holds :=
  .bind _ (handleControlConnection_triple config) closing_triple

omit [KeyOrder] in
variable (discipline) in
theorem again_triple (config : Config) {state : ControlState} {rest : ControlProg ControlState}
    (continues : again config state = some rest) :
    Triple P (discipline.holds state) rest discipline.holds := by
  cases state with
  | waiting transfer =>
      cases continues
      exact .bind _ (waitForCompletion_triple config.reads transfer) closing_triple
  | returned result => cases continues
  | panicked => cases continues

end PortDiscipline

end Control

end BeeSync.Server
