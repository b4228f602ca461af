import BeeSync.Server.Ports
import Mathlib.Algebra.BigOperators.Group.Finset.Basic

/-!
# Conservation of data port permits

The permits in the pool and those reserved by handlers that have not ended add up
to the number of data ports, in every run in which no handler lets its listeners
go out of scope: those are the two exits that forget the reservation.
-/

set_option autoImplicit false

namespace BeeSync.Server

open Encoding Interaction

variable {handlers : Nat}

/-- What a handler has reserved, as long as it has not ended. -/
def reservedBy (pool : ServerPool handlers) (handler : Fin handlers) : Nat :=
  match pool.prog (.control handler) with
  | .ret (.returned _) | .ret .panicked => 0
  | _ => pool.world.held handler

/-- No permit is lost or released twice. -/
def PermitsConserved (pool : ServerPool handlers) : Prop :=
  pool.world.permits + ∑ handler, reservedBy pool handler = totalDataPorts

/-- A handler lets bound listeners go: in `allocate_sockets` because it got fewer than
it had reserved, or because the handshake response could not be sent. -/
def ForgetsPermits (label : Label (sig : Tid handlers → Sig)) : Prop :=
  ∃ handler sockets, (∃ answer, label = ⟨.control handler, .dropSockets sockets, answer⟩) ∨
    (sockets ≠ [] ∧ ∃ answer, label = ⟨.control handler, .dropDataSocks sockets, answer⟩)

namespace PortPermits

theorem sum_update (held : Fin handlers → Nat) (handler : Fin handlers) (count : Nat) :
    (∑ other, Function.update held handler count other) + held handler =
      (∑ other, held other) + count := by
  have member := Finset.mem_univ handler
  rw [Finset.sum_update_of_mem member,
    Finset.sum_eq_add_sum_sdiff_singleton_of_mem member held]
  omega

/-- What a handler has reserved where it stands. -/
def Holds (handler : Fin handlers) : ControlState → Ports handlers → Prop
  | .waiting transfer => fun ports => ports.held handler = transfer.ports.length
  | _ => fun ports => ports.held handler = 0

def contract : Contract (sig : Tid handlers → Sig) Ctl (Ports handlers) where
  inv := fun ports => ports.permits + ∑ handler, ports.held handler = totalDataPorts
  guar
    | .control handler => fun before after =>
        ∀ other, other ≠ handler → after.held other = before.held other
    | .data _ => fun before after => after.held = before.held
  ob := fun _ _ _ => True
  post
    | .control handler => Holds handler
    | .data _ => fun _ _ => True

section Threads

variable [Blake3] {config : Control.Config}

abbrev protocol (config : Control.Config) (tid : Tid handlers) : Protocol (sig tid) (Ports handlers) :=
  contract.protocol (Ports.system handlers config) (fun label => ¬ ForgetsPermits label) tid

private theorem stable_held (handler : Fin handlers) (count : Nat) :
    (protocol config (.control handler)).Stable fun ports => ports.held handler = count := by
  rintro before after _ holds ⟨other, different, step⟩ _
  cases other with
  | control other =>
      exact (step handler fun same => different (congrArg Tid.control same.symm)).trans holds
  | data task => exact (congrFun step handler).trans holds

private theorem step_held {handler : Fin handlers} {count : Nat} {op : ControlOp}
    (kept : ∀ before answer after, Ports.controlSem handler op before answer after →
      after.permits = before.permits ∧ after.held = before.held) :
    (protocol config (.control handler)).Step (fun ports => ports.held handler = count) op
      fun _ ports => ports.held handler = count := by
  refine fun before inv holds => ⟨trivial, fun answer after ⟨acted, _⟩ => ?_⟩
  obtain ⟨permits, held⟩ := kept before answer after acted
  refine ⟨fun other _ => congrFun held other, ?_, (congrFun held handler).trans holds⟩
  change after.permits + ∑ other, after.held other = totalDataPorts
  rw [permits, held]
  exact inv

omit [Blake3] in
private theorem portFree_kept {handler : Fin handlers} {op : ControlOp}
    (quiet : Control.PortFree op) {before after : Ports handlers} {answer : op.Res}
    (acted : Ports.controlSem handler op before answer after) :
    after.permits = before.permits ∧ after.held = before.held := by
  have same : after = before := by
    cases op <;> first | exact acted | cases quiet
  rw [same]
  exact ⟨rfl, rfl⟩

private theorem step_reserve (handler : Fin handlers) (count : Nat) :
    (protocol config (.control handler)).Step (fun ports => ports.held handler = 0)
      (.tryReservePorts count) fun
        | true => fun ports => ports.held handler = count
        | false => fun ports => ports.held handler = 0 := by
  refine fun before inv holds => ⟨trivial, ?_⟩
  rintro answer after ⟨⟨rfl, enough, rfl⟩ | ⟨rfl, _, rfl⟩, _⟩
  · refine ⟨fun other different => Function.update_of_ne different _ _, ?_, ?_⟩
    · have sum := sum_update before.held handler (before.held handler + count)
      have total : before.permits + ∑ other, before.held other = totalDataPorts := inv
      change before.permits - count + ∑ other, Function.update before.held handler _ other =
        totalDataPorts
      omega
    · change Function.update before.held handler _ handler = count
      rw [Function.update_self, holds, Nat.zero_add]
  · exact ⟨fun _ _ => rfl, inv, holds⟩

private theorem step_release (handler : Fin handlers) (count : Nat) :
    (protocol config (.control handler)).Step (fun ports => ports.held handler = count)
      (.releasePorts count) fun _ ports => ports.held handler = 0 := by
  refine fun before inv holds => ⟨trivial, ?_⟩
  rintro answer after ⟨rfl, _⟩
  refine ⟨fun other different => Function.update_of_ne different _ _, ?_, ?_⟩
  · have sum := sum_update before.held handler (before.held handler - count)
    have total : before.permits + ∑ other, before.held other = totalDataPorts := inv
    change before.permits + count + ∑ other, Function.update before.held handler _ other =
      totalDataPorts
    omega
  · change Function.update before.held handler _ handler = 0
    rw [Function.update_self, holds, Nat.sub_self]

/-- The stages of a handler, by the number of permits it has reserved. -/
private def discipline (config : Control.Config) (handler : Fin handlers) :
    Control.PortDiscipline (protocol config (.control handler)) where
  free := fun ports => ports.held handler = 0
  reserved := fun count _ ports => ports.held handler = count
  serving := fun sockets ports => ports.held handler = sockets.length
  cleaning := fun sockets _ ports => ports.held handler = sockets.length
  stable_free := stable_held handler 0
  stable_reserved := fun count _ => stable_held handler count
  stable_serving := fun sockets => stable_held handler sockets.length
  stable_cleaning := fun sockets _ => stable_held handler sockets.length
  quiet_free := fun _ quiet => step_held fun _ _ _ => portFree_kept quiet
  quiet_serving := fun _ _ quiet => step_held fun _ _ _ => portFree_kept quiet
  reserve := fun count => (step_reserve handler count).conseq (fun _ _ holds => holds)
    fun answer _ _ holds => by cases answer <;> exact holds
  bind := fun count bound port => by
    have kept : (protocol config (.control handler)).Step
        (fun ports => ports.held handler = count) (.bind port)
          fun _ ports => ports.held handler = count := by
      refine step_held ?_
      rintro before answer after (⟨_, _, rfl⟩ | ⟨_, rfl⟩) <;> exact ⟨rfl, rfl⟩
    refine kept.conseq (fun _ _ holds => holds) ?_
    intro answer ports _ holds
    cases answer <;> exact holds
  dropSockets := fun count bound _ => by
    refine fun before _ _ => ⟨trivial, fun answer after ⟨_, permitted⟩ => ?_⟩
    exact absurd ⟨handler, bound, .inl ⟨answer, rfl⟩⟩ permitted
  register := fun sockets receiver => step_held fun _ _ _ acted => by
    rw [acted]
    exact ⟨rfl, rfl⟩
  dropDataSocks := fun sockets => by
    refine fun before inv holds => ⟨trivial, ?_⟩
    rintro answer after ⟨rfl, permitted⟩
    cases sockets with
    | nil => exact ⟨fun _ _ => rfl, inv, holds⟩
    | cons socket rest =>
        exact absurd ⟨handler, socket :: rest, .inr ⟨List.cons_ne_nil _ _, answer, rfl⟩⟩ permitted
  spawn := fun sockets port _ => step_held fun _ _ _ ⟨_, _, acted⟩ => by
    rw [acted]
    exact ⟨rfl, rfl⟩
  leave := fun _ _ holds => holds
  remove := fun sockets port left => step_held fun _ _ _ acted => by
    rw [acted]
    exact ⟨rfl, rfl⟩
  release := fun sockets _ => step_release handler sockets.length
  nothing := fun _ holds => holds

private theorem discipline_holds (config : Control.Config) (handler : Fin handlers) :
    (discipline config handler).holds = Holds handler := by
  funext state
  cases state <;> rfl

private theorem data_triple (task : Nat) (program : DataProg DataState) :
    Triple (protocol config (.data task : Tid handlers)) (fun _ => True) program
      fun _ _ => True := by
  refine .uniform (.const True) (.of_forall (fun _ => trivial) program) fun op _ before inv _ =>
    ⟨trivial, ?_⟩
  rintro answer after ⟨acted, _⟩
  have kept : after.permits = before.permits ∧ after.held = before.held := by
    cases op with
    | start | getReceiver => rw [acted.2]; exact ⟨rfl, rfl⟩
    | dropListener | accept | fs | recvFrame | sendFrame | lock | unlock | closeStream =>
        rw [acted]
        exact ⟨rfl, rfl⟩
  refine ⟨kept.2, ?_, trivial⟩
  change after.permits + ∑ other, after.held other = totalDataPorts
  rw [kept.1, kept.2]
  exact inv

end Threads

section Runs

variable [Blake3] [KeyOrder] {config : Control.Config}

private theorem start_holds (config : Control.Config) :
    contract.Holds (Ports.system handlers config) (fun label => ¬ ForgetsPermits label)
      (Ports.start handlers config) := by
  have inv : totalDataPorts + ∑ _ : Fin handlers, 0 = totalDataPorts := by
    rw [Finset.sum_const_zero, Nat.add_zero]
  refine ⟨inv, fun tid => ?_⟩
  cases tid with
  | control handler =>
      have task := (discipline config handler).task_triple config
      rw [discipline_holds] at task
      exact task _ inv rfl
  | data task => exact data_triple task Data.task _ inv trivial

omit [KeyOrder] in
private theorem loops (tid : Tid handlers) (state : Ctl tid) (rest : Prog (sig tid) (Ctl tid))
    (again : (Ports.system handlers config).again tid state = some rest) :
    Triple (protocol config tid) (contract.post tid state) rest (contract.post tid) := by
  cases tid with
  | control handler =>
      have turn := (discipline config handler).again_triple config again
      rwa [discipline_holds] at turn
  | data task => exact data_triple task rest

end Runs

end PortPermits

/-- However many handlers run, however they are interleaved and whatever binds, sends
and disconnects do: as long as no handler forgets its permits, none is lost. -/
theorem permits_conserved [Blake3] [KeyOrder] (config : Control.Config) {pool : ServerPool handlers}
    (reached : Reaches (Ports.system handlers config) (fun label => ¬ ForgetsPermits label)
      (Ports.start handlers config) pool) : PermitsConserved pool := by
  have holds := (PortPermits.start_holds config).reaches PortPermits.loops reached
  have total : pool.world.permits + ∑ handler, pool.world.held handler = totalDataPorts := holds.inv
  have same : ∀ handler, reservedBy pool handler = pool.world.held handler := by
    intro handler
    unfold reservedBy
    split
    · rename_i result ended
      exact (holds.returned ended).symm
    · rename_i ended
      exact (holds.returned ended).symm
    · rfl
  rw [PermitsConserved, Finset.sum_congr rfl fun handler _ => same handler]
  exact total

private theorem remembers {handler : Fin handlers} {op : ControlOp} {answer : op.Res}
    (keeps : op.dropsListeners = false) : ¬ ForgetsPermits ⟨.control handler, op, answer⟩ := by
  rintro ⟨_, sockets, ⟨_, same⟩ | ⟨_, _, same⟩⟩
  · cases same
    cases keeps
  · cases same
    cases keeps

set_option maxRecDepth 4000 in
/-- The first handler receives its file and gives back its permit; by then the second one has
bound a port. -/
theorem permits_conserved_released :
    let _ := Blake3.sample
    let _ := KeyOrder.increasing
    ∃ pool : ServerPool 2,
      Reaches (Ports.system 2 Control.sampleConfig) (fun label => ¬ ForgetsPermits label)
        (Ports.start 2 Control.sampleConfig) pool ∧
      pool.prog (.control 0) = .ret (.returned (.ok ())) ∧ pool.world.permits = 1000 ∧
        reservedBy pool 1 = 1 ∧ PermitsConserved pool := by
  intro _ _
  let complete := Ports.sampleReceiver.mark 0
  obtain ⟨handshake, serves⟩ := Ports.sample_serving (0 : Fin 2)
  have accepts : Runs (fun op before answer after => Ports.controlSem (0 : Fin 2) op before answer after ∧
      ¬ ForgetsPermits ⟨.control (0 : Fin 2), op, answer⟩) (Control.task Control.sampleConfig)
      (Ports.initial 2) ((Control.waitForCompletion 10 ⟨handshake, 0, [45000]⟩).bind Control.closing)
      (Ports.sampleServing 0) :=
    serves.mono fun _ _ _ _ acted =>
      ⟨acted.1, remembers (ControlOp.dropsListeners_of_letsGo acted.2)⟩
  have receives : Runs (fun op before answer after => Ports.controlSem (0 : Fin 2) op before answer after ∧
      ¬ ForgetsPermits ⟨.control (0 : Fin 2), op, answer⟩)
      ((Control.waitForCompletion 10 ⟨handshake, 0, [45000]⟩).bind Control.closing)
      (Ports.sampleServing 0) (.ret (.returned (.ok ()))) (Ports.sampleReleased 0) := by
    refine .vis complete ⟨rfl, remembers rfl⟩ (.vis () ⟨rfl, remembers rfl⟩ ?_)
    refine .vis complete ⟨rfl, remembers rfl⟩ (.vis () ⟨rfl, remembers rfl⟩ ?_)
    refine .vis complete ⟨rfl, remembers rfl⟩ (.vis () ⟨rfl, remembers rfl⟩ ?_)
    -- the part is assembled
    refine .vis complete ⟨rfl, remembers rfl⟩ (.vis (.ok ()) ⟨rfl, remembers rfl⟩ ?_)
    refine .vis (.ok true) ⟨rfl, remembers rfl⟩ (.vis (.ok ()) ⟨rfl, remembers rfl⟩ ?_)
    refine .vis (.ok [0x61]) ⟨rfl, remembers rfl⟩ (.vis (.ok ()) ⟨rfl, remembers rfl⟩ ?_)
    refine .vis (.ok []) ⟨rfl, remembers rfl⟩ (.vis (.ok ()) ⟨rfl, remembers rfl⟩ ?_)
    refine .vis (.ok ()) ⟨rfl, remembers rfl⟩ (.vis () ⟨rfl, remembers rfl⟩ ?_)
    refine .vis (.ok ()) ⟨rfl, remembers rfl⟩ (.vis () ⟨rfl, remembers rfl⟩ ?_)
    exact .vis () ⟨rfl, remembers rfl⟩ (.vis () ⟨rfl, remembers rfl⟩ .refl)
  have first : Reaches (Ports.system 2 Control.sampleConfig) (fun label => ¬ ForgetsPermits label)
      (Ports.start 2 Control.sampleConfig) ((Ports.start 2 Control.sampleConfig).resume (.control 0)
        (.ret (.returned (.ok ()))) (Ports.sampleReleased 0)) :=
    Reaches.refl.runs rfl (accepts.trans receives)
  -- the port of the first handler is still bound
  have binds : Comes (fun op before answer after => Ports.controlSem (1 : Fin 2) op before answer after ∧
      ¬ ForgetsPermits ⟨.control (1 : Fin 2), op, answer⟩)
      (fun rest after => (∃ op next, rest = .vis op next) ∧ after.permits = 1000 ∧ after.held 1 = 1)
      (Control.task Control.sampleConfig) (Ports.sampleReleased 0) := by
    refine .vis (.ok Control.sampleHandshake) ⟨rfl, remembers rfl⟩ ?_
    refine .vis (.ok false) ⟨rfl, remembers rfl⟩ (.vis (.ok ()) ⟨rfl, remembers rfl⟩ ?_)
    refine .vis 1 ⟨rfl, remembers rfl⟩ (.vis Ports.sampleReceiver ⟨rfl, remembers rfl⟩ ?_)
    refine .vis (.ok false) ⟨rfl, remembers rfl⟩ (.vis () ⟨rfl, remembers rfl⟩ ?_)
    refine .vis true ⟨.inl ⟨rfl, by decide, rfl⟩, remembers rfl⟩ ?_
    refine .vis (.error ⟨"address in use"⟩) ⟨.inr ⟨⟨_, rfl⟩, rfl⟩, remembers rfl⟩ ?_
    refine .vis (.ok ()) ⟨.inl ⟨rfl, rfl, rfl⟩, remembers rfl⟩ ?_
    exact .here ⟨⟨_, _, rfl⟩, rfl, rfl⟩
  obtain ⟨rest, after, ran, ⟨op, next, left⟩, permits, held⟩ := binds
  have reached := first.runs (Pool.resume_prog_other _ (by simp) _ _) ran
  refine ⟨_, reached, ?_, permits, ?_, permits_conserved Control.sampleConfig reached⟩
  · rw [Pool.resume_prog_other _ (by simp)]
    exact Pool.resume_prog_self _ _ _ _
  · rw [reservedBy, Pool.resume_prog_self, left]
    exact held

set_option maxRecDepth 4000 in
/-- When the handshake response cannot be sent, the reserved permit is gone. -/
theorem permit_lost_failed_response :
    ¬ ∀ pool : ServerPool 1,
      Reaches (@Ports.system .sample 1 Control.sampleConfig) (fun _ => True)
        (@Ports.start .sample .increasing 1 Control.sampleConfig) pool → PermitsConserved pool := by
  intro conserved
  let _ := Blake3.sample
  let _ := KeyOrder.increasing
  let lost : IoError := ⟨"Broken pipe"⟩
  have ran : Reaches (Ports.system 1 Control.sampleConfig) (fun _ => True)
      (Ports.start 1 Control.sampleConfig)
      ((Ports.start 1 Control.sampleConfig).resume (.control 0) (.ret (.returned (.error lost)))
        ((Ports.sampleRegistered 0).close [45000])) := by
    refine Reaches.refl.runs rfl ?_
    refine .vis (.ok Control.sampleHandshake) ⟨rfl, trivial⟩ (.vis (.ok false) ⟨rfl, trivial⟩ ?_)
    refine .vis (.ok ()) ⟨rfl, trivial⟩ (.vis 0 ⟨rfl, trivial⟩ (.vis Ports.sampleReceiver ⟨rfl, trivial⟩ ?_))
    refine .vis (.ok false) ⟨rfl, trivial⟩ (.vis () ⟨rfl, trivial⟩ ?_)
    refine .vis true ⟨.inl ⟨rfl, by decide, rfl⟩, trivial⟩ ?_
    refine .vis (.ok ()) ⟨.inl ⟨rfl, rfl, rfl⟩, trivial⟩ ?_
    refine .vis () ⟨rfl, trivial⟩ (.vis (.error lost) ⟨rfl, trivial⟩ ?_)
    exact .vis () ⟨rfl, trivial⟩ (.vis () ⟨rfl, trivial⟩ .refl)
  have short : totalDataPorts - 1 + 0 = totalDataPorts := conserved _ ran
  exact absurd short (by decide)

end BeeSync.Server
