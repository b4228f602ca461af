import BeeSync.Server.Ports

/-!
# The life of a data port

A port is bound, registered and in use by a transfer at the same time as long as
no transfer lets go of a port. Every exit lets go of one part only: `cleanup`
forgets the registration, a failed handshake response and the end of a data
server task close the listener.
-/

set_option autoImplicit false

namespace BeeSync.Server

open Encoding Interaction

variable {handlers : Nat}

/-- A handler that has not ended has allocated the port. -/
def Uses (pool : ServerPool handlers) (handler : Fin handlers) (port : UInt16) : Prop :=
  ¬ Ended pool handler ∧ port ∈ pool.world.allocated handler

/-- The port is being allocated or cleaned up. -/
def InProgress (pool : ServerPool handlers) (port : UInt16) : Prop :=
  ∃ handler, Uses pool handler port ∧ pool.world.phase handler ≠ .serving

/-- The three views of a port: its listener, its registration and its transfer. -/
def ViewsAgree (pool : ServerPool handlers) (port : UInt16) : Prop :=
  (pool.world.listener port ≠ none ↔ pool.world.registry port ≠ none) ∧
    (pool.world.registry port ≠ none ↔ ∃! handler, Uses pool handler port)

/-- The views agree on every data port that is not in progress, and once every transfer
has ended every data port can be bound. -/
structure PortsAgree (pool : ServerPool handlers) : Prop where
  views : ∀ port ∈ dataPorts, ¬ InProgress pool port → ViewsAgree pool port
  reusable : (∀ handler, Ended pool handler) →
    ∀ port ∈ dataPorts, pool.world.listener port = none

/-- A transfer lets go of a port: `cleanup` removes its receiver, the listeners close
because the handshake response could not be sent, or a data server task ends. -/
def LetsGo (label : Label (sig : Tid handlers → Sig)) : Prop :=
  (∃ handler port answer, label = ⟨.control handler, .removeReceiver port, answer⟩) ∨
    (∃ handler sockets answer, sockets ≠ [] ∧
      label = ⟨.control handler, .dropDataSocks sockets, answer⟩) ∨
    ∃ task port answer, label = ⟨.data task, .dropListener port, answer⟩

namespace PortLifecycle

structure Consistent (ports : Ports handlers) : Prop where
  bound : ∀ port, ports.listener port ≠ none ↔ ∃ handler, port ∈ ports.allocated handler
  registered : ∀ port, ports.registry port ≠ none ↔
    ∃ handler, port ∈ ports.allocated handler ∧ ports.phase handler = .serving
  unique : ∀ port first second, port ∈ ports.allocated first → port ∈ ports.allocated second →
    first = second

/-- Nothing changes for a handler. -/
def Kept (handler : Fin handlers) (before after : Ports handlers) : Prop :=
  after.allocated handler = before.allocated handler ∧ after.phase handler = before.phase handler

def contract : Contract (sig : Tid handlers → Sig) Ctl (Ports handlers) where
  inv := Consistent
  guar
    | .control handler => fun before after => ∀ other, other ≠ handler → Kept other before after
    | .data _ => fun before after => ∀ other, Kept other before after
  ob := fun _ _ _ => True
  post
    | .control handler => fun
      | .waiting transfer => fun ports =>
          ports.allocated handler = transfer.ports ∧ ports.phase handler = .serving
      | _ => fun ports => ports.allocated handler = []
    | .data _ => fun _ _ => True

section Threads

variable [Blake3] {config : Control.Config}

abbrev protocol (config : Control.Config) (tid : Tid handlers) : Protocol (sig tid) (Ports handlers) :=
  contract.protocol (Ports.system handlers config) (fun label => ¬ LetsGo label) tid

private theorem kept_interf {handler : Fin handlers} {before after : Ports handlers}
    (interf : (protocol config (.control handler)).interf before after) :
    Kept handler before after := by
  obtain ⟨other, different, step⟩ := interf
  cases other with
  | control other => exact step handler fun same => different (congrArg Tid.control same.symm)
  | data task => exact step handler

private theorem stable_allocated (handler : Fin handlers) (bound : List UInt16) :
    (protocol config (.control handler)).Stable fun ports => ports.allocated handler = bound :=
  fun _ _ _ holds interf _ => (kept_interf interf).1.trans holds

private theorem stable_phase (handler : Fin handlers) (bound : List UInt16) (phase : Phase) :
    (protocol config (.control handler)).Stable fun ports =>
      ports.allocated handler = bound ∧ ports.phase handler = phase :=
  fun _ _ _ holds interf _ =>
    ⟨(kept_interf interf).1.trans holds.1, (kept_interf interf).2.trans holds.2⟩

omit [Blake3] in
private theorem portFree_kept {handler : Fin handlers} {op : ControlOp}
    (quiet : Control.PortFree op) {before after : Ports handlers} {answer : op.Res}
    (acted : Ports.controlSem handler op before answer after) : after = before := by
  cases op <;> first | exact acted | cases quiet

private theorem step_same {handler : Fin handlers} {op : ControlOp} {kept : Ports handlers → Prop}
    (same : ∀ before answer after, Ports.controlSem handler op before answer after →
      after = before) :
    (protocol config (.control handler)).Step kept op fun _ => kept := by
  refine fun before inv holds => ⟨trivial, fun answer after ⟨acted, _⟩ => ?_⟩
  cases same before answer after acted
  exact ⟨fun _ _ => ⟨rfl, rfl⟩, inv, holds⟩

private theorem step_reserve (handler : Fin handlers) (count : Nat) :
    (protocol config (.control handler)).Step (fun ports => ports.allocated handler = [])
      (.tryReservePorts count) fun
        | true => fun ports => ports.allocated handler = [] ∧ ports.phase handler = .allocating
        | false => fun ports => ports.allocated handler = [] := by
  refine fun before inv holds => ⟨trivial, ?_⟩
  rintro answer after ⟨⟨rfl, _, rfl⟩ | ⟨rfl, _, rfl⟩, _⟩
  · refine ⟨fun other different => ⟨rfl, Function.update_of_ne different _ _⟩, ?_,
      holds, Function.update_self _ _ _⟩
    refine ⟨inv.bound, fun port => (inv.registered port).trans ?_, inv.unique⟩
    -- the handler has no ports whose phase could matter
    refine exists_congr fun other => and_congr_right fun member => ?_
    have different : other ≠ handler := by
      rintro rfl
      rw [holds] at member
      cases member
    dsimp only
    rw [Function.update_of_ne different]
  · exact ⟨fun _ _ => ⟨rfl, rfl⟩, inv, holds⟩

private theorem step_bind (handler : Fin handlers) (bound : List UInt16) (port : UInt16) :
    (protocol config (.control handler)).Step
      (fun ports => ports.allocated handler = bound ∧ ports.phase handler = .allocating)
      (.bind port) fun
        | .ok _ => fun ports =>
            ports.allocated handler = bound ++ [port] ∧ ports.phase handler = .allocating
        | .error _ => fun ports =>
            ports.allocated handler = bound ∧ ports.phase handler = .allocating := by
  refine fun before inv holds => ⟨trivial, ?_⟩
  rintro answer after ⟨⟨rfl, free, rfl⟩ | ⟨⟨error, rfl⟩, rfl⟩, _⟩
  · have allocated : ∀ other current, current ∈ Function.update before.allocated handler
        (before.allocated handler ++ [port]) other ↔
          current ∈ before.allocated other ∨ (other = handler ∧ current = port) := by
      intro other current
      by_cases same : other = handler
      · subst same
        rw [Function.update_self, List.mem_append, List.mem_singleton]
        simp only [true_and]
      · rw [Function.update_of_ne same]
        simp only [same, false_and, or_false]
    have fresh : ∀ other, port ∉ before.allocated other := fun other member =>
      (inv.bound port).mpr ⟨other, member⟩ free
    refine ⟨fun other different => ⟨Function.update_of_ne different _ _, rfl⟩, ?_, ?_, holds.2⟩
    · constructor
      · intro current
        dsimp only
        by_cases same : current = port
        · subst same
          rw [Function.update_self]
          exact iff_of_true nofun ⟨handler, (allocated _ _).mpr (.inr ⟨rfl, rfl⟩)⟩
        · rw [Function.update_of_ne same, inv.bound current]
          refine exists_congr fun other => ((allocated _ _).trans ?_).symm
          exact or_iff_left fun ⟨_, equal⟩ => same equal
      · refine fun current => (inv.registered current).trans ?_
        refine exists_congr fun other => ⟨fun ⟨member, serving⟩ =>
          ⟨(allocated _ _).mpr (.inl member), serving⟩, fun ⟨member, serving⟩ => ?_⟩
        obtain member | ⟨rfl, _⟩ := (allocated _ _).mp member
        · exact ⟨member, serving⟩
        · cases holds.2.symm.trans serving
      · intro current first second left right
        obtain known | ⟨rfl, rfl⟩ := (allocated _ _).mp left
        · obtain also | ⟨_, rfl⟩ := (allocated _ _).mp right
          · exact inv.unique current first second known also
          · exact absurd known (fresh first)
        · obtain known | ⟨same, _⟩ := (allocated _ _).mp right
          · exact absurd known (fresh second)
          · exact same.symm
    · change Function.update before.allocated handler _ handler = _
      rw [Function.update_self, holds.1]
  · exact ⟨fun _ _ => ⟨rfl, rfl⟩, inv, holds⟩

private theorem step_dropSockets (handler : Fin handlers) (bound : List UInt16) :
    (protocol config (.control handler)).Step
      (fun ports => ports.allocated handler = bound ∧ ports.phase handler = .allocating)
      (.dropSockets bound) fun _ ports => ports.allocated handler = [] := by
  refine fun before inv ⟨mine, allocating⟩ => ⟨trivial, ?_⟩
  rintro answer after ⟨rfl, _⟩
  have allocated : ∀ other current, current ∈ Function.update before.allocated handler [] other ↔
      other ≠ handler ∧ current ∈ before.allocated other := by
    intro other current
    by_cases same : other = handler
    · subst same
      rw [Function.update_self]
      exact iff_of_false List.not_mem_nil fun absurd => absurd.1 rfl
    · rw [Function.update_of_ne same]
      exact (and_iff_right same).symm
  refine ⟨fun other different => ⟨Function.update_of_ne different _ _, rfl⟩, ?_,
    Function.update_self _ _ _⟩
  constructor
  · intro current
    change (if current ∈ bound then none else before.listener current) ≠ none ↔ _
    split
    case isTrue closed =>
      refine iff_of_false (fun absurd => absurd rfl) ?_
      rintro ⟨other, member⟩
      obtain ⟨different, member⟩ := (allocated _ _).mp member
      exact different (inv.unique current other handler member (mine ▸ closed))
    case isFalse kept =>
      refine (inv.bound current).trans (exists_congr fun other => ?_)
      refine ((allocated _ _).trans (and_iff_right_of_imp ?_)).symm
      rintro member rfl
      exact kept (mine ▸ member)
  · refine fun current => (inv.registered current).trans (exists_congr fun other => ?_)
    refine and_congr_left fun serving => ((allocated _ _).trans (and_iff_right ?_)).symm
    rintro rfl
    cases allocating.symm.trans serving
  · intro current first second left right
    exact inv.unique current first second ((allocated _ _).mp left).2 ((allocated _ _).mp right).2

private theorem step_register (handler : Fin handlers) (bound : List UInt16)
    (receiver : ReceiverId) :
    (protocol config (.control handler)).Step
      (fun ports => ports.allocated handler = bound ∧ ports.phase handler = .allocating)
      (.registerReceivers bound receiver) fun _ ports =>
        ports.allocated handler = bound ∧ ports.phase handler = .serving := by
  refine fun before inv ⟨mine, allocating⟩ => ⟨trivial, ?_⟩
  rintro answer after ⟨rfl, _⟩
  refine ⟨fun other different => ⟨rfl, Function.update_of_ne different _ _⟩, ?_, mine,
    Function.update_self _ _ _⟩
  refine ⟨inv.bound, fun current => ?_, inv.unique⟩
  change (if current ∈ bound then some receiver else before.registry current) ≠ none ↔
    ∃ other, current ∈ before.allocated other ∧
      Function.update before.phase handler .serving other = .serving
  split
  case isTrue member =>
    exact iff_of_true nofun ⟨handler, mine ▸ member, Function.update_self _ _ _⟩
  case isFalse absent =>
    refine (inv.registered current).trans (exists_congr fun other => and_congr_right ?_)
    intro member
    have different : other ≠ handler := by
      rintro rfl
      exact absent (mine ▸ member)
    rw [Function.update_of_ne different]

private theorem step_spawn (handler : Fin handlers) (bound : List UInt16) {port : UInt16}
    (known : port ∈ bound) :
    (protocol config (.control handler)).Step
      (fun ports => ports.allocated handler = bound ∧ ports.phase handler = .serving)
      (.spawnDataServer port) fun _ ports =>
        ports.allocated handler = bound ∧ ports.phase handler = .serving := by
  refine fun before inv holds => ⟨trivial, ?_⟩
  rintro answer after ⟨⟨task, _, rfl⟩, _⟩
  refine ⟨fun _ _ => ⟨rfl, rfl⟩, ⟨fun current => ?_, inv.registered, inv.unique⟩, holds⟩
  dsimp only
  by_cases same : current = port
  · subst same
    rw [Function.update_self]
    exact iff_of_true nofun ⟨handler, holds.1 ▸ known⟩
  · rw [Function.update_of_ne same]
    exact inv.bound current

/-- The stages of a handler, by the ports it has allocated. -/
private def discipline (config : Control.Config) (handler : Fin handlers) :
    Control.PortDiscipline (protocol config (.control handler)) where
  free := fun ports => ports.allocated handler = []
  reserved := fun _ bound ports =>
    ports.allocated handler = bound ∧ ports.phase handler = .allocating
  serving := fun bound ports => ports.allocated handler = bound ∧ ports.phase handler = .serving
  cleaning := fun bound left ports => left = bound ∧ ports.allocated handler = bound
  stable_free := stable_allocated handler []
  stable_reserved := fun _ bound => stable_phase handler bound .allocating
  stable_serving := fun bound => stable_phase handler bound .serving
  stable_cleaning := fun bound left => (Protocol.Stable.const _).and (stable_allocated handler bound)
  quiet_free := fun _ quiet => step_same fun _ _ _ => portFree_kept quiet
  quiet_serving := fun _ _ quiet => step_same fun _ _ _ => portFree_kept quiet
  reserve := fun count => (step_reserve handler count).conseq (fun _ _ holds => holds)
    fun answer _ _ holds => by cases answer <;> exact holds
  bind := fun _ bound port => (step_bind handler bound port).conseq (fun _ _ holds => holds)
    fun answer _ _ holds => by cases answer <;> exact holds
  dropSockets := fun _ bound _ => step_dropSockets handler bound
  register := step_register handler
  dropDataSocks := fun bound => by
    refine fun before inv holds => ⟨trivial, ?_⟩
    rintro answer after ⟨rfl, permitted⟩
    cases bound with
    | nil =>
        exact ⟨fun _ _ => ⟨rfl, rfl⟩, ⟨inv.bound, inv.registered, inv.unique⟩, holds.1⟩
    | cons port rest =>
        exact absurd (.inr (.inl ⟨handler, port :: rest, answer, List.cons_ne_nil _ _, rfl⟩))
          permitted
  spawn := fun bound _ known => step_spawn handler bound known
  leave := fun _ _ holds => ⟨rfl, holds.1⟩
  remove := fun _ port _ => by
    refine fun before _ _ => ⟨trivial, fun answer after ⟨_, permitted⟩ => ?_⟩
    exact absurd (Or.inl ⟨handler, port, answer, rfl⟩) permitted
  release := fun bound some => by
    rintro before _ ⟨rfl, _⟩
    cases some
  nothing := fun _ holds => holds.2

private theorem discipline_holds (config : Control.Config) (handler : Fin handlers) :
    (discipline config handler).holds = contract.post (.control handler) := by
  funext state
  cases state <;> rfl

private theorem data_triple (task : Nat) (program : DataProg DataState) :
    Triple (protocol config (.data task : Tid handlers)) (fun _ => True) program
      fun _ _ => True := by
  refine .uniform (.const True) (.of_forall (fun _ => trivial) program) fun op _ before inv _ =>
    ⟨trivial, ?_⟩
  rintro answer after ⟨acted, permitted⟩
  have same : after = before := by
    cases op with
    | start | getReceiver => exact acted.2
    | dropListener port => exact absurd (.inr (.inr ⟨task, port, answer, rfl⟩)) permitted
    | accept | fs | recvFrame | sendFrame | lock | unlock | closeStream => exact acted
  subst same
  exact ⟨fun _ => ⟨rfl, rfl⟩, inv, trivial⟩

end Threads

section Runs

variable [Blake3] [KeyOrder] {config : Control.Config}

private theorem start_holds (config : Control.Config) :
    contract.Holds (Ports.system handlers config) (fun label => ¬ LetsGo label)
      (Ports.start handlers config) := by
  have inv : Consistent (Ports.initial handlers) := by
    refine ⟨fun _ => ?_, fun _ => ?_, fun _ _ _ member => by cases member⟩
    · exact iff_of_false (fun absurd => absurd rfl) fun ⟨_, member⟩ => by cases member
    · exact iff_of_false (fun absurd => absurd rfl) fun ⟨_, member, _⟩ => by cases member
  refine ⟨inv, fun tid => ?_⟩
  cases tid with
  | control handler =>
      have task := (discipline config handler).task_triple config
      rw [discipline_holds] at task
      exact task _ inv rfl
  | data task => exact data_triple task Data.task _ inv trivial

omit [KeyOrder] in
private theorem loops (tid : Tid handlers) (state : Ctl tid) (rest : Prog (sig tid) (Ctl tid))
    (again : (Ports.system handlers config).again tid state = some rest) :
    Triple (protocol config tid) (contract.post tid state) rest (contract.post tid) := by
  cases tid with
  | control handler =>
      have turn := (discipline config handler).again_triple config again
      rwa [discipline_holds] at turn
  | data task => exact data_triple task rest

end Runs

end PortLifecycle

/-- However many transfers there are and however they are interleaved: as long as none
lets go of a port, listener, registration and transfer of every port agree. -/
theorem ports_agree [Blake3] [KeyOrder] (config : Control.Config) {pool : ServerPool handlers}
    (reached : Reaches (Ports.system handlers config) (fun label => ¬ LetsGo label)
      (Ports.start handlers config) pool) : PortsAgree pool := by
  have holds := (PortLifecycle.start_holds config).reaches PortLifecycle.loops reached
  have inv : PortLifecycle.Consistent pool.world := holds.inv
  have left : ∀ handler, Ended pool handler → pool.world.allocated handler = [] := by
    rintro handler ⟨state, ended, done⟩
    have post := holds.returned ended
    cases state with
    | waiting transfer => exact absurd rfl (done transfer)
    | returned result | panicked => exact post
  have uses : ∀ handler port, Uses pool handler port ↔ port ∈ pool.world.allocated handler := by
    refine fun handler port => and_iff_right_of_imp fun member ended => ?_
    rw [left handler ended] at member
    cases member
  constructor
  · intro port _ settled
    have serving : ∀ handler, port ∈ pool.world.allocated handler →
        pool.world.phase handler = .serving := fun handler member =>
      not_not.mp fun other => settled ⟨handler, (uses handler port).mpr member, other⟩
    have registered : pool.world.registry port ≠ none ↔
        ∃ handler, port ∈ pool.world.allocated handler :=
      (inv.registered port).trans (exists_congr fun handler =>
        and_iff_left_of_imp (serving handler))
    refine ⟨(inv.bound port).trans registered.symm, registered.trans ?_⟩
    constructor
    · rintro ⟨handler, member⟩
      refine ⟨handler, (uses handler port).mpr member, fun other used => ?_⟩
      exact inv.unique port other handler ((uses other port).mp used) member
    · rintro ⟨handler, used, _⟩
      exact ⟨handler, (uses handler port).mp used⟩
  · intro ended port _
    refine not_not.mp fun bound => ?_
    obtain ⟨handler, member⟩ := (inv.bound port).mp bound
    rw [left handler (ended handler)] at member
    cases member

private theorem holdsOn {handler : Fin handlers} {op : ControlOp} {answer : op.Res}
    (keeps : op.letsGo = false) : ¬ LetsGo ⟨.control handler, op, answer⟩ := by
  rintro (⟨_, _, _, same⟩ | ⟨_, _, _, _, same⟩ | ⟨_, _, _, same⟩)
  · cases same
    cases keeps
  · cases same
    cases keeps
  · cases same

private theorem keepsListener {task : Nat} {op : DataOp} {answer : op.Res}
    (keeps : ∀ port, op ≠ .dropListener port) :
    ¬ LetsGo (⟨.data task, op, answer⟩ : Label (sig : Tid handlers → Sig)) := by
  rintro (⟨_, _, _, same⟩ | ⟨_, _, _, _, same⟩ | ⟨_, port, _, same⟩)
  · cases same
  · cases same
  · cases same
    exact keeps port rfl

/-- The first data port is bound by a task that serves a connection of its transfer. -/
theorem ports_agree_connected :
    let _ := Blake3.sample
    let _ := KeyOrder.increasing
    ∃ pool : ServerPool 1,
      Reaches (Ports.system 1 Control.sampleConfig) (fun label => ¬ LetsGo label)
        (Ports.start 1 Control.sampleConfig) pool ∧
      pool.prog (.data 0) = .ret (.connected 45000 0) ∧
        pool.world.listener 45000 = some (.data 0) ∧ pool.world.registry 45000 = some 0 ∧
          Uses pool 0 45000 ∧ PortsAgree pool := by
  intro _ _
  obtain ⟨handshake, serves⟩ := Ports.sample_serving (0 : Fin 1)
  have waiting : Reaches (Ports.system 1 Control.sampleConfig) (fun label => ¬ LetsGo label)
      (Ports.start 1 Control.sampleConfig) ((Ports.start 1 Control.sampleConfig).resume (.control 0)
        ((Control.waitForCompletion 10 ⟨handshake, 0, [45000]⟩).bind Control.closing)
        (Ports.sampleServing 0)) :=
    Reaches.refl.runs rfl (serves.mono fun _ _ _ _ acted => ⟨acted.1, holdsOn acted.2⟩)
  have started : Runs (fun op before answer after => Ports.dataSem 0 op before answer after ∧
      ¬ LetsGo (⟨.data 0, op, answer⟩ : Label (sig : Tid 1 → Sig))) Data.task
      (Ports.sampleServing (0 : Fin 1)) (.ret (.accepting 45000)) (Ports.sampleServing (0 : Fin 1)) :=
    .vis (45000 : UInt16) ⟨⟨rfl, rfl⟩, keepsListener (by simp)⟩ .refl
  have connects : Runs (fun op before answer after => Ports.dataSem 0 op before answer after ∧
      ¬ LetsGo (⟨.data 0, op, answer⟩ : Label (sig : Tid 1 → Sig)))
      (Data.acceptConnection 45000) (Ports.sampleServing (0 : Fin 1)) (.ret (.connected 45000 0))
      (Ports.sampleServing 0) :=
    .vis (.ok ()) ⟨rfl, keepsListener (by simp)⟩
      (.vis (some (0 : ReceiverId)) ⟨⟨rfl, rfl⟩, keepsListener (by simp)⟩ .refl)
  have spawned := waiting.runs (Pool.resume_prog_other _ (by simp) _ _) started
  have reached := (spawned.restart (Pool.resume_prog_self _ _ _ _) rfl).runs
    (Pool.resume_prog_self _ _ _ _) connects
  refine ⟨_, reached, Pool.resume_prog_self _ _ _ _, rfl, rfl, ⟨?_, ?_⟩,
    ports_agree Control.sampleConfig reached⟩
  · rintro ⟨state, ended, _⟩
    simp only [Pool.resume_prog_other _ (show Tid.control (0 : Fin 1) ≠ .data 0 by simp),
      Pool.resume_prog_self] at ended
    cases ended
  · exact List.mem_singleton_self _

set_option maxRecDepth 4000 in
/-- A client that disconnects after the response: its transfer is cleaned up and ended,
the port stays bound by a data server task that nobody stops. -/
theorem port_leaked_after_cleanup :
    ¬ ∀ pool : ServerPool 1,
      Reaches (@Ports.system .sample 1 Control.sampleConfig) (fun _ => True)
        (@Ports.start .sample .increasing 1 Control.sampleConfig) pool → PortsAgree pool := by
  intro agree
  let _ := Blake3.sample
  let _ := KeyOrder.increasing
  obtain ⟨handshake, serves⟩ := Ports.sample_serving (0 : Fin 1)
  have leaves : Runs (Ports.controlSem (0 : Fin 1))
      ((Control.waitForCompletion 10 ⟨handshake, 0, [45000]⟩).bind Control.closing)
      (Ports.sampleServing 0) (.ret (.returned (.ok ()))) (Ports.sampleReleased 0) := by
    refine .vis Ports.sampleReceiver rfl (.vis () rfl (.vis .disconnected rfl ?_))
    refine .vis Ports.sampleReceiver rfl (.vis () rfl (.vis Ports.sampleReceiver rfl ?_))
    exact .vis () rfl (.vis (.ok ()) rfl (.vis () rfl (.vis () rfl (.vis () rfl .refl))))
  have ran : Reaches (Ports.system 1 Control.sampleConfig) (fun _ => True)
      (Ports.start 1 Control.sampleConfig)
      ((Ports.start 1 Control.sampleConfig).resume (.control 0) (.ret (.returned (.ok ())))
        (Ports.sampleReleased 0)) :=
    Reaches.refl.runs rfl (((serves.mono fun _ _ _ _ acted => acted.1).trans leaves).mono
      fun _ _ _ _ acted => ⟨acted, trivial⟩)
  have ended : ∀ handler : Fin 1, Ended ((Ports.start 1 Control.sampleConfig).resume (.control 0)
      (.ret (.returned (.ok ()))) (Ports.sampleReleased 0)) handler := by
    intro handler
    rw [Subsingleton.elim handler 0]
    exact ⟨_, Pool.resume_prog_self _ _ _ _, nofun⟩
  have free : (Ports.sampleReleased (0 : Fin 1)).listener 45000 = none :=
    (agree _ ran).reusable ended 45000 (List.mem_map.mpr ⟨0, by decide, rfl⟩)
  cases free

end BeeSync.Server
