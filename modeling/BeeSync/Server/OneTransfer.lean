import BeeSync.Server.Hosting

/-!
# A server with one transfer

With one control handler there is at most one receiver, nothing is received before it has
resumed, and no data server task is connected before the ports are registered.
-/

set_option autoImplicit false

namespace BeeSync.Server

open Encoding Interaction

/-- The receiver does not exist yet. -/
def ControlPhase.Unborn : ControlPhase → Prop
  | .starting | .accepted _ => True
  | _ => False

/-- The resume section has not been left. -/
def ControlPhase.Unserved : ControlPhase → Prop
  | .starting | .accepted _ | .created .. | .resuming .. => True
  | _ => False

theorem ControlPhase.Unborn.unserved {phase : ControlPhase} (unborn : phase.Unborn) :
    phase.Unserved := by
  cases phase <;> trivial

/-- The receiver as the resume section leaves it. -/
def ResumePhase.Leaves [KeyOrder] (state : FileReceiver) (resume : ResumePhase)
    (state' : FileReceiver) : Prop :=
  state' = state ∨ ∃ metadata marked, resume.Done (some metadata) ∧
    state.markAll (KeyOrder.keys metadata.chunkHashes) = some marked ∧
      state' = marked.setMetadata metadata

theorem ControlTurn.leaves [Blake3] [KeyOrder] {config : Control.Config}
    {phase phase' : ControlPhase} {op : ControlOp} {answer : op.Res}
    (turned : ControlTurn config phase op answer phase') (unserved : phase.Unserved) :
    phase'.Unserved ∨ ∃ handshake receiver state resume state',
      phase = .resuming handshake receiver state resume ∧ op = .unlock receiver state' ∧
        resume.Leaves state state' := by
  cases turned with
  | quiet | answer => exact .inl unserved
  | hear | accept | check | create | resume | recover => exact .inl trivial
  | unresumed ended => exact .inr ⟨_, _, _, _, _, rfl, rfl, .inl rfl⟩
  | resumed complete ended all whole =>
      exact .inr ⟨_, _, _, _, _, rfl, rfl, .inr ⟨_, _, ended, all, rfl⟩⟩
  | register | look | leave | assemble | build | built | report | abandon | remove =>
      cases unserved

structure OneTransfer (phase : (role : Role Unit) → role.Phase) (store : Store (Role Unit)) :
    Prop where
  orderly : Orderly phase store
  unborn : (phase (.control ())).Unborn → ∀ receiver, store.receivers receiver = none
  sole : ∀ receiver other, store.receivers receiver ≠ none → store.receivers other ≠ none →
    receiver = other
  unregistered : (phase (.control ())).Unserved → ∀ port, store.registry port = none
  idle : (phase (.control ())).Unserved → ∀ task, phase (.data task) = .idle
  fresh : (phase (.control ())).Unserved → ∀ receiver state, store.receivers receiver = some state →
    ∀ idx, ¬ state.Received idx

namespace OneTransfer

variable {phase : (role : Role Unit) → role.Phase} {store store' : Store (Role Unit)}

theorem start (fs : Fs FilePath) : OneTransfer Role.begin (.initial fs) where
  orderly := .start fs
  unborn _ _ := rfl
  sole _ _ found := absurd rfl found
  unregistered _ _ := rfl
  idle _ _ := rfl
  fresh _ _ _ found := by cases found

variable [Blake3] {faults : Prop}

theorem idle_step (one : OneTransfer phase store)
    (unserved : (phase (.control ())).Unserved) {task : Nat} {op : DataOp} {answer : op.Res}
    {phase' : DataPhase} (turned : DataTurn (phase (.data task)) op answer phase')
    (acted : Store.dataSem faults (Role.data task) op store answer store') :
    phase' = .idle ∧ store' = store := by
  rw [one.idle unserved task] at turned
  cases turned with
  | idle op quiet answer =>
      cases op with
      | start | accept | closeStream | dropListener => exact ⟨rfl, acted⟩
      | getReceiver => exact ⟨rfl, acted.2⟩
      | fs | recvFrame | sendFrame | lock | unlock => cases quiet
  | connect port receiver =>
      have found := acted.1
      rw [one.unregistered unserved port] at found
      cases found

/-- A data server task neither creates a receiver nor registers one. -/
theorem data_keeps (orderly : Orderly phase store) {task : Nat} {op : DataOp} {answer : op.Res}
    {phase' : DataPhase} (turned : DataTurn (phase (.data task)) op answer phase')
    (acted : Store.dataSem faults (Role.data task) op store answer store') :
    store'.registry = store.registry ∧
      ∀ receiver, store'.receivers receiver ≠ none → store.receivers receiver ≠ none := by
  have shift := turned.shift
  cases op with
  | lock receiver =>
      obtain ⟨_, _, same⟩ := acted
      subst same
      exact ⟨rfl, fun _ => id⟩
  | unlock receiver state' =>
      obtain ⟨_, _, state, held, _⟩ := shift
      cases acted
      refine ⟨rfl, fun other found => ?_⟩
      by_cases same : other = receiver
      · subst same
        rw [(orderly.held (.data task) other state held).2]
        nofun
      · dsimp only at found
        rw [Function.update_of_ne same] at found
        exact found
  | getReceiver port =>
      rw [acted.2]
      exact ⟨rfl, fun _ => id⟩
  | fs op =>
      obtain ⟨fs, _, same⟩ := acted
      subst same
      exact ⟨rfl, fun _ => id⟩
  | _ =>
      cases acted
      exact ⟨rfl, fun _ => id⟩

theorem data (one : OneTransfer phase store) {task : Nat} {op : DataOp} {answer : op.Res}
    {phase' : DataPhase} (turned : DataTurn (phase (.data task)) op answer phase')
    (acted : Store.dataSem faults (Role.data task) op store answer store') :
    OneTransfer (Function.update phase (.data task) phase') store' := by
  have other : Function.update phase (.data task) phase' (.control ()) = phase (.control ()) :=
    Role.update_data_control task phase' ()
  have still := fun unserved => idle_step one unserved turned acted
  obtain ⟨registry, exist⟩ := data_keeps one.orderly turned acted
  constructor
  · exact one.orderly.data turned acted
  · intro unborn
    rw [other] at unborn
    rw [(still unborn.unserved).2]
    exact one.unborn unborn
  · exact fun receiver receiver' found found' =>
      one.sole receiver receiver' (exist receiver found) (exist receiver' found')
  · intro unserved
    rw [other] at unserved
    rw [registry]
    exact one.unregistered unserved
  · intro unserved task'
    rw [other] at unserved
    by_cases same : task' = task
    · subst same
      rw [Function.update_self]
      exact (still unserved).1
    · rw [Role.update_data_other same]
      exact one.idle unserved task'
  · intro unserved
    rw [other] at unserved
    rw [(still unserved).2]
    exact one.fresh unserved

omit [Blake3] in
theorem control_keep (one : OneTransfer phase store) {phase' : ControlPhase}
    (orderly : Orderly (Function.update phase (.control ()) phase') store')
    (receivers : store'.receivers = store.receivers) (registry : store'.registry = store.registry)
    (unborn : phase'.Unborn → (phase (.control ())).Unborn)
    (unserved : phase'.Unserved → (phase (.control ())).Unserved) :
    OneTransfer (Function.update phase (.control ()) phase') store' := by
  have here : Function.update phase (.control ()) phase' (.control ()) = phase' :=
    Function.update_self _ _ _
  constructor
  · exact orderly
  · intro early
    rw [here] at early
    rw [receivers]
    exact one.unborn (unborn early)
  · rw [receivers]
    exact one.sole
  · intro early
    rw [here] at early
    rw [registry]
    exact one.unregistered (unserved early)
  · intro early task
    rw [here] at early
    rw [Role.update_control_data]
    exact one.idle (unserved early) task
  · intro early
    rw [here] at early
    rw [receivers]
    exact one.fresh (unserved early)

omit [Blake3] in
theorem control_served (one : OneTransfer phase store) {phase' : ControlPhase}
    (orderly : Orderly (Function.update phase (.control ()) phase') store')
    (exist : ∀ receiver, store'.receivers receiver ≠ none → store.receivers receiver ≠ none)
    (served : ¬ phase'.Unserved) :
    OneTransfer (Function.update phase (.control ()) phase') store' := by
  have here : Function.update phase (.control ()) phase' (.control ()) = phase' :=
    Function.update_self _ _ _
  have late : ¬ (Function.update phase (.control ()) phase' (.control ())).Unserved := by
    rw [here]
    exact served
  constructor
  · exact orderly
  · exact fun unborn => absurd unborn.unserved late
  · exact fun receiver receiver' found found' =>
      one.sole receiver receiver' (exist receiver found) (exist receiver' found')
  · exact fun unserved => absurd unserved late
  · exact fun unserved => absurd unserved late
  · exact fun unserved => absurd unserved late

theorem control [KeyOrder] (one : OneTransfer phase store) {config : Control.Config}
    {op : ControlOp} {answer : op.Res} {phase' : ControlPhase}
    (turned : ControlTurn config (phase (.control ())) op answer phase')
    (acted : Store.controlSem faults (Role.control ()) op store answer store') :
    OneTransfer (Function.update phase (.control ()) phase') store' := by
  have orderly := one.orderly.control turned acted
  have unlocked : ∀ receiver state state',
      (phase (.control ())).holding = some (receiver, state) →
      Store.unlockSem receiver state' store store' →
      ∀ other, store'.receivers other ≠ none → store.receivers other ≠ none := by
    intro receiver state state' held unlocked other found
    cases unlocked
    by_cases same : other = receiver
    · subst same
      rw [(one.orderly.held (.control ()) other state held).2]
      nofun
    · dsimp only at found
      rw [Function.update_of_ne same] at found
      exact found
  generalize current : phase (.control ()) = before at turned unlocked
  cases turned with
  | quiet _ op quiet =>
      have unchanged : store' = store := by
        cases op <;> first | exact acted | cases quiet
      subst unchanged
      exact one.control_keep orderly rfl rfl (by rw [current]; exact id) (by rw [current]; exact id)
  | answer | hear =>
      cases acted
      exact one.control_keep orderly rfl rfl (by rw [current]; exact id) (by rw [current]; exact id)
  | accept =>
      cases acted
      exact one.control_keep orderly rfl rfl (by rw [current]; exact id) (by rw [current]; exact id)
  | report | abandon =>
      cases acted
      exact one.control_served orderly (fun _ => id) id
  | check | recover | build =>
      obtain ⟨fs, _, same⟩ := acted
      subst same
      exact one.control_keep orderly rfl rfl (by rw [current]; exact id) (by rw [current]; exact id)
  | @create handshake receiver =>
      obtain ⟨_, same⟩ := acted
      subst same
      have none_ : ∀ other, store.receivers other = none := one.unborn (by rw [current]; trivial)
      have only : ∀ {other state}, Function.update store.receivers receiver
          (some (handshake.receiver config.outputDir config.tempDir)) other = some state →
            other = receiver ∧ state = handshake.receiver config.outputDir config.tempDir := by
        intro other state found
        by_cases same : other = receiver
        · subst same
          rw [Function.update_self] at found
          exact ⟨rfl, (Option.some.inj found).symm⟩
        · rw [Function.update_of_ne same, none_] at found
          cases found
      have unserved : (phase (.control ())).Unserved := by
        rw [current]
        trivial
      constructor
      · exact orderly
      · intro unborn
        rw [Function.update_self] at unborn
        cases unborn
      · intro other other' found found'
        obtain ⟨state, found⟩ := Option.ne_none_iff_exists'.mp found
        obtain ⟨state', found'⟩ := Option.ne_none_iff_exists'.mp found'
        exact (only found).1.trans (only found').1.symm
      · exact fun _ => one.unregistered unserved
      · intro _ task
        rw [Role.update_control_data]
        exact one.idle unserved task
      · intro _ other state found
        rw [(only found).2]
        exact FileReceiver.not_received_new _ _ _ _ _ _ _
  | resume =>
      obtain ⟨_, _, same⟩ := acted
      subst same
      exact one.control_keep orderly rfl rfl nofun (by rw [current]; exact id)
  | look | assemble =>
      obtain ⟨_, _, same⟩ := acted
      subst same
      exact one.control_keep orderly rfl rfl nofun nofun
  | unresumed | resumed | leave | built =>
      exact one.control_served orderly (unlocked _ _ _ rfl acted) id
  | register | remove =>
      cases acted
      exact one.control_served orderly (fun _ => id) id

end OneTransfer

end BeeSync.Server
