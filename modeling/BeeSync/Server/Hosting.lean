import BeeSync.Server.ControlPhases
import BeeSync.Server.DataPhases
import BeeSync.Server.Store

/-!
# Handlers and data server tasks over one store

A server is any number of control handlers and data server tasks. What its programs do to
a world is what their phases allow; whoever is in a locked phase holds the lock, and the
receiver is as that phase has seen it.
-/

set_option autoImplicit false

namespace BeeSync.Server

open Encoding Interaction

/-- The tasks of a server. -/
inductive Role (Handler : Type) where
  | control (handler : Handler)
  | data (task : Nat)
  deriving DecidableEq

variable {Handler World : Type}

@[reducible] def Role.sig : Role Handler → Sig
  | .control _ => ControlSig
  | .data _ => DataSig

@[reducible] def Role.Ctl : Role Handler → Type
  | .control _ => ControlState
  | .data _ => DataState

@[reducible] def Role.Phase : Role Handler → Type
  | .control _ => ControlPhase
  | .data _ => DataPhase

section Updates

variable [DecidableEq Handler] {phase : (role : Role Handler) → role.Phase}

@[simp] theorem Role.update_data_control (task : Nat) (phase' : DataPhase) (handler : Handler) :
    Function.update phase (.data task) phase' (.control handler) = phase (.control handler) :=
  Function.update_of_ne (by simp) _ _

@[simp] theorem Role.update_control_data (handler : Handler) (phase' : ControlPhase) (task : Nat) :
    Function.update phase (.control handler) phase' (.data task) = phase (.data task) :=
  Function.update_of_ne (by simp) _ _

theorem Role.update_data_other {task other : Nat} (different : other ≠ task)
    (phase' : DataPhase) :
    Function.update phase (.data task) phase' (.data other) = phase (.data other) :=
  Function.update_of_ne (by simpa using different) _ _

theorem Role.update_control_other {handler other : Handler} (different : other ≠ handler)
    (phase' : ControlPhase) :
    Function.update phase (.control handler) phase' (.control other) = phase (.control other) :=
  Function.update_of_ne (by simpa using different) _ _

end Updates

/-- How an operation of a task acts on a world. -/
abbrev Acts (Handler World : Type) :=
  (role : Role Handler) → (op : role.sig.Op) → World → role.sig.Res op → World → Prop

section Programs

variable [Blake3] [KeyOrder] (config : Control.Config)

/-- A server over a world. -/
def serverSystem (acts : Acts Handler World) :
    System (Role Handler) Role.sig Role.Ctl World where
  sem := acts
  again
    | .control _ => Control.again config
    | .data _ => Data.again

/-- A server that has just been started. -/
def serverStart (world : World) : Pool (@Role.sig Handler) Role.Ctl World where
  prog
    | .control _ => Control.task config
    | .data _ => Data.task
  world := world

def Role.turn : (role : Role Handler) → Turns role.sig role.Phase
  | .control _ => ControlTurn config
  | .data _ => DataTurn

/-- The phase in which a task begins. -/
def Role.begin : (role : Role Handler) → role.Phase
  | .control _ => .starting
  | .data _ => .idle

def Role.Ends : (role : Role Handler) → role.Ctl → role.Phase → Prop
  | .control _ => ControlState.Ends
  | .data _ => DataState.Ends

/-- A server goes on as its phases allow. -/
theorem server_moves_from [DecidableEq Handler] {acts : Acts Handler World}
    {allowed : Label Role.sig → Prop} {pool pool' : Pool Role.sig Role.Ctl World}
    {phase : (role : Role Handler) → role.Phase}
    (reached : Reaches (serverSystem config acts) allowed pool pool')
    (follows : ∀ role, (pool.prog role).Follows (Role.turn config role) role.Ends (phase role)) :
    ∃ phase', Moves (serverSystem config acts) allowed (Role.turn config) ⟨phase, pool.world⟩
        ⟨phase', pool'.world⟩ ∧
      ∀ role, (pool'.prog role).Follows (Role.turn config role) role.Ends (phase' role) := by
  refine reached.moves follows fun role value rest again phase ended => ?_
  cases role with
  | control handler => exact ControlPhase.again_follows again ended
  | data task => exact DataPhase.again_follows again ended

theorem server_moves [DecidableEq Handler] {acts : Acts Handler World} {allowed : Label Role.sig → Prop}
    {world : World} {pool : Pool Role.sig Role.Ctl World}
    (reached : Reaches (serverSystem config acts) allowed (serverStart config world) pool) :
    ∃ phase, Moves (serverSystem config acts) allowed (Role.turn config) ⟨Role.begin, world⟩
        ⟨phase, pool.world⟩ ∧
      ∀ role, (pool.prog role).Follows (Role.turn config role) role.Ends (phase role) := by
  refine server_moves_from config reached fun role => ?_
  cases role with
  | control handler => exact ControlPhase.task_follows
  | data task => exact DataPhase.task_follows

end Programs

/-- The receiver whose lock is held, as it was when it was locked. -/
def DataPhase.holding : DataPhase → Option (ReceiverId × FileReceiver)
  | .looking receiver state | .sizing receiver _ state | .placing receiver _ state
  | .failing receiver state | .recording receiver _ state _ => some (receiver, state)
  | _ => none

def ControlPhase.holding : ControlPhase → Option (ReceiverId × FileReceiver)
  | .resuming _ receiver state _ | .looking _ receiver _ state | .assembling _ receiver state _ =>
      some (receiver, state)
  | _ => none

/-- The receiver that a task knows. -/
def DataPhase.receiver : DataPhase → Option ReceiverId
  | .idle => none
  | .connected receiver | .looking receiver _ | .received receiver _ | .sizing receiver _ _
  | .accepted receiver _ | .placing receiver _ _ | .storing receiver _ _ _ | .failing receiver _
  | .recording receiver _ _ _ | .recorded receiver _ => some receiver

def ControlPhase.receiver : ControlPhase → Option ReceiverId
  | .created _ receiver | .resuming _ receiver _ _ | .serving _ receiver _
  | .looking _ receiver _ _ | .assembling _ receiver _ _ | .reporting _ receiver _ => some receiver
  | _ => none

def Role.holding : (role : Role Handler) → role.Phase → Option (ReceiverId × FileReceiver)
  | .control _ => ControlPhase.holding
  | .data _ => DataPhase.holding

def Role.receiver : (role : Role Handler) → role.Phase → Option ReceiverId
  | .control _ => ControlPhase.receiver
  | .data _ => DataPhase.receiver

/-- How a request of a data server task changes the lock it holds and the receiver it knows. -/
def DataPhase.Shift (phase : DataPhase) : (op : DataOp) → op.Res → DataPhase → Prop
  | .lock receiver, state, phase' =>
      phase'.holding = some (receiver, state) ∧ phase'.receiver = some receiver
  | .unlock receiver state', _, phase' => phase'.holding = none ∧ phase'.receiver = some receiver ∧
      ∃ state, phase.holding = some (receiver, state) ∧ state'.params = state.params
  | .getReceiver _, found, phase' =>
      phase'.holding = none ∧ (phase'.receiver = none ∨ phase'.receiver = found)
  | _, _, phase' => phase'.holding = phase.holding ∧
      (phase'.receiver = none ∨ phase'.receiver = phase.receiver)

def ControlPhase.Shift (phase : ControlPhase) : (op : ControlOp) → op.Res → ControlPhase → Prop
  | .lock receiver, state, phase' =>
      phase'.holding = some (receiver, state) ∧ phase'.receiver = some receiver
  | .unlock receiver state', _, phase' => phase'.holding = none ∧ phase'.receiver = some receiver ∧
      ∃ state, phase.holding = some (receiver, state) ∧ state'.params = state.params
  | .newReceiver _, receiver, phase' => phase'.holding = none ∧ phase'.receiver = some receiver
  | .registerReceivers _ receiver, _, phase' => phase'.holding = phase.holding ∧
      phase'.receiver = some receiver ∧ phase.receiver = some receiver
  | _, _, phase' => phase'.holding = phase.holding ∧
      (phase'.receiver = none ∨ phase'.receiver = phase.receiver)

section Shifts

variable [Blake3]

theorem DataTurn.shift {phase phase' : DataPhase} {op : DataOp} {answer : op.Res}
    (turned : DataTurn phase op answer phase') : phase.Shift op answer phase' := by
  cases turned with
  | idle op quiet answer => cases op <;> first | cases quiet; done | exact ⟨rfl, .inl rfl⟩
  | connect port receiver => exact ⟨rfl, .inr rfl⟩
  | look | size | place | fail | record => exact ⟨rfl, rfl⟩
  | leave | refuse | accept | placed => exact ⟨rfl, rfl, _, rfl, rfl⟩
  | failed => exact ⟨rfl, rfl, _, rfl, FileReceiver.params_setFailed _⟩
  | recorded | unsaved => exact ⟨rfl, rfl, _, rfl, rfl⟩
  | receive | hear | reply | acknowledge | store | save => exact ⟨rfl, .inr rfl⟩
  | close => exact ⟨rfl, .inl rfl⟩

theorem ControlTurn.shift [KeyOrder] {config : Control.Config} {phase phase' : ControlPhase}
    {op : ControlOp} {answer : op.Res} (turned : ControlTurn config phase op answer phase') :
    phase.Shift op answer phase' := by
  cases turned with
  | quiet _ _ quiet => cases op <;> first | cases quiet; done | exact ⟨rfl, .inr rfl⟩
  | answer | hear | check | recover | build | remove => exact ⟨rfl, .inr rfl⟩
  | accept | report | abandon => exact ⟨rfl, .inl rfl⟩
  | create | resume | look | assemble => exact ⟨rfl, rfl⟩
  | register => exact ⟨rfl, rfl, rfl⟩
  | unresumed | leave | built => exact ⟨rfl, rfl, _, rfl, rfl⟩
  | resumed complete ended all whole =>
      refine ⟨rfl, rfl, _, rfl, ?_⟩
      exact (FileReceiver.params_setMetadata _ _).trans (FileReceiver.params_markAll all)

end Shifts

/-- Who is in a locked phase holds the lock of the receiver it has seen; who knows a
receiver knows an existing one. -/
structure Orderly (phase : (role : Role Handler) → role.Phase) (store : Store (Role Handler)) :
    Prop where
  held : ∀ (role : Role Handler) receiver state, role.holding (phase role) = some (receiver, state) →
    store.holder receiver = some role ∧ store.receivers receiver = some state
  known : ∀ (role : Role Handler) receiver, role.receiver (phase role) = some receiver →
    store.receivers receiver ≠ none
  registered : ∀ port receiver, store.registry port = some receiver →
    store.receivers receiver ≠ none
  taken : ∀ receiver, store.holder receiver ≠ none → store.receivers receiver ≠ none

namespace Orderly

variable {phase : (role : Role Handler) → role.Phase} {store store' : Store (Role Handler)}

theorem start (fs : Fs FilePath) : Orderly (@Role.begin Handler) (.initial fs) where
  held role receiver state holds := by cases role <;> cases holds
  known role receiver knows := by cases role <;> cases knows
  registered _ _ found := by cases found
  taken _ holds := absurd rfl holds

variable [DecidableEq Handler] {role : Role Handler} {phase' : role.Phase}

theorem act (orderly : Orderly phase store)
    (others : ∀ receiver, store.holder receiver ≠ none → store.holder receiver ≠ some role →
      store'.holder receiver = store.holder receiver ∧
        store'.receivers receiver = store.receivers receiver)
    (mine : ∀ receiver state, role.holding phase' = some (receiver, state) →
      store'.holder receiver = some role ∧ store'.receivers receiver = some state)
    (exist : ∀ receiver, store.receivers receiver ≠ none → store'.receivers receiver ≠ none)
    (knows : ∀ receiver, role.receiver phase' = some receiver → store'.receivers receiver ≠ none)
    (registered : ∀ port receiver, store'.registry port = some receiver →
      store'.receivers receiver ≠ none)
    (taken : ∀ receiver, store'.holder receiver ≠ none → store'.receivers receiver ≠ none) :
    Orderly (Function.update phase role phase') store' := by
  constructor
  · intro other receiver state holds
    by_cases same : other = role
    · subst same
      rw [Function.update_self] at holds
      exact mine receiver state holds
    · rw [Function.update_of_ne same] at holds
      obtain ⟨holder, found⟩ := orderly.held other receiver state holds
      obtain ⟨holder', found'⟩ := others receiver (by rw [holder]; nofun) (by
        rw [holder]
        exact fun here => same (Option.some.inj here))
      exact ⟨holder'.trans holder, found'.trans found⟩
  · intro other receiver knows'
    by_cases same : other = role
    · subst same
      rw [Function.update_self] at knows'
      exact knows receiver knows'
    · rw [Function.update_of_ne same] at knows'
      exact exist receiver (orderly.known other receiver knows')
  · exact registered
  · exact taken

theorem keep (orderly : Orderly phase store) (receivers : store'.receivers = store.receivers)
    (holder : store'.holder = store.holder) (registry : store'.registry = store.registry)
    (holds : ∀ held, role.holding phase' = some held → role.holding (phase role) = some held)
    (knows : ∀ receiver, role.receiver phase' = some receiver →
      store.receivers receiver ≠ none) :
    Orderly (Function.update phase role phase') store' := by
  refine orderly.act ?_ ?_ ?_ ?_ ?_ ?_
  · exact fun receiver _ _ => ⟨by rw [holder], by rw [receivers]⟩
  · intro receiver state mine
    rw [holder, receivers]
    exact orderly.held role receiver state (holds _ mine)
  · exact fun receiver found => by rw [receivers]; exact found
  · exact fun receiver known => by rw [receivers]; exact knows receiver known
  · intro port receiver found
    rw [registry] at found
    rw [receivers]
    exact orderly.registered port receiver found
  · intro receiver holds
    rw [holder] at holds
    rw [receivers]
    exact orderly.taken receiver holds

theorem lock (orderly : Orderly phase store) {receiver : ReceiverId} {state : FileReceiver}
    (locked : Store.lockSem role receiver store state store')
    (holds : role.holding phase' = some (receiver, state))
    (knows : role.receiver phase' = some receiver) :
    Orderly (Function.update phase role phase') store' := by
  obtain ⟨free, found, same⟩ := locked
  subst same
  refine orderly.act ?_ ?_ (fun _ => id) ?_ orderly.registered ?_
  · intro other taken _
    have different : other ≠ receiver := fun same => taken (same ▸ free)
    exact ⟨Function.update_of_ne different _ _, rfl⟩
  · intro other state' mine
    rw [holds] at mine
    cases mine
    exact ⟨Function.update_self _ _ _, found⟩
  · intro other known
    rw [knows] at known
    cases known
    exact fun none_ => by cases found.symm.trans none_
  · intro other holds
    by_cases same : other = receiver
    · subst same
      exact fun none_ => by cases found.symm.trans none_
    · dsimp only at holds
      rw [Function.update_of_ne same] at holds
      exact orderly.taken other holds

theorem unlock (orderly : Orderly phase store) {receiver : ReceiverId}
    {state state' : FileReceiver} (held : role.holding (phase role) = some (receiver, state))
    (unlocked : Store.unlockSem receiver state' store store') (holds : role.holding phase' = none)
    (knows : ∀ other, role.receiver phase' = some other → other = receiver) :
    Orderly (Function.update phase role phase') store' := by
  cases unlocked
  have mine := (orderly.held role receiver state held).1
  have exist : ∀ other, store.receivers other ≠ none →
      Function.update store.receivers receiver (some state') other ≠ none := by
    intro other found
    by_cases same : other = receiver
    · subst same
      simp
    · rw [Function.update_of_ne same]
      exact found
  refine orderly.act ?_ ?_ exist ?_ ?_ ?_
  · intro other _ different
    have elsewhere : other ≠ receiver := fun same => different (same ▸ mine)
    exact ⟨Function.update_of_ne elsewhere _ _, Function.update_of_ne elsewhere _ _⟩
  · intro other state'' mine'
    rw [holds] at mine'
    cases mine'
  · intro other known
    cases knows other known
    simp
  · exact fun port other found => exist other (orderly.registered port other found)
  · intro other holds
    by_cases same : other = receiver
    · subst same
      simp at holds
    · dsimp only at holds
      rw [Function.update_of_ne same] at holds
      exact exist other (orderly.taken other holds)

theorem create (orderly : Orderly phase store) {receiver : ReceiverId} {state : FileReceiver}
    (fresh : store.receivers receiver = none)
    (same : store' = { store with
      receivers := Function.update store.receivers receiver (some state) })
    (holds : role.holding phase' = none)
    (knows : ∀ other, role.receiver phase' = some other → other = receiver) :
    Orderly (Function.update phase role phase') store' := by
  subst same
  have exist : ∀ other, store.receivers other ≠ none →
      Function.update store.receivers receiver (some state) other ≠ none := by
    intro other found
    by_cases same : other = receiver
    · subst same
      simp
    · rw [Function.update_of_ne same]
      exact found
  refine orderly.act ?_ ?_ exist ?_ ?_ ?_
  · intro other taken _
    have different : other ≠ receiver := fun same => orderly.taken other taken (same ▸ fresh)
    exact ⟨rfl, Function.update_of_ne different _ _⟩
  · intro other state' mine
    rw [holds] at mine
    cases mine
  · intro other known
    cases knows other known
    simp
  · exact fun port other found => exist other (orderly.registered port other found)
  · exact fun other holds => exist other (orderly.taken other holds)

variable [Blake3]

theorem data (orderly : Orderly phase store) {faults : Prop} {task : Nat} {op : DataOp}
    {answer : op.Res} {phase' : DataPhase}
    (turned : DataTurn (phase (.data task)) op answer phase')
    (acted : Store.dataSem faults (Role.data task) op store answer store') :
    Orderly (Function.update phase (.data task) phase') store' := by
  have shift := turned.shift
  have knows : phase'.receiver = none ∨ phase'.receiver = (phase (.data task)).receiver →
      ∀ receiver, phase'.receiver = some receiver → store.receivers receiver ≠ none := by
    intro from_ receiver known
    obtain nothing | same := from_
    · cases nothing.symm.trans known
    · exact orderly.known (.data task) receiver (same.symm.trans known)
  cases op with
  | lock receiver => exact orderly.lock acted shift.1 shift.2
  | unlock receiver state' =>
      obtain ⟨released, knows', state, held, _⟩ := shift
      exact orderly.unlock held acted released fun other known => by
        cases knows'.symm.trans known
        rfl
  | getReceiver port =>
      obtain ⟨found, same⟩ := acted
      subst same
      obtain ⟨released, from_⟩ := shift
      refine orderly.keep rfl rfl rfl (fun held holds => ?_) fun receiver known => ?_
      · cases released.symm.trans holds
      · obtain nothing | here := from_
        · cases nothing.symm.trans known
        · exact orderly.registered port receiver (found.symm.trans (here.symm.trans known))
  | fs op =>
      obtain ⟨fs, _, same⟩ := acted
      subst same
      exact orderly.keep rfl rfl rfl (fun held holds => shift.1.symm.trans holds) (knows shift.2)
  | _ =>
      cases acted
      exact orderly.keep rfl rfl rfl (fun held holds => shift.1.symm.trans holds) (knows shift.2)

theorem control [KeyOrder] (orderly : Orderly phase store) {faults : Prop} {handler : Handler}
    {config : Control.Config} {op : ControlOp} {answer : op.Res} {phase' : ControlPhase}
    (turned : ControlTurn config (phase (.control handler)) op answer phase')
    (acted : Store.controlSem faults (Role.control handler) op store answer store') :
    Orderly (Function.update phase (.control handler) phase') store' := by
  have shift := turned.shift
  have knows : phase'.receiver = none ∨ phase'.receiver = (phase (.control handler)).receiver →
      ∀ receiver, phase'.receiver = some receiver → store.receivers receiver ≠ none := by
    intro from_ receiver known
    obtain nothing | same := from_
    · cases nothing.symm.trans known
    · exact orderly.known (.control handler) receiver (same.symm.trans known)
  cases op with
  | lock receiver => exact orderly.lock acted shift.1 shift.2
  | unlock receiver state' =>
      obtain ⟨released, knows', state, held, _⟩ := shift
      exact orderly.unlock held acted released fun other known => by
        cases knows'.symm.trans known
        rfl
  | newReceiver state =>
      obtain ⟨fresh, same⟩ := acted
      exact orderly.create fresh same shift.1 fun other known => by
        cases shift.2.symm.trans known
        rfl
  | registerReceivers ports receiver =>
      cases acted
      obtain ⟨held, knows', known⟩ := shift
      have here := orderly.known (.control handler) receiver known
      refine orderly.act (fun _ _ _ => ⟨rfl, rfl⟩) (fun other state holds => ?_) (fun _ => id) ?_ ?_
        orderly.taken
      · exact orderly.held (.control handler) other state (held.symm.trans holds)
      · intro other known'
        cases knows'.symm.trans known'
        exact here
      · intro port other found
        dsimp only at found
        split at found
        · cases found
          exact here
        · exact orderly.registered port other found
  | removeReceiver port =>
      cases acted
      refine orderly.act (fun _ _ _ => ⟨rfl, rfl⟩) (fun other state holds => ?_) (fun _ => id)
        (knows shift.2) ?_ orderly.taken
      · exact orderly.held (.control handler) other state (shift.1.symm.trans holds)
      · intro other receiver found
        dsimp only at found
        by_cases same : other = port
        · subst same
          simp at found
        · rw [Function.update_of_ne same] at found
          exact orderly.registered other receiver found
  | fs op =>
      obtain ⟨fs, _, same⟩ := acted
      subst same
      exact orderly.keep rfl rfl rfl (fun held holds => shift.1.symm.trans holds) (knows shift.2)
  | _ =>
      cases acted
      exact orderly.keep rfl rfl rfl (fun held holds => shift.1.symm.trans holds) (knows shift.2)

omit [Blake3] [DecidableEq Handler] in
private theorem params_unlock {receiver : ReceiverId} {state state' : FileReceiver}
    (found : store.receivers receiver = some state) (params : state'.params = state.params)
    (unlocked : Store.unlockSem receiver state' store store') (other : ReceiverId) :
    (store'.receivers other).map FileReceiver.params =
      (store.receivers other).map FileReceiver.params := by
  cases unlocked
  by_cases same : other = receiver
  · subst same
    simp [found, params]
  · dsimp only
    rw [Function.update_of_ne same]

omit [DecidableEq Handler] in
theorem data_params (orderly : Orderly phase store) {faults : Prop} {task : Nat} {op : DataOp}
    {answer : op.Res} {phase' : DataPhase}
    (turned : DataTurn (phase (.data task)) op answer phase')
    (acted : Store.dataSem faults (Role.data task) op store answer store') (receiver : ReceiverId) :
    (store'.receivers receiver).map FileReceiver.params =
      (store.receivers receiver).map FileReceiver.params := by
  have shift := turned.shift
  cases op with
  | lock | fs =>
      obtain ⟨_, _, same⟩ := acted
      subst same
      rfl
  | unlock other state' =>
      obtain ⟨_, _, state, held, params⟩ := shift
      exact params_unlock (orderly.held (.data task) other state held).2 params acted receiver
  | getReceiver =>
      rw [acted.2]
  | _ =>
      cases acted
      rfl

omit [DecidableEq Handler] in
theorem control_params [KeyOrder] (orderly : Orderly phase store) {faults : Prop} {handler : Handler}
    {config : Control.Config} {op : ControlOp} {answer : op.Res} {phase' : ControlPhase}
    (turned : ControlTurn config (phase (.control handler)) op answer phase')
    (acted : Store.controlSem faults (Role.control handler) op store answer store')
    (old : ∀ state, op ≠ .newReceiver state) (receiver : ReceiverId) :
    (store'.receivers receiver).map FileReceiver.params =
      (store.receivers receiver).map FileReceiver.params := by
  have shift := turned.shift
  cases op with
  | lock | fs =>
      obtain ⟨_, _, same⟩ := acted
      subst same
      rfl
  | unlock other state' =>
      obtain ⟨_, _, state, held, params⟩ := shift
      exact params_unlock (orderly.held (.control handler) other state held).2 params acted receiver
  | newReceiver state => exact absurd rfl (old state)
  | _ =>
      cases acted
      rfl

omit [DecidableEq Handler] in
/-- A transfer that exists goes on to exist, whatever a handler does. -/
theorem control_grows [KeyOrder] (orderly : Orderly phase store) {faults : Prop} {handler : Handler}
    {config : Control.Config} {op : ControlOp} {answer : op.Res} {phase' : ControlPhase}
    (turned : ControlTurn config (phase (.control handler)) op answer phase')
    (acted : Store.controlSem faults (Role.control handler) op store answer store')
    {receiver : ReceiverId} {state : FileReceiver}
    (found : store.receivers receiver = some state) :
    ∃ state', store'.receivers receiver = some state' ∧ state'.params = state.params := by
  have same : (∀ state, op ≠ .newReceiver state) → (store'.receivers receiver).map
      FileReceiver.params = (store.receivers receiver).map FileReceiver.params :=
    fun old => orderly.control_params turned acted old receiver
  rw [found, Option.map_some, Option.map_eq_some_iff] at same
  cases op with
  | newReceiver created =>
      obtain ⟨fresh, same⟩ := acted
      subst same
      have different : receiver ≠ answer := by
        intro here
        subst here
        cases found.symm.trans fresh
      exact ⟨state, (Function.update_of_ne different _ _).trans found, rfl⟩
  | _ => exact same nofun

end Orderly

end BeeSync.Server
