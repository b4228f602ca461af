import BeeSync.Server.OneTransfer

/-!
# Which task works for which transfer

A handler works for the receiver that it has created, a data server task for the one that it
has been given with its connection. Handlers of different connections work for different
receivers, of the same name or not.
-/

set_option autoImplicit false

namespace BeeSync.Server

open Encoding Interaction

variable {Handler : Type}

structure Roster (Handler : Type) where
  begun : Handler → Option ReceiverId
  served : Nat → Option ReceiverId

namespace Roster

def initial : Roster Handler where
  begun := fun _ => none
  served := fun _ => none

def noteData (task : Nat) (op : DataOp) (answer : op.Res) (roster : Roster Handler) :
    Roster Handler :=
  match op, answer with
  | .getReceiver _, some receiver =>
    { roster with served := Function.update roster.served task (some receiver) }
  | _, _ => roster

@[simp] theorem noteData_begun (task : Nat) (op : DataOp) (answer : op.Res)
    (roster : Roster Handler) : (roster.noteData task op answer).begun = roster.begun := by
  cases op with
  | getReceiver port => cases answer <;> rfl
  | _ => rfl

theorem noteData_old {task : Nat} {op : DataOp} (answer : op.Res) (roster : Roster Handler)
    (old : ∀ port, op ≠ .getReceiver port) : roster.noteData task op answer = roster := by
  cases op with
  | getReceiver port => exact absurd rfl (old port)
  | _ => rfl

theorem noteData_other {task other : Nat} (different : other ≠ task) (op : DataOp) (answer : op.Res)
    (roster : Roster Handler) :
    (roster.noteData task op answer).served other = roster.served other := by
  cases op with
  | getReceiver port =>
      cases answer with
      | none => rfl
      | some receiver => exact Function.update_of_ne different _ _
  | _ => rfl

variable [DecidableEq Handler]

def noteControl (handler : Handler) (op : ControlOp) (answer : op.Res) (roster : Roster Handler) :
    Roster Handler :=
  match op, answer with
  | .newReceiver _, receiver =>
    { roster with begun := Function.update roster.begun handler (some receiver) }
  | _, _ => roster

theorem noteControl_old {handler : Handler} {op : ControlOp} (answer : op.Res)
    (roster : Roster Handler) (old : ∀ state, op ≠ .newReceiver state) :
    roster.noteControl handler op answer = roster := by
  cases op with
  | newReceiver state => exact absurd rfl (old state)
  | _ => rfl

@[simp] theorem noteControl_served (handler : Handler) (op : ControlOp) (answer : op.Res)
    (roster : Roster Handler) : (roster.noteControl handler op answer).served = roster.served := by
  cases op <;> rfl

theorem noteControl_other {handler other : Handler} (different : other ≠ handler) (op : ControlOp)
    (answer : op.Res) (roster : Roster Handler) :
    (roster.noteControl handler op answer).begun other = roster.begun other := by
  cases op with
  | newReceiver state => exact Function.update_of_ne different _ _
  | _ => rfl

end Roster

section Turns

variable [Blake3] {roster : Roster Handler}

theorem DataTurn.serves {phase phase' : DataPhase} {op : DataOp} {answer : op.Res} {task : Nat}
    (turned : DataTurn phase op answer phase')
    (known : ∀ receiver, phase.receiver = some receiver → roster.served task = some receiver)
    {receiver : ReceiverId} (knows : phase'.receiver = some receiver) :
    (roster.noteData task op answer).served task = some receiver := by
  cases turned with
  | connect =>
      cases knows
      exact Function.update_self _ _ _
  | idle | close => cases knows
  | _ =>
      cases knows
      exact known receiver rfl

theorem ControlTurn.begins [DecidableEq Handler] [KeyOrder] {config : Control.Config} {phase phase' : ControlPhase}
    {op : ControlOp} {answer : op.Res} {handler : Handler}
    (turned : ControlTurn config phase op answer phase')
    (known : ∀ receiver, phase.receiver = some receiver → roster.begun handler = some receiver)
    {receiver : ReceiverId} (knows : phase'.receiver = some receiver) :
    (roster.noteControl handler op answer).begun handler = some receiver := by
  cases turned with
  | create =>
      cases knows
      exact Function.update_self _ _ _
  | quiet _ op quiet =>
      have same : roster.noteControl handler op answer = roster :=
        Roster.noteControl_old answer roster fun state new => by
          rw [new] at quiet
          cases quiet
      rw [same]
      exact known receiver knows
  | answer => exact known receiver knows
  | hear | accept | check | report | abandon | remove => cases knows
  | _ =>
      cases knows
      exact known receiver rfl

theorem ControlTurn.unborn [KeyOrder] {config : Control.Config} {phase phase' : ControlPhase}
    {op : ControlOp} {answer : op.Res} (turned : ControlTurn config phase op answer phase') :
    (phase'.Unborn → phase.Unborn ∧ ∀ state, op ≠ .newReceiver state) ∧
      ∀ state, op = .newReceiver state → phase.Unborn := by
  cases turned with
  | quiet _ op quiet =>
      have old : ∀ state, op ≠ .newReceiver state := by
        intro state new
        rw [new] at quiet
        cases quiet
      exact ⟨fun unborn => ⟨unborn, old⟩, fun state new => absurd new (old state)⟩
  | answer => exact ⟨fun unborn => ⟨unborn, nofun⟩, nofun⟩
  | hear | accept | check => exact ⟨fun _ => ⟨trivial, nofun⟩, nofun⟩
  | create => exact ⟨nofun, fun _ _ => trivial⟩
  | _ => exact ⟨nofun, nofun⟩

end Turns

/-- The roster knows what the phases know, and no two handlers share a receiver. -/
structure Roster.Fits (roster : Roster Handler) (phase : (role : Role Handler) → role.Phase)
    (store : Store (Role Handler)) : Prop where
  orderly : Orderly phase store
  begun : ∀ handler receiver, (phase (.control handler)).receiver = some receiver →
    roster.begun handler = some receiver
  served : ∀ task receiver, (phase (.data task)).receiver = some receiver →
    roster.served task = some receiver
  unborn : ∀ handler, (phase (.control handler)).Unborn → roster.begun handler = none
  distinct : ∀ handler other receiver, roster.begun handler = some receiver →
    roster.begun other = some receiver → handler = other
  present : ∀ handler receiver, roster.begun handler = some receiver →
    store.receivers receiver ≠ none

namespace Roster.Fits

variable {roster : Roster Handler} {phase : (role : Role Handler) → role.Phase}
  {store store' : Store (Role Handler)}

theorem start (fs : Fs FilePath) :
    (Roster.initial : Roster Handler).Fits Role.begin (.initial fs) where
  orderly := .start fs
  begun _ _ known := by cases known
  served _ _ known := by cases known
  unborn _ _ := rfl
  distinct _ _ _ begun := by cases begun
  present _ _ begun := by cases begun

variable [Blake3] [DecidableEq Handler] {faults : Prop}

theorem data (fits : roster.Fits phase store) {task : Nat} {op : DataOp} {answer : op.Res}
    {phase' : DataPhase} (turned : DataTurn (phase (.data task)) op answer phase')
    (acted : Store.dataSem faults (Role.data task) op store answer store') :
    (roster.noteData task op answer).Fits (Function.update phase (.data task) phase') store' := by
  constructor
  · exact fits.orderly.data turned acted
  · intro handler receiver
    rw [Role.update_data_control, Roster.noteData_begun]
    exact fits.begun handler receiver
  · intro other receiver
    by_cases here : other = task
    · subst here
      rw [Function.update_self]
      exact turned.serves (fits.served other)
    · rw [Role.update_data_other here, Roster.noteData_other here]
      exact fits.served other receiver
  · intro handler
    rw [Role.update_data_control, Roster.noteData_begun]
    exact fits.unborn handler
  · rw [Roster.noteData_begun]
    exact fits.distinct
  · intro handler receiver begun gone
    rw [Roster.noteData_begun] at begun
    have same := fits.orderly.data_params turned acted receiver
    rw [gone, Option.map_none, eq_comm, Option.map_eq_none_iff] at same
    exact fits.present handler receiver begun same

theorem control [KeyOrder] (fits : roster.Fits phase store) {config : Control.Config}
    {handler : Handler} {op : ControlOp} {answer : op.Res} {phase' : ControlPhase}
    (turned : ControlTurn config (phase (.control handler)) op answer phase')
    (acted : Store.controlSem faults (Role.control handler) op store answer store') :
    (roster.noteControl handler op answer).Fits
      (Function.update phase (.control handler) phase') store' := by
  have orderly := fits.orderly.control turned acted
  have begins : ∀ other receiver, (Function.update phase (.control handler) phase'
      (.control other)).receiver = some receiver →
        (roster.noteControl handler op answer).begun other = some receiver := by
    intro other receiver
    by_cases here : other = handler
    · subst here
      rw [Function.update_self]
      exact turned.begins (fits.begun other)
    · rw [Role.update_control_other here, Roster.noteControl_other here]
      exact fits.begun other receiver
  have serves : ∀ task receiver, (Function.update phase (.control handler) phase'
      (.data task)).receiver = some receiver →
        (roster.noteControl handler op answer).served task = some receiver := by
    intro task receiver
    rw [Role.update_control_data, Roster.noteControl_served]
    exact fits.served task receiver
  have unborn : ∀ other, (Function.update phase (.control handler) phase' (.control other)).Unborn →
      (roster.noteControl handler op answer).begun other = none := by
    intro other
    by_cases here : other = handler
    · subst here
      rw [Function.update_self]
      intro unborn
      obtain ⟨before, old⟩ := turned.unborn.1 unborn
      rw [Roster.noteControl_old answer roster old]
      exact fits.unborn other before
    · rw [Role.update_control_other here, Roster.noteControl_other here]
      exact fits.unborn other
  by_cases old : ∀ state, op ≠ .newReceiver state
  · refine ⟨orderly, begins, serves, unborn, ?_, ?_⟩
    · rw [Roster.noteControl_old answer roster old]
      exact fits.distinct
    · intro other receiver mine gone
      rw [Roster.noteControl_old answer roster old] at mine
      have same := fits.orderly.control_params turned acted old receiver
      rw [gone, Option.map_none, eq_comm, Option.map_eq_none_iff] at same
      exact fits.present other receiver mine same
  · cases op with
    | newReceiver state =>
        obtain ⟨fresh, same⟩ := acted
        subst same
        -- the new receiver belongs to nobody yet
        have who : ∀ other receiver, Function.update roster.begun handler (some answer) other =
            some receiver → other = handler ∧ receiver = answer ∨
              roster.begun other = some receiver ∧ receiver ≠ answer := by
          intro other receiver mine
          by_cases here : other = handler
          · subst here
            rw [Function.update_self] at mine
            exact .inl ⟨rfl, (Option.some.inj mine).symm⟩
          · rw [Function.update_of_ne here] at mine
            refine .inr ⟨mine, fun new => ?_⟩
            subst new
            exact fits.present other receiver mine fresh
        refine ⟨orderly, begins, serves, unborn, ?_, ?_⟩
        · intro one other receiver mine yours
          obtain ⟨here, new⟩ | ⟨mine, mineOld⟩ := who one receiver mine
          · obtain ⟨there, _⟩ | ⟨_, old⟩ := who other receiver yours
            · rw [here, there]
            · exact absurd new old
          · obtain ⟨_, new⟩ | ⟨yours, _⟩ := who other receiver yours
            · exact absurd new mineOld
            · exact fits.distinct one other receiver mine yours
        · intro other receiver mine
          obtain ⟨_, new⟩ | ⟨mine, different⟩ := who other receiver mine
          · rw [new]
            simp
          · dsimp only
            rw [Function.update_of_ne different]
            exact fits.present other receiver mine
    | _ => exact absurd nofun old

theorem control_stays [KeyOrder] (fits : roster.Fits phase store) {config : Control.Config}
    {handler other : Handler} {op : ControlOp} {answer : op.Res} {phase' : ControlPhase}
    {receiver : ReceiverId}
    (turned : ControlTurn config (phase (.control handler)) op answer phase')
    (mine : roster.begun other = some receiver) :
    (roster.noteControl handler op answer).begun other = some receiver := by
  by_cases here : other = handler
  · subst here
    have old : ∀ state, op ≠ .newReceiver state := by
      intro state new
      have unborn := fits.unborn other (turned.unborn.2 state new)
      cases mine.symm.trans unborn
    rwa [Roster.noteControl_old answer roster old]
  · rwa [Roster.noteControl_other here]

theorem control_new [KeyOrder] {config : Control.Config}
    {handler other : Handler} {op : ControlOp} {answer : op.Res} {phase' : ControlPhase}
    {receiver : ReceiverId}
    (turned : ControlTurn config (phase (.control handler)) op answer phase')
    (acted : Store.controlSem faults (Role.control handler) op store answer store')
    (mine : (roster.noteControl handler op answer).begun other = some receiver) :
    roster.begun other = some receiver ∨ other = handler ∧ store.receivers receiver = none ∧
      (∃ state, op = .newReceiver state) ∧ ∃ handshake, phase' = .created handshake receiver := by
  by_cases here : other = handler
  · subst here
    cases op with
    | newReceiver state =>
        cases (Function.update_self _ _ _).symm.trans mine
        obtain ⟨fresh, _⟩ := acted
        generalize phase (.control other) = before at turned
        cases turned with
        | quiet _ _ quiet => cases quiet
        | create => exact .inr ⟨rfl, fresh, ⟨_, rfl⟩, _, rfl⟩
    | _ => exact .inl mine
  · rw [Roster.noteControl_other here] at mine
    exact .inl mine

end Roster.Fits

end BeeSync.Server
