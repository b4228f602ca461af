import BeeSync.Server.Hosting

/-!
# Marks that stay

A chunk that is marked as received stays marked, whatever the handlers and the data server
tasks do, and a chunk that is recorded is marked.
-/

set_option autoImplicit false

namespace BeeSync.Server

open Encoding Interaction

/-- A chunk is marked as received. -/
def Store.Marked {Owner : Type} (store : Store Owner) (idx : Nat) : Prop :=
  ∃ receiver state, store.receivers receiver = some state ∧ state.Received idx

namespace FileReceiver

theorem received_mark_of {receiver : FileReceiver} {index other : Nat}
    (received : receiver.Received other) : (receiver.mark index).Received other := by
  by_cases same : other = index
  · subst same
    obtain ⟨inside, _⟩ := List.getElem?_eq_some_iff.mp received
    rw [receiver.sized] at inside
    exact received_mark_self inside
  · exact (received_mark_of_ne same).mpr received

theorem received_markAll_of {receiver marked : FileReceiver} {indices : List Nat}
    (all : receiver.markAll indices = some marked) {index : Nat}
    (received : receiver.Received index) : marked.Received index := by
  induction indices generalizing receiver with
  | nil =>
      cases all
      exact received
  | cons idx rest ih =>
      rw [markAll] at all
      split at all
      · exact ih all (received_mark_of received)
      · cases all

end FileReceiver

section Turns

variable [Blake3]

theorem DataTurn.keeps_marks {phase phase' : DataPhase} {receiver : ReceiverId}
    {state' : FileReceiver} {answer : Unit}
    (turned : DataTurn phase (.unlock receiver state') answer phase') :
    ∃ state, phase.holding = some (receiver, state) ∧
      ∀ idx, state.Received idx → state'.Received idx := by
  cases turned with
  | idle _ quiet => cases quiet
  | leave | refuse | accept | placed | failed => exact ⟨_, rfl, fun _ => id⟩
  | recorded | unsaved => exact ⟨_, rfl, fun _ => FileReceiver.received_mark_of⟩

theorem ControlTurn.keeps_marks [KeyOrder] {config : Control.Config} {phase phase' : ControlPhase}
    {receiver : ReceiverId} {state' : FileReceiver} {answer : Unit}
    (turned : ControlTurn config phase (.unlock receiver state') answer phase') :
    ∃ state, phase.holding = some (receiver, state) ∧
      ∀ idx, state.Received idx → state'.Received idx := by
  cases turned with
  | quiet _ _ quiet => cases quiet
  | unresumed | leave | built => exact ⟨_, rfl, fun _ => id⟩
  | resumed _ _ all => exact ⟨_, rfl, fun _ => FileReceiver.received_markAll_of all⟩

end Turns

namespace Orderly

variable {Handler : Type} {phase : (role : Role Handler) → role.Phase}
  {store store' : Store (Role Handler)} {faults : Prop}

private theorem unlock_keeps {receiver : ReceiverId} {state state' : FileReceiver}
    (found : store.receivers receiver = some state)
    (more : ∀ idx, state.Received idx → state'.Received idx)
    (unlocked : Store.unlockSem receiver state' store store') {idx : Nat}
    (marked : store.Marked idx) : store'.Marked idx := by
  cases unlocked
  obtain ⟨other, state'', found', received⟩ := marked
  by_cases same : other = receiver
  · subst same
    cases found.symm.trans found'
    exact ⟨other, state', Function.update_self .., more idx received⟩
  · exact ⟨other, state'', (Function.update_of_ne same _ _).trans found', received⟩

variable [Blake3]

theorem data_marks (orderly : Orderly phase store) {task : Nat} {op : DataOp} {answer : op.Res}
    {phase' : DataPhase} (turned : DataTurn (phase (.data task)) op answer phase')
    (acted : Store.dataSem faults (Role.data task) op store answer store') {idx : Nat}
    (marked : store.Marked idx) : store'.Marked idx := by
  cases op with
  | lock | fs =>
      obtain ⟨_, _, same⟩ := acted
      subst same
      exact marked
  | unlock receiver state' =>
      obtain ⟨state, held, more⟩ := turned.keeps_marks
      exact unlock_keeps (orderly.held (.data task) receiver state held).2 more acted marked
  | getReceiver =>
      rw [acted.2]
      exact marked
  | _ =>
      cases acted
      exact marked

theorem control_marks [KeyOrder] (orderly : Orderly phase store) {handler : Handler}
    {config : Control.Config} {op : ControlOp} {answer : op.Res} {phase' : ControlPhase}
    (turned : ControlTurn config (phase (.control handler)) op answer phase')
    (acted : Store.controlSem faults (Role.control handler) op store answer store') {idx : Nat}
    (marked : store.Marked idx) : store'.Marked idx := by
  cases op with
  | lock | fs =>
      obtain ⟨_, _, same⟩ := acted
      subst same
      exact marked
  | unlock receiver state' =>
      obtain ⟨state, held, more⟩ := turned.keeps_marks
      exact unlock_keeps (orderly.held (.control handler) receiver state held).2 more acted marked
  | newReceiver state =>
      obtain ⟨fresh, same⟩ := acted
      subst same
      obtain ⟨other, state', found, received⟩ := marked
      have different : other ≠ answer := by
        intro here
        subst here
        cases found.symm.trans fresh
      exact ⟨other, state', (Function.update_of_ne different _ _).trans found, received⟩
  | _ =>
      cases acted
      exact marked

end Orderly

end BeeSync.Server
