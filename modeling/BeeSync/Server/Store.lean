import BeeSync.Server.Data
import BeeSync.Interaction.ThreadPool

/-!
# Receivers and files

The files of a server and its shared receivers, each behind a lock, and what the
operations of control handlers and data server tasks do to them.
-/

set_option autoImplicit false

namespace BeeSync.Server

open Encoding Interaction

structure Store (Owner : Type) where
  fs : Fs FilePath
  receivers : ReceiverId → Option FileReceiver
  /-- Who holds the lock of a receiver. -/
  holder : ReceiverId → Option Owner
  /-- The receivers of the active ports. -/
  registry : UInt16 → Option ReceiverId

namespace Store

variable {Owner : Type}

/-- No receiver exists yet. -/
def initial (fs : Fs FilePath) : Store Owner where
  fs := fs
  receivers := fun _ => none
  holder := fun _ => none
  registry := fun _ => none

def fsSem (faults : Prop) (op : FsOp FilePath) (store : Store Owner) (answer : op.Res)
    (store' : Store Owner) : Prop :=
  ∃ fs, op.Sem faults store.fs answer fs ∧ store' = { store with fs := fs }

/-- The lock is free, and taking it shows the receiver. -/
def lockSem (owner : Owner) (receiver : ReceiverId) (store : Store Owner) (state : FileReceiver)
    (store' : Store Owner) : Prop :=
  store.holder receiver = none ∧ store.receivers receiver = some state ∧
    store' = { store with holder := Function.update store.holder receiver (some owner) }

/-- The receiver as its holder leaves it. -/
def unlockSem (receiver : ReceiverId) (state : FileReceiver) (store store' : Store Owner) : Prop :=
  store' = { store with
    receivers := Function.update store.receivers receiver (some state)
    holder := Function.update store.holder receiver none }

def controlSem (faults : Prop) (owner : Owner) :
    (op : ControlOp) → Store Owner → op.Res → Store Owner → Prop
  | .fs op, store, answer, store' => fsSem faults op store answer store'
  | .newReceiver receiver, store, answer, store' => store.receivers answer = none ∧
      store' = { store with receivers := Function.update store.receivers answer (some receiver) }
  | .lock receiver, store, answer, store' => lockSem owner receiver store answer store'
  | .unlock receiver state, store, _, store' => unlockSem receiver state store store'
  | .registerReceivers ports receiver, store, _, store' => store' = { store with
      registry := fun port => if port ∈ ports then some receiver else store.registry port }
  | .removeReceiver port, store, _, store' =>
      store' = { store with registry := Function.update store.registry port none }
  | _, store, _, store' => store' = store

def dataSem (faults : Prop) (owner : Owner) :
    (op : DataOp) → Store Owner → op.Res → Store Owner → Prop
  | .fs op, store, answer, store' => fsSem faults op store answer store'
  | .getReceiver port, store, answer, store' => answer = store.registry port ∧ store' = store
  | .lock receiver, store, answer, store' => lockSem owner receiver store answer store'
  | .unlock receiver state, store, _, store' => unlockSem receiver state store store'
  | _, store, _, store' => store' = store

variable {faults : Prop} {owner : Owner} {store store' : Store Owner}

theorem controlSem.mono {op : ControlOp} {answer : op.Res}
    (acted : controlSem False owner op store answer store') :
    controlSem faults owner op store answer store' := by
  cases op with
  | fs op =>
      obtain ⟨fs, called, same⟩ := acted
      exact ⟨fs, called.mono False.elim, same⟩
  | _ => exact acted

theorem controlSem.grows {op : ControlOp} {answer : op.Res}
    (acted : controlSem faults owner op store answer store') {receiver : ReceiverId}
    (present : store.receivers receiver ≠ none) : store'.receivers receiver ≠ none := by
  cases op with
  | fs | lock =>
      obtain ⟨_, _, same⟩ := acted
      rw [same]
      exact present
  | newReceiver state =>
      obtain ⟨_, same⟩ := acted
      rw [same]
      by_cases here : receiver = answer
      · simp [here]
      · dsimp only
        rwa [Function.update_of_ne here]
  | unlock other state =>
      cases acted
      by_cases here : receiver = other
      · simp [here]
      · dsimp only
        rwa [Function.update_of_ne here]
  | _ =>
      cases acted
      exact present

theorem dataSem.mono {op : DataOp} {answer : op.Res}
    (acted : dataSem False owner op store answer store') :
    dataSem faults owner op store answer store' := by
  cases op with
  | fs op =>
      obtain ⟨fs, called, same⟩ := acted
      exact ⟨fs, called.mono False.elim, same⟩
  | _ => exact acted

end Store

end BeeSync.Server
