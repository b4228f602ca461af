import BeeSync.Interaction.Sequential
import BeeSync.Server.Store

/-!
# Rules for the shared store

What taking and leaving the lock of a receiver and working on the files do for a control
handler that runs alone.
-/

set_option autoImplicit false

namespace BeeSync.Server.Store

open Encoding Interaction

variable {Owner α : Type} {faults : Prop} {owner : Owner} {store : Store Owner}
  {receiver : ReceiverId} {state : FileReceiver} {post : α → Store Owner → Prop}

theorem ensures_lock {next : FileReceiver → ControlProg α} (free : store.holder receiver = none)
    (present : store.receivers receiver = some state)
    (rest : Ensures (controlSem faults owner) (next state) post
      { store with holder := Function.update store.holder receiver (some owner) }) :
    Ensures (controlSem faults owner) ((Control.call (.lock receiver)).bind next) post store := by
  refine ⟨⟨state, _, free, present, rfl⟩, fun answer store' acted => ?_⟩
  obtain ⟨_, present', same⟩ := acted
  cases present.symm.trans present'
  rw [same]
  exact rest

theorem ensures_unlock {next : Unit → ControlProg α}
    (rest : Ensures (controlSem faults owner) (next ()) post
      { store with
        receivers := Function.update store.receivers receiver (some state)
        holder := Function.update store.holder receiver none }) :
    Ensures (controlSem faults owner) ((Control.call (.unlock receiver state)).bind next) post
      store := by
  refine ⟨⟨(), _, rfl⟩, fun _ store' same => ?_⟩
  rw [show store' = _ from same]
  exact rest

theorem ensures_onFs {program : FsProg FilePath α} {mid : α → Fs FilePath → Prop}
    (holds : Ensures (FsOp.Sem faults) program mid store.fs) :
    Ensures (controlSem faults owner) (Control.onFs program)
      (fun value store' => ∃ fs, mid value fs ∧ store' = { store with fs := fs }) store := by
  refine Ensures.embed (fun fs => { store with fs := fs }) ?_ ?_ holds
  · intro op fs answer fs' acted
    exact ⟨answer, _, fs', acted, rfl⟩
  · intro op fs answer store' acted
    exact acted

end BeeSync.Server.Store
