import BeeSync.Interaction.Failures
import BeeSync.Server.StoreRuns

/-!
# One frame at a time

A data server task that processes a frame while nobody else is at work: what it does to the
store and to the receiver behind the lock, which call on the files failed first, and what
has been sent.
-/

set_option autoImplicit false

namespace BeeSync.Server

open Encoding Interaction

/-- The store, the first call that failed, and the frames that have been sent. -/
structure Traced (Owner : Type) where
  store : Store Owner
  failed : Option (FsOp FilePath)
  sent : List Bytes

namespace Traced

variable {Owner α : Type}

/-- The same with other files. -/
def refile (world : Traced Owner) (watched : Watched FilePath) : Traced Owner :=
  ⟨world.store.withFs watched.files, watched.failed, world.sent⟩

def sem (owner : Owner) : (op : DataOp) → Traced Owner → op.Res → Traced Owner → Prop
  | .fs op, world, answer, world' => ∃ watched,
      op.Watch ⟨world.store.fs, world.failed⟩ answer watched ∧ world' = world.refile watched
  | .sendFrame payload, world, _, world' =>
      world' = { world with sent := world.sent ++ [payload] }
  | op, world, answer, world' => ∃ store,
      Store.dataSem False owner op world.store answer store ∧ world' = { world with store := store }

variable {owner : Owner} {store : Store Owner} {receiver : ReceiverId} {state : FileReceiver}
  {failed : Option (FsOp FilePath)} {sent : List Bytes} {post : α → Traced Owner → Prop}

theorem ensures_lock {next : FileReceiver → DataProg α} (ready : store.Ready receiver state)
    (rest : Ensures (sem owner) (next state) post ⟨store.hold receiver owner, failed, sent⟩) :
    Ensures (sem owner) ((Data.call (.lock receiver)).bind next) post ⟨store, failed, sent⟩ := by
  refine ⟨⟨state, _, _, ready.locks, rfl⟩, fun answer world' acted => ?_⟩
  obtain ⟨store', ⟨_, found, taken⟩, same⟩ := acted
  cases ready.found.symm.trans found
  rw [same, taken]
  exact rest

theorem ensures_unlock {next : Unit → DataProg α} {state' : FileReceiver}
    (ready : store.Ready receiver state)
    (rest : Ensures (sem owner) (next ()) post ⟨store.leave receiver state', failed, sent⟩) :
    Ensures (sem owner) ((Data.call (.unlock receiver state')).bind next) post
      ⟨store.hold receiver owner, failed, sent⟩ := by
  refine ⟨⟨(), _, _, rfl, rfl⟩, fun _ world' acted => ?_⟩
  obtain ⟨store', left, same⟩ := acted
  have unlocks : Store.unlockSem receiver state' (store.hold receiver owner)
      (store.leave receiver state') := ready.unlocks state'
  rw [same, show store' = _ from left, ← show store.leave receiver state' = _ from unlocks]
  exact rest

theorem ensures_look {next : FileReceiver → DataProg α} (ready : store.Ready receiver state)
    (rest : Ensures (sem owner) (next state) post ⟨store, failed, sent⟩) :
    Ensures (sem owner) ((Data.call (.lock receiver)).bind fun state =>
      (Data.call (.unlock receiver state)).bind fun _ => next state) post
      ⟨store, failed, sent⟩ := by
  apply ensures_lock ready
  apply ensures_unlock ready
  rw [ready.kept]
  exact rest

theorem ensures_sendFrame {payload : Bytes} {next : Except IoError Unit → DataProg α}
    {world : Traced Owner}
    (rest : ∀ answer, Ensures (sem owner) (next answer) post
      { world with sent := world.sent ++ [payload] }) :
    Ensures (sem owner) ((Data.call (.sendFrame payload)).bind next) post world := by
  refine ⟨⟨.ok (), _, rfl⟩, fun answer world' same => ?_⟩
  rw [show world' = _ from same]
  exact rest answer

theorem ensures_onFs {program : FsProg FilePath α} {mid : α → Watched FilePath → Prop}
    {world : Traced Owner}
    (holds : Ensures FsOp.Watch program mid ⟨world.store.fs, world.failed⟩) :
    Ensures (sem owner) (Data.onFs program)
      (fun value world' => ∃ watched, mid value watched ∧ world' = world.refile watched) world := by
  refine Ensures.embed world.refile ?_ ?_ holds
  · intro op watched answer watched' acted
    exact ⟨answer, _, watched', acted, rfl⟩
  · intro op watched answer world' acted
    exact acted

end Traced

end BeeSync.Server
