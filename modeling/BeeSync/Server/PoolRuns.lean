import BeeSync.Server.Hosting
import BeeSync.Server.StoreRuns

/-!
# Runs of a server

How a server goes on when one of its data server tasks takes a connection and a chunk while
all others pause, over any world that can follow what the task does to the store.
-/

set_option autoImplicit false

namespace BeeSync.Server

open Encoding Interaction

variable {Handler World : Type}

/-- What the tasks of data connections do to the store can be followed in a world, and a
property of the world is kept by it. -/
def FollowsData (acts : Acts Handler World) (storeOf : World → Store (Role Handler))
    (kept : World → Prop) : Prop :=
  ∀ (task : Nat) (op : DataOp) (world : World) (answer : op.Res) (store : Store (Role Handler)),
    kept world → Store.dataSem False (Role.data task) op (storeOf world) answer store →
      ∃ world', acts (.data task) op world answer world' ∧ storeOf world' = store ∧ kept world'

section Chunks

variable [DecidableEq Handler] [Blake3] {config : Control.Config}
  {acts : Acts Handler World} {storeOf : World → Store (Role Handler)} {kept : World → Prop}
  {start pool : Pool Role.sig Role.Ctl World} {receiver : ReceiverId}
  {state : FileReceiver} {chunk : ChunkInHand} {frame : Bytes}

omit [DecidableEq Handler] [Blake3] in
theorem FollowsData.runs (follows : FollowsData acts storeOf kept) (task : Nat)
    {program rest : DataProg DataState} {world : World} {store : Store (Role Handler)}
    (holds : kept world)
    (ran : Runs (Store.dataSem False (Role.data task)) program (storeOf world) rest store) :
    ∃ world', Runs (acts (.data task)) program world rest world' ∧ storeOf world' = store ∧
      kept world' :=
  Runs.lift storeOf kept (fun op world answer after holds acted =>
    follows task op world answer after holds acted) holds ran

omit [DecidableEq Handler] in
theorem FollowsData.followsChunk (follows : FollowsData acts storeOf kept) (task : Nat)
    (receiver : ReceiverId) (state : FileReceiver) (frame : Bytes) (chunk : ChunkInHand) :
    FollowsChunk (acts (.data task)) storeOf (.data task) receiver state frame chunk fun _ => kept :=
  fun _ op answer _ world after _ holds acted => follows task op world answer after holds acted

theorem FollowsData.reaches_connected (follows : FollowsData acts storeOf kept) (task : Nat)
    (port : UInt16)
    (reached : Reaches (serverSystem config acts) (fun _ => True) start pool)
    (fresh : pool.prog (.data task) = Data.task) (holds : kept pool.world)
    (registered : (storeOf pool.world).registry port = some receiver) :
    ∃ pool', Reaches (serverSystem config acts) (fun _ => True) start pool' ∧
      pool'.prog (.data task) = .ret (.connected port receiver) ∧
      (∀ other, other ≠ .data task → pool'.prog other = pool.prog other) ∧ kept pool'.world ∧
        storeOf pool'.world = storeOf pool.world := by
  obtain ⟨started, starts, same, holds⟩ := follows.runs task holds (Store.runs_start port)
  obtain ⟨pool₁, reached, step₁⟩ := reached.alone (.data task) fresh rfl starts
  rw [← same] at registered
  obtain ⟨connected, connects, same', holds⟩ := follows.runs task holds
    (Store.runs_connect registered)
  obtain ⟨pool₂, reached, step₂⟩ := reached.aloneAgain (.data task) step₁.prog step₁.world rfl
    connects
  refine ⟨pool₂, reached, step₂.prog, fun other different => ?_, ?_, ?_⟩
  · rw [step₂.others other different, step₁.others other different]
  · rw [step₂.world]
    exact holds
  · rw [step₂.world, same', same]

/-- A task that is connected takes a chunk. -/
theorem FollowsChunk.reaches {task : Nat} {kept : ChunkStage → World → Prop} {port : UInt16}
    (follows : FollowsChunk (acts (.data task)) storeOf (.data task) receiver state frame chunk kept)
    (reached : Reaches (serverSystem config acts) (fun _ => True) start pool)
    (connected : pool.prog (.data task) = .ret (.connected port receiver))
    (ready : (storeOf pool.world).Ready receiver state) (carries : Carries state frame chunk)
    (unfailed : state.failed = false) (holds : kept .looking pool.world) :
    ∃ pool', Reaches (serverSystem config acts) (fun _ => True) start pool' ∧
      pool'.prog (.data task) = .ret (.connected port receiver) ∧
      (∀ other, other ≠ .data task → pool'.prog other = pool.prog other) ∧
      kept .acknowledged pool'.world ∧
        storeOf pool'.world = (storeOf pool.world).receive receiver state chunk := by
  obtain ⟨received, receives, there, holds⟩ := follows.receives ready carries unfailed holds
  obtain ⟨pool', reached, step⟩ := reached.aloneAgain (.data task) connected rfl rfl receives
  refine ⟨pool', reached, step.prog, step.others, ?_, ?_⟩
  · rw [step.world]
    exact holds
  · rw [step.world]
    exact there

/-- A task takes a connection and then its first chunk. -/
theorem FollowsData.reaches_chunk (follows : FollowsData acts storeOf kept) (task : Nat)
    (port : UInt16)
    (reached : Reaches (serverSystem config acts) (fun _ => True) start pool)
    (fresh : pool.prog (.data task) = Data.task) (holds : kept pool.world)
    (registered : (storeOf pool.world).registry port = some receiver)
    (ready : (storeOf pool.world).Ready receiver state) (carries : Carries state frame chunk)
    (unfailed : state.failed = false) :
    ∃ pool', Reaches (serverSystem config acts) (fun _ => True) start pool' ∧
      pool'.prog (.data task) = .ret (.connected port receiver) ∧
      (∀ other, other ≠ .data task → pool'.prog other = pool.prog other) ∧ kept pool'.world ∧
        storeOf pool'.world = (storeOf pool.world).receive receiver state chunk := by
  obtain ⟨pool₁, reached, connected, others, holds, same⟩ :=
    follows.reaches_connected task port reached fresh holds registered
  rw [← same] at ready ⊢
  obtain ⟨pool₂, reached, connected, others', holds, there⟩ :=
    (follows.followsChunk task receiver state frame chunk).reaches reached connected ready carries
      unfailed holds
  refine ⟨pool₂, reached, connected, fun other different => ?_, holds, there⟩
  rw [others' other different, others other different]

end Chunks

end BeeSync.Server
