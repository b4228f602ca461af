import BeeSync.Arithmetic.RoundRobin
import BeeSync.Client.Run

/-!
# The distribution of the chunks

`setup_workers` deals the chunks to at most as many workers as there are data ports, and
`run_workers` gives the workers one port after the other. Without workers the chunks stay
where they are.
-/

set_option autoImplicit false

namespace BeeSync.Client

open Encoding Interaction Arithmetic

theorem workerAssignments_eq {numWorkers : Nat} (some_ : 0 < numWorkers) (numChunks : Nat) :
    workerAssignments numChunks numWorkers = deal numChunks numWorkers := by
  rw [workerAssignments]
  have width : max numWorkers 1 = numWorkers := by omega
  simp only [if_pos some_, width]
  rfl

theorem workerAssignments_zero (numChunks : Nat) : workerAssignments numChunks 0 = [[]] := rfl

namespace Main

variable {config : ClientConfig} {dataPorts : List UInt16}

theorem numWorkers_pos (ports : dataPorts ≠ []) :
    0 < numWorkers config dataPorts ↔ 1 ≤ config.parallel := by
  have length : 0 < dataPorts.length := List.length_pos_iff.mpr ports
  have nonempty : dataPorts.isEmpty = false := by simpa using ports
  simp only [numWorkers, nonempty, Bool.false_eq_true, if_false]
  omega

theorem numWorkers_le (config : ClientConfig) (dataPorts : List UInt16) :
    numWorkers config dataPorts ≤ dataPorts.length := by
  rw [numWorkers]
  split <;> omega

/-- The port a request to start a worker names. -/
def spawnedPort (event : Event MainSig) : Option UInt16 :=
  match event.op with
  | .spawnWorker _ config => some config.port
  | _ => none

def SpawnsNobody : MainOp → Prop
  | .spawnWorker _ _ => False
  | _ => True

theorem joinWorkers_spawns_nobody (handles allFailed : List Nat) :
    (joinWorkers handles allFailed).All SpawnsNobody := by
  induction handles generalizing allFailed with
  | nil => trivial
  | cons worker rest ih =>
      constructor
      · trivial
      · intro answer
        cases answer with
        | none => exact ih _
        | some result => exact ih _

theorem spawnedPort_of_spawnsNobody {events : List (Event MainSig)}
    (nobody : ∀ event ∈ events, SpawnsNobody event.op) : events.filterMap spawnedPort = [] := by
  rw [List.filterMap_eq_nil_iff]
  intro event member
  have quiet := nobody event member
  unfold spawnedPort
  split
  · rename_i spawns
    rw [spawns] at quiet
    exact quiet.elim
  · rfl

/-- The ports of the workers that are started, in the order of the assignments. -/
theorem spawnWorkers_ports {fileSize : Nat} {α : Type} {after : List Nat → MainProg α}
    (quiet : ∀ handles, (after handles).All SpawnsNobody) :
    ∀ {assignments : List (List Nat × Nat)} {handles : List Nat} {events : List (Event MainSig)}
      {rest : MainProg α},
      Prog.Path ((spawnWorkers config dataPorts fileSize assignments handles).bind after)
        events rest →
      (events.filterMap spawnedPort).Sublist
        (assignments.map fun assignment =>
          dataPorts.getD (assignment.2 % dataPorts.length) 0) := by
  intro assignments
  induction assignments with
  | nil =>
      intro handles events rest path
      rw [spawnedPort_of_spawnsNobody (path.all (quiet handles))]
      exact List.nil_sublist _
  | cons assignment assignments ih =>
      intro handles events rest path
      obtain ⟨chunkList, worker⟩ := assignment
      rw [spawnWorkers] at path
      split at path
      · exact (ih path).cons _
      · cases path with
        | nil => exact List.nil_sublist _
        | cons later => exact (ih later).cons_cons _

theorem runWorkers_ports {fileSize : Nat} {assignments : List (List Nat)}
    {events : List (Event MainSig)} {rest : MainProg (List Nat)}
    (path : Prog.Path (runWorkers config assignments dataPorts fileSize) events rest) :
    (events.filterMap spawnedPort).Sublist
      ((List.range assignments.length).map fun worker =>
        dataPorts.getD (worker % dataPorts.length) 0) := by
  have ports := spawnWorkers_ports (fun handles => joinWorkers_spawns_nobody handles []) path
  have positions : assignments.zipIdx.map Prod.snd = List.range assignments.length := by
    rw [List.zipIdx_map_snd, List.range_eq_range']
  rw [← positions, List.map_map]
  exact ports

/-- Different workers have different ports when there are no more workers than ports. -/
theorem nodup_workerPorts {workers : Nat} (distinct : dataPorts.Nodup)
    (enough : workers ≤ dataPorts.length) :
    ((List.range workers).map fun worker =>
      dataPorts.getD (worker % dataPorts.length) 0).Nodup := by
  apply List.Nodup.map_on _ List.nodup_range
  intro worker inRange worker' inRange' same
  have bound : worker < dataPorts.length := (List.mem_range.mp inRange).trans_le enough
  have bound' : worker' < dataPorts.length := (List.mem_range.mp inRange').trans_le enough
  rw [Nat.mod_eq_of_lt bound, Nat.mod_eq_of_lt bound'] at same
  have samePort : dataPorts[worker] = dataPorts[worker'] := by
    simpa [List.getD, List.getElem?_eq_getElem bound, List.getElem?_eq_getElem bound'] using same
  exact (List.Nodup.getElem_inj_iff distinct).mp samePort

/-- The chunks are distributed over the workers, and the workers over the ports. -/
structure Distributes (config : ClientConfig) (numChunks fileSize : Nat)
    (dataPorts : List UInt16) (assignments : List (List Nat)) : Prop where
  everyChunk : assignments.flatten.Perm (List.range numChunks)
  increasing : ∀ chunks ∈ assignments, chunks.Pairwise (· < ·)
  balanced : ∀ chunks ∈ assignments, ∀ chunks' ∈ assignments, chunks.length ≤ chunks'.length + 1
  distinctPorts : ∀ events rest,
    Prog.Path (runWorkers config assignments dataPorts fileSize) events rest →
      (events.filterMap spawnedPort).Nodup

/-- The chunks are distributed just if the client may use a connection. -/
theorem distributes_iff (config : ClientConfig) (numChunks fileSize : Nat)
    (dataPorts : List UInt16) (chunks : 1 ≤ numChunks) (ports : dataPorts ≠ [])
    (distinct : dataPorts.Nodup) :
    Distributes config numChunks fileSize dataPorts
        (workerAssignments numChunks (numWorkers config dataPorts)) ↔
      1 ≤ config.parallel := by
  rw [← numWorkers_pos ports]
  constructor
  · intro distributes
    by_contra none_
    have zero : numWorkers config dataPorts = 0 := by omega
    have everyChunk := distributes.everyChunk.length_eq
    rw [zero, workerAssignments_zero, List.length_range] at everyChunk
    exact absurd everyChunk (by simp; omega)
  · intro some_
    rw [workerAssignments_eq some_]
    constructor
    case everyChunk => exact deal_perm some_ numChunks
    case increasing =>
      intro piled member
      obtain ⟨position, _, rfl⟩ := mem_deal member
      exact pile_increasing ..
    case balanced =>
      intro piled member piled' member'
      obtain ⟨position, inRange, rfl⟩ := mem_deal member
      obtain ⟨position', inRange', rfl⟩ := mem_deal member'
      exact length_pile_le inRange inRange' numChunks
    case distinctPorts =>
      intro events rest path
      have started := runWorkers_ports path
      rw [length_deal] at started
      exact started.nodup (nodup_workerPorts distinct (numWorkers_le config dataPorts))

def sequentialConfig : ClientConfig where
  host := "localhost"
  port := 19999
  filepath := ascii "f"
  chunkSize := 2097152
  parallel := 1
  retries := 1
  chunkSize_pos := by decide

theorem distributes_iff_two_chunks :
    Distributes sequentialConfig 2 4194304 [45000, 45001]
        (workerAssignments 2 (numWorkers sequentialConfig [45000, 45001])) ↔
      1 ≤ sequentialConfig.parallel :=
  distributes_iff sequentialConfig 2 4194304 [45000, 45001] (by decide) (by decide) (by decide)

/-- With `--parallel 0` nobody gets the only chunk. -/
theorem chunk_left_over :
    ¬ ∀ config numChunks fileSize dataPorts, 1 ≤ numChunks → dataPorts ≠ [] → dataPorts.Nodup →
      Distributes config numChunks fileSize dataPorts
        (workerAssignments numChunks (numWorkers config dataPorts)) := by
  intro distributes
  have everyChunk := (distributes { sequentialConfig with parallel := 0 } 1 1 [45000] (by decide)
    (by decide) (by decide)).everyChunk
  exact absurd everyChunk.length_eq (by decide)

end Main

end BeeSync.Client
