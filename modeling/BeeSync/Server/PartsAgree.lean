import BeeSync.Server.Intake
import BeeSync.Server.StoreRuns

/-!
# Parts on disk against the record

A part is written without the lock of its receiver, and its hash is recorded later under
the lock. Two tasks that serve chunks of one index at the same time can therefore leave the
bytes of one and the hash of the other. As long as such chunks have the same bytes, every
marked part is on disk with its recorded hash.
-/

set_option autoImplicit false

namespace BeeSync.Server

open Encoding Interaction

namespace Intake

variable [Blake3] {config : Control.Config} {state : FileReceiver} {frame : Bytes}
  {chunk : ChunkInHand} {before : Intake} {task : Nat}

/-- What a task that takes a chunk leaves alone, and what it notes. -/
structure Beside (task : Nat) (frame : Bytes) (chunk : ChunkInHand) (before : Intake)
    (stage : ChunkStage) (intake : Intake) : Prop where
  others : ∀ other, other ≠ task →
    intake.frame other = before.frame other ∧ intake.writing other = before.writing other
  consumed : intake.consumed ⊆ before.consumed
  frame : stage = .holding → intake.frame task = frame
  mine : ∀ held, intake.writing task = some held → held = chunk
  idle : stage = .recorded ∨ stage = .acknowledged → intake.writing task = none

omit [Blake3] in
theorem Beside.start (idle : before.writing task = none) :
    Beside task frame chunk before .looking before where
  others _ _ := ⟨rfl, rfl⟩
  consumed := subset_rfl
  frame := nofun
  mine held writing := by cases idle.symm.trans writing
  idle := fun other => absurd other (by decide)

/-- A task can take a chunk, and does so apart from the others if these write the same bytes for
it or nothing. -/
theorem followsChunk [KeyOrder] (config : Control.Config) (apart : Prop) (task : Nat)
    (receiver : ReceiverId) (before : Intake) (carries : Carries state frame chunk)
    (clear : apart → ∀ other held, other ≠ task → before.writing other = some held →
      held.idx = chunk.idx → held.data = chunk.data) :
    FollowsChunk (((system config).guardedIf apart Apart).sem (.data task)) Intake.store
      (.data task) receiver state frame chunk (Beside task frame chunk before) := by
  intro stage op answer stage' world store turned beside acted
  have brought : stage = .holding → chunkOf (world.frame task) = some chunk := by
    intro holding
    rw [beside.frame holding]
    exact DataPhase.Tracked.chunkOf_carries carries
  have separate : stage = .holding → apart → world.writing task = none →
      ∀ chunk' other held, chunkOf (world.frame task) = some chunk' →
        world.writing other = some held → held.idx = chunk'.idx → held.data = chunk'.data := by
    intro holding asked idle chunk' other held brings writing
    cases (brought holding).symm.trans brings
    by_cases mine : other = task
    · subst mine
      cases idle.symm.trans writing
    · exact clear asked other held mine ((beside.others other mine).2.symm.trans writing)
  have opens : stage = .holding → ∀ held, Function.update world.writing task
      ((world.writing task).or (chunkOf (world.frame task))) task = some held → held = chunk := by
    intro holding held writing
    rw [Function.update_self, brought holding] at writing
    cases there : world.writing task with
    | none =>
        rw [there] at writing
        exact (Option.some.inj writing).symm
    | some other =>
        rw [there] at writing
        cases writing
        exact beside.mine held there
  refine ⟨{ noteData task op answer world with store := store }, ⟨fun asked => ?_, store, acted, rfl⟩,
    rfl, fun other different => ?_, ?_, ?_, ?_, ?_⟩
  · cases turned with
    | create | start => exact separate rfl asked
    | _ => trivial
  · have kept := noteData_other different op answer world
    have earlier := beside.others other different
    exact ⟨kept.1.trans earlier.1, kept.2.trans earlier.2⟩
  · cases turned with
    | create | start => exact Set.sdiff_subset.trans beside.consumed
    | _ => exact beside.consumed
  · cases turned with
    | hear => exact fun _ => Function.update_self _ _ _
    | lock | unlock | create | write => exact beside.frame
    | _ => exact fun other => nomatch other
  · cases turned with
    | create | start => exact opens rfl
    | leave | unlock | record =>
        intro held writing
        cases (Function.update_self _ _ _).symm.trans writing
    | _ => exact beside.mine
  · cases turned with
    | record => exact fun _ => Function.update_self _ _ _
    | acknowledge => exact fun _ => beside.idle (.inl rfl)
    | _ => exact fun other => absurd other (by decide)

theorem runs_connect [KeyOrder] (apart : Prop) (task : Nat) {port : UInt16} {intake : Intake}
    {receiver : ReceiverId}
    (registered : intake.store.registry port = some receiver) :
    Runs (((system config).guardedIf apart Apart).sem (.data task)) (Data.acceptConnection port)
      intake (.ret (.connected port receiver)) intake :=
  .vis (.ok ()) ⟨fun _ => trivial, _, rfl, rfl⟩
    (.vis (some receiver) ⟨fun _ => trivial, _, ⟨registered.symm, rfl⟩, rfl⟩ .refl)

end Intake

section Sample

/-- The receiver of the sample transfer before anything has arrived. -/
def sampleReceiver : FileReceiver :=
  .new (ascii "f") 2 1 2 (@calcHash .samples [0x61, 0x62]) (ascii "received") (ascii "received")

/-- A first chunk for that transfer. -/
def sampleChunk (byte : UInt8) : ChunkInHand := ⟨0, [byte]⟩

set_option maxRecDepth 8000 in
/-- The handler of the sample transfer up to the ports that it registers. -/
theorem runs_sampleTransfer :
    let _ := Blake3.samples
    let _ := KeyOrder.increasing
    ∃ rest intake, Runs (Intake.acts (.control ())) (Control.task Control.sampleConfig)
      (Intake.initial fun _ => none) rest intake ∧ intake.store.Ready 0 sampleReceiver ∧
        (∀ port ∈ [45000, 45001], intake.store.registry port = some 0) ∧
          (∀ task, intake.writing task = none) ∧ intake.consumed = ∅ := by
  intro _ _
  have ran : Runs (Intake.acts (.control ())) (Control.task Control.sampleConfig)
      (Intake.initial fun _ => none) _ _ :=
    .vis (.ok Control.sampleHandshakes) ⟨_, rfl, rfl⟩
      (.vis (.ok false) ⟨_, ⟨_, ⟨rfl, .inl rfl⟩, rfl⟩, rfl⟩
      (.vis (.ok ()) ⟨_, rfl, rfl⟩
      (.vis 0 ⟨_, ⟨rfl, rfl⟩, rfl⟩
      (.vis sampleReceiver ⟨_, ⟨rfl, rfl, rfl⟩, rfl⟩
      (.vis (.ok false) ⟨_, ⟨_, ⟨rfl, .inl rfl⟩, rfl⟩, rfl⟩
      (.vis () ⟨_, rfl, rfl⟩
      (.vis true ⟨_, rfl, rfl⟩
      (.vis (.ok ()) ⟨_, rfl, rfl⟩
      (.vis (.ok ()) ⟨_, rfl, rfl⟩
      (.vis () ⟨_, rfl, rfl⟩ .refl))))))))))
  exact ⟨_, _, ran, ⟨rfl, rfl⟩, fun port listed => if_pos listed, fun _ => rfl, rfl⟩

theorem carries_sampleChunk (byte : UInt8) {state : FileReceiver}
    (params : state.params = sampleReceiver.params) :
    let _ := Blake3.samples
    Carries state (Client.chunkMessage 0 0 [byte]).flatten (sampleChunk byte) := by
  intro _
  have fileSize : state.fileSize = 2 := congrArg FileReceiver.Params.fileSize params
  have chunkSize : state.chunkSize = 1 := congrArg FileReceiver.Params.chunkSize params
  have numChunks : state.numChunks = 2 := congrArg FileReceiver.Params.numChunks params
  refine carries_chunkMessage (by decide) (by simp) ?_
  rw [fileSize, chunkSize, numChunks]
  rfl

end Sample

/-- In every run in which no two tasks write different bytes for one chunk at the same time,
whatever has been marked is on disk as recorded whenever no chunk is half-processed. -/
theorem parts_agree [Blake3] [KeyOrder] (config : Control.Config) (fs : Fs FilePath)
    {pool : Pool Role.sig Role.Ctl Intake}
    (reached : Reaches ((Intake.system config).guarded Intake.Apart) (fun _ => True)
      (serverStart config (Intake.initial fs)) pool)
    (settled : ∀ task, pool.world.writing task = none) : pool.world.DiskMatches := by
  obtain ⟨phase, moved, _⟩ := server_moves config reached
  have sound : Intake.Sound phase pool.world :=
    moved.invariant (fun stance => Intake.Sound stance.phase stance.world)
      (Intake.Sound.start fs) fun _ _ sound moved => sound.move moved
  exact sound.matches settled

namespace Intake

set_option maxRecDepth 4000 in
/-- One task writes `a` as the first chunk, another one writes and records it with some byte, and
then the first one records `a`. -/
theorem reaches_interleaved (apart : Prop) (byte : UInt8) (same : apart → byte = 0x61) :
    let _ := Blake3.samples
    let _ := KeyOrder.increasing
    ∃ pool, Reaches ((system Control.sampleConfig).guardedIf apart Apart) (fun _ => True)
      (serverStart Control.sampleConfig (initial fun _ => none)) pool ∧
        (∀ task, pool.world.writing task = none) ∧ pool.world.consumed = ∅ ∧
          pool.world.store.receivers 0 =
            some ((sampleReceiver.recorded (sampleChunk byte)).recorded (sampleChunk 0x61)) ∧
            pool.world.store.fs (sampleReceiver.partPath 0) = some [byte] := by
  intro _ _
  let sys := (system Control.sampleConfig).guardedIf apart Apart
  obtain ⟨rest, opened, opens, ready, registered, quiet, unconsumed⟩ := runs_sampleTransfer
  have begun : Reaches sys (fun _ => True)
    (serverStart Control.sampleConfig (initial fun _ => none)) _ := .refl
  have opens' : Runs (sys.sem (.control ())) _ _ rest opened :=
    opens.guarded (fun _ => True) trivial (fun _ _ _ _ _ _ => trivial) fun _ _ _ _ _ => trivial
  obtain ⟨pool₁, reached, step₁⟩ := begun.alone (.control ()) rfl rfl opens'
  have starts : ∀ (task : Nat) (port : UInt16) (world : Intake), Runs (sys.sem (.data task))
      Data.task world (.ret (.accepting port)) world := fun task port world =>
    .vis port ⟨fun _ => trivial, _, rfl, rfl⟩ .refl
  have other : (Role.data 1 : Role Unit) ≠ .data 0 := by simp
  have first : Carries sampleReceiver _ (sampleChunk 0x61) := carries_sampleChunk 0x61 rfl
  have second : Carries sampleReceiver _ (sampleChunk byte) := carries_sampleChunk byte rfl
  have last : Carries (sampleReceiver.recorded (sampleChunk byte)) _ (sampleChunk 0x61) :=
    carries_sampleChunk 0x61 rfl
  -- the first task writes its part and is held up before it records the hash
  have alone : apart → ∀ other held, other ≠ 0 → opened.writing other = some held →
      held.idx = (sampleChunk 0x61).idx → held.data = (sampleChunk 0x61).data := by
    intro _ other held _ writing
    cases (quiet other).symm.trans writing
  have follows := followsChunk Control.sampleConfig apart 0 0 opened first alone
  obtain ⟨stored, stores, put, beside⟩ := follows.stores ready first rfl (.start (quiet 0))
  obtain ⟨pool₂, reached, step₂⟩ := reached.alone (.data 0) (step₁.others (.data 0) (by simp))
    step₁.world (starts 0 45000 opened)
  obtain ⟨pool₃, reached, step₃⟩ := reached.aloneAgain (.data 0) step₂.prog step₂.world rfl
    (runs_connect apart 0 (registered 45000 (by simp)))
  obtain ⟨pool₄, reached, step₄⟩ := reached.aloneAgain (.data 0) step₃.prog step₃.world rfl stores
  have ready : stored.store.Ready 0 sampleReceiver := by
    rw [put]
    exact ⟨ready.free, ready.found⟩
  have registered : stored.store.registry 45001 = some 0 := by
    rw [put]
    exact registered 45001 (by simp)
  -- the second one takes the same chunk
  have agree : apart → ∀ other held, other ≠ 1 → stored.writing other = some held →
      held.idx = (sampleChunk byte).idx → held.data = (sampleChunk byte).data := by
    intro asked other held _ writing _
    by_cases here : other = 0
    · subst here
      rw [beside.mine held writing, same asked]
    · cases (quiet other).symm.trans ((beside.others other here).2.symm.trans writing)
  have follows' := followsChunk Control.sampleConfig apart 1 0 stored second agree
  obtain ⟨taken, takes, put', beside'⟩ := follows'.receives ready second rfl
    (.start ((beside.others 1 (by simp)).2.trans (quiet 1)))
  have fresh : pool₄.prog (.data 1) = Data.task := by
    rw [step₄.others _ other, step₃.others _ other, step₂.others _ other,
      step₁.others _ (by simp)]
    rfl
  obtain ⟨pool₅, reached, step₅⟩ := reached.alone (.data 1) fresh step₄.world (starts 1 45001 stored)
  obtain ⟨pool₆, reached, step₆⟩ := reached.aloneAgain (.data 1) step₅.prog step₅.world rfl
    (runs_connect apart 1 registered)
  obtain ⟨pool₇, reached, step₇⟩ := reached.aloneAgain (.data 1) step₆.prog step₆.world rfl takes
  have ready : taken.store.Ready 0 (sampleReceiver.recorded (sampleChunk byte)) := by
    rw [put']
    exact ⟨ready.free, Store.leave_self⟩
  have content : taken.store.fs (sampleReceiver.partPath 0) = some [byte] := by
    rw [put']
    exact Store.receive_partPath
  -- the first one records its own hash
  have idle : ∀ task, task ≠ 0 → taken.writing task = none := by
    intro task different
    by_cases here : task = 1
    · subst here
      exact beside'.idle (.inr rfl)
    · rw [(beside'.others task here).2, (beside.others task different).2, quiet]
  have mine := beside'.others 0 (by simp)
  have holding : Beside 0 _ (sampleChunk 0x61) taken .holding taken :=
    ⟨fun _ _ => ⟨rfl, rfl⟩, subset_rfl, fun _ => mine.1.trans (beside.frame rfl),
      fun held writing => beside.mine held (mine.2.symm.trans writing), fun other => absurd other (by decide)⟩
  have follows'' := followsChunk Control.sampleConfig apart 0 0 taken last
    fun _ other held different writing => by cases (idle other different).symm.trans writing
  obtain ⟨ended, records, put'', beside''⟩ := follows''.records ready holding
  have held : pool₇.prog (.data 0) = Data.acknowledging 45000 0
      (Data.recording 0 (sampleChunk 0x61)) := by
    rw [step₇.others _ other.symm, step₆.others _ other.symm, step₅.others _ other.symm]
    exact step₄.prog
  obtain ⟨pool₈, reached, step₈⟩ := reached.alone (.data 0) held step₇.world records
  refine ⟨pool₈, reached, fun task => ?_, ?_, ?_, ?_⟩
  · rw [step₈.world]
    by_cases here : task = 0
    · subst here
      exact beside''.idle (.inr rfl)
    · rw [(beside''.others task here).2, idle task here]
  · rw [step₈.world, ← Set.subset_empty_iff, ← unconsumed]
    exact beside''.consumed.trans (beside'.consumed.trans beside.consumed)
  · rw [step₈.world, put'']
    exact Store.leave_self
  · rw [step₈.world, put'']
    exact (Store.save_partPath 0).trans content

end Intake

/-- Two tasks receive the same chunk, the second one while the first has not recorded it. -/
theorem parts_agree_received :
    let _ := Blake3.samples
    let _ := KeyOrder.increasing
    ∃ pool, Reaches ((Intake.system Control.sampleConfig).guarded Intake.Apart) (fun _ => True)
      (serverStart Control.sampleConfig (Intake.initial fun _ => none)) pool ∧
        pool.world.store.receivers 0 =
          some ((sampleReceiver.recorded (sampleChunk 0x61)).recorded (sampleChunk 0x61)) ∧
          pool.world.DiskMatches := by
  intro _ _
  obtain ⟨pool, reached, idle, _, found, _⟩ := Intake.reaches_interleaved True 0x61 fun _ => rfl
  rw [System.guardedIf_of_asked trivial] at reached
  exact ⟨pool, reached, found, parts_agree Control.sampleConfig _ reached idle⟩

/-- One task writes `a` as the first chunk, another one writes and records `b`, and then the
first one records `a`. -/
theorem parts_disagree :
    let _ := Blake3.samples
    let _ := KeyOrder.increasing
    ∃ pool, Reaches (Intake.system Control.sampleConfig) (fun _ => True)
      (serverStart Control.sampleConfig (Intake.initial fun _ => none)) pool ∧
        (∀ task, pool.world.writing task = none) ∧ ¬ pool.world.DiskMatches := by
  intro _ _
  obtain ⟨pool, reached, idle, unconsumed, found, onDisk⟩ :=
    Intake.reaches_interleaved False 0x62 False.elim
  refine ⟨pool, reached.unguarded, idle, fun agree => ?_⟩
  obtain ⟨part, there, hashed⟩ := agree 0 _ found 0 rfl (by rw [unconsumed]; exact id)
  cases onDisk.symm.trans there
  exact absurd hashed (by decide)

end BeeSync.Server
