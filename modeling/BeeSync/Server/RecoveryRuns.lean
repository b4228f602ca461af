import BeeSync.Server.PoolRuns
import BeeSync.Server.RecoveryInvariant

/-!
# Runs of a lifetime

What a handler or a data server task does to the store is followed in a lifetime: a chunk
that has not been sent before is received and acknowledged.
-/

set_option autoImplicit false

namespace BeeSync.Server

open Encoding Arithmetic Interaction

/-- Nothing of the transfer has happened yet. -/
structure Lifetime.Blank (lifetime : Lifetime) : Prop where
  sent : lifetime.sent = ∅
  recovered : lifetime.recovered = ∅
  consumed : lifetime.consumed = ∅

/-- What a task that takes a chunk notes. -/
structure Lifetime.Taking (task : Nat) (chunk : ChunkInHand) (stage : ChunkStage)
    (lifetime : Lifetime) : Prop where
  fresh : stage = .looking → chunk.idx ∉ lifetime.sent ∧ chunk.idx ∉ lifetime.recovered
  serving : stage ≠ .looking → lifetime.serving task = some chunk.idx
  unconsumed : chunk.idx ∉ lifetime.consumed
  acked : stage = .acknowledged → chunk.idx ∈ lifetime.acked

theorem Lifetime.Blank.taking {lifetime : Lifetime} (blank : lifetime.Blank) (task : Nat)
    (chunk : ChunkInHand) : Lifetime.Taking task chunk .looking lifetime where
  fresh _ := by simp [blank.sent, blank.recovered]
  serving held := absurd rfl held
  unconsumed := by simp [blank.consumed]
  acked := nofun

theorem Carries.headerIndex [Blake3] {state : FileReceiver} {frame : Bytes} {chunk : ChunkInHand}
    (carries : Carries state frame chunk) : headerIndex frame = some chunk.idx := by
  obtain ⟨header, parsed, index, _⟩ := carries.header
  rw [Server.headerIndex, parsed, ← index]
  rfl

namespace Job

variable [Blake3] {job : Job} {lifetime : Lifetime}

section Handler

variable {data : Bytes} {program rest : ControlProg ControlState} {store : Store (Role Unit)}

theorem Greets.of_hearing (parsed : parseHandshake data = .ok job.handshake) {op : ControlOp}
    {answer : op.Res} (hears : Store.Hearing data op answer) : job.Greets op answer := by
  cases op with
  | recvFrame =>
      obtain rfl : answer = .ok data := hears
      exact parsed
  | _ => trivial

/-- A handler sends no chunk. -/
theorem runs_hearing (parsed : parseHandshake data = .ok job.handshake)
    (ran : Runs (Store.within (Store.Hearing data) (Role.control ())) program lifetime.store rest
      store) :
    ∃ lifetime', Runs (job.acts (.control ())) program lifetime rest lifetime' ∧
      lifetime'.store = store ∧ lifetime'.sent = lifetime.sent := by
  refine Runs.lift Lifetime.store (fun after => after.sent = lifetime.sent) ?_ rfl ran
  intro op world answer after kept acted
  obtain ⟨hears, acted⟩ := acted
  refine ⟨_, ⟨after, acted, .of_hearing parsed hears, rfl⟩, ?_, ?_⟩
  · cases op <;> rfl
  · cases op <;> exact kept

/-- A handler that finds nothing on disk recovers nothing. -/
theorem runs_reading {leaves : FileReceiver → Prop}
    (nothing : ∀ state, leaves state → ∀ idx, ¬ state.Received idx)
    (parsed : parseHandshake data = .ok job.handshake) (blank : lifetime.Blank)
    (ran : Runs (Store.readSem (Role.control ()) data leaves) program lifetime.store rest store) :
    ∃ lifetime', Runs (job.acts (.control ())) program lifetime rest lifetime' ∧
      lifetime'.store = store ∧ lifetime'.Blank := by
  refine Runs.lift Lifetime.store Lifetime.Blank ?_ blank ran
  intro op world answer after blank acted
  obtain ⟨reads, acted⟩ := acted
  refine ⟨_, ⟨after, acted, .of_hearing parsed reads.hearing, rfl⟩, ?_, ?_⟩
  · cases op <;> rfl
  · cases op with
    | fs call =>
        have unremoved : ∀ idx, call ≠ .remove (job.partPath idx) := by
          intro idx removes
          have reads : Store.Reads call := reads
          rw [removes] at reads
          exact reads
        refine ⟨blank.sent, blank.recovered, ?_⟩
        simp [noteControl, blank.consumed, unremoved]
    | unlock receiver state =>
        refine ⟨blank.sent, ?_, blank.consumed⟩
        rw [noteControl, Set.eq_empty_iff_forall_notMem]
        intro idx member
        obtain ⟨earlier, marked⟩ := member
        by_cases run : world.resumed
        · simpa [blank.recovered] using earlier run
        · exact nothing state reads idx (marked run)
    | _ => exact ⟨blank.sent, blank.recovered, blank.consumed⟩

end Handler

section Chunks

variable {task : Nat} {port : UInt16} {receiver : ReceiverId} {state : FileReceiver}
  {frame : Bytes} {chunk : ChunkInHand}

theorem runs_start : Runs (job.acts (.data task)) Data.task lifetime (.ret (.accepting port))
    lifetime :=
  .vis port ⟨_, rfl, trivial, rfl⟩ .refl

theorem runs_connect (registered : lifetime.store.registry port = some receiver) :
    Runs (job.acts (.data task)) (Data.acceptConnection port) lifetime
      (.ret (.connected port receiver)) lifetime :=
  .vis (.ok ()) ⟨_, rfl, trivial, rfl⟩
    (.vis (some receiver) ⟨_, ⟨registered.symm, rfl⟩, trivial, rfl⟩ .refl)

/-- A task can follow what a chunk of the file does to the store if it is the first one with
its index. -/
theorem followsChunk (task : Nat) (receiver : ReceiverId) (carries : Carries state frame chunk)
    (message : job.Message chunk.idx frame) :
    FollowsChunk (job.acts (.data task)) Lifetime.store (.data task) receiver state frame chunk
      (Lifetime.Taking task chunk) := by
  intro stage op answer stage' lifetime after turned taking acted
  have transmits : job.Transmits lifetime op answer := by
    cases turned with
    | hear =>
        obtain ⟨unsent, missing⟩ := taking.fresh rfl
        exact .inr ⟨chunk.idx, { message with unsent := unsent, missing := missing }⟩
    | _ => trivial
  refine ⟨_, ⟨after, acted, transmits, rfl⟩, ?_, ?_⟩
  · cases turned <;> rfl
  · constructor
    case fresh =>
      intro looking
      cases turned with
      | look | leave => exact taking.fresh rfl
      | _ => cases looking
    case serving =>
      intro held
      cases turned with
      | look | leave => exact absurd rfl held
      | hear =>
          rw [← carries.headerIndex]
          exact Function.update_self _ _ _
      | _ => exact taking.serving (by decide)
    case unconsumed =>
      cases turned with
      | create | write | start | fill | rename => exact fun member => taking.unconsumed member.1
      | _ => exact taking.unconsumed
    case acked =>
      intro done
      cases turned with
      | acknowledge => exact .inr ⟨rfl, taking.serving (by decide)⟩
      | _ => cases done

end Chunks

end Job

section Sample

/-- A one-byte file for a server with one directory. -/
theorem exists_singleJob :
    let _ := Blake3.sample
    ∃ job : Job, job.source = [0x61] ∧ job.config = Control.sampleConfig ∧
      parseHandshake Control.sampleHandshake = .ok job.handshake ∧
        job.handshake.numChunks = 1 ∧ job.chunk 0 = [0x61] ∧ job.receiver = singleReceiver := by
  intro _
  obtain ⟨handshake, parsed, _, numChunks, created⟩ := parseHandshake_sampleHandshake
  have chunkSize : handshake.chunkSize = 2097152 := congrArg FileReceiver.chunkSize created
  let job : Job := {
    config := Control.sampleConfig
    handshake := handshake
    source := [0x61]
    nonempty := Nat.one_pos
    fileSize := congrArg FileReceiver.fileSize created
    numChunks := by
      rw [numChunks, chunkSize]
      rfl
    fullHash := congrArg FileReceiver.fullHash created
    enough := by decide }
  have whole : job.chunk 0 = [0x61] := by
    have chunked : job.chunk 0 = slice [0x61] 2097152 0 := congrArg (slice [0x61] · 0) chunkSize
    rw [chunked]
    rfl
  exact ⟨job, rfl, rfl, parsed, numChunks, whole, created⟩

/-- A server receives the only chunk of the file and acknowledges it. -/
theorem reaches_acknowledged :
    let _ := Blake3.sample
    let _ := KeyOrder.increasing
    ∀ job : Job, job.source = [0x61] → job.config = Control.sampleConfig →
      parseHandshake Control.sampleHandshake = .ok job.handshake → job.handshake.numChunks = 1 →
      job.chunk 0 = [0x61] → job.receiver = singleReceiver →
      ∃ pool, Reaches job.system (fun _ => True) (job.start ⟨fun _ => none, ∅, ∅⟩) pool ∧
        0 ∈ pool.world.acked ∧ pool.world.store =
          (((Store.initial fun _ => none).leave 0 job.receiver).enlist 45000 0).receive 0
            job.receiver singleChunk := by
  intro _ _ job source config parsed numChunks whole created
  obtain ⟨untried, ports⟩ := dataPorts_first
  have ports : dataPorts = [] ++ 45000 :: 45001 :: untried := ports
  have begun : Reaches job.system (fun _ => True) (job.start ⟨fun _ => none, ∅, ∅⟩) _ := .refl
  let opened : Lifetime := .initial ⟨fun _ => none, ∅, ∅⟩
  have blank : opened.Blank := ⟨rfl, rfl, rfl⟩
  have unmarked : ∀ idx, ¬ job.receiver.Received idx :=
    FileReceiver.not_received_new _ _ _ _ _ _ _
  have accepts : Runs (Store.readSem (Role.control ()) Control.sampleHandshake
        fun state => ∀ idx, ¬ state.Received idx)
      (Control.task job.config) opened.store (.ret (.waiting ⟨job.handshake, 0, [45000]⟩))
      ((opened.store.leave 0 job.receiver).enlist 45000 0) :=
    Store.runs_handshake_new rfl parsed (by rw [numChunks, config]; rfl) ports rfl rfl rfl rfl
      unmarked (by rw [← Job.receiver, created]; rfl)
  obtain ⟨accepted, runs, stored, blank⟩ := Job.runs_reading (fun _ nothing => nothing) parsed blank
    accepts
  obtain ⟨pool₁, reached, step₁⟩ := begun.alone (.control ()) rfl rfl runs
  -- a task receives the only chunk
  obtain ⟨pool₂, reached, step₂⟩ := reached.alone (.data 0) (step₁.others (.data 0) (by simp))
    step₁.world Job.runs_start
  have registered : accepted.store.registry 45000 = some 0 := by
    rw [stored]
    rfl
  obtain ⟨pool₃, reached, step₃⟩ := reached.aloneAgain (.data 0) step₂.prog step₂.world rfl
    (Job.runs_connect registered)
  have ready : accepted.store.Ready 0 job.receiver := by
    rw [stored]
    exact ⟨rfl, rfl⟩
  have carries : Carries job.receiver (Client.chunkMessage 0 0 [0x61]).flatten singleChunk :=
    carries_singleChunk (congrArg FileReceiver.params created)
  have message : job.Message 0 (Client.chunkMessage 0 0 [0x61]).flatten := by
    refine ⟨by rw [numChunks]; decide, [0x61], ?_, by rw [Nat.zero_mul]⟩
    rw [whole, source, Nat.zero_mul]
    exact ⟨List.prefix_rfl, le_rfl, nofun⟩
  obtain ⟨received, receives, same, took⟩ :=
    (Job.followsChunk 0 0 carries message).receives ready carries rfl (blank.taking 0 singleChunk)
  obtain ⟨pool₄, reached, step₄⟩ := reached.aloneAgain (.data 0) step₃.prog step₃.world rfl receives
  refine ⟨pool₄, reached, ?_, ?_⟩
  · rw [step₄.world]
    exact took.acked rfl
  · rw [step₄.world, same, stored]
    rfl

end Sample

end BeeSync.Server
