import BeeSync.EndToEnd.Flawless

/-!
# What is sent arrives

A client and a server with nothing in their way, whose calls do not fail: in every
interleaving the workers send every chunk once and as it is, the server acknowledges what it
is sent, and the client ends with success once the file is where it belongs.
-/

set_option autoImplicit false

namespace BeeSync.EndToEnd

open Arithmetic Encoding Interaction Server

section Runs

variable [Blake3] [KeyOrder]

/-- A transfer as it should be, in any state of a run. -/
structure Smooth (scene : Scene) (job : Job) (pool : Pool sig Ctl World) : Prop where
  /-- The workers send queries, and the chunks of the file as they are. -/
  frames : ∀ worker, ∀ frame ∈ (pool.world.net.links worker).up.written,
    frame = [Chunk.queryMagic] ∨ ∃ idx < scene.numChunks, frame = job.frame idx
  /-- A chunk is sent once, -/
  once : ∀ worker, (carried (pool.world.net.links worker).up.written).Nodup
  /-- and by one worker. -/
  alone : ∀ worker other idx, idx ∈ carried (pool.world.net.links worker).up.written →
    idx ∈ carried (pool.world.net.links other).up.written → worker = other
  /-- The answer to a chunk is an acknowledgment. -/
  acknowledged : ∀ worker (k : Nat) request reply,
    (pool.world.net.links worker).up.written[k]? = some request →
      (pool.world.net.links worker).down.written[k]? = some reply →
        request ≠ [Chunk.queryMagic] → reply = [Chunk.ackOk]
  /-- A worker that has ended has no chunk to report. -/
  reports : ∀ worker outcome, pool.world.session.finished worker = some outcome →
    ∃ done, outcome = some ⟨done, []⟩
  /-- When all workers have returned, no chunk is missing. -/
  complete : ∀ next, pool.prog .main = .vis .recvFinal next →
    ∀ idx < scene.numChunks, pool.world.store.Marked idx
  /-- The client ends with success, and only when the file is where it belongs. -/
  delivers : ∀ exitCode, pool.prog .main = .ret exitCode →
    exitCode = 0 ∧ job.Delivered pool.world.store.fs

variable {scene : Scene} {job : Job} {files : Fs FilePath}

omit [KeyOrder] in
/-- A client whose calls do not fail learns the size of its file. -/
theorem measures_of_turn {phase phase' : Phase .main} {op : Client.MainOp} {answer : op.Res}
    {net net' : Net} (turned : Client.MainTurn scene.client phase op answer phase')
    (acted : Net.mainSem scene False op net answer net') : Measures ⟨.main, op, answer⟩ := by
  intro path error same
  cases same
  obtain ⟨⟨_, _, succeeded⟩ | ⟨fails | missing, _⟩, _⟩ := acted
  · cases succeeded
  · exact fails
  · cases turned with
    | measure | unmeasured => cases scene.found.symm.trans missing

theorem Flawless.move {before after : Standing} (clear : scene.Clear job files)
    (concord : Concord scene before)
    (flawless : ∃ dataPorts lifetime, Flawless scene job dataPorts lifetime before.phase before.world)
    (moved : Move (scene.system False) Measures (turn scene) before after) :
    ∃ dataPorts lifetime, Flawless scene job dataPorts lifetime after.phase after.world := by
  have concord' := concord.move clear.served moved
  obtain ⟨dataPorts, lifetime, flawless⟩ := flawless
  cases moved with
  | @act tid op answer phase world turned acted _ =>
      cases tid with
      | main =>
          obtain ⟨dataPorts, flawless⟩ := flawless.main_step clear concord turned acted
          exact ⟨dataPorts, lifetime, flawless⟩
      | worker index =>
          exact ⟨dataPorts, lifetime, flawless.worker_step clear concord concord' turned acted⟩
      | control => exact ⟨dataPorts, flawless.control_step clear concord turned acted⟩
      | data task => exact ⟨dataPorts, flawless.data_step clear concord turned acted⟩

theorem measured {before after : Standing}
    (moved : Move (scene.system False) (fun _ => True) (turn scene) before after) :
    Move (scene.system False) Measures (turn scene) before after := by
  cases moved with
  | @act tid op answer phase world turned acted _ =>
      refine .act turned acted ?_
      cases tid with
      | main =>
          obtain ⟨_, _, _, acted, _⟩ := acted
          exact measures_of_turn turned acted
      | _ => exact .of_ne (by simp)

/-- Whoever starts where nothing is in the way stays there. -/
theorem flawless_of_reaches {pool : Pool sig Ctl World} (clear : scene.Clear job files)
    (reached : Reaches (scene.system False) (fun _ => True) (scene.start files) pool) :
    ∃ phase dataPorts lifetime, Concord scene ⟨phase, pool.world⟩ ∧
      Flawless scene job dataPorts lifetime phase pool.world ∧
        ∀ tid, (pool.prog tid).Follows (turn scene tid) (Ends tid) (phase tid) := by
  obtain ⟨phase, moved, follows⟩ := scene.moves reached
  obtain ⟨concord, dataPorts, lifetime, flawless⟩ := moved.invariant
    (fun stance => Concord scene stance ∧
      ∃ dataPorts lifetime, Flawless scene job dataPorts lifetime stance.phase stance.world)
    ⟨.start scene files, [], _, .start clear⟩
    fun before after holds moved => ⟨holds.1.move clear.served (measured moved),
      Flawless.move clear holds.1 holds.2 (measured moved)⟩
  exact ⟨phase, dataPorts, lifetime, concord, flawless, follows⟩

end Runs

theorem transfer_delivers [Blake3] [KeyOrder] (scene : Scene) (job : Job) (files : Fs FilePath)
    (clear : scene.Clear job files) (pool : Pool sig Ctl World)
    (reached : Reaches (scene.system False) (fun _ => True) (scene.start files) pool) :
    Smooth scene job pool := by
  obtain ⟨phase, dataPorts, lifetime, concord, flawless, follows⟩ := flawless_of_reaches clear reached
  have main := follows .main
  constructor
  · intro worker frame member
    rw [← clear.numChunks]
    exact flawless.honest worker frame member
  · exact flawless.once
  · exact fun worker other idx mine theirs => flawless.alone mine theirs
  · intro worker k request reply asked replied
    exact ((flawless.replying.inStep worker).matched k request reply asked replied).acknowledged
  · exact flawless.staff.outcomes
  · intro next waits
    rw [waits] at main
    obtain ⟨later, turned, _⟩ := main (.error ⟨""⟩)
    have stands := concord.main
    dsimp only at stands
    rw [show phase .main = .confirming from confirming_of_recvFinal turned] at stands
    exact stands
  · intro exitCode returned
    rw [returned] at main
    have ended : phase .main = .ended exitCode := main
    have fine := flawless.main
    rw [ended] at fine
    obtain ⟨success, finished, begun⟩ := fine
    have attends := flawless.alive.control
    rw [show roles phase (.control ()) = .finished from finished, flawless.same] at attends
    exact ⟨success, (attends begun).2⟩

set_option maxRecDepth 8000 in
/-- Nothing is in the way of the sample. -/
theorem sampleScene_clear :
    let _ := Blake3.sample
    ∃ job : Job, sampleScene.Clear job fun _ => none := by
  intro _
  obtain ⟨handshake, parsed, _, _, created⟩ := parseHandshake_sampleHandshake
  have fileSize : handshake.fileSize = 1 := congrArg FileReceiver.fileSize created
  have chunkSize : handshake.chunkSize = 2097152 := congrArg FileReceiver.chunkSize created
  have numChunks : handshake.numChunks = 1 := congrArg FileReceiver.numChunks created
  have fullHash : handshake.fullHash = calcHash [0x61] := congrArg FileReceiver.fullHash created
  let job : Job := {
    config := Control.sampleConfig
    handshake := handshake
    source := [0x61]
    nonempty := Nat.one_pos
    fileSize := fileSize
    numChunks := by
      rw [numChunks, chunkSize]
      rfl
    fullHash := fullHash
    enough := by decide }
  refine ⟨job, sampleScene_served, rfl, rfl, ⟨ascii "f", by decide, parsed⟩, by decide, by decide,
    ⟨dataPorts.take 1, List.take_sublist _ _, fun _ _ => trivial, by decide⟩, ?_⟩
  exact ⟨fun _ => rfl, rfl, rfl⟩

/-- The chunk is acknowledged, the file is assembled, and the client is told of it. -/
theorem transfer_delivers_confirmed :
    let _ := Blake3.sample
    let _ := KeyOrder.increasing
    ∃ (job : Job) (pool : Pool sig Ctl World),
      Reaches (sampleScene.system False) (fun _ => True) (sampleScene.start fun _ => none) pool ∧
        (pool.world.net.links 0).up.written = [[Chunk.queryMagic], sampleFrame] ∧
        (pool.world.net.links 0).down.written = [queryResponse [false], [Chunk.ackOk]] ∧
        pool.prog .main = .ret 0 ∧ Smooth sampleScene job pool := by
  let _ := Blake3.sample
  let _ := KeyOrder.increasing
  obtain ⟨job, clear⟩ := sampleScene_clear
  obtain ⟨untried, first⟩ := dataPorts_first
  have ports : dataPorts = [] ++ 45000 :: 45001 :: untried := first
  obtain ⟨⟨handshake, _, _⟩, session, pool, rfl, rfl, reached, main, control, world⟩ :=
    sample_delivers ports (fun busy => busy rfl) (by decide)
  have reached := reached.mono fun _ _ => trivial
  let state := singleReceiver.recorded singleChunk
  let store := (sampleStore 45000).receive 0 singleReceiver singleChunk
  have ready : store.Ready 0 state := ⟨rfl, rfl⟩
  have assembles : Runs (FsOp.Sem False) (state.assemble 10) store.fs (.ret (.ok true)) _ :=
    Store.runs_assemble rfl Store.receive_partPath Store.receive_metaPath nofun (by decide) rfl
  have reports : Runs (Store.within Store.Filing (Role.control ()))
      ((Control.waitForCompletion sampleScene.server.reads ⟨handshake, 0, [45000]⟩).bind
        Control.closing) store (Control.reporting ⟨handshake, 0, [45000]⟩) _ :=
    Store.runs_reporting ready rfl rfl assembles
  have confirms : Runs (sampleScene.sem False .control)
      ((Control.waitForCompletion sampleScene.server.reads ⟨handshake, 0, [45000]⟩).bind
        Control.closing) ⟨session, store, sampleDelivered 45000⟩ _
      ⟨session, _, (sampleDelivered 45000).inform [Handshake.respOk]⟩ :=
    (runs_filing reports).trans (.vis (.ok ()) ⟨_, _, rfl, ⟨_, .inl ⟨rfl, rfl⟩, rfl⟩, rfl⟩ .refl)
  obtain ⟨pool₁, reached, step₁⟩ := reached.aloneAgain .control control world rfl confirms
  have told : ((sampleDelivered 45000).control.down.write [Handshake.respOk]).next =
      some [Handshake.respOk] := rfl
  obtain ⟨_, left, leaves, rfl, links⟩ :
      Comes (sampleScene.mainMeasured False) _ (Client.Main.leaving Client.Main.confirm)
        ⟨session, _, (sampleDelivered 45000).inform [Handshake.respOk]⟩ := sample_leaves told
  obtain ⟨pool₂, reached, step₂⟩ := reached.alone .main
    ((step₁.others .main (by decide)).trans main) step₁.world
    (leaves.mono fun _ _ _ _ acted => acted.1)
  refine ⟨job, pool₂, reached, ?_, ?_, step₂.prog, transfer_delivers sampleScene job
    (fun _ => none) clear pool₂ reached⟩
  · rw [step₂.world, links]
    rfl
  · rw [step₂.world, links]
    rfl

end BeeSync.EndToEnd
