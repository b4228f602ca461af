import BeeSync.EndToEnd.HandlerAccounts
import BeeSync.EndToEnd.TransferRuns
import BeeSync.Server.ReceiverInvariant

/-!
# Client and server agree on the end of the transfer

Whenever the client waits for the final status, the server has every chunk, however the tasks
of both sides take turns and whatever fails on the way. It takes a client that may use a
connection and a server whose ports can be counted in a byte.
-/

set_option autoImplicit false

namespace BeeSync.EndToEnd

open Arithmetic Encoding Interaction Server

section Concord

variable [Blake3] (scene : Scene)

/-- Both sides are of one mind. -/
structure Concord (stance : Standing) : Prop where
  server : OneTransfer (roles stance.phase) stance.world.store
  ours : ∀ receiver state, stance.world.store.receivers receiver = some state →
    scene.Describes state
  wired : Wired (fun worker => Dialled (stance.phase (.worker worker))) stance.world.net
  replying : Replying (Answered stance.world.store.Marked)
    (fun task => (stance.phase (.data task)).serve) stance.world.net
  truthful : ∀ task, Truthful stance.world.store.Marked scene.numChunks
    (stance.phase (.data task)).serve
  working : Working (Done scene.numChunks stance.world.store.Marked)
    (fun worker => stance.phase (.worker worker)) stance.world.session stance.world.net
  main : MainAt scene stance.world.store.Marked stance.world.session stance.world.net.control
    (stance.phase .main)
  handler : HandleAt scene stance.world.store.Marked stance.world.net.control (stance.phase .control)
  greeted : Greeted scene stance.world.store.Marked stance.world.net.control

end Concord

namespace Concord

variable {scene : Scene} {phase : (tid : Tid) → Phase tid} {world world' : World}

section Updates

variable {Value : Type} (value : Nat → Value)

theorem workers_update (index : Nat) (phase' : Client.WorkerPhase) :
    (fun worker => Function.update phase (.worker index) phase' (.worker worker)) =
      Function.update (fun worker => phase (.worker worker)) index phase' := by
  funext worker
  by_cases same : worker = index
  · subst same
    simp
  · simp [same]

theorem tasks_update (task : Nat) (phase' : TaskPhase) :
    (fun other => (Function.update phase (.data task) phase' (.data other)).serve) =
      Function.update (fun other => (phase (.data other)).serve) task phase'.serve := by
  funext other
  by_cases same : other = task
  · subst same
    simp
  · simp [same]

end Updates

variable [Blake3] {faults : Prop}

theorem ours_of_params {store store' : Store (Role Unit)} {receiver : ReceiverId}
    (same : (store'.receivers receiver).map FileReceiver.params =
      (store.receivers receiver).map FileReceiver.params)
    (ours : ∀ receiver state, store.receivers receiver = some state → scene.Describes state)
    {state : FileReceiver} (found : store'.receivers receiver = some state) :
    scene.Describes state := by
  rw [found, Option.map_some] at same
  obtain ⟨before, found', params⟩ := Option.map_eq_some_iff.mp same.symm
  exact (ours receiver before found').of_params params.symm

theorem start [KeyOrder] (scene : Scene) (files : Fs FilePath) :
    Concord scene ⟨begin, (scene.start files).world⟩ where
  server := roles_begin ▸ .start files
  ours _ _ found := by cases found
  wired := .initial
  replying := .initial
  truthful _ := trivial
  working :=
    { accounts := fun _ _ found => by cases found
      unspawned := fun _ _ => rfl
      unfinished := fun _ _ => rfl
      reports := fun _ _ _ found => by cases found }
  main := ⟨fun _ => rfl, rfl, rfl⟩
  handler := rfl
  greeted :=
    { greets := fun _ member => by cases member
      once := Nat.zero_le 1
      responds := fun _ found => by cases found }

theorem main_step (concord : Concord scene ⟨phase, world⟩) (served : scene.Served)
    {op : Client.MainOp} {answer : op.Res} {phase' : Client.MainPhase}
    (measures : Measures ⟨.main, op, answer⟩)
    (turned : Client.MainTurn scene.client (phase .main) op answer phase')
    (acted : scene.sem faults .main op world answer world') :
    Concord scene ⟨Function.update phase .main phase', world'⟩ := by
  obtain ⟨session, net, talked, moved, same⟩ := acted
  subst same
  obtain ⟨server, ours, wired, replying, truthful, working, main, handler, greeted⟩ := concord
  obtain ⟨main', link, same, down, read, up⟩ :=
    main.turn turned talked moved served measures greeted.responds working
  subst same
  have working' : Working _ _ session (world.net.setControl link) :=
    working.main turned talked main rfl
  constructor
  · rw [roles_main]
    exact server
  · exact ours
  · exact wired.narrow (.of_eq rfl rfl) fun _ => id
  · exact replying.mono (fun _ _ => id) (fun _ => rfl) rfl
  · exact truthful
  · exact working'
  · dsimp only
    rw [Function.update_self]
    exact main'
  · exact handler.mono (fun _ => id) down read
  · obtain same | ⟨_, message, greets, same⟩ := up
    · exact greeted.mono (fun _ => id) same down
    · refine ⟨fun other member => ?_, ?_, fun data found => greeted.responds data (down ▸ found)⟩
      · dsimp only [Net.setControl] at member
        rw [same] at member
        cases List.mem_singleton.mp member
        exact greets
      · dsimp only [Net.setControl]
        rw [same]
        exact le_refl 1

theorem worker_step (concord : Concord scene ⟨phase, world⟩) {index : Nat}
    {op : Client.WorkerOp} {answer : op.Res} {phase' : Client.WorkerPhase}
    (turned : Client.WorkerTurn (phase (.worker index)) op answer phase')
    (acted : scene.sem faults (.worker index) op world answer world') :
    Concord scene ⟨Function.update phase (.worker index) phase', world'⟩ := by
  obtain ⟨session, net, talked, moved, same⟩ := acted
  subst same
  obtain ⟨server, ours, wired, replying, truthful, working, main, handler, greeted⟩ := concord
  obtain ⟨config, found⟩ := working.hires turned talked
  obtain ⟨accounts, goes⟩ := Accounts.turn turned talked moved found (replying.inStep index)
    scene.numChunks_lt (working.accounts index config found)
  have elsewhere : ∀ other, other ≠ index → net.links other = world.net.links other := by
    obtain tells | ⟨port, _, _, same⟩ := goes
    · exact tells.others
    · subst same
      exact fun other different => Function.update_of_ne different _ _
  have control : net.control = world.net.control := by
    obtain tells | ⟨port, _, _, same⟩ := goes
    · exact tells.control
    · subst same
      rfl
  have dialled : ∀ worker, Dialled (phase (.worker worker)) →
      Dialled (Function.update phase (.worker index) phase' (.worker worker)) := by
    intro worker before
    by_cases same : worker = index
    · subst same
      rw [Function.update_self]
      exact before.turn turned
    · rw [Function.update_of_ne (by simpa using same)]
      exact before
  obtain ⟨working', still, ended⟩ := working.worker turned talked rfl elsewhere fun config' found' => by
    cases found.symm.trans found'
    exact accounts
  constructor
  · rw [roles_worker]
    exact server
  · exact ours
  · obtain tells | ⟨port, new, dials, same⟩ := goes
    · exact wired.narrow tells.narrows dialled
    · subst same
      refine wired.connect new dialled ?_ port
      rw [Function.update_self]
      exact dials
  · obtain tells | ⟨port, new, _, same⟩ := goes
    · exact replying.speak tells.others tells.serves tells.speaks
    · subst same
      exact replying.connect (fun task served => new (wired.served task index served)) port
  · exact truthful
  · dsimp only
    rw [workers_update]
    exact working'
  · exact main.mono (fun _ => id) still ended (by rw [control]) (by rw [control])
  · dsimp only
    rw [control]
    exact handler
  · dsimp only
    rw [control]
    exact greeted

theorem data_step (concord : Concord scene ⟨phase, world⟩) {task : Nat}
    {op : DataOp} {answer : op.Res} {phase' : TaskPhase}
    (turned : TaskTurn (phase (.data task)) op answer phase')
    (acted : scene.sem faults (.data task) op world answer world') :
    Concord scene ⟨Function.update phase (.data task) phase', world'⟩ := by
  obtain ⟨store, net, stored, moved, same⟩ := acted
  subst same
  obtain ⟨server, ours, wired, replying, truthful, working, main, handler, greeted⟩ := concord
  obtain ⟨port, turned, _⟩ := turned.serve_turn
  have inner : DataTurn (roles phase (.data task)) op answer phase'.serve.inner := turned.inner
  have more : ∀ idx, world.store.Marked idx → store.Marked idx :=
    fun idx => server.orderly.data_marks inner stored
  have truthful' : Truthful store.Marked scene.numChunks phase'.serve :=
    (truthful task).turn turned stored
      (fun receiver state held => (server.orderly.held (.data task) receiver state held).2)
      (fun receiver state found => (ours receiver state found).numChunks) scene.numChunks_lt more
  have heeds := Heeds.data moved
  constructor
  · rw [roles_data]
    exact server.data inner stored
  · intro receiver state found
    exact ours_of_params (server.orderly.data_params inner stored receiver) ours found
  · exact wired.data moved
  · dsimp only
    rw [tasks_update]
    refine (replying.data_step wired turned moved fun payload frame sends owed => ?_).mono
      (fun _ _ => Answered.mono more) (fun _ => rfl) rfl
    subst sends
    exact (truthful task).answered turned owed
  · intro other
    dsimp only
    by_cases here : other = task
    · subst here
      rw [Function.update_self]
      exact truthful'
    · rw [Function.update_of_ne (by simpa using here)]
      exact (truthful other).mono more
  · exact working.mono (fun idx done inRange => more idx (done inRange)) heeds.asked heeds.heard
  · exact main.mono more rfl (fun _ _ => id) (by rw [heeds.control]) (by rw [heeds.control])
  · dsimp only
    rw [heeds.control]
    exact handler.mono more rfl rfl
  · dsimp only
    rw [heeds.control]
    exact greeted.mono more rfl rfl

theorem control_step [KeyOrder] (concord : Concord scene ⟨phase, world⟩) {op : ControlOp}
    {answer : op.Res} {phase' : HandlePhase}
    (turned : HandleTurn scene.server (phase .control) op answer phase')
    (acted : scene.sem faults .control op world answer world') :
    Concord scene ⟨Function.update phase .control phase', world'⟩ := by
  obtain ⟨store, net, stored, moved, same⟩ := acted
  subst same
  obtain ⟨server, ours, wired, replying, truthful, working, main, handler, greeted⟩ := concord
  have inner : ControlTurn scene.server (roles phase (.control ())) op answer phase'.inner :=
    turned.inner
  have more : ∀ idx, world.store.Marked idx → store.Marked idx :=
    fun idx => server.orderly.control_marks inner stored
  have whole : ∀ handshake receiver, phase' = .confirming handshake receiver →
      ∀ idx < scene.numChunks, store.Marked idx := by
    intro handshake receiver confirming idx inRange
    obtain ⟨state, resume, marked, metadata, before, same, params, counted⟩ :=
      confirming_marked turned confirming
    subst same
    cases stored
    have held : (roles phase (.control ())).holding = some (receiver, state) := by
      rw [roles, before]
      rfl
    have found := (server.orderly.held (.control ()) receiver state held).2
    have numChunks : marked.numChunks = scene.numChunks :=
      (congrArg FileReceiver.Params.numChunks params).trans (ours receiver state found).numChunks
    refine ⟨receiver, _, Function.update_self .., ?_⟩
    exact FileReceiver.isComplete_iff.mp (FileReceiver.isComplete_of_count counted) idx
      (by rw [numChunks]; exact inRange)
  have ours' : ∀ receiver state, store.receivers receiver = some state →
      scene.Describes state := by
    intro receiver state found
    by_cases old : ∀ created, op ≠ .newReceiver created
    · exact ours_of_params (server.orderly.control_params inner stored old receiver) ours found
    · push Not at old
      obtain ⟨created, rfl⟩ := old
      obtain ⟨handshake, before, announced⟩ := created_announced turned
      obtain ⟨_, same⟩ := stored
      subst same announced
      dsimp only at handler found
      by_cases here : receiver = answer
      · subst here
        cases (Function.update_self ..).symm.trans found
        rw [before] at handler
        exact handler.1.describes
      · exact ours receiver state ((Function.update_of_ne here _ _).symm.trans found)
  obtain ⟨handler', minds, greeted'⟩ :=
    (handler.mono more rfl rfl).turn turned moved (greeted.mono more rfl rfl) whole
  constructor
  · rw [roles_control]
    exact server.control inner stored
  · exact ours'
  · exact wired.narrow (.control moved) fun _ => id
  · exact replying.mono (fun _ _ => Answered.mono more) minds.exchange minds.serves
  · exact fun task => (truthful task).mono more
  · refine working.mono (fun idx done inRange => more idx (done inRange)) (fun worker => ?_) fun worker => ?_
    · exact congrArg (fun exchange : Exchange Bytes Bytes => exchange.up.written) (minds.exchange worker)
    · exact congrArg (fun exchange : Exchange Bytes Bytes => exchange.down.read) (minds.exchange worker)
  · exact main.mono more rfl (fun _ _ => id) minds.up minds.down
  · dsimp only
    rw [Function.update_self]
    exact handler'
  · exact greeted'

theorem move [KeyOrder] {before after : Standing} (served : scene.Served)
    (concord : Concord scene before)
    (moved : Move (scene.system faults) Measures (turn scene) before after) :
    Concord scene after := by
  cases moved with
  | @act tid op answer phase world turned acted measures =>
      cases tid with
      | main => exact concord.main_step served measures turned acted
      | worker index => exact concord.worker_step turned acted
      | control => exact concord.control_step turned acted
      | data task => exact concord.data_step turned acted

end Concord

theorem confirming_of_recvFinal [Blake3] {config : Client.ClientConfig}
    {phase phase' : Client.MainPhase} {answer : Except IoError Bytes}
    (turned : Client.MainTurn config phase .recvFinal answer phase') : phase = .confirming := by
  cases turned <;> rfl

/-- Whenever the client waits for the final status, the server has every chunk of its file. -/
theorem client_and_server_agree [Blake3] [KeyOrder] (scene : Scene) (served : scene.Served)
    (faults : Prop) (files : Fs FilePath) (pool : Pool sig Ctl World)
    (reached : Reaches (scene.system faults) Measures (scene.start files) pool)
    (next : Except IoError Bytes → Client.MainProg Nat)
    (waits : pool.prog .main = .vis .recvFinal next) :
    ∃ receiver state, pool.world.store.receivers receiver = some state ∧
      scene.Describes state ∧ state.isComplete = true := by
  obtain ⟨phase, moved, follows⟩ := scene.moves reached
  have concord : Concord scene ⟨phase, pool.world⟩ :=
    moved.invariant (Concord scene) (.start scene files) fun _ _ concord moved =>
      concord.move served moved
  have main := follows .main
  rw [waits] at main
  obtain ⟨later, turned, _⟩ := main (.error ⟨""⟩)
  have whole : ∀ idx < scene.numChunks, pool.world.store.Marked idx := by
    have stands := concord.main
    dsimp only at stands
    rw [show phase .main = .confirming from confirming_of_recvFinal turned] at stands
    exact stands
  have some_ : 0 < scene.numChunks := by
    have ports := served.ports
    by_contra none_
    rw [Nat.eq_zero_of_not_pos none_, Nat.zero_min] at ports
    exact ports rfl
  obtain ⟨receiver, state, found, _⟩ := whole 0 some_
  have describes : scene.Describes state := concord.ours receiver state found
  refine ⟨receiver, state, found, describes, FileReceiver.isComplete_iff.mpr fun idx inRange => ?_⟩
  rw [describes.numChunks] at inRange
  obtain ⟨other, state', found', received⟩ := whole idx inRange
  cases concord.server.sole receiver other (by rw [found]; nofun) (by rw [found']; nofun)
  cases found.symm.trans found'
  exact received

theorem sampleScene_served : sampleScene.Served := ⟨by decide, by decide⟩

/-- A worker delivers the only chunk over the second port, for the first one is in use. -/
theorem client_and_server_agree_delivered :
    let _ := Blake3.sample
    let _ := KeyOrder.increasing
    ∃ pool : Pool sig Ctl World,
      Reaches (sampleScene.system True) Measures (sampleScene.start fun _ => none) pool ∧
        (∃ next, pool.prog .main = .vis .recvFinal next) ∧
        (pool.world.net.links 0).down.written = [queryResponse [false], [Chunk.ackOk]] ∧
        ∃ receiver state, pool.world.store.receivers receiver = some state ∧
          sampleScene.Describes state ∧ state.isComplete = true := by
  let _ := Blake3.sample
  let _ := KeyOrder.increasing
  obtain ⟨untried, ports⟩ := dataPorts_first
  have ports : dataPorts = [45000] ++ 45001 :: untried := ports
  obtain ⟨_, _, pool, _, _, reached, waits, _, world⟩ :=
    sample_delivers ports (fun _ => trivial) (by decide)
  refine ⟨pool, reached, ⟨_, waits⟩, ?_, client_and_server_agree sampleScene sampleScene_served True
    (fun _ => none) pool reached _ waits⟩
  rw [world]
  rfl

end BeeSync.EndToEnd
