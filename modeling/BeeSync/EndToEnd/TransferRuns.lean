import BeeSync.Client.Distribution
import BeeSync.EndToEnd.World
import BeeSync.Server.StoreRuns

/-!
# Runs of a transfer

How a client and a server get through a transfer when its own calls succeed: the client
announces the file, the handler opens a port, a worker sends a chunk over it, and the main
task waits for the final status.
-/

set_option autoImplicit false

namespace BeeSync.Client

open Interaction Encoding

namespace Main

/-- What is left of the main task once it has been told the final status. -/
def leaving (program : MainProg Nat) : MainProg Nat :=
  program.bind fun exitCode => (call .closeStream).bind fun _ => .ret exitCode

/-- What is left of the main task once its workers have been spawned. -/
def joining (handles : List Nat) : MainProg Nat :=
  leaving ((joinWorkers handles []).bind fun allFailed =>
    (call .loadShutdown).bind fun
      | true => .ret 0
      | false => if allFailed.isEmpty then confirm else .ret 1)

end Main

namespace Worker

/-- What is left of a worker once its result is known. -/
def leaving (program : WorkerProg (Option WorkerResult)) : WorkerProg Unit :=
  program.bind fun result => (call .closeStream).bind fun _ => call (.finish result)

/-- What is left of `query_received` once the question has been sent. -/
def hearing : WorkerProg (Option (Except IoError (List Nat))) :=
  (call .recvFrame).recover (fun error => .ret (some (.error error))) fun resp =>
    match parseReceived resp with
    | some received => .ret (some (.ok received))
    | none => .ret none

/-- What is left of a worker that has asked the server what it has. -/
def asking [Blake3] (config : WorkerConfig) : WorkerProg Unit :=
  leaving (hearing.bind fun
    | none => .ret none
    | some (.error _) => .ret (some ⟨[], config.chunkIndices⟩)
    | some (.ok already) =>
      (sendChunks config already config.chunkIndices ⟨[], []⟩).bind fun result =>
        .ret (some result))

/-- What is left of the loop once a chunk has been sent. -/
def settling [Blake3] (config : WorkerConfig) (already rest : List Nat) (result : WorkerResult)
    (idx : Nat) : Except SendError Bool → WorkerProg WorkerResult
  | .ok true => sendChunks config already rest { result with okList := result.okList ++ [idx] }
  | .ok false | .error _ => (call .storeShutdown).bind fun _ =>
      sendChunks config already rest { result with failList := result.failList ++ [idx] }

/-- A chunk that the server does not have is sent. -/
theorem sendChunks_missing [Blake3] {config : WorkerConfig} {already rest : List Nat}
    {result : WorkerResult} {idx offset size : Nat} (missing : already.contains idx = false)
    (range : chunkRange config.fileSize config.chunkSize idx = some (offset, size)) :
    sendChunks config already (idx :: rest) result = (call .loadShutdown).bind fun
      | true => .ret result
      | false => (sendChunk config.filepath idx offset size config.retries).bind
          (settling config already rest result idx) := by
  rw [sendChunks, missing, range]
  rfl

end Worker

end BeeSync.Client

namespace BeeSync.EndToEnd

open Arithmetic Encoding Interaction Server

/-- The client that sends the file `a` to a server with one directory. -/
def sampleScene : Scene where
  client := Client.Main.sequentialConfig
  server := Control.sampleConfig
  source := [0x61]
  disk := fun path => if path = ascii "f" then some [0x61] else none
  found := rfl
  sizeFits := by decide
  free := fun _ => True
  reads := 10
  chunkFits := by decide
  nameFits name named := by
    have same : fileName (ascii "f") = some (ascii "f") := by decide
    cases same.symm.trans named
    decide

namespace Net

variable (net : Net) (worker : Nat) (frame : Bytes)

/-- A worker sends a frame. -/
def ask (net : Net) (worker : Nat) (frame : Bytes) : Net :=
  net.setLink worker { net.links worker with up := (net.links worker).up.write frame }

/-- A task receives it. -/
def heed (net : Net) (worker : Nat) : Net :=
  net.setLink worker { net.links worker with up := (net.links worker).up.advance }

/-- A task answers. -/
def reply (net : Net) (worker : Nat) (frame : Bytes) : Net :=
  net.setLink worker { net.links worker with down := (net.links worker).down.write frame }

/-- A worker receives the answer. -/
def hear (net : Net) (worker : Nat) : Net :=
  net.setLink worker { net.links worker with down := (net.links worker).down.advance }

/-- The handler receives what the client has sent to it. -/
def attend (net : Net) : Net :=
  net.setControl { net.control with up := net.control.up.advance }

/-- The handler sends a frame to the client. -/
def inform (net : Net) (frame : Bytes) : Net :=
  net.setControl { net.control with down := net.control.down.write frame }

/-- The client receives what the handler has sent to it. -/
def notice (net : Net) : Net :=
  net.setControl { net.control with down := net.control.down.advance }

/-- A worker closes its end. -/
def quit (net : Net) (worker : Nat) : Net :=
  net.setLink worker { net.links worker with hungUp := true }

/-- The handler has opened a port and told the client of it. -/
def offer (net : Net) (port : UInt16) : Net :=
  { net.inform (handshakeResponse Handshake.respOk [port]) with
    listening := Function.update net.listening port true
    tasks := Function.update net.tasks 0 (some port)
    permits := net.permits - 1 }

end Net

theorem World.eq_mk {world : World} {session : Client.Session} {store : Store (Role Unit)} {net : Net}
    (sessions : world.session = session) (stores : world.store = store) (nets : world.net = net) :
    world = ⟨session, store, net⟩ := by
  cases sessions
  cases stores
  cases nets
  rfl

section Runs

/-- What the main task does while it is told the size of its file. -/
def Scene.mainMeasured (scene : Scene) (faults : Prop) (op : Client.MainOp) (before : World)
    (answer : op.Res) (after : World) : Prop :=
  scene.sem faults .main op before answer after ∧ Measures ⟨.main, op, answer⟩

theorem Measures.of_ne {label : Label sig} (other : label.tid ≠ .main) : Measures label := by
  intro path error same
  exact other (congrArg Label.tid same)

/-- Only the main task asks for the size of the file. -/
theorem runs_measured (scene : Scene) {faults : Prop} {tid : Tid}
    {program rest : Prog (sig tid) (Ctl tid)} {before after : World} (other : tid ≠ .main)
    (ran : Runs (scene.sem faults tid) program before rest after) :
    Runs (fun op before answer after =>
      scene.sem faults tid op before answer after ∧ Measures ⟨tid, op, answer⟩)
      program before rest after :=
  ran.mono fun _ _ _ _ acted => ⟨acted, .of_ne other⟩

variable [Blake3] {scene : Scene} {faults : Prop} {session : Client.Session}
  {store : Store (Role Unit)} {net : Net} {config : Client.WorkerConfig} {index task : Nat}

/-- A worker connects to its port and asks what the server has. -/
theorem runs_asking (spawned : session.spawned index = some config)
    (quiet : session.shutdown = false) (listening : net.listening config.port = true) :
    Runs (scene.sem faults (.worker index)) Client.Worker.task ⟨session, store, net⟩
      (Client.Worker.asking config)
      ⟨session, store, (net.connect index config.port).ask index [Chunk.queryMagic]⟩ := by
  refine .vis config ⟨_, _, ⟨spawned, rfl⟩, rfl, rfl⟩ ?_
  refine .vis false ⟨_, _, ⟨quiet.symm, rfl⟩, rfl, rfl⟩ ?_
  refine .vis (.ok ()) ⟨_, _, rfl, .inl ⟨rfl, listening, rfl⟩, rfl⟩ ?_
  refine .vis (.ok ()) ⟨_, _, rfl, ⟨_, .inl ⟨rfl, rfl⟩, rfl⟩, rfl⟩ ?_
  exact .refl

/-- A worker sends a chunk as it is and waits for the answer. -/
theorem sends_chunk {path content piece : Bytes} {idx offset size retries : Nat}
    (found : scene.disk path = some content) (isPiece : IsPiece content offset size piece)
    (fills : piece.length = min size (content.length - offset)) (quiet : session.shutdown = false) :
    Comes (scene.sem faults (.worker index)) (fun rest after =>
      after = ⟨session, store, net.ask index (Client.chunkMessage idx offset piece).flatten⟩ ∧
        ∃ next : Except IoError Bytes → Client.WorkerProg (Except Client.SendError Bool),
          rest = .vis .recvFrame next ∧ next (.ok [Chunk.ackOk]) = .ret (.ok true))
      (Client.Worker.sendChunk path idx offset size (retries + 1)) ⟨session, store, net⟩ := by
  have present : (scene.disk path).isSome = true := by
    rw [found]
    rfl
  have reads : IsPiece ((scene.disk path).getD []) offset size piece := by
    rw [found]
    exact isPiece
  have filled : Net.Fills scene (.readAt path offset size) (.ok piece) := by
    rw [Net.Fills, found]
    exact fills
  refine .vis (.ok ()) ⟨_, _, rfl, ⟨⟨⟨rfl, .inl ⟨present, rfl⟩⟩, .inr trivial⟩, rfl⟩, rfl⟩ ?_
  refine .vis (.ok piece) ⟨_, _, rfl, ⟨⟨⟨rfl, .inl ⟨_, rfl, reads⟩⟩, .inr filled⟩, rfl⟩, rfl⟩ ?_
  refine .vis (.ok ()) ⟨_, _, rfl, ⟨_, .inl ⟨rfl, rfl⟩, rfl⟩, rfl⟩ ?_
  refine .vis false ⟨_, _, ⟨quiet.symm, rfl⟩, rfl, rfl⟩ ?_
  exact .here ⟨rfl, _, rfl, rfl⟩

/-- A worker has been told what the server has. -/
theorem runs_told {data : Bytes} {already : List Nat}
    (told : (net.links index).down.next = some data) (short : data.length ≤ Frame.maxPayload)
    (parsed : Client.parseReceived data = some already) :
    Runs (scene.sem faults (.worker index)) (Client.Worker.asking config) ⟨session, store, net⟩
      (Client.Worker.leaving
        ((Client.Worker.sendChunks config already config.chunkIndices ⟨[], []⟩).bind fun result =>
          .ret (some result)))
      ⟨session, store, net.hear index⟩ := by
  refine .vis (.ok data) ⟨_, _, rfl, ⟨_, .inl ⟨_, told, short, rfl, rfl⟩, rfl⟩, rfl⟩ ?_
  simp only [Prog.ret_bind, parsed]
  exact .refl

omit [Blake3] in
theorem runs_start {port : UInt16} (spawned : net.tasks task = some port) :
    Runs (scene.sem faults (.data task)) Data.task ⟨session, store, net⟩ (.ret (.accepting port))
      ⟨session, store, net⟩ :=
  .vis port ⟨_, _, rfl, ⟨spawned, rfl⟩, rfl⟩ .refl

omit [Blake3] in
/-- A task accepts the connection of a worker. -/
theorem runs_accept {port : UInt16} {worker : Nat} {others : List Nat} {receiver : ReceiverId}
    (spawned : net.tasks task = some port) (waiting : net.backlog port = worker :: others)
    (registered : store.registry port = some receiver) :
    Runs (scene.sem faults (.data task)) (Data.acceptConnection port) ⟨session, store, net⟩
      (.ret (.connected port receiver)) ⟨session, store, net.accept task port worker others⟩ := by
  refine .vis (.ok ()) ⟨_, _, rfl, .inl ⟨rfl, port, worker, others, spawned, waiting, rfl⟩, rfl⟩ ?_
  exact .vis (some receiver) ⟨_, _, ⟨registered.symm, rfl⟩, rfl, rfl⟩ .refl

/-- A task tells a worker which chunks have been received. -/
theorem runs_query {port : UInt16} {worker : Nat} {receiver : ReceiverId} {state : FileReceiver}
    (serves : net.serves task = some worker) (asked : (net.links worker).up.next = some [Chunk.queryMagic])
    (ready : store.Ready receiver state) (unfailed : state.failed = false) :
    Runs (scene.sem faults (.data task)) (Data.serveFrame port receiver) ⟨session, store, net⟩
      (.ret (.connected port receiver))
      ⟨session, store, (net.heed worker).reply worker (queryResponse state.receivedChunks)⟩ := by
  refine .vis state ⟨_, _, ready.locks, rfl, rfl⟩ ?_
  refine .vis () ⟨_, _, ready.releases, rfl, rfl⟩ ?_
  simp only [Prog.ret_bind, unfailed]
  refine .vis (.ok [Chunk.queryMagic])
    ⟨_, _, rfl, ⟨worker, _, serves, .inl ⟨_, asked, by decide, rfl, rfl⟩, rfl⟩, rfl⟩ ?_
  refine .vis state ⟨_, _, ready.locks, rfl, rfl⟩ ?_
  refine .vis () ⟨_, _, ready.releases, rfl, rfl⟩ ?_
  exact .vis (.ok ()) ⟨_, _, rfl, ⟨worker, _, serves, .inl ⟨rfl, rfl⟩, rfl⟩, rfl⟩ .refl

omit [Blake3] in
/-- A port that is already in use is no failure of the handler. -/
theorem runs_bindNext {refused rest : List UInt16} {port : UInt16} (busy : refused ≠ [] → faults)
    (free : scene.free port) (closed : net.listening port = false) :
    Runs (scene.sem faults .control) (Control.bindNext (refused ++ port :: rest))
      ⟨session, store, net⟩ (.ret (some port, rest))
      ⟨session, store, { net with listening := Function.update net.listening port true }⟩ := by
  induction refused with
  | nil => exact .vis (.ok ()) ⟨_, _, rfl, .inl ⟨rfl, free, closed, rfl⟩, rfl⟩ .refl
  | cons other refused ih =>
      have fails := busy nofun
      exact .vis (.error ⟨"address in use"⟩) ⟨_, _, rfl, .inr ⟨.inl fails, ⟨_, rfl⟩, rfl⟩, rfl⟩
        (ih fun _ => fails)

/-- The handler opens the only port that it needs. -/
theorem runs_transferChunks {handshake : HandshakeData} {receiver : ReceiverId}
    {refused untried : List UInt16} {port : UInt16}
    (one : min handshake.numChunks scene.server.maxParallel = 1)
    (ports : dataPorts = refused ++ port :: untried) (busy : refused ≠ [] → faults)
    (free : scene.free port) (closed : net.listening port = false) (permits : 1 ≤ net.permits)
    (idle : net.tasks 0 = none) :
    Runs (scene.sem faults .control) (Control.transferChunks scene.server handshake receiver)
      ⟨session, store, net⟩
      (Control.waitForCompletion scene.server.reads ⟨handshake, receiver, [port]⟩)
      ⟨session, store.enlist port receiver, net.offer port⟩ := by
  let opened : Net :=
    { net with listening := Function.update net.listening port true, permits := net.permits - 1 }
  have found : Runs (scene.sem faults .control) (Control.bindNext (refused ++ port :: untried))
      ⟨session, store, { net with permits := net.permits - 1 }⟩ (.ret (some port, untried))
      ⟨session, store, opened⟩ := runs_bindNext busy free closed
  have bound : Runs (scene.sem faults .control)
      (Control.bindLoop 1 (refused ++ port :: untried) [])
      ⟨session, store, { net with permits := net.permits - 1 }⟩ (.ret [port])
      ⟨session, store, opened⟩ := found.bind .refl
  have allocated : Runs (scene.sem faults .control)
      (Control.allocateSockets handshake.numChunks scene.server.maxParallel) ⟨session, store, net⟩
      (.ret (.ok [port])) ⟨session, store, opened⟩ := by
    rw [Control.allocateSockets, one, ports]
    exact .vis true ⟨_, _, rfl, .inl ⟨rfl, permits, rfl⟩, rfl⟩ (bound.bind .refl)
  refine allocated.bind ?_
  refine .vis () ⟨_, _, rfl, rfl, rfl⟩ ?_
  refine .vis (.ok ()) ⟨_, _, rfl, ⟨_, .inl ⟨rfl, rfl⟩, rfl⟩, rfl⟩ ?_
  exact .vis () ⟨_, _, rfl, ⟨0, idle, rfl⟩, rfl⟩ .refl

/-- A handler whose transfer has to go on waits. -/
theorem runs_wait {transfer : Transfer} {state : FileReceiver}
    (ready : store.Ready transfer.receiver state) (incomplete : state.isComplete = false)
    (unfailed : state.failed = false) :
    Runs (scene.sem faults .control) (Control.waitForCompletion scene.server.reads transfer)
      ⟨session, store, net⟩ (.ret (.waiting transfer)) ⟨session, store, net⟩ := by
  refine .vis state ⟨_, _, ready.locks, rfl, rfl⟩ (.vis () ⟨_, _, ready.releases, rfl, rfl⟩ ?_)
  simp only [Prog.ret_bind, incomplete, unfailed]
  exact .vis .idle ⟨_, _, rfl, rfl, rfl⟩ .refl

/-- The handler accepts a file that it does not have. -/
theorem runs_handleControlConnection [KeyOrder] {data : Bytes} {handshake : HandshakeData}
    (hailed : net.control.up.next = some data) (short : data.length ≤ Frame.maxPayload)
    (something : data.isEmpty = false) (parsed : parseHandshake data = .ok handshake)
    (absent : store.fs ⟨scene.server.outputDir, handshake.safeName⟩ = none) :
    Runs (scene.sem faults .control) (Control.handleControlConnection scene.server)
      ⟨session, store, net⟩ (Control.receiveFile scene.server handshake)
      ⟨session, store, net.attend⟩ := by
  have unknown : Runs (scene.sem faults .control) (Control.onFs (Control.checkExistingFile
      scene.server.reads scene.server.outputDir handshake.safeName handshake.fullHash))
      ⟨session, store, net.attend⟩ (.ret (.ok false)) ⟨session, store, net.attend⟩ := by
    refine .vis (.ok false) ⟨_, _, ⟨_, ⟨rfl, .inl ?_⟩, rfl⟩, rfl, rfl⟩ .refl
    rw [absent]
    rfl
  refine .vis (.ok data) ⟨_, _, rfl, ⟨_, .inl ⟨_, hailed, short, rfl, rfl⟩, rfl⟩, rfl⟩ ?_
  change Runs _ (ite _ _ _) _ _ _
  rw [something, parsed]
  exact unknown.bind .refl

/-- How far a task has come with the chunk of a worker. -/
def Net.taken (net : Net) (worker : Nat) : ChunkStage → Net
  | .looking => net
  | .acknowledged => (net.heed worker).reply worker [Chunk.ackOk]
  | _ => net.heed worker

/-- A task takes the chunk that a worker has sent. -/
theorem followsChunk {worker : Nat} {receiver : ReceiverId} {state : FileReceiver} {frame : Bytes}
    {chunk : ChunkInHand} (serves : net.serves task = some worker)
    (sent : (net.links worker).up.next = some frame) (short : frame.length ≤ Frame.maxPayload) :
    FollowsChunk (scene.sem faults (.data task)) World.store (.data task) receiver state frame chunk
      fun stage world => world.session = session ∧ world.net = net.taken worker stage := by
  intro stage op answer stage' world store turned here acted
  obtain ⟨session', store', net'⟩ := world
  obtain ⟨rfl, rfl⟩ := here
  have heeded : (net.heed worker).serves task = some worker := serves
  cases turned with
  | hear =>
      exact ⟨_, ⟨store, _, acted.mono, ⟨worker, _, serves, .inl ⟨_, sent, short, rfl, rfl⟩, rfl⟩, rfl⟩,
        rfl, rfl, rfl⟩
  | acknowledge =>
      exact ⟨_, ⟨store, _, acted.mono, ⟨worker, _, heeded, .inl ⟨rfl, rfl⟩, rfl⟩, rfl⟩, rfl, rfl, rfl⟩
  | _ => exact ⟨_, ⟨store, _, acted.mono, rfl, rfl⟩, rfl, rfl, rfl⟩

omit [Blake3] in
/-- What a handler does to its receiver and to the files is none of the network's concern. -/
theorem runs_filing {α : Type} {program rest : ControlProg α} {after : Store (Role Unit)}
    (ran : Runs (Store.within Store.Filing (Role.control ())) program store rest after) :
    Runs (scene.sem faults .control) program ⟨session, store, net⟩ rest ⟨session, after, net⟩ := by
  let beside (store : Store (Role Unit)) (world : World) : Prop := world = ⟨session, store, net⟩
  have lifted : ∃ world, Runs (scene.sem faults .control) program ⟨session, store, net⟩ rest world ∧
      beside after world := by
    refine Runs.simulate beside ?_ rfl ran
    intro op before world answer after related acted
    subst related
    obtain ⟨files, acted⟩ := acted
    cases op with
    | fs | lock | unlock => exact ⟨_, ⟨after, net, acted.mono, rfl, rfl⟩, rfl⟩
    | _ => exact files.elim
  obtain ⟨_, runs, same⟩ := lifted
  rwa [same] at runs

end Runs

section Sample

/-- What its only worker is given. -/
def sampleWorker (port : UInt16) : Client.WorkerConfig :=
  Client.Main.workerConfig sampleScene.client [port] 1 0 [0]

/-- The frame of its only chunk. -/
def sampleFrame : Bytes := (@Client.chunkMessage .sample 0 0 [0x61]).flatten

variable {faults : Prop} {session : Client.Session} {store : Store (Role Unit)} {net : Net}
  {port : UInt16}

set_option maxRecDepth 4000 in
theorem sample_hails (files : Fs FilePath) :
    let _ := Blake3.sample
    Comes (sampleScene.mainMeasured faults) (fun (rest : Client.MainProg Nat) after =>
      after = ⟨.initial, .initial files,
          Net.initial.setControl ⟨⟨[Control.sampleHandshake], 0⟩, .empty, false, false⟩⟩ ∧
        ∃ next : Except IoError Bytes → Client.MainProg Nat, rest = .vis .recvFrame next ∧
          ∀ data ports, Client.parseResponse data = .ok (Handshake.respOk, ports) →
            next (.ok data) = Client.Main.leaving (Client.Main.transfer sampleScene.client 1 1 ports))
      (Client.Main.task 10 sampleScene.client) ⟨.initial, .initial files, .initial⟩ := by
  let _ := Blake3.sample
  refine .vis true ⟨⟨_, _, rfl, ⟨.inl rfl, rfl⟩, rfl⟩, by simp [Measures]⟩ ?_
  refine .vis (.ok 1) ⟨⟨_, _, rfl, ⟨.inl ⟨_, rfl, rfl⟩, rfl⟩, rfl⟩, by simp [Measures]⟩ ?_
  refine .vis (.ok ()) ⟨⟨_, _, rfl, ⟨.inl rfl, rfl⟩, rfl⟩, by simp [Measures]⟩ ?_
  refine .vis (.ok 1) ⟨⟨_, _, rfl, ⟨.inl ⟨_, rfl, rfl⟩, rfl⟩, rfl⟩, by simp [Measures]⟩ ?_
  refine .vis (.ok ()) ⟨⟨_, _, rfl, ⟨⟨⟨rfl, .inl ⟨rfl, rfl⟩⟩, .inr trivial⟩, rfl⟩, rfl⟩,
    by simp [Measures]⟩ ?_
  refine .vis (.ok [0x61]) ⟨⟨_, _, rfl, ⟨⟨⟨rfl, .inl ⟨_, rfl, ⟨[], rfl⟩, by decide, by decide⟩⟩,
    .inr rfl⟩, rfl⟩, rfl⟩, by simp [Measures]⟩ ?_
  refine .vis (.ok []) ⟨⟨_, _, rfl, ⟨⟨⟨rfl, .inl ⟨_, rfl, ⟨[], rfl⟩, by decide, by decide⟩⟩,
    .inr rfl⟩, rfl⟩, rfl⟩, by simp [Measures]⟩ ?_
  refine .vis (.ok ()) ⟨⟨_, _, rfl, ⟨_, .inl ⟨rfl, rfl⟩, rfl⟩, rfl⟩, by simp [Measures]⟩ ?_
  refine .here ⟨rfl, _, rfl, fun data ports told => ?_⟩
  simp only [Prog.bind, Prog.ret_bind, told]
  rfl

/-- The handler accepts the file and waits for its chunk. -/
theorem sample_accepts {refused untried : List UInt16}
    (hailed : net.control.up.next = some Control.sampleHandshake)
    (ports : dataPorts = refused ++ port :: untried) (busy : refused ≠ [] → faults)
    (closed : net.listening port = false) (permits : 1 ≤ net.permits) (idle : net.tasks 0 = none) :
    let _ := Blake3.sample
    let _ := KeyOrder.increasing
    ∃ transfer : Transfer, transfer.receiver = 0 ∧ transfer.ports = [port] ∧
      Runs (sampleScene.sem faults .control) (Control.task sampleScene.server)
        ⟨session, .initial fun _ => none, net⟩ (.ret (.waiting transfer))
        ⟨session, ((Store.initial fun _ => none).leave 0 singleReceiver).enlist port 0,
          net.attend.offer port⟩ := by
  intro _ _
  obtain ⟨handshake, parsed, name, chunks, created⟩ := parseHandshake_sampleHandshake
  refine ⟨⟨handshake, 0, [port]⟩, rfl, rfl, ?_⟩
  rw [← created]
  let opened : Store (Role Unit) :=
    (Store.initial fun _ => none).leave 0 (handshake.receiver (ascii "received") (ascii "received"))
  have ready : opened.Ready 0 (handshake.receiver (ascii "received") (ascii "received")) := ⟨rfl, rfl⟩
  have accepts : Runs (sampleScene.sem faults .control)
      (Control.handleControlConnection sampleScene.server) ⟨session, .initial fun _ => none, net⟩
      (Control.receiveFile sampleScene.server handshake)
      ⟨session, .initial fun _ => none, net.attend⟩ :=
    runs_handleControlConnection hailed (by decide) rfl parsed rfl
  have resumes : Runs (sampleScene.sem faults .control) (Control.resume 0)
      ⟨session, opened, net.attend⟩ (.ret (some false)) ⟨session, opened, net.attend⟩ := by
    refine .vis _ ⟨_, _, ready.locks, rfl, rfl⟩ ?_
    refine .vis (.ok false) ⟨_, _, ⟨_, ⟨rfl, .inl rfl⟩, rfl⟩, rfl, rfl⟩ ?_
    exact .vis () ⟨_, _, ready.releases, rfl, rfl⟩ .refl
  have transfers : Runs (sampleScene.sem faults .control)
      (Control.transferChunks sampleScene.server handshake 0) ⟨session, opened, net.attend⟩ _ _ :=
    runs_transferChunks (by rw [chunks]; rfl) ports busy trivial closed permits idle
  have waits : Runs (sampleScene.sem faults .control) (Control.waitForCompletion
      sampleScene.server.reads ⟨handshake, 0, [port]⟩)
      ⟨session, opened.enlist port 0, net.attend.offer port⟩ _ _ :=
    runs_wait ⟨ready.free, ready.found⟩ (by rw [HandshakeData.receiver, chunks]; rfl) rfl
  have received : Runs (sampleScene.sem faults .control)
      (Control.receiveFile sampleScene.server handshake)
      ⟨session, .initial fun _ => none, net.attend⟩ (.ret (.waiting ⟨handshake, 0, [port]⟩))
      ⟨session, opened.enlist port 0, net.attend.offer port⟩ := by
    refine .vis (.ok ()) ⟨_, _, rfl, ⟨.inl rfl, rfl⟩, rfl⟩ ?_
    exact .vis 0 ⟨opened, _, ⟨rfl, rfl⟩, rfl, rfl⟩ (resumes.bind (transfers.trans waits))
  exact (accepts.trans received).bind .refl

theorem sample_sends (quiet : session.shutdown = false)
    (told : (net.links 0).down.next = some (queryResponse [false])) :
    let _ := Blake3.sample
    Comes (sampleScene.sem faults (.worker 0)) (fun rest after =>
      after = ⟨session, store, (net.hear 0).ask 0 sampleFrame⟩ ∧
      ∃ next, rest = .vis .recvFrame next ∧
        next (.ok [Chunk.ackOk]) = Client.Worker.leaving (.ret (some ⟨[0], []⟩)))
      (Client.Worker.asking (sampleWorker port)) ⟨session, store, net⟩ := by
  intro _
  have whole : IsPiece [0x61] 0 1 [0x61] := ⟨List.prefix_rfl, le_rfl, nofun⟩
  obtain ⟨_, _, ran, rfl, next, rfl, acknowledged⟩ :
      Comes (sampleScene.sem faults (.worker 0)) _
        (Client.Worker.sendChunk (ascii "f") 0 0 1 1) ⟨session, store, net.hear 0⟩ :=
    sends_chunk rfl whole rfl quiet
  have range : Client.chunkRange 1 2097152 0 = some (0, 1) := rfl
  have sends : Client.Worker.sendChunks (sampleWorker port) [] [0] ⟨[], []⟩ = _ :=
    Client.Worker.sendChunks_missing rfl range
  have short : (queryResponse [false]).length ≤ Frame.maxPayload := by decide
  have parsed : Client.parseReceived (queryResponse [false]) = some [] := by decide
  have hears : Runs (sampleScene.sem faults (.worker 0)) (Client.Worker.asking (sampleWorker port))
      ⟨session, store, net⟩ (Client.Worker.leaving _) _ := runs_told told short parsed
  rw [show (sampleWorker port).chunkIndices = [0] from rfl, sends] at hears
  refine ⟨_, _, hears.trans (.vis false ⟨_, _, ⟨quiet.symm, rfl⟩, rfl, rfl⟩
    ran.within.within.within), rfl, _, rfl, ?_⟩
  change Client.Worker.leaving (((next (.ok [Chunk.ackOk])).bind _).bind _) = _
  rw [acknowledged]
  rfl

/-- The worker has delivered its chunk. -/
theorem sample_finishes {next : Except IoError Bytes → Client.WorkerProg Unit}
    (acknowledged : (net.links 0).down.next = some [Chunk.ackOk])
    (leaves : next (.ok [Chunk.ackOk]) = Client.Worker.leaving (.ret (some ⟨[0], []⟩))) :
    Runs (sampleScene.sem faults (.worker 0)) (.vis .recvFrame next) ⟨session, store, net⟩ (.ret ())
      ⟨{ session with finished := Function.update session.finished 0 (some (some ⟨[0], []⟩)) },
        store, (net.hear 0).quit 0⟩ := by
  refine .vis (.ok [Chunk.ackOk])
    ⟨_, _, rfl, ⟨_, .inl ⟨_, acknowledged, by decide, rfl, rfl⟩, rfl⟩, rfl⟩ ?_
  rw [leaves]
  exact .vis () ⟨_, _, rfl, rfl, rfl⟩ (.vis () ⟨_, _, rfl, rfl, rfl⟩ .refl)

/-- The main task spawns the only worker. -/
theorem sample_spawns :
    Runs (sampleScene.mainMeasured faults)
      (Client.Main.leaving (Client.Main.transfer sampleScene.client 1 1 [port]))
      ⟨session, store, net⟩ (Client.Main.joining [0])
      ⟨{ session with spawned := Function.update session.spawned 0 (some (sampleWorker port)) },
        store, net⟩ :=
  .vis () ⟨⟨_, _, rfl, rfl, rfl⟩, by simp [Measures]⟩ .refl

/-- It learns that no chunk has failed. -/
theorem sample_joins (finished : session.finished 0 = some (some ⟨[0], []⟩))
    (quiet : session.shutdown = false) :
    Runs (sampleScene.mainMeasured faults) (Client.Main.joining [0]) ⟨session, store, net⟩
      (Client.Main.leaving Client.Main.confirm)
      ⟨{ session with failures := session.failures ++ [] }, store, net⟩ := by
  refine .vis (some ⟨[0], []⟩) ⟨⟨_, _, ⟨finished, rfl⟩, rfl, rfl⟩, by simp [Measures]⟩ ?_
  exact .vis false ⟨⟨_, _, ⟨quiet.symm, rfl⟩, rfl, rfl⟩, by simp [Measures]⟩ .refl

/-- It is told that the file has been assembled. -/
theorem sample_leaves (told : net.control.down.next = some [Handshake.respOk]) :
    Comes (sampleScene.mainMeasured faults)
      (fun rest after => rest = .ret 0 ∧ after.net.links = net.links)
      (Client.Main.leaving Client.Main.confirm) ⟨session, store, net⟩ := by
  refine .vis (.ok [Handshake.respOk])
    ⟨⟨_, _, rfl, ⟨_, .inl ⟨_, told, by decide, rfl, rfl⟩, rfl⟩, rfl⟩, by simp [Measures]⟩ ?_
  exact .vis () ⟨⟨_, _, rfl, rfl, rfl⟩, by simp [Measures]⟩ (.here ⟨rfl, rfl⟩)

/-- The store once the handler waits for the chunk. -/
def sampleStore (port : UInt16) : Store (Role Unit) :=
  ((Store.initial fun _ => none).leave 0 singleReceiver).enlist port 0

/-- What connects the two sides once the worker has been told what the server has. -/
def sampleAnswered (port : UInt16) : Net :=
  let announced := Net.initial.setControl ⟨⟨[Control.sampleHandshake], 0⟩, .empty, false, false⟩
  let offered := (announced.attend.offer port).notice
  let asked := ((offered.connect 0 port).ask 0 [Chunk.queryMagic]).accept 0 port 0 []
  (asked.heed 0).reply 0 (queryResponse [false])

/-- What connects the two sides once the chunk has been delivered. -/
def sampleDelivered (port : UInt16) : Net :=
  let sent := ((sampleAnswered port).hear 0).ask 0 sampleFrame
  ((sent.taken 0 .acknowledged).hear 0).quit 0

/-- The worker has been told that the server does not have its chunk. -/
theorem sample_asks {refused untried : List UInt16}
    (ports : dataPorts = refused ++ port :: untried) (busy : refused ≠ [] → faults)
    (told : Client.parseResponse (handshakeResponse Handshake.respOk [port]) =
      .ok (Handshake.respOk, [port])) :
    let _ := Blake3.sample
    let _ := KeyOrder.increasing
    ∃ (transfer : Transfer) (session : Client.Session) (pool : Pool sig Ctl World),
      transfer.receiver = 0 ∧ transfer.ports = [port] ∧ session.shutdown = false ∧
        Reaches (sampleScene.system faults) Measures (sampleScene.start fun _ => none) pool ∧
          pool.prog .main = Client.Main.joining [0] ∧
            pool.prog .control = .ret (.waiting transfer) ∧
              pool.prog (.worker 0) = Client.Worker.asking (sampleWorker port) ∧
                pool.prog (.data 0) = .ret (.connected port 0) ∧
                  pool.world = ⟨session, sampleStore port, sampleAnswered port⟩ := by
  intro _ _
  have begun : Reaches (sampleScene.system faults) Measures (sampleScene.start fun _ => none) _ :=
    .refl
  obtain ⟨hailing, _, hails, rfl, next, waiting, transfers⟩ := sample_hails fun _ => none
  obtain ⟨pool₁, reached, step₁⟩ := begun.aloneAllowed .main rfl rfl hails
  let announced := Net.initial.setControl ⟨⟨[Control.sampleHandshake], 0⟩, .empty, false, false⟩
  have hailed : announced.control.up.next = some Control.sampleHandshake := rfl
  obtain ⟨transfer, receiver, same, accepts⟩ := sample_accepts hailed ports busy rfl (by decide) rfl
  obtain ⟨pool₂, reached, step₂⟩ := reached.aloneAllowed .control
    (step₁.others .control (by decide)) step₁.world (runs_measured sampleScene (by decide) accepts)
  -- the worker asks
  let response : Bytes := handshakeResponse Handshake.respOk [port]
  have short : response.length ≤ Frame.maxPayload := Nat.le_of_ble_eq_true rfl
  have hears : Runs (sampleScene.mainMeasured faults)
      (.vis .recvFrame next : Client.MainProg Nat)
      ⟨.initial, sampleStore port, announced.attend.offer port⟩
      (Client.Main.leaving (Client.Main.transfer sampleScene.client 1 1 [port]))
      ⟨{ Client.Session.initial with response := some response }, sampleStore port,
        (announced.attend.offer port).notice⟩ := by
    rw [← transfers _ _ told]
    exact .vis (.ok response)
      ⟨⟨_, _, rfl, ⟨_, .inl ⟨_, rfl, short, rfl, rfl⟩, rfl⟩, rfl⟩, by simp [Measures]⟩ .refl
  obtain ⟨pool₃, reached, step₃⟩ := reached.aloneAllowed .main
    ((step₂.others .main (by decide)).trans (step₁.prog.trans waiting)) step₂.world
    (hears.trans sample_spawns)
  have idle : ∀ tid, tid ≠ .main → tid ≠ .control →
      pool₃.prog tid = (sampleScene.start fun _ => none).prog tid := fun tid notMain notControl =>
    (step₃.others tid notMain).trans ((step₂.others tid notControl).trans (step₁.others tid notMain))
  obtain ⟨pool₄, reached, step₄⟩ := reached.aloneAllowed (.worker 0)
    (idle _ (by decide) (by decide)) step₃.world
    (runs_measured sampleScene (by decide) (runs_asking rfl rfl (Function.update_self _ _ _)))
  -- a task answers
  obtain ⟨pool₅, reached, step₅⟩ := reached.aloneAllowed (.data 0)
    ((step₄.others _ (by decide)).trans (idle _ (by decide) (by decide))) step₄.world
    (runs_measured sampleScene (by decide) (runs_start rfl))
  have registered : (sampleStore port).registry port = some 0 := by
    simp [sampleStore, Store.enlist]
  obtain ⟨pool₆, reached, step₆⟩ := reached.aloneAgainAllowed (.data 0) step₅.prog step₅.world rfl
    (runs_measured sampleScene (by decide) (runs_accept rfl (Function.update_self _ _ _) registered))
  have ready : (sampleStore port).Ready 0 singleReceiver := ⟨rfl, rfl⟩
  obtain ⟨pool₇, reached, step₇⟩ := reached.aloneAgainAllowed (.data 0) step₆.prog step₆.world rfl
    (runs_measured sampleScene (by decide) (runs_query rfl rfl ready rfl))
  have kept : ∀ tid, tid ≠ .data 0 → tid ≠ .worker 0 → pool₇.prog tid = pool₃.prog tid :=
    fun tid notData notWorker => (step₇.others tid notData).trans ((step₆.others tid notData).trans
      ((step₅.others tid notData).trans (step₄.others tid notWorker)))
  have asking : pool₇.prog (.worker 0) = pool₄.prog (.worker 0) :=
    (step₇.others _ (by decide)).trans ((step₆.others _ (by decide)).trans
      (step₅.others _ (by decide)))
  refine ⟨transfer, _, pool₇, receiver, same, ?_, reached, ?_, ?_, ?_, step₇.prog, step₇.world⟩
  · rfl
  · exact (kept _ (by decide) (by decide)).trans step₃.prog
  · exact (kept _ (by decide) (by decide)).trans ((step₃.others _ (by decide)).trans step₂.prog)
  · exact asking.trans step₄.prog

/-- The only chunk is delivered, and the main task waits for the final status. -/
theorem sample_delivers {refused untried : List UInt16}
    (ports : dataPorts = refused ++ port :: untried) (busy : refused ≠ [] → faults)
    (told : Client.parseResponse (handshakeResponse Handshake.respOk [port]) =
      .ok (Handshake.respOk, [port])) :
    let _ := Blake3.sample
    let _ := KeyOrder.increasing
    ∃ (transfer : Transfer) (session : Client.Session) (pool : Pool sig Ctl World),
      transfer.receiver = 0 ∧ transfer.ports = [port] ∧
        Reaches (sampleScene.system faults) Measures (sampleScene.start fun _ => none) pool ∧
          pool.prog .main = Client.Main.leaving Client.Main.confirm ∧
            pool.prog .control = .ret (.waiting transfer) ∧
              pool.world = ⟨session, (sampleStore port).receive 0 singleReceiver singleChunk,
                sampleDelivered port⟩ := by
  intro _ _
  obtain ⟨transfer, session, pool, receiver, same, quiet, reached, main, control, worker, task, world⟩ :=
    sample_asks ports busy told
  have told' : ((sampleAnswered port).links 0).down.next = some (queryResponse [false]) := rfl
  obtain ⟨sending, _, sends, rfl, next, asking, leaves⟩ := sample_sends quiet told'
  obtain ⟨pool₁, reached, step₁⟩ := reached.aloneAllowed (.worker 0) worker world
    (runs_measured sampleScene (by decide) sends)
  have carries : Carries singleReceiver sampleFrame singleChunk := carries_singleChunk rfl
  -- a task stores the chunk
  have ready : (sampleStore port).Ready 0 singleReceiver := ⟨rfl, rfl⟩
  have follows : FollowsChunk (sampleScene.sem faults (.data 0)) World.store (.data 0) 0
      singleReceiver sampleFrame singleChunk fun stage world => world.session = session ∧
        world.net = (((sampleAnswered port).hear 0).ask 0 sampleFrame).taken 0 stage :=
    followsChunk rfl rfl (by decide)
  let asked : World := ⟨session, sampleStore port, ((sampleAnswered port).hear 0).ask 0 sampleFrame⟩
  have here : asked.session = session ∧
    asked.net = (((sampleAnswered port).hear 0).ask 0 sampleFrame).taken 0 .looking := ⟨rfl, rfl⟩
  obtain ⟨stored, receives, received, same', taken⟩ := follows.receives ready carries rfl here
  rw [World.eq_mk same' received taken] at receives
  obtain ⟨pool₂, reached, step₂⟩ := reached.aloneAgainAllowed (.data 0)
    ((step₁.others _ (by decide)).trans task) step₁.world rfl
    (runs_measured sampleScene (by decide) receives)
  obtain ⟨pool₃, reached, step₃⟩ := reached.aloneAllowed (.worker 0)
    ((step₂.others _ (by decide)).trans (step₁.prog.trans asking)) step₂.world
    (runs_measured sampleScene (by decide) (sample_finishes rfl leaves))
  have kept : ∀ tid, tid ≠ .data 0 → tid ≠ .worker 0 → pool₃.prog tid = pool.prog tid :=
    fun tid notData notWorker => (step₃.others tid notWorker).trans
      ((step₂.others tid notData).trans (step₁.others tid notWorker))
  obtain ⟨pool₄, reached, step₄⟩ := reached.aloneAllowed .main
    ((kept _ (by decide) (by decide)).trans main) step₃.world (sample_joins rfl quiet)
  exact ⟨transfer, _, pool₄, receiver, same, reached, step₄.prog,
    (step₄.others _ (by decide)).trans ((kept _ (by decide) (by decide)).trans control), step₄.world⟩

end Sample

end BeeSync.EndToEnd
