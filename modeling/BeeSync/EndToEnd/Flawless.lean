import BeeSync.EndToEnd.Agreement
import BeeSync.EndToEnd.HandlerLines
import BeeSync.EndToEnd.ServerLines
import BeeSync.Server.CrashRecovery

/-!
# A transfer in which nothing fails

What the main task, the workers, the control handler and the data server tasks rely on holds
together, and every step of any of them keeps it. The server is seen as in a lifetime that
begins with nothing of the transfer.
-/

set_option autoImplicit false

namespace BeeSync.EndToEnd

open Arithmetic Encoding Interaction Server

section Carried

variable {frames : List Bytes} {frame : Bytes} {idx k n : Nat}

theorem mem_carried (member : frame ∈ frames) (index : headerIndex frame = some idx) :
    idx ∈ carried frames :=
  List.mem_filterMap.mpr ⟨frame, member, index⟩

theorem carried_take_subset (frames : List Bytes) (n : Nat) : carried (frames.take n) ⊆ carried frames :=
  ((List.take_sublist n frames).filterMap headerIndex).subset

theorem carried_take_mono (less : k ≤ n) : carried (frames.take k) ⊆ carried (frames.take n) := by
  have within : (frames.take k).Sublist (frames.take n) := by
    rw [← Nat.min_eq_left less, ← List.take_take]
    exact List.take_sublist _ _
  exact (within.filterMap headerIndex).subset

theorem carried_take_prefix {frames' : List Bytes} (isPrefix : frames <+: frames') :
    carried (frames.take n) ⊆ carried (frames'.take n) :=
  ((isPrefix.take n).sublist.filterMap headerIndex).subset

/-- What comes next has not come before, where nothing comes twice. -/
theorem not_mem_carried_take (once : (carried frames).Nodup) (at_ : frames[k]? = some frame)
    (index : headerIndex frame = some idx) : idx ∉ carried (frames.take k) := by
  obtain ⟨inside, here⟩ := List.getElem?_eq_some_iff.mp at_
  have split : frames = frames.take k ++ frame :: frames.drop (k + 1) := by
    rw [← here, List.getElem_cons_drop, List.take_append_drop]
  rw [split, carried_append] at once
  intro earlier
  refine (List.nodup_append.mp once).2.2 idx earlier idx ?_ rfl
  exact mem_carried List.mem_cons_self index

theorem mem_carried_take_succ (at_ : frames[k]? = some frame) (index : headerIndex frame = some idx) :
    idx ∈ carried (frames.take (k + 1)) := by
  refine mem_carried ?_ index
  rw [List.take_add_one, at_]
  exact List.mem_append_right _ List.mem_cons_self

end Carried

/-- The client has been told of a complete file. -/
def Finished (phase : HandlePhase) (lifetime : Lifetime) : Prop :=
  phase.inner = .finished ∧ lifetime.assembling

section Flawless

variable [Blake3]

structure Flawless (scene : Scene) (job : Job) (dataPorts : List UInt16) (lifetime : Lifetime)
    (phase : (tid : Tid) → Phase tid) (world : World) : Prop where
  same : lifetime.store = world.store
  alive : Alive job (roles phase) lifetime
  unrecovered : lifetime.recovered = ∅
  /-- What the server has received it has received from a worker. -/
  sent : ∀ idx ∈ lifetime.sent, ∃ worker,
    idx ∈ carried ((world.net.links worker).up.written.take (world.net.links worker).up.read)
  unfailed : ∀ receiver state, world.store.receivers receiver = some state → state.failed = false
  clean : (phase .control).inner.Unserved → job.Untouched world.store.fs
  host : HostAt scene job world.store.registry lifetime.marked lifetime.assembling world.net
    (phase .control)
  main : MainFine scene dataPorts world.net.control (Finished (phase .control) lifetime) (phase .main)
  staff : Staff scene dataPorts world.session world.net
  reception : Reception scene world.net (Finished (phase .control) lifetime)
  heralds : Heralds job world.net.control
  /-- The main task does not leave before it has been told. -/
  stays : world.net.control.hungUp = true → Finished (phase .control) lifetime
  works : ∀ worker config, world.session.spawned worker = some config →
    WorkAt job config (world.net.links worker) (phase (.worker worker))
  idle : ∀ worker, world.session.spawned worker = none → world.net.links worker = .fresh
  unread : ∀ port worker, worker ∈ world.net.backlog port → (world.net.links worker).up.read = 0
  serving : ∀ task, ServeAt job task world.net (phase (.data task)).serve
  bound : ∀ task port serve, phase (.data task) = .spawned port serve →
    world.net.tasks task = some port
  posts : job.Whole lifetime.marked ∨
    ∀ task port, world.net.tasks task = some port → world.store.registry port ≠ none
  replying : Replying Grants (fun task => (phase (.data task)).serve) world.net

namespace Flawless

variable {scene : Scene} {job : Job} {files : Fs FilePath} {dataPorts : List UInt16}
  {lifetime : Lifetime} {phase : (tid : Tid) → Phase tid} {world world' : World}

theorem start (clear : scene.Clear job files) :
    Flawless scene job [] (.initial ⟨files, ∅, ∅⟩) begin
      ⟨.initial, .initial files, .initial⟩ where
  same := rfl
  alive := roles_begin ▸ .start (.untouched clear.untouched)
  unrecovered := rfl
  sent _ member := member.elim
  unfailed _ _ found := by cases found
  clean _ := clear.untouched
  host := ⟨fun _ => rfl, rfl⟩
  main := trivial
  staff :=
    { hired := fun _ _ found => by cases found
      open_ := fun _ member => by cases member
      quiet := rfl
      outcomes := fun _ _ found => by cases found }
  reception :=
    { offer := fun _ found => by cases found
      status := fun _ found => by cases found
      gone := nofun
      asked := fun spoken => absurd rfl spoken }
  heralds _ member := by cases member
  stays := nofun
  works _ _ found := by cases found
  idle _ _ := rfl
  unread _ _ listed := by cases listed
  serving _ := trivial
  bound _ _ _ found := by cases found
  posts := .inr fun _ _ found => by cases found
  replying := .initial

section Facts

variable (flawless : Flawless scene job dataPorts lifetime phase world)
include flawless

/-- Every worker says what it should. -/
theorem honest (worker : Nat) : ∀ frame ∈ (world.net.links worker).up.written,
    frame = [Chunk.queryMagic] ∨ ∃ idx < job.handshake.numChunks, frame = job.frame idx := by
  intro frame member
  cases spawned : world.session.spawned worker with
  | none =>
      rw [flawless.idle worker spawned] at member
      cases member
  | some config => exact (flawless.works worker config spawned).said.honest frame member

/-- Whoever sends a chunk has been given it. -/
theorem owner {worker idx : Nat} (member : idx ∈ carried (world.net.links worker).up.written) :
    ∃ config, Hired scene dataPorts worker config ∧ idx ∈ config.chunkIndices := by
  cases spawned : world.session.spawned worker with
  | none =>
      rw [flawless.idle worker spawned] at member
      cases member
  | some config =>
      have order := (flawless.works worker config spawned).said.carried_sublist
      exact ⟨config, flawless.staff.hired worker config spawned, order.mem member⟩

/-- Nobody sends a chunk twice. -/
theorem once (worker : Nat) : (carried (world.net.links worker).up.written).Nodup := by
  cases spawned : world.session.spawned worker with
  | none =>
      rw [flawless.idle worker spawned]
      exact List.nodup_nil
  | some config =>
      have order := (flawless.works worker config spawned).said.carried_sublist
      exact (flawless.staff.hired worker config spawned).nodup.sublist order

/-- No two workers send the same chunk. -/
theorem alone {worker other idx : Nat} (mine : idx ∈ carried (world.net.links worker).up.written)
    (theirs : idx ∈ carried (world.net.links other).up.written) : worker = other := by
  obtain ⟨config, hired, given⟩ := flawless.owner mine
  obtain ⟨config', hired', given'⟩ := flawless.owner theirs
  exact hired.alone hired' given given'

/-- A worker that has not been heard yet has chunks that are missing. -/
theorem missing {worker : Nat} {config : Client.WorkerConfig} (clear : scene.Clear job files)
    (spawned : world.session.spawned worker = some config)
    (unread : (world.net.links worker).up.read = 0) : ¬ job.Whole lifetime.marked := by
  intro whole
  have hired := flawless.staff.hired worker config spawned
  obtain ⟨idx, given⟩ := List.exists_mem_of_ne_nil _ hired.some_
  have inRange : idx < job.handshake.numChunks := by
    rw [clear.numChunks]
    exact hired.inRange given
  rcases flawless.alive.dealt.known idx (whole idx inRange) with recovered | sent
  · rw [flawless.unrecovered] at recovered
    exact recovered
  · obtain ⟨other, member⟩ := flawless.sent idx sent
    obtain ⟨config', hired', given'⟩ := flawless.owner (carried_take_subset _ _ member)
    cases hired.alone hired' given given'
    rw [unread] at member
    cases member

end Facts

omit [Blake3] in
theorem mainSem_spawned {op : Client.MainOp} {answer : op.Res} {session session' : Client.Session}
    (acted : Client.Session.mainSem op session answer session') :
    session'.spawned = session.spawned ∨ ∃ worker config, op = .spawnWorker worker config ∧
      session'.spawned = Function.update session.spawned worker (some config) := by
  cases op with
  | spawnWorker worker config =>
      cases acted
      exact .inr ⟨worker, config, rfl, rfl⟩
  | loadShutdown | joinWorker =>
      obtain ⟨_, same⟩ := acted
      subst same
      exact .inl rfl
  | _ =>
      cases acted
      exact .inl rfl

theorem main_step {op : Client.MainOp} {answer : op.Res} {phase' : Client.MainPhase}
    (clear : scene.Clear job files) (concord : Concord scene ⟨phase, world⟩)
    (flawless : Flawless scene job dataPorts lifetime phase world)
    (turned : Client.MainTurn scene.client (phase .main) op answer phase')
    (acted : scene.sem False .main op world answer world') :
    ∃ dataPorts, Flawless scene job dataPorts lifetime (Function.update phase .main phase') world' := by
  obtain ⟨session, net, talked, moved, same⟩ := acted
  subst same
  obtain ⟨dataPorts, fine, staff, calls⟩ := MainFine.turn clear turned talked moved concord.main
    flawless.reception flawless.staff flawless.main
  obtain ⟨link, same⟩ := calls.same
  have spawned := mainSem_spawned talked
  have before : ∀ worker, session.spawned worker = none → world.session.spawned worker = none := by
    intro worker none_
    rcases spawned with same | ⟨other, config, _, same⟩
    · rw [← same]
      exact none_
    · rw [same] at none_
      by_cases here : worker = other
      · subst here
        cases (Function.update_self ..).symm.trans none_
      · exact (Function.update_of_ne here _ _).symm.trans none_
  refine ⟨dataPorts, ?_⟩
  constructor
  · exact flawless.same
  · rw [roles_main]
    exact flawless.alive
  · exact flawless.unrecovered
  · rw [same]
    exact flawless.sent
  · exact flawless.unfailed
  · exact flawless.clean
  · refine flawless.host.mono calls.asked calls.down ?_ ?_ (Set.Subset.refl _) id <;> rw [same] <;> rfl
  · rw [Function.update_self]
    exact fine
  · exact staff
  · refine flawless.reception.mono calls.down (fun port => ?_) calls.dropped calls.asked id
    rw [same]
    exact id
  · exact calls.heralds flawless.heralds
  · intro left
    rcases calls.stays left with earlier | ⟨exitCode, ended⟩
    · exact flawless.stays earlier
    · rw [ended] at fine
      exact fine.2
  · intro worker config found
    have links : net.links worker = world.net.links worker := by rw [same]; rfl
    dsimp only at found ⊢
    rw [links]
    rcases spawned with same | ⟨other, given, spawns, same⟩
    · rw [same] at found
      exact flawless.works worker config found
    · rw [same] at found
      by_cases here : worker = other
      · subst here spawns
        have new := concord.main.fresh turned
        have waiting : phase (.worker worker) = .waiting := concord.working.unspawned worker new
        show WorkAt job config _ (phase (.worker worker))
        rw [waiting]
        exact flawless.idle worker new
      · exact flawless.works worker config ((Function.update_of_ne here _ _).symm.trans found)
  · intro worker none_
    rw [same]
    exact flawless.idle worker (before worker none_)
  · rw [same]
    exact flawless.unread
  · rw [same]
    exact flawless.serving
  · rw [same]
    exact flawless.bound
  · rw [same]
    exact flawless.posts
  · rw [same]
    exact flawless.replying.mono (fun _ _ => id) (fun _ => rfl) rfl

theorem worker_step {index : Nat} {op : Client.WorkerOp} {answer : op.Res}
    {phase' : Client.WorkerPhase} (clear : scene.Clear job files) (concord : Concord scene ⟨phase, world⟩)
    (concord' : Concord scene ⟨Function.update phase (.worker index) phase', world'⟩)
    (flawless : Flawless scene job dataPorts lifetime phase world)
    (turned : Client.WorkerTurn (phase (.worker index)) op answer phase')
    (acted : scene.sem False (.worker index) op world answer world') :
    Flawless scene job dataPorts lifetime (Function.update phase (.worker index) phase') world' := by
  obtain ⟨session, net, talked, moved, same⟩ := acted
  subst same
  obtain ⟨config, found⟩ := concord.working.hires turned talked
  have stands := flawless.works index config found
  have inStep := flawless.replying.inStep index
  have accounts := concord.working.accounts index config found
  have spares : Spares index world.net net := .step moved fun host port dials => by
    subst dials
    exact stands.dials turned
  obtain ⟨staff, spawned⟩ := flawless.staff.worker turned talked stands spares.listening
  obtain ⟨_, goes⟩ := Accounts.turn turned talked moved found (concord.replying.inStep index)
    scene.numChunks_lt accounts
  have stands' : WorkAt job config (net.links index) phase' := by
    have hired := flawless.staff.hired index config found
    have accounts' := concord'.working.accounts index config (by rw [spawned]; exact found)
    dsimp only at accounts'
    rw [Function.update_self] at accounts'
    exact stands.turn clear hired turned talked moved flawless.staff.quiet
      (flawless.staff.open_ config.port hired.port) inStep accounts accounts'
  constructor
  · exact flawless.same
  · rw [roles_worker]
    exact flawless.alive
  · exact flawless.unrecovered
  · intro idx sent
    obtain ⟨other, member⟩ := flawless.sent idx sent
    refine ⟨other, ?_⟩
    by_cases here : other = index
    · subst here
      dsimp only
      rw [spares.read]
      exact carried_take_prefix spares.written member
    · dsimp only
      rw [spares.others other here]
      exact member
  · exact flawless.unfailed
  · exact flawless.clean
  · exact flawless.host.mono (by rw [spares.control]; exact id) (by rw [spares.control])
      spares.listening spares.permits (Set.Subset.refl _) id
  · exact flawless.main.mono (by rw [spares.control]) id
  · exact staff
  · refine flawless.reception.mono (by rw [spares.control]) (fun port => ?_) (by rw [spares.control])
      (by rw [spares.control]; exact id) id
    rw [spares.listening]
    exact id
  · dsimp only
    rw [spares.control]
    exact flawless.heralds
  · dsimp only
    rw [spares.control]
    exact flawless.stays
  · intro other given found'
    dsimp only at found' ⊢
    rw [spawned] at found'
    by_cases here : other = index
    · subst here
      cases found.symm.trans found'
      rw [Function.update_self]
      exact stands'
    · rw [Function.update_of_ne (by simpa using here), spares.others other here]
      exact flawless.works other given found'
  · intro other none_
    dsimp only at none_ ⊢
    rw [spawned] at none_
    have different : other ≠ index := by
      intro here
      subst here
      cases found.symm.trans none_
    rw [spares.others other different]
    exact flawless.idle other none_
  · intro port other listed
    rcases spares.backlog port other listed with earlier | ⟨here, unread⟩
    · by_cases here : other = index
      · subst here
        exact spares.read.trans (flawless.unread port other earlier)
      · dsimp only
        rw [spares.others other here]
        exact flawless.unread port other earlier
    · subst here
      exact unread
  · intro task
    refine (flawless.serving task).mono (by rw [spares.serves]) (fun worker _ => ?_) fun worker _ => ?_
    · by_cases here : worker = index
      · subst here
        exact spares.read
      · dsimp only
        rw [spares.others worker here]
    · by_cases here : worker = index
      · subst here
        exact spares.hungUp
      · dsimp only
        rw [spares.others worker here]
        exact id
  · dsimp only
    rw [spares.tasks]
    exact flawless.bound
  · dsimp only
    rw [spares.tasks]
    exact flawless.posts
  · rcases goes with tells | ⟨port, new, _, same⟩
    · exact flawless.replying.speak tells.others tells.serves tells.speaks
    · subst same
      exact flawless.replying.connect (fun task served => new (concord.wired.served task index served)) port

/-- What a task receives is a query, or a chunk that nobody has sent before. -/
theorem transmits {task : Nat} {op : DataOp} {answer : op.Res} {net : Net}
    (flawless : Flawless scene job dataPorts lifetime phase world)
    (moved : Net.dataSem False task op world.net answer net) : job.Transmits lifetime op answer := by
  cases op with
  | recvFrame =>
      cases answer with
      | error error => trivial
      | ok frame =>
          obtain ⟨worker, lane, _, received, _⟩ := moved
          rcases received with ⟨frame', next, _, answered, _⟩ | ⟨_, ⟨_, failed⟩, _⟩
          · cases answered
            refine (flawless.honest worker frame (List.mem_of_getElem? next)).imp_right ?_
            rintro ⟨idx, inRange, same⟩
            subst same
            refine ⟨idx, Job.message_frame inRange, fun sent => ?_, fun recovered => ?_⟩
            · obtain ⟨other, member⟩ := flawless.sent idx sent
              have index := Job.headerIndex_frame inRange
              have here := mem_carried (List.mem_of_getElem? next) index
              cases flawless.alone here (carried_take_subset _ _ member)
              exact not_mem_carried_take (flawless.once worker) next index member
            · rw [flawless.unrecovered] at recovered
              exact recovered
          · cases failed
  | _ => trivial

/-- The server has received nothing but what workers have sent. -/
theorem data_sent {task : Nat} {op : DataOp} {answer : op.Res} {store : Store (Role Unit)} {net : Net}
    (flawless : Flawless scene job dataPorts lifetime phase world)
    (moved : Net.dataSem False task op world.net answer net) (gentle : Gentle task world.net net) :
    ∀ idx ∈ (job.noteData task lifetime store op answer).sent, ∃ worker,
      idx ∈ carried ((net.links worker).up.written.take (net.links worker).up.read) := by
  have earlier : ∀ idx ∈ lifetime.sent, ∃ worker,
      idx ∈ carried ((net.links worker).up.written.take (net.links worker).up.read) := by
    intro idx sent
    obtain ⟨worker, member⟩ := flawless.sent idx sent
    refine ⟨worker, ?_⟩
    rw [gentle.written]
    exact carried_take_mono (gentle.read worker) member
  intro idx member
  cases op with
  | recvFrame =>
      cases answer with
      | error error => exact earlier idx member
      | ok frame =>
          rcases member with before | index
          · exact earlier idx before
          · obtain ⟨worker, lane, _, received, same⟩ := moved
            refine ⟨worker, ?_⟩
            subst same
            rw [show (world.net.setLink worker _).links worker = _ from Function.update_self ..]
            rcases received with ⟨frame', next, _, answered, written⟩ | ⟨_, ⟨_, failed⟩, _⟩
            · cases answered
              subst written
              exact mem_carried_take_succ next index
            · cases failed
  | _ => exact earlier idx member

/-- A task leaves every receiver in order. -/
theorem data_unfailed {task : Nat} {port : UInt16} {op : DataOp} {answer : op.Res} {phase' : ServePhase}
    {store : Store (Role Unit)} (flawless : Flawless scene job dataPorts lifetime phase world)
    (turned : ServeTurn port (phase (.data task)).serve op answer phase')
    (acted : Store.dataSem False (Role.data task) op world.store answer store) :
    ∀ receiver state, store.receivers receiver = some state → state.failed = false := by
  intro receiver state found
  cases op with
  | unlock other state' =>
      cases acted
      by_cases here : receiver = other
      · subst here
        cases (Function.update_self ..).symm.trans found
        refine (flawless.serving task).unfailed turned (fun receiver state held => ?_)
          (flawless.alive.data task)
        have found := flawless.alive.found (.data task) held
        rw [flawless.same] at found
        exact flawless.unfailed receiver state found
      · exact flawless.unfailed receiver state ((Function.update_of_ne here _ _).symm.trans found)
  | lock | fs =>
      obtain ⟨_, _, same⟩ := acted
      subst same
      exact flawless.unfailed receiver state found
  | getReceiver =>
      rw [acted.2] at found
      exact flawless.unfailed receiver state found
  | _ =>
      cases acted
      exact flawless.unfailed receiver state found

theorem data_step {task : Nat} {op : DataOp} {answer : op.Res} {phase' : TaskPhase}
    (clear : scene.Clear job files) (concord : Concord scene ⟨phase, world⟩)
    (flawless : Flawless scene job dataPorts lifetime phase world)
    (turned : TaskTurn (phase (.data task)) op answer phase')
    (acted : scene.sem False (.data task) op world answer world') :
    ∃ lifetime, Flawless scene job dataPorts lifetime (Function.update phase (.data task) phase')
      world' := by
  obtain ⟨store, net, stored, moved, same⟩ := acted
  subst same
  obtain ⟨port, serves, spawned⟩ := turned.serve_turn
  have inner : DataTurn (roles phase (.data task)) op answer phase'.serve.inner := serves.inner
  have transmits := flawless.transmits moved
  have stored' : Store.dataSem False (Role.data task) op lifetime.store answer store := by
    rw [flawless.same]
    exact stored
  have alive := flawless.alive.data_step inner stored' transmits
  have more : lifetime.marked ⊆ (job.noteData task lifetime store op answer).marked := by
    intro idx marked
    rw [Lifetime.marked, Job.noteData_store]
    exact flawless.alive.one.orderly.data_marks inner stored' marked
  have dialled : ∀ worker, ¬ Dialled (phase (.worker worker)) → world.net.serves task ≠ some worker :=
    fun worker away served => away (concord.wired.served task worker served)
  have registered : (phase (.data task)).serve = .greeted → world.store.registry port ≠ none := by
    intro greeted
    have stands := flawless.serving task
    rw [greeted] at stands
    obtain ⟨worker, served, unread⟩ := stands
    rcases flawless.posts with whole | posts
    · cases found : world.session.spawned worker with
      | some config => exact absurd whole (flawless.missing clear found unread)
      | none =>
          have waiting : phase (.worker worker) = .waiting := concord.working.unspawned worker found
          exact absurd served (dialled worker (by rw [waiting]; exact id))
    · rcases spawned with unspawned | spawned
      · rw [unspawned] at greeted
        cases greeted
      · exact posts task port (flawless.bound task port _ spawned)
  have attends := flawless.alive.data task
  rw [flawless.same] at attends
  obtain ⟨stands, gentle⟩ := ServeAt.turn clear serves stored moved registered
    (fun receiver state held => by
      have found := flawless.alive.found (.data task) held
      have good := flawless.alive.good receiver state found
      rw [flawless.same] at found
      exact ⟨good.same, flawless.unfailed receiver state found⟩)
    attends (fun worker _ => flawless.honest worker) flawless.unread (flawless.serving task)
  have bound : ∀ port serve, phase' = .spawned port serve → net.tasks task = some port := by
    intro port serve there
    rw [gentle.tasks]
    generalize before : phase (.data task) = stood at turned
    cases turned with
    | start here =>
        cases there
        exact moved.1
    | serve =>
        cases there
        exact flawless.bound task port _ before
  obtain ⟨registry, _⟩ := OneTransfer.data_keeps concord.server.orderly inner stored
  refine ⟨job.noteData task lifetime store op answer, ?_⟩
  constructor
  · exact Job.noteData_store
  · rw [roles_data]
    exact alive
  · rw [Job.noteData_recovered]
    exact flawless.unrecovered
  · exact flawless.data_sent moved gentle
  · exact flawless.data_unfailed serves stored
  · intro unserved
    have idle := flawless.alive.one.idle_step unserved inner stored'
    dsimp only
    rw [idle.2, flawless.same]
    exact flawless.clean unserved
  · dsimp only
    rw [registry, Job.noteData_assembling]
    exact flawless.host.mono (by rw [gentle.control]; exact id) (by rw [gentle.control])
      gentle.listening gentle.permits more id
  · rw [Finished, Job.noteData_assembling]
    exact flawless.main.mono (by rw [gentle.control]) id
  · exact flawless.staff.mono fun port => by rw [gentle.listening]; exact id
  · rw [Finished, Job.noteData_assembling]
    refine flawless.reception.mono (by rw [gentle.control]) (fun port => ?_) (by rw [gentle.control])
      (by rw [gentle.control]; exact id) id
    rw [gentle.listening]
    exact id
  · dsimp only
    rw [gentle.control]
    exact flawless.heralds
  · rw [Finished, Job.noteData_assembling]
    dsimp only
    rw [gentle.control]
    exact flawless.stays
  · intro worker config found
    exact (flawless.works worker config found).mono
      (fun away => gentle.others worker (dialled worker away)) (gentle.written worker)
        (gentle.hungUp worker) (gentle.dropped worker)
  · intro worker none_
    have waiting : phase (.worker worker) = .waiting := concord.working.unspawned worker none_
    exact (gentle.others worker (dialled worker (by rw [waiting]; exact id))).trans
      (flawless.idle worker none_)
  · intro port worker listed
    have listed := (gentle.backlog port).mem listed
    have unserved := concord.wired.unserved port task worker listed
    dsimp only
    rw [gentle.others worker unserved]
    exact flawless.unread port worker listed
  · intro other
    by_cases here : other = task
    · subst here
      rw [Function.update_self]
      exact stands
    · rw [Function.update_of_ne (by simpa using here)]
      refine (flawless.serving other).mono (gentle.serves other here) (fun worker served => ?_)
        fun worker _ left => (gentle.hungUp worker).trans left
      have unserved : world.net.serves task ≠ some worker := fun mine =>
        here (concord.wired.sole other task worker served mine)
      dsimp only
      rw [gentle.others worker unserved]
  · intro other port serve there
    by_cases here : other = task
    · subst here
      rw [Function.update_self] at there
      exact bound port serve there
    · rw [Function.update_of_ne (by simpa using here)] at there
      dsimp only
      rw [gentle.tasks]
      exact flawless.bound other port serve there
  · dsimp only
    rw [gentle.tasks, registry]
    exact flawless.posts.imp_left fun whole idx inRange => more (whole idx inRange)
  · dsimp only
    rw [Concord.tasks_update]
    refine flawless.replying.data_step concord.wired serves moved fun payload frame sends owed => ?_
    subst sends
    exact (flawless.serving task).grants serves owed

@[simp] theorem noteControl_store {store : Store (Role Unit)} {op : ControlOp} :
    (job.noteControl lifetime store op).store = store := by
  cases op <;> rfl

@[simp] theorem noteControl_sent {store : Store (Role Unit)} {op : ControlOp} :
    (job.noteControl lifetime store op).sent = lifetime.sent := by
  cases op <;> rfl

theorem noteControl_assembling {store : Store (Role Unit)} {op : ControlOp} (begun : lifetime.assembling) :
    (job.noteControl lifetime store op).assembling := by
  cases op with
  | fs => exact .inl begun
  | _ => exact begun

/-- The handshake is the one of the job. -/
theorem greets {op : ControlOp} {answer : op.Res} {net : Net}
    (flawless : Flawless scene job dataPorts lifetime phase world)
    (moved : Net.controlSem scene False op world.net answer net) : job.Greets op answer := by
  cases op with
  | recvFrame =>
      cases answer with
      | error error => trivial
      | ok message =>
          obtain ⟨lane, received, _⟩ := moved
          rcases received with ⟨_, next, _, answered, _⟩ | ⟨_, ⟨_, failed⟩, _⟩
          · cases answered
            exact (flawless.heralds message (List.mem_of_getElem? next)).2
          · cases failed
  | _ => trivial

section Control

variable {op : ControlOp} {answer : op.Res} {phase' : HandlePhase} {store : Store (Role Unit)}

/-- The receiver that the handler holds is in order. -/
theorem held (flawless : Flawless scene job dataPorts lifetime phase world) :
    ∀ receiver state, (phase .control).inner.holding = some (receiver, state) →
      state.params = job.receiver.params ∧ state.failed = false ∧
        (state.isComplete = true ↔ job.Whole lifetime.marked) := by
  intro receiver state holds
  have found := flawless.alive.found (.control ()) holds
  have params := (flawless.alive.good receiver state found).same
  have numChunks : state.numChunks = job.handshake.numChunks :=
    congrArg FileReceiver.Params.numChunks params
  refine ⟨params, ?_, ?_⟩
  · rw [flawless.same] at found
    exact flawless.unfailed receiver state found
  · rw [FileReceiver.isComplete_iff, numChunks, Job.Whole]
    simp only [Lifetime.marked_iff flawless.alive.one.sole found]

variable [KeyOrder]

/-- The handler leaves the receivers as they are, but for a new one. -/
theorem control_receivers (flawless : Flawless scene job dataPorts lifetime phase world)
    (turned : HandleTurn scene.server (phase .control) op answer phase')
    (acted : Store.controlSem False (Role.control ()) op world.store answer store) {receiver : ReceiverId}
    {state : FileReceiver} (found : store.receivers receiver = some state) :
    world.store.receivers receiver = some state ∨ ∃ handshake : HandshakeData,
      state = handshake.receiver scene.server.outputDir scene.server.tempDir := by
  cases op with
  | unlock other state' =>
      have holds : (roles phase (.control ())).holding = some (other, state') :=
        flawless.host.unlocks turned
      have before := flawless.alive.found (.control ()) holds
      rw [flawless.same] at before
      cases acted
      by_cases here : receiver = other
      · subst here
        cases (Function.update_self ..).symm.trans found
        exact .inl before
      · exact .inl ((Function.update_of_ne here _ _).symm.trans found)
  | newReceiver state' =>
      obtain ⟨handshake, _, announced⟩ := created_announced turned
      obtain ⟨_, same⟩ := acted
      subst same announced
      by_cases here : receiver = answer
      · subst here
        cases (Function.update_self ..).symm.trans found
        exact .inr ⟨handshake, rfl⟩
      · exact .inl ((Function.update_of_ne here _ _).symm.trans found)
  | lock | fs =>
      obtain ⟨_, _, same⟩ := acted
      subst same
      exact .inl found
  | _ =>
      cases acted
      exact .inl found

/-- The resume section marks nothing. -/
theorem control_unrecovered (flawless : Flawless scene job dataPorts lifetime phase world)
    (turned : HandleTurn scene.server (phase .control) op answer phase') :
    (job.noteControl lifetime store op).recovered = ∅ := by
  cases op with
  | unlock receiver state =>
      rw [Set.eq_empty_iff_forall_notMem]
      intro idx member
      by_cases resumed : lifetime.resumed
      · have recovered := member.1 resumed
        rw [flawless.unrecovered] at recovered
        exact recovered
      · have unserved : (roles phase (.control ())).Unserved := by
          by_contra served
          exact resumed (flawless.alive.run.mpr served)
        have holds : (roles phase (.control ())).holding = some (receiver, state) :=
          flawless.host.unlocks turned
        have found := flawless.alive.found (.control ()) holds
        exact flawless.alive.one.fresh unserved receiver state found idx (member.2 resumed)
  | _ => exact flawless.unrecovered

/-- Before the resume section has been left no file has changed. -/
theorem control_clean (flawless : Flawless scene job dataPorts lifetime phase world)
    (turned : HandleTurn scene.server (phase .control) op answer phase')
    (acted : Store.controlSem False (Role.control ()) op world.store answer store)
    (unserved : phase'.inner.Unserved) : job.Untouched store.fs := by
  have before := turned.inner.unserved unserved
  have files : store.fs = world.store.fs := by
    cases op with
    | fs op => exact flawless.host.reads turned acted before
    | lock =>
        obtain ⟨_, _, same⟩ := acted
        subst same
        rfl
    | newReceiver =>
        obtain ⟨_, same⟩ := acted
        subst same
        rfl
    | _ =>
        cases acted
        rfl
  rw [files]
  exact flawless.clean before

/-- A port of a spawned task stays registered until every chunk is there. -/
theorem control_posts {net : Net} (flawless : Flawless scene job dataPorts lifetime phase world)
    (turned : HandleTurn scene.server (phase .control) op answer phase')
    (acted : Store.controlSem False (Role.control ()) op world.store answer store)
    (tends : Tends world.store.registry world.net net) :
    job.Whole lifetime.marked ∨
      ∀ task port, net.tasks task = some port → store.registry port ≠ none := by
  rcases flawless.posts with whole | posts
  · exact .inl whole
  have served : ∀ task port, net.tasks task = some port → world.store.registry port ≠ none :=
    fun task port found => (tends.tasks task port found).elim (posts task port) id
  cases op with
  | removeReceiver port =>
      obtain ⟨finished, begun⟩ := flawless.host.removes turned
      have attends := flawless.alive.control
      rw [show roles phase (.control ()) = .finished from finished] at attends
      exact .inl (attends begun).1
  | registerReceivers ports receiver =>
      cases acted
      refine .inr fun task port found => ?_
      dsimp only
      split
      · nofun
      · exact served task port found
  | lock | fs =>
      obtain ⟨_, _, same⟩ := acted
      subst same
      exact .inr served
  | newReceiver =>
      obtain ⟨_, same⟩ := acted
      subst same
      exact .inr served
  | _ =>
      cases acted
      exact .inr served

end Control

theorem control_step [KeyOrder] {op : ControlOp} {answer : op.Res} {phase' : HandlePhase}
    (clear : scene.Clear job files) (concord : Concord scene ⟨phase, world⟩)
    (flawless : Flawless scene job dataPorts lifetime phase world)
    (turned : HandleTurn scene.server (phase .control) op answer phase')
    (acted : scene.sem False .control op world answer world') :
    ∃ lifetime, Flawless scene job dataPorts lifetime (Function.update phase .control phase') world' := by
  obtain ⟨store, net, stored, moved, same⟩ := acted
  subst same
  have stored' : Store.controlSem False (Role.control ()) op lifetime.store answer store := by
    rw [flawless.same]
    exact stored
  have inner : ControlTurn job.config (roles phase (.control ())) op answer phase'.inner := by
    rw [clear.server]
    exact turned.inner
  have alive := flawless.alive.control_step inner stored' (flawless.greets moved)
  have more : lifetime.marked ⊆ (job.noteControl lifetime store op).marked := by
    intro idx marked
    rw [Lifetime.marked, noteControl_store]
    exact flawless.alive.one.orderly.control_marks inner stored' marked
  have attends := flawless.alive.control
  rw [flawless.same] at attends
  have handles : HandleAt scene lifetime.marked world.net.control (phase .control) := by
    rw [Lifetime.marked, flawless.same]
    exact concord.handler
  have greeted : Greeted scene lifetime.marked world.net.control := by
    rw [Lifetime.marked, flawless.same]
    exact concord.greeted
  obtain ⟨host, reception, tends⟩ := flawless.host.turn clear turned stored moved flawless.held
    flawless.clean attends flawless.heralds (fun left => (flawless.stays left).1) handles greeted
    flawless.reception
  have further : Finished (phase .control) lifetime →
      Finished phase' (job.noteControl lifetime store op) := fun finished =>
    ⟨inner.finished finished.1, noteControl_assembling finished.2⟩
  refine ⟨job.noteControl lifetime store op, ?_⟩
  constructor
  · exact noteControl_store
  · rw [roles_control]
    exact alive
  · exact flawless.control_unrecovered turned
  · rw [noteControl_sent, tends.links]
    exact flawless.sent
  · intro receiver state found
    rcases flawless.control_receivers turned stored found with earlier | ⟨handshake, same⟩
    · exact flawless.unfailed receiver state earlier
    · rw [same]
      rfl
  · intro unserved
    rw [Function.update_self] at unserved
    exact flawless.control_clean turned stored unserved
  · rw [Function.update_self]
    exact host.mono id rfl rfl rfl more noteControl_assembling
  · rw [Function.update_self]
    exact flawless.main.mono tends.heard further
  · exact flawless.staff.mono tends.listening
  · rw [Function.update_self]
    exact reception.mono rfl (fun _ => id) rfl id (And.imp_right noteControl_assembling)
  · rw [Heralds, tends.written]
    exact flawless.heralds
  · rw [Function.update_self]
    exact fun left => further (flawless.stays (tends.hungUp.symm.trans left))
  · rw [tends.links]
    exact flawless.works
  · rw [tends.links]
    exact flawless.idle
  · rw [tends.links, tends.backlog]
    exact flawless.unread
  · intro task
    refine (flawless.serving task).mono (congrFun tends.serves task) (fun worker _ => ?_) fun worker _ => ?_
    · rw [tends.links]
    · rw [tends.links]
      exact id
  · exact fun task port serve there => tends.kept task port (flawless.bound task port serve there)
  · exact (flawless.control_posts turned stored tends).imp_left fun whole idx inRange =>
      more (whole idx inRange)
  · exact flawless.replying.mono (fun _ _ => id) (fun _ => by rw [tends.links]) tends.serves

end Flawless

end Flawless

end BeeSync.EndToEnd
