import BeeSync.EndToEnd.Errand

/-!
# What a worker says when nothing fails

A worker asks once, and sends its chunks in their order, each of them once. It never hears
anything but what it waits for.
-/

set_option autoImplicit false

namespace BeeSync.EndToEnd

open Arithmetic Encoding Interaction Server

/-- The chunks in some frames. -/
def carried (frames : List Bytes) : List Nat := frames.filterMap headerIndex

@[simp] theorem carried_append (frames others : List Bytes) :
    carried (frames ++ others) = carried frames ++ carried others :=
  List.filterMap_append ..

/-- The answer to a query is short, and a chunk is acknowledged. -/
structure Grants (request reply : Bytes) : Prop where
  short : reply.length ≤ Frame.maxPayload
  acknowledged : request ≠ [Chunk.queryMagic] → reply = [Chunk.ackOk]

/-- Both ends are there. -/
structure Link.Open (link : Link) : Prop where
  here : link.hungUp = false
  there : link.dropped = false

section Says

variable [Blake3] (job : Job)

/-- Some chunks have been sent, and some are still to come. -/
structure Says (frames : List Bytes) (pending chunks : List Nat) : Prop where
  honest : ∀ frame ∈ frames, frame = [Chunk.queryMagic] ∨
    ∃ idx < job.handshake.numChunks, frame = job.frame idx
  order : (carried frames ++ pending).Sublist chunks

/-- How far a worker has come with its chunks. -/
def WorkAt (config : Client.WorkerConfig) (link : Link) : Client.WorkerPhase → Prop
  | .waiting | .begun _ | .connecting _ => link = .fresh
  | .asking _ => link.up.written = [] ∧ link.Open
  | .asked _ => Says job link.up.written config.chunkIndices config.chunkIndices ∧ link.Open
  | .between _ _ rest result => Says job link.up.written rest config.chunkIndices ∧ link.Open ∧
      result.failList = []
  | .opening round offset size | .reading round offset size =>
      Says job link.up.written (round.idx :: round.rest) config.chunkIndices ∧ link.Open ∧
        round.result.failList = [] ∧ offset = round.idx * job.handshake.chunkSize ∧
          size = (job.chunk round.idx).length
  | .attempting round parts _ =>
      Says job link.up.written (round.idx :: round.rest) config.chunkIndices ∧ link.Open ∧
        round.result.failList = [] ∧ parts.flatten = job.frame round.idx
  | .sent round parts _ | .awaiting round parts _ =>
      Says job link.up.written round.rest config.chunkIndices ∧ link.Open ∧
        round.result.failList = [] ∧ parts.flatten = job.frame round.idx
  | .failing _ | .closing _ => False
  | .finishing outcome => Says job link.up.written [] config.chunkIndices ∧
      ∃ done, outcome = some ⟨done, []⟩
  | .finished => Says job link.up.written [] config.chunkIndices

variable {job} {frames : List Bytes} {pending chunks : List Nat} {idx : Nat}

namespace Says

theorem query : Says job [[Chunk.queryMagic]] chunks chunks :=
  ⟨fun _ member => .inl (List.mem_singleton.mp member), .refl _⟩

theorem skip (said : Says job frames (idx :: pending) chunks) : Says job frames pending chunks :=
  ⟨said.honest, ((List.Sublist.refl _).append (List.sublist_cons_self ..)).trans said.order⟩

theorem given (said : Says job frames (idx :: pending) chunks) : idx ∈ chunks :=
  said.order.mem (List.mem_append_right _ List.mem_cons_self)

/-- The next chunk is sent. -/
theorem send (said : Says job frames (idx :: pending) chunks) (inRange : idx < job.handshake.numChunks) :
    Says job (frames ++ [job.frame idx]) pending chunks := by
  constructor
  · intro frame member
    rcases List.mem_append.mp member with earlier | last
    · exact said.honest frame earlier
    · exact .inr ⟨idx, inRange, List.mem_singleton.mp last⟩
  · have one : carried [job.frame idx] = [idx] := by
      simp [carried, Job.headerIndex_frame inRange]
    rw [carried_append, one, List.append_assoc]
    exact said.order

theorem carried_sublist (said : Says job frames pending chunks) : (carried frames).Sublist chunks :=
  (List.sublist_append_left ..).trans said.order

theorem done (said : Says job frames pending chunks) : Says job frames [] chunks :=
  ⟨said.honest, by simpa using said.carried_sublist⟩

end Says

end Says

section Fine

variable {closed : Bool} {lane lane' : Lane Bytes}

/-- What is received is the next frame. -/
theorem Receives.fine {answer : Except IoError Bytes}
    (received : Receives False closed lane answer lane')
    (short : ∀ frame, lane.next = some frame → frame.length ≤ Frame.maxPayload)
    (waits : closed = true → lane.next ≠ none) :
    ∃ frame, lane.next = some frame ∧ answer = .ok frame ∧ lane' = lane.advance := by
  rcases received with ⟨frame, next, _, answered, same⟩ | ⟨fails | ⟨frame, next, long⟩ | ⟨ended, nothing⟩, _⟩
  · exact ⟨frame, next, answered, same⟩
  · exact fails.elim
  · exact absurd (short frame next) (not_le.mpr long)
  · exact absurd nothing (waits ended)

theorem Sends.fine {payload : Bytes} {answer : Except IoError Unit}
    (sent : Sends False closed lane payload answer lane') (opened : closed = false) :
    answer = .ok () ∧ lane' = lane.write payload := by
  rcases sent with fine | ⟨fails | ended, _⟩
  · exact fine
  · exact fails.elim
  · cases opened.symm.trans ended

/-- The reply that a worker waits for. -/
theorem Grants.heard {link : Link} {request : Bytes} {answer : Except IoError Bytes} {lane : Lane Bytes}
    (inStep : link.exchange.InStep Grants) (awaits : link.exchange.Awaits request) (open_ : link.Open)
    (received : Receives False link.dropped link.down answer lane) :
    ∃ reply, answer = .ok reply ∧ Grants request reply ∧ lane = link.down.advance := by
  obtain ⟨reply, next, answered, same⟩ := received.fine
    (fun frame next => (inStep.heard_matches awaits next).1.short)
    fun dropped => by cases open_.there.symm.trans dropped
  exact ⟨reply, answered, (inStep.heard_matches awaits next).1, same⟩

end Fine

section Steps

variable [Blake3] {scene : Scene} {job : Job} {files : Fs FilePath} {dataPorts : List UInt16}
  {config : Client.WorkerConfig} {worker : Nat} {phase phase' : Client.WorkerPhase}
  {net net' : Net} {done : Nat → Prop}

/-- A step of a worker goes well. -/
theorem WorkAt.turn {session session' : Client.Session} {op : Client.WorkerOp} {answer : op.Res}
    (clear : scene.Clear job files) (hired : Hired scene dataPorts worker config)
    (turned : Client.WorkerTurn phase op answer phase')
    (acted : Client.Session.workerSem worker op session answer session')
    (moved : Net.workerSem scene False worker op net answer net')
    (quiet : session.shutdown = false) (listening : net.listening config.port = true)
    (inStep : (net.links worker).exchange.InStep Grants)
    (accounts : Accounts done (session.shutdown = false) (net.links worker).exchange config phase)
    (accounts' : Accounts done (session'.shutdown = false) (net'.links worker).exchange config phase')
    (stands : WorkAt job config (net.links worker) phase) :
    WorkAt job config (net'.links worker) phase' := by
  have running : ∀ {goal : Prop}, true = session.shutdown → goal := by
    intro goal stopped
    cases stopped.trans quiet
  have link_eq : ∀ link : Link, (net.setLink worker link).links worker = link :=
    fun link => Function.update_self ..
  have inRange : ∀ {idx rest}, Says job (net.links worker).up.written (idx :: rest) config.chunkIndices →
      idx < scene.numChunks := fun said => hired.inRange said.given
  cases turned with
  | start config' =>
      subst moved
      exact stands
  | dismissed => exact running acted.1
  | begin_ =>
      subst moved
      exact stands
  | connect =>
      rcases moved with ⟨_, _, same⟩ | ⟨_, ⟨_, failed⟩, _⟩
      · subst same
        rw [show (net.connect worker _).links worker = .fresh from Function.update_self ..]
        exact ⟨rfl, rfl, rfl⟩
      · cases failed
  | unreachable error =>
      cases accounts
      rcases moved with ⟨succeeded, _⟩ | ⟨fails | closed, _⟩
      · cases succeeded
      · exact fails.elim
      · cases listening.symm.trans closed
  | ask =>
      obtain ⟨lane, sent, same⟩ := moved
      obtain ⟨_, written⟩ := sent.fine stands.2.there
      subst same written
      rw [link_eq]
      have query : ((net.links worker).up.write [Chunk.queryMagic]).written = [[Chunk.queryMagic]] := by
        simp [Lane.write, stands.1]
      refine ⟨?_, stands.2.here, stands.2.there⟩
      rw [query]
      exact .query
  | mute error =>
      obtain ⟨lane, sent, _⟩ := moved
      cases (sent.fine stands.2.there).1
  | told resp already parsed =>
      obtain ⟨lane, received, same⟩ := moved
      subst same
      rw [link_eq]
      cases accounts.1
      exact ⟨stands.1, ⟨stands.2.here, stands.2.there⟩, rfl⟩
  | panic resp parsed =>
      cases acted
      obtain ⟨result, none_, _⟩ := accounts' quiet
      cases none_
  | deaf error =>
      obtain ⟨lane, received, _⟩ := moved
      obtain ⟨reply, answered, _⟩ := Grants.heard inStep accounts.2 stands.2 received
      cases answered
  | stop => exact running acted.1
  | skip known =>
      subst moved
      exact ⟨stands.1.skip, stands.2⟩
  | outside ranged =>
      cases accounts.1
      rw [hired.fileSize, hired.chunkSize, clear.chunkRange (inRange stands.1)] at ranged
      cases ranged
  | take unknown ranged =>
      subst moved
      cases accounts.1
      rw [hired.fileSize, hired.chunkSize, clear.chunkRange (inRange stands.1)] at ranged
      cases ranged
      exact ⟨stands.1, stands.2.1, stands.2.2, by rw [clear.chunkSize], rfl⟩
  | open_ =>
      obtain ⟨_, same⟩ := moved
      subst same
      exact stands
  | unopened error =>
      obtain ⟨⟨⟨_, opened⟩, _⟩, _⟩ := moved
      rcases opened with ⟨_, succeeded⟩ | ⟨missing | fails, _⟩
      · cases succeeded
      · rw [accounts.1, hired.filepath, scene.found] at missing
        cases missing
      · exact fails.elim
  | @read round offset size data =>
      obtain ⟨⟨⟨_, read⟩, filled⟩, same⟩ := moved
      subst same
      obtain ⟨said, open_, failed, rfl, rfl⟩ := stands
      rcases read with ⟨piece, answered, isPiece⟩ | ⟨fails, _⟩
      · cases answered
        have filled := filled.resolve_left id
        rw [Net.Fills] at filled
        rw [accounts.1, hired.filepath, scene.found, Option.getD_some, clear.chunkSize] at filled isPiece
        have whole := clear.filled isPiece filled
        subst whole
        have attempts : round.config.retries ≠ 0 := by
          rw [accounts.1, hired.retries]
          exact clear.retries.ne'
        obtain ⟨remaining, retries⟩ := Nat.exists_eq_succ_of_ne_zero attempts
        rw [retries]
        exact ⟨said, open_, failed, rfl⟩
      · exact fails.elim
  | unread error =>
      obtain ⟨⟨⟨_, read⟩, _⟩, _⟩ := moved
      rcases read with ⟨_, succeeded, _⟩ | ⟨fails, _⟩
      · cases succeeded
      · exact fails.elim
  | send =>
      obtain ⟨lane, sent, same⟩ := moved
      obtain ⟨said, open_, failed, frame⟩ := stands
      obtain ⟨_, written⟩ := sent.fine open_.there
      subst same written
      rw [link_eq]
      refine ⟨?_, ⟨open_.here, open_.there⟩, failed, frame⟩
      dsimp only [Lane.write]
      rw [frame]
      exact said.send (by rw [clear.numChunks]; exact inRange said)
  | unsent error =>
      obtain ⟨lane, sent, _⟩ := moved
      cases (sent.fine stands.2.1.there).1
  | interrupted => exact running acted.1
  | wait =>
      subst moved
      exact stands
  | acked rest =>
      obtain ⟨lane, received, same⟩ := moved
      obtain ⟨said, open_, failed, _⟩ := stands
      subst same
      rw [link_eq]
      exact ⟨said, ⟨open_.here, open_.there⟩, failed⟩
  | refused ack other =>
      obtain ⟨lane, received, _⟩ := moved
      obtain ⟨_, open_, _, frame⟩ := stands
      obtain ⟨reply, answered, grants, _⟩ := Grants.heard inStep accounts.2.1 open_ received
      cases answered
      have ack_ok := grants.acknowledged (by rw [frame]; exact Job.frame_ne_query)
      exact absurd (congrArg List.head? ack_ok) other
  | unacked error =>
      obtain ⟨lane, received, _⟩ := moved
      obtain ⟨reply, answered, _⟩ := Grants.heard inStep accounts.2.1 stands.2.1 received
      cases answered
  | fail => exact stands.elim
  | @done config' already result =>
      obtain ⟨said, _, failed⟩ := stands
      subst moved
      rw [link_eq]
      refine ⟨said, result.okList, ?_⟩
      rw [← failed]
  | close => exact stands.elim
  | finish =>
      subst moved
      exact stands.1

theorem WorkAt.dials {host : String} {port : UInt16} {answer : Except IoError Unit} {link : Link}
    (turned : Client.WorkerTurn phase (.connect host port) answer phase')
    (stands : WorkAt job config link phase) : link = .fresh := by
  cases turned with
  | connect | unreachable => exact stands

/-- A worker does not notice what its peer does, unless the peer leaves. -/
theorem WorkAt.mono {link link' : Link} (stands : WorkAt job config link phase)
    (undialled : ¬ Dialled phase → link' = link) (written : link'.up.written = link.up.written)
    (here : link'.hungUp = link.hungUp)
    (there : link.hungUp = false → link'.dropped = link.dropped) : WorkAt job config link' phase := by
  have opened : link.Open → link'.Open := fun open_ =>
    ⟨here.trans open_.here, (there open_.here).trans open_.there⟩
  cases phase with
  | waiting | begun | connecting => exact (undialled id).trans stands
  | asking => exact ⟨written.trans stands.1, opened stands.2⟩
  | asked => exact ⟨written ▸ stands.1, opened stands.2⟩
  | between | opening | reading | attempting | sent | awaiting =>
      exact ⟨written ▸ stands.1, opened stands.2.1, stands.2.2⟩
  | failing | closing => exact stands
  | finishing | finished =>
      rw [WorkAt, written]
      exact stands

/-- A worker that has been given chunks has said nothing else. -/
theorem WorkAt.said {link : Link} (stands : WorkAt job config link phase) :
    Says job link.up.written [] config.chunkIndices := by
  have nothing : Says job [] [] config.chunkIndices := ⟨nofun, List.nil_sublist _⟩
  cases phase with
  | waiting | begun | connecting =>
      cases stands
      exact nothing
  | asking =>
      rw [stands.1]
      exact nothing
  | asked | between | opening | reading | attempting | sent | awaiting => exact stands.1.done
  | failing | closing => exact stands.elim
  | finishing => exact stands.1
  | finished => exact stands

end Steps

/-- What a worker leaves alone. -/
structure Spares (worker : Nat) (net net' : Net) : Prop where
  control : net'.control = net.control
  listening : net'.listening = net.listening
  tasks : net'.tasks = net.tasks
  serves : net'.serves = net.serves
  permits : net'.permits = net.permits
  backlog : ∀ port other, other ∈ net'.backlog port → other ∈ net.backlog port ∨ other = worker ∧
    (net'.links worker).up.read = 0
  others : ∀ other, other ≠ worker → net'.links other = net.links other
  read : (net'.links worker).up.read = (net.links worker).up.read
  written : (net.links worker).up.written <+: (net'.links worker).up.written
  hungUp : (net.links worker).hungUp = true → (net'.links worker).hungUp = true

namespace Spares

variable {worker : Nat} {net net' : Net}

theorem refl (worker : Nat) (net : Net) : Spares worker net net :=
  ⟨rfl, rfl, rfl, rfl, rfl, fun _ _ => .inl, fun _ _ => rfl, rfl, List.prefix_rfl, id⟩

theorem setLink {link : Link} (read : link.up.read = (net.links worker).up.read)
    (written : (net.links worker).up.written <+: link.up.written)
    (hungUp : (net.links worker).hungUp = true → link.hungUp = true) :
    Spares worker net (net.setLink worker link) := by
  have here : (net.setLink worker link).links worker = link := Function.update_self ..
  refine ⟨rfl, rfl, rfl, rfl, rfl, fun _ _ => .inl,
    fun other different => Function.update_of_ne different _ _, ?_, ?_, ?_⟩
  · rw [here]
    exact read
  · rw [here]
    exact written
  · rw [here]
    exact hungUp

theorem connect (fresh : net.links worker = .fresh) (port : UInt16) :
    Spares worker net (net.connect worker port) := by
  have here : (net.connect worker port).links worker = .fresh := Function.update_self ..
  refine ⟨rfl, rfl, rfl, rfl, rfl, fun other member listed => ?_,
    fun other different => Function.update_of_ne different _ _, ?_, ?_, ?_⟩
  · rw [here]
    by_cases same : other = port
    · simp only [Net.connect, same, Function.update_self, List.mem_append, List.mem_singleton] at listed
      rw [same]
      exact listed.imp_right fun last => ⟨last, rfl⟩
    · simp only [Net.connect, Function.update_of_ne same] at listed
      exact .inl listed
  · rw [here, fresh]
  · rw [here, fresh]
  · rw [here, fresh]
    exact id

theorem step {scene : Scene} {op : Client.WorkerOp} {answer : op.Res}
    (moved : Net.workerSem scene False worker op net answer net')
    (fresh : ∀ host port, op = .connect host port → net.links worker = .fresh) :
    Spares worker net net' := by
  cases op with
  | connect host port =>
      rcases moved with ⟨_, _, same⟩ | ⟨_, _, same⟩
      · subst same
        exact .connect (fresh host port rfl) port
      · subst same
        exact .refl ..
  | sendFrame | sendParts =>
      obtain ⟨lane, sent, same⟩ := moved
      subst same
      rcases sent with ⟨_, written⟩ | ⟨_, _, kept⟩
      · subst written
        exact .setLink rfl (List.prefix_append ..) id
      · subst kept
        exact .setLink rfl List.prefix_rfl id
  | recvFrame =>
      obtain ⟨lane, _, same⟩ := moved
      subst same
      exact .setLink rfl List.prefix_rfl id
  | fs =>
      obtain ⟨_, same⟩ := moved
      subst same
      exact .refl ..
  | closeStream =>
      cases moved
      exact .setLink rfl List.prefix_rfl fun _ => rfl
  | start | loadShutdown | storeShutdown | finish =>
      cases moved
      exact .refl ..

end Spares

end BeeSync.EndToEnd
