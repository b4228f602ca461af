import BeeSync.Client.Distribution
import BeeSync.EndToEnd.WorkerAccounts

/-!
# What the main task knows of the chunks

Every chunk that is announced is given to a worker, the main task joins every worker it has
spawned, and it asks for the final status only if none of them has reported a failure.
-/

set_option autoImplicit false

namespace BeeSync.EndToEnd

open Arithmetic Encoding Interaction Server

/-- The workers as the session has them. -/
structure Working [Blake3] (done : Nat → Prop) (workers : Nat → Client.WorkerPhase)
    (session : Client.Session) (net : Net) : Prop where
  accounts : ∀ worker config, session.spawned worker = some config →
    Accounts done (session.shutdown = false) (net.links worker).exchange config (workers worker)
  unspawned : ∀ worker, session.spawned worker = none → workers worker = .waiting
  unfinished : ∀ worker, workers worker ≠ .finished → session.finished worker = none
  reports : ∀ worker config outcome, session.spawned worker = some config →
    session.finished worker = some outcome → session.shutdown = false → Reports done config outcome

/-- What the server answers to the handshake. -/
def Responds (scene : Scene) (marked : Nat → Prop) (data : Bytes) : Prop :=
  ∃ status ports, data = handshakeResponse status ports ∧
    (status = Handshake.respOk → ports.length = min scene.numChunks scene.server.maxParallel) ∧
      (status = Handshake.respComplete → ∀ idx < scene.numChunks, marked idx)

theorem Responds.mono {scene : Scene} {marked marked' : Nat → Prop}
    (more : ∀ idx, marked idx → marked' idx) {data : Bytes} (responds : Responds scene marked data) :
    Responds scene marked' data := by
  obtain ⟨status, ports, same, counted, whole⟩ := responds
  exact ⟨status, ports, same, counted, fun complete idx inRange => more idx (whole complete idx inRange)⟩

/-- Every chunk has been given to a worker. -/
def Covered (scene : Scene) (session : Client.Session) : Prop :=
  ∀ idx < scene.numChunks, ∃ worker config, session.spawned worker = some config ∧
    idx ∈ config.chunkIndices

/-- Some workers are still to be spawned. -/
structure Spawns (scene : Scene) (session : Client.Session) (assigned : List (List Nat × Nat))
    (handles : List Nat) : Prop where
  listed : ∀ worker, session.spawned worker ≠ none → worker ∈ handles
  fresh : ∀ entry ∈ assigned, session.spawned entry.2 = none
  distinct : (assigned.map Prod.snd).Nodup
  covered : ∀ idx < scene.numChunks, (∃ entry ∈ assigned, idx ∈ entry.1) ∨
    ∃ worker config, session.spawned worker = some config ∧ idx ∈ config.chunkIndices

/-- All workers have been spawned, and some of them are still to be joined. -/
structure Joins (scene : Scene) (session : Client.Session) (handles failed : List Nat) : Prop where
  covered : Covered scene session
  joined : ∀ worker config, session.spawned worker = some config → worker ∈ handles ∨
    ∃ outcome, session.finished worker = some outcome ∧
      ∀ idx ∈ Client.Session.reported outcome, idx ∈ failed

/-- The file has been measured, and nobody has been told of it. -/
structure Unsaid (session : Client.Session) (control : Link) : Prop where
  unspawned : ∀ worker, session.spawned worker = none
  unsent : control.up.written = []
  unheard : control.down.read = 0

section Main

variable [Blake3] (scene : Scene) (marked : Nat → Prop) (session : Client.Session) (control : Link)

def MainAt : Client.MainPhase → Prop
  | .starting | .found => Unsaid session control
  | .sized fileSize => fileSize = scene.source.length ∧ Unsaid session control
  | .connected fileSize name => fileSize = scene.source.length ∧ Unsaid session control ∧
      fileName scene.client.filepath = some name
  | .opening fileSize name announced => fileSize = scene.source.length ∧ Unsaid session control ∧
      fileName scene.client.filepath = some name ∧ announced = scene.source.length
  | .hashing fileSize name announced absorbed => fileSize = scene.source.length ∧
      Unsaid session control ∧ fileName scene.client.filepath = some name ∧
        announced = scene.source.length ∧ absorbed = scene.source.take absorbed.length
  | .greeting fileSize message => fileSize = scene.source.length ∧ Unsaid session control ∧
      scene.Greets message
  | .greeted fileSize => fileSize = scene.source.length ∧
      (∀ worker, session.spawned worker = none) ∧ control.down.read = 0
  | .spawning _ _ chunks worker rest handles => Spawns scene session ((chunks, worker) :: rest) handles
  | .joining worker handles failed => Joins scene session (worker :: handles) failed
  | .deciding failed => Joins scene session [] failed
  | .confirming => ∀ idx < scene.numChunks, marked idx
  | .ending _ | .ended _ => True

end Main

section Rules

variable [Blake3] {scene : Scene} {marked marked' : Nat → Prop} {session session' : Client.Session}
  {control control' : Link}

/-- The main task does not notice what the others do. -/
theorem MainAt.mono {phase : Client.MainPhase} (stands : MainAt scene marked session control phase)
    (more : ∀ idx, marked idx → marked' idx) (spawned : session'.spawned = session.spawned)
    (finished : ∀ worker outcome, session.finished worker = some outcome →
      session'.finished worker = some outcome)
    (written : control'.up.written = control.up.written)
    (read : control'.down.read = control.down.read) :
    MainAt scene marked' session' control' phase := by
  have unsaid : Unsaid session control → Unsaid session' control' := fun unsaid =>
    ⟨spawned ▸ unsaid.unspawned, written ▸ unsaid.unsent, read ▸ unsaid.unheard⟩
  have joins : ∀ {handles failed}, Joins scene session handles failed →
      Joins scene session' handles failed := by
    intro handles failed joins
    refine ⟨?_, fun worker config found => ?_⟩
    · rw [Covered, spawned]
      exact joins.covered
    · rw [spawned] at found
      obtain listed | ⟨outcome, ended, kept⟩ := joins.joined worker config found
      · exact .inl listed
      · exact .inr ⟨outcome, finished worker outcome ended, kept⟩
  cases phase with
  | starting | found => exact unsaid stands
  | sized => exact ⟨stands.1, unsaid stands.2⟩
  | connected | opening | hashing | greeting => exact ⟨stands.1, unsaid stands.2.1, stands.2.2⟩
  | greeted => exact ⟨stands.1, spawned ▸ stands.2.1, read.trans stands.2.2⟩
  | spawning =>
      obtain ⟨listed, fresh, distinct, covered⟩ := stands
      exact ⟨spawned ▸ listed, spawned ▸ fresh, distinct, spawned ▸ covered⟩
  | joining | deciding => exact joins stands
  | confirming => exact fun idx inRange => more idx (stands idx inRange)
  | ending | ended => trivial

theorem Joins.phase {handles failed : List Nat} (joins : Joins scene session handles failed) :
    MainAt scene marked session control (.join failed handles) := by
  cases handles <;> exact joins

/-- Workers without chunks are not spawned. -/
theorem Spawns.phase {assigned : List (List Nat × Nat)} {handles : List Nat} (fileSize : Nat)
    (dataPorts : List UInt16) (spawns : Spawns scene session assigned handles) :
    MainAt scene marked session control (.spawn fileSize dataPorts handles assigned) := by
  induction assigned with
  | nil =>
      refine Joins.phase ⟨fun idx inRange => ?_, fun worker config found => .inl ?_⟩
      · obtain ⟨entry, listed, _⟩ | covered := spawns.covered idx inRange
        · cases listed
        · exact covered
      · exact spawns.listed worker (by rw [found]; nofun)
  | cons entry rest ih =>
      obtain ⟨chunks, worker⟩ := entry
      cases chunks with
      | cons idx chunks => exact spawns
      | nil =>
          obtain ⟨listed, fresh, distinct, covered⟩ := spawns
          refine ih ⟨listed, fun entry member => fresh entry (List.mem_cons_of_mem _ member),
            (List.nodup_cons.mp distinct).2, fun idx inRange => ?_⟩
          obtain ⟨entry, member, contains⟩ | earlier := covered idx inRange
          · obtain rfl | member := List.mem_cons.mp member
            · cases contains
            · exact .inl ⟨entry, member, contains⟩
          · exact .inr earlier

omit [Blake3] in
/-- A worker is spawned. -/
theorem Spawns.spawn {chunks handles : List Nat} {worker : Nat} {rest : List (List Nat × Nat)}
    (spawns : Spawns scene session ((chunks, worker) :: rest) handles) {config : Client.WorkerConfig}
    (given : config.chunkIndices = chunks) :
    Spawns scene { session with spawned := Function.update session.spawned worker (some config) }
      rest (handles ++ [worker]) := by
  obtain ⟨listed, fresh, distinct, covered⟩ := spawns
  obtain ⟨new, distinct⟩ := List.nodup_cons.mp distinct
  constructor
  · intro other found
    by_cases same : other = worker
    · exact List.mem_append_right _ (List.mem_singleton.mpr same)
    · refine List.mem_append_left _ (listed other ?_)
      rwa [← Function.update_of_ne same (some config) session.spawned]
  · intro entry member
    have different : entry.2 ≠ worker := by
      intro same
      exact new (List.mem_map.mpr ⟨entry, member, same⟩)
    exact (Function.update_of_ne different _ _).trans (fresh entry (List.mem_cons_of_mem _ member))
  · exact distinct
  · intro idx inRange
    obtain ⟨entry, member, contains⟩ | ⟨other, config', found, contains⟩ := covered idx inRange
    · obtain rfl | member := List.mem_cons.mp member
      · exact .inr ⟨worker, config, Function.update_self .., given ▸ contains⟩
      · exact .inl ⟨entry, member, contains⟩
    · refine .inr ⟨other, config', ?_, contains⟩
      have different : other ≠ worker := by
        rintro rfl
        cases found.symm.trans (fresh _ List.mem_cons_self)
      exact (Function.update_of_ne different _ _).trans found

omit [Blake3] in
/-- A worker is joined. -/
theorem Joins.join {worker : Nat} {handles failed : List Nat} {outcome : Option Client.WorkerResult}
    (joins : Joins scene session (worker :: handles) failed)
    (finished : session.finished worker = some outcome) :
    Joins scene session handles (failed ++ Client.Session.reported outcome) := by
  refine ⟨joins.covered, fun other config found => ?_⟩
  obtain listed | ⟨outcome', ended, kept⟩ := joins.joined other config found
  · obtain rfl | listed := List.mem_cons.mp listed
    · exact .inr ⟨outcome, finished, fun idx => List.mem_append_right _⟩
    · exact .inl listed
  · exact .inr ⟨outcome', ended, fun idx member => List.mem_append_left _ (kept idx member)⟩

/-- No worker has failed, so the server has every chunk. -/
theorem Joins.whole {workers : Nat → Client.WorkerPhase} {net : Net}
    (joins : Joins scene session [] []) (working : Working (Done scene.numChunks marked) workers session net)
    (quiet : session.shutdown = false) : ∀ idx < scene.numChunks, marked idx := by
  intro idx inRange
  obtain ⟨worker, config, found, given⟩ := joins.covered idx inRange
  obtain listed | ⟨outcome, ended, kept⟩ := joins.joined worker config found
  · cases listed
  · obtain ⟨result, same, all⟩ := working.reports worker config outcome found ended quiet
    subst same
    obtain failed | done := all idx given
    · cases kept idx failed
    · exact done inRange

end Rules

/-- The chunks find a worker and a port. -/
structure Scene.Served (scene : Scene) : Prop where
  parallel : 0 < scene.client.parallel
  ports : min scene.numChunks scene.server.maxParallel % 2 ^ 8 ≠ 0

section Steps

variable [Blake3] {scene : Scene} {marked : Nat → Prop} {session session' : Client.Session}

omit [Blake3] in
/-- The chunks are dealt to as many workers as there are ports. -/
theorem Spawns.dealt {dataPorts : List UInt16} (served : scene.Served) (ports : dataPorts ≠ [])
    (unspawned : ∀ worker, session.spawned worker = none) :
    Spawns scene session (Client.workerAssignments (Client.numChunks scene.source.length
      scene.client.chunkSize) (Client.Main.numWorkers scene.client dataPorts)).zipIdx [] := by
  have some_ : 0 < Client.Main.numWorkers scene.client dataPorts :=
    (Client.Main.numWorkers_pos ports).mpr served.parallel
  rw [Client.workerAssignments_eq some_]
  refine ⟨fun worker found => absurd (unspawned worker) found, fun entry _ => unspawned _, ?_, ?_⟩
  · rw [List.zipIdx_map_snd]
    exact List.nodup_range'
  · intro idx inRange
    have within : idx < Client.numChunks scene.source.length scene.client.chunkSize :=
      inRange.trans_le (Nat.mod_le _ _)
    have dealt := (deal_perm some_ _).mem_iff.mpr (List.mem_range.mpr within)
    obtain ⟨chunks, member, contains⟩ := List.mem_flatten.mp dealt
    obtain ⟨position, at_, same⟩ := List.mem_iff_getElem.mp member
    refine .inl ⟨(chunks, position), ?_, contains⟩
    exact List.mk_mem_zipIdx_iff_getElem?.mpr (List.getElem?_eq_some_iff.mpr ⟨at_, same⟩)

/-- What the main task makes of the answer to its handshake. -/
theorem MainAt.answered {control : Link} {data : Bytes} {status : UInt8} {dataPorts : List UInt16}
    (served : scene.Served) (responds : Responds scene marked data)
    (parsed : Client.parseResponse data = .ok (status, dataPorts))
    (unspawned : ∀ worker, session.spawned worker = none) :
    MainAt scene marked session control
      (.answered scene.client scene.source.length status dataPorts) := by
  obtain ⟨status', ports, same, counted, whole⟩ := responds
  subst same
  rw [parseResponse_handshakeResponse] at parsed
  cases parsed
  unfold Client.MainPhase.answered
  split
  · rename_i accepted
    have count := counted accepted
    have some_ : ports.take (ports.length % 2 ^ 8) ≠ [] := by
      have least : ports.length % 2 ^ 8 ≤ ports.length := Nat.mod_le _ _
      intro nothing
      have length := congrArg List.length nothing
      rw [List.length_take, List.length_nil] at length
      have ports := served.ports
      rw [← count] at ports
      omega
    rw [if_neg (by simpa using some_)]
    exact Spawns.phase _ _ (.dealt served some_ unspawned)
  · split
    · trivial
    · split
      · rename_i complete
        exact whole complete
      · trivial

/-- What the main task does to the control connection: it announces the file once. -/
def Hails (scene : Scene) (net net' : Net) : Prop :=
  ∃ link, net' = net.setControl link ∧ link.down.written = net.control.down.written ∧
    link.up.read = net.control.up.read ∧
      (link.up.written = net.control.up.written ∨ net.control.up.written = [] ∧
        ∃ message, scene.Greets message ∧ link.up.written = [message])

theorem Hails.refl (scene : Scene) (net : Net) : Hails scene net net :=
  ⟨net.control, rfl, rfl, rfl, .inl rfl⟩

variable {faults : Prop} {phase phase' : Client.MainPhase} {net net' : Net}

/-- The main task receives nothing that changes what the server hears. -/
private theorem hails_received {answer : Except IoError Bytes} {lane : Lane Bytes}
    (received : Receives faults net.control.dropped net.control.down answer lane)
    (moved : net' = net.setControl { net.control with down := lane }) : Hails scene net net' := by
  subst moved
  refine ⟨_, rfl, ?_, rfl, .inl rfl⟩
  obtain ⟨_, _, _, _, same⟩ | ⟨_, _, same⟩ := received <;> rw [same]
  rfl

theorem MainAt.turn {op : Client.MainOp} {answer : op.Res}
    (turned : Client.MainTurn scene.client phase op answer phase')
    (acted : Client.Session.mainSem op session answer session')
    (moved : Net.mainSem scene faults op net answer net') (served : scene.Served)
    (measures : Measures ⟨.main, op, answer⟩)
    (responds : ∀ data, net.control.down.written[0]? = some data → Responds scene marked data)
    {workers : Nat → Client.WorkerPhase}
    (working : Working (Done scene.numChunks marked) workers session net)
    (stands : MainAt scene marked session net.control phase) :
    MainAt scene marked session' net'.control phase' ∧ Hails scene net net' := by
  have here := scene.found
  cases turned with
  | find =>
      obtain ⟨_, same⟩ := moved
      cases acted
      subst same
      exact ⟨stands, .refl ..⟩
  | missing | unreachable | unopened | unread =>
      obtain ⟨_, same⟩ := moved
      cases acted
      subst same
      exact ⟨trivial, .refl ..⟩
  | measure result =>
      obtain ⟨measured, same⟩ := moved
      cases acted
      subst same
      rcases measured with ⟨content, found, measured⟩ | ⟨_, error, unmeasured⟩
      · cases here.symm.trans found
        subst measured
        exact ⟨⟨rfl, stands⟩, .refl ..⟩
      · subst unmeasured
        exact absurd rfl (measures _ error)
  | connect =>
      obtain ⟨_, same⟩ := moved
      cases acted
      subst same
      refine ⟨?_, .refl ..⟩
      rw [Client.MainPhase.named]
      cases named : fileName scene.client.filepath with
      | none => trivial
      | some name => exact ⟨stands.1, stands.2, named⟩
  | announce length =>
      obtain ⟨measured, same⟩ := moved
      cases acted
      subst same
      rcases measured with ⟨content, found, measured⟩ | ⟨_, error, unmeasured⟩
      · cases here.symm.trans found
        cases measured
        exact ⟨⟨stands.1, stands.2.1, stands.2.2, rfl⟩, .refl ..⟩
      · cases unmeasured
  | unmeasured =>
      obtain ⟨_, same⟩ := moved
      cases acted
      subst same
      exact ⟨trivial, .refl ..⟩
  | open_ =>
      obtain ⟨_, same⟩ := moved
      cases acted
      subst same
      obtain ⟨measured, unsaid, named, announced⟩ := stands
      exact ⟨⟨measured, unsaid, named, announced, rfl⟩, .refl ..⟩
  | absorb piece =>
      obtain ⟨⟨⟨_, read⟩, _⟩, same⟩ := moved
      cases acted
      subst same
      obtain ⟨measured, unsaid, named, announced, absorbed⟩ := stands
      refine ⟨⟨measured, unsaid, named, announced, ?_⟩, .refl ..⟩
      rcases read with ⟨piece', answered, isPiece⟩ | ⟨_, error, failed⟩
      · cases answered
        rw [here, Option.getD_some] at isPiece
        rw [List.length_append, List.take_add]
        exact congrArg₂ _ absorbed (List.prefix_iff_eq_take.mp isPiece.isPrefix)
      · cases failed
  | absorbed =>
      obtain ⟨⟨⟨_, read⟩, _⟩, same⟩ := moved
      cases acted
      subst same
      obtain ⟨measured, unsaid, named, announced, absorbed⟩ := stands
      refine ⟨⟨measured, unsaid, _, named, ?_⟩, .refl ..⟩
      rcases read with ⟨piece, answered, isPiece⟩ | ⟨_, error, failed⟩
      · cases answered
        have all := (isPiece.atEnd rfl).resolve_right (by decide)
        rw [here, Option.getD_some] at all
        rw [Scene.hail, announced, absorbed.trans (List.take_of_length_le all)]
      · cases failed
  | @greet fileSize message =>
      obtain ⟨lane, sent, same⟩ := moved
      cases acted
      subst same
      obtain ⟨measured, unsaid, greets⟩ := stands
      obtain ⟨_, same⟩ | ⟨_, ⟨_, failed⟩, _⟩ := sent
      · subst same
        refine ⟨⟨measured, unsaid.unspawned, unsaid.unheard⟩, _, rfl, rfl, rfl, .inr ?_⟩
        exact ⟨unsaid.unsent, message, greets, congrArg (· ++ [message]) unsaid.unsent⟩
      · cases failed
  | mute =>
      obtain ⟨lane, sent, same⟩ := moved
      cases acted
      subst same
      obtain ⟨succeeded, _⟩ | ⟨_, _, same⟩ := sent
      · cases succeeded
      · subst same
        exact ⟨trivial, .refl ..⟩
  | answered data status dataPorts parsed =>
      obtain ⟨lane, received, same⟩ := moved
      refine ⟨?_, hails_received received same⟩
      obtain ⟨measured, unspawned, unheard⟩ := stands
      obtain ⟨frame, next, _, heard, _⟩ | ⟨_, ⟨_, failed⟩, _⟩ := received
      · cases heard
        rw [Lane.next, unheard] at next
        cases acted
        rw [measured]
        exact .answered served (responds data next) parsed unspawned
      · cases failed
  | garbled | deaf | confirm | unconfirmed =>
      obtain ⟨lane, received, same⟩ := moved
      exact ⟨trivial, hails_received received same⟩
  | spawn =>
      cases acted
      cases moved
      exact ⟨(stands.spawn rfl).phase _ _, .refl ..⟩
  | join outcome =>
      obtain ⟨finished, same⟩ := acted
      subst same
      cases moved
      have joins : MainAt scene marked session net.control _ := (stands.join finished).phase
      exact ⟨joins.mono (fun _ => id) rfl (fun _ _ => id) rfl rfl, .refl ..⟩
  | interrupted =>
      cases moved
      exact ⟨trivial, .refl ..⟩
  | @decide failed =>
      obtain ⟨unset, same⟩ := acted
      subst same
      cases moved
      refine ⟨?_, .refl ..⟩
      cases failed with
      | nil => exact stands.whole working unset.symm
      | cons idx failed => trivial
  | close =>
      cases moved
      exact ⟨trivial, _, rfl, rfl, rfl, .inl rfl⟩

/-- A worker is spawned once. -/
theorem MainAt.fresh {worker : Nat} {config : Client.WorkerConfig} {answer : Unit} {control : Link}
    (turned : Client.MainTurn scene.client phase (.spawnWorker worker config) answer phase')
    (stands : MainAt scene marked session control phase) : session.spawned worker = none := by
  cases turned with
  | spawn => exact Spawns.fresh stands _ List.mem_cons_self

namespace Working

variable {done done' : Nat → Prop} {workers : Nat → Client.WorkerPhase}

/-- The workers do not notice what the server does. -/
theorem mono (working : Working done workers session net) (more : ∀ idx, done idx → done' idx)
    (asked : ∀ worker, (net'.links worker).up.written = (net.links worker).up.written)
    (heard : ∀ worker, (net'.links worker).down.read = (net.links worker).down.read) :
    Working done' workers session net' := by
  refine ⟨fun worker config found => ?_, working.unspawned, working.unfinished, ?_⟩
  · exact (working.accounts worker config found).mono more id (asked worker) (heard worker)
  · intro worker config outcome found ended quiet
    exact (working.reports worker config outcome found ended quiet).mono more

theorem spawn (working : Working done workers session net) {worker : Nat}
    (new : session.spawned worker = none) (config : Client.WorkerConfig) (links : net'.links = net.links) :
    Working done workers
      { session with spawned := Function.update session.spawned worker (some config) } net' := by
  have found : ∀ {other config'}, Function.update session.spawned worker (some config) other =
      some config' → other = worker ∨ session.spawned other = some config' := by
    intro other config' found
    by_cases same : other = worker
    · exact .inl same
    · exact .inr ((Function.update_of_ne same _ _).symm.trans found)
  have waiting := working.unspawned worker new
  constructor
  · intro other config' given
    rw [links]
    obtain rfl | earlier := found given
    · rw [waiting]
      trivial
    · exact working.accounts other config' earlier
  · intro other missing
    by_cases same : other = worker
    · subst same
      exact waiting
    · exact working.unspawned other ((Function.update_of_ne same _ _).symm.trans missing)
  · exact working.unfinished
  · intro other config' outcome given ended
    obtain rfl | earlier := found given
    · have never := working.unfinished other (by rw [waiting]; nofun)
      cases never.symm.trans ended
    · exact working.reports other config' outcome earlier ended

/-- The main task spawns workers that have not been spawned. -/
theorem main {op : Client.MainOp} {answer : op.Res}
    (turned : Client.MainTurn scene.client phase op answer phase')
    (acted : Client.Session.mainSem op session answer session')
    (stands : MainAt scene marked session net.control phase)
    (working : Working done workers session net) (links : net'.links = net.links) :
    Working done workers session' net' := by
  obtain ⟨accounts, unspawned, unfinished, reports⟩ := working
  cases op with
  | spawnWorker worker config =>
      cases acted
      exact spawn ⟨accounts, unspawned, unfinished, reports⟩ (stands.fresh turned) config links
  | loadShutdown | joinWorker =>
      obtain ⟨_, same⟩ := acted
      subst same
      exact ⟨links ▸ accounts, unspawned, unfinished, reports⟩
  | _ =>
      cases acted
      exact ⟨links ▸ accounts, unspawned, unfinished, reports⟩

/-- A worker that does something has been spawned. -/
theorem hires {worker : Nat} {stands : Client.WorkerPhase} {op : Client.WorkerOp} {answer : op.Res}
    (working : Working done workers session net)
    (turned : Client.WorkerTurn (workers worker) op answer stands)
    (acted : Client.Session.workerSem worker op session answer session') :
    ∃ config, session.spawned worker = some config := by
  cases found : session.spawned worker with
  | some config => exact ⟨config, rfl⟩
  | none =>
      rw [working.unspawned worker found] at turned
      cases turned
      cases found.symm.trans acted.1

/-- A worker that has not finished goes on. -/
theorem worker {worker : Nat} {stood stands : Client.WorkerPhase} {op : Client.WorkerOp}
    {answer : op.Res} (turned : Client.WorkerTurn stood op answer stands)
    (acted : Client.Session.workerSem worker op session answer session')
    (here : workers worker = stood) (working : Working done workers session net)
    (others : ∀ other, other ≠ worker → net'.links other = net.links other)
    (accounts : ∀ config, session.spawned worker = some config →
      Accounts done (session'.shutdown = false) (net'.links worker).exchange config stands) :
    Working done (Function.update workers worker stands) session' net' ∧
      session'.spawned = session.spawned ∧ ∀ other outcome, session.finished other = some outcome →
        session'.finished other = some outcome := by
  have running : session.finished worker = none := by
    refine working.unfinished worker ?_
    rw [here]
    cases turned <;> nofun
  have spawned : session'.spawned = session.spawned := by
    cases op with
    | start | loadShutdown => rw [acted.2]
    | _ =>
        cases acted
        rfl
  have quiet : session'.shutdown = false → session.shutdown = false := by
    cases op with
    | start | loadShutdown =>
        rw [acted.2]
        exact id
    | storeShutdown =>
        cases acted
        nofun
    | _ =>
        cases acted
        exact id
  have elsewhere : ∀ other, other ≠ worker → session'.finished other = session.finished other := by
    intro other different
    cases op with
    | start | loadShutdown => rw [acted.2]
    | finish outcome =>
        cases acted
        exact Function.update_of_ne different _ _
    | _ =>
        cases acted
        rfl
  have ended : ∀ outcome, session'.finished worker = some outcome →
      stands = .finished ∧ stood = .finishing outcome := by
    intro outcome found
    cases turned with
    | finish =>
        cases acted
        cases (Function.update_self ..).symm.trans found
        exact ⟨rfl, rfl⟩
    | start | dismissed | begin_ | stop | skip | outside | take | interrupted | wait =>
        rw [acted.2, running] at found
        cases found
    | _ =>
        cases acted
        cases running.symm.trans found
  refine ⟨⟨?_, ?_, ?_, ?_⟩, spawned, ?_⟩
  · intro other config found
    rw [spawned] at found
    by_cases same : other = worker
    · subst same
      rw [Function.update_self]
      exact accounts config found
    · rw [Function.update_of_ne same, others other same]
      exact (working.accounts other config found).mono (fun _ => id) quiet rfl rfl
  · intro other missing
    rw [spawned] at missing
    have waiting := working.unspawned other missing
    by_cases same : other = worker
    · subst same
      rw [waiting] at here
      subst here
      cases turned
      cases missing.symm.trans acted.1
    · rw [Function.update_of_ne same]
      exact waiting
  · intro other working'
    by_cases same : other = worker
    · subst same
      rw [Function.update_self] at working'
      cases found : session'.finished other with
      | none => rfl
      | some outcome => exact absurd (ended outcome found).1 working'
    · rw [Function.update_of_ne same] at working'
      rw [elsewhere other same]
      exact working.unfinished other working'
  · intro other config outcome found finished silent
    rw [spawned] at found
    by_cases same : other = worker
    · subst same
      have account := working.accounts other config found
      rw [here, (ended outcome finished).2] at account
      exact account (quiet silent)
    · rw [elsewhere other same] at finished
      exact working.reports other config outcome found finished (quiet silent)
  · intro other outcome finished
    have different : other ≠ worker := by
      rintro rfl
      cases running.symm.trans finished
    exact (elsewhere other different).trans finished

end Working

end Steps

end BeeSync.EndToEnd
