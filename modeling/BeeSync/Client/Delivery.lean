import BeeSync.Client.Distribution
import BeeSync.Client.ExitCode
import BeeSync.Client.ResumeReply
import BeeSync.Interaction.Logs

/-!
# What becomes of every chunk

`run_workers` collects the failed chunks of the workers that return. Each chunk of such a
worker stands in the reply to its query, was acknowledged, or is among the failed ones. Of a
worker that panics nothing is collected.
-/

set_option autoImplicit false

namespace BeeSync.Client

open Encoding Interaction

namespace Worker

/-- The worker was told that the server has the chunk. -/
def InReply (idx : Nat) (events : List (Event WorkerSig)) : Prop :=
  ∃ resp received, queried resp <:+: events ∧ parseReceived resp = some received ∧ idx ∈ received

/-- A message was sent and answered with `ACK_OK`. -/
def acked (parts : List Bytes) (rest : Bytes) : List (Event WorkerSig) :=
  [⟨.sendParts parts, .ok ()⟩, ⟨.loadShutdown, false⟩, ⟨.recvFrame, .ok (Chunk.ackOk :: rest)⟩]

/-- The worker read the data of the chunk, and the server acknowledged the message with them. -/
def Delivered [Blake3] (config : WorkerConfig) (idx : Nat) (events : List (Event WorkerSig)) :
    Prop :=
  ∃ offset size data rest, chunkRange config.fileSize config.chunkSize idx = some (offset, size) ∧
    ⟨.fs (.readAt config.filepath offset size), .ok data⟩ ∈ events ∧
      acked (chunkMessage idx offset data) rest <:+: events

/-- The flag was not set whenever the worker looked. -/
def Unstopped (events : List (Event WorkerSig)) : Prop :=
  ⟨.loadShutdown, true⟩ ∉ events

theorem replied_of_queried {resp : Bytes} {events : List (Event WorkerSig)}
    (query : queried resp <:+: events) : ⟨.recvFrame, .ok resp⟩ ∈ events :=
  query.subset (List.mem_cons_of_mem _ List.mem_cons_self)

theorem Unstopped.among {during events : List (Event WorkerSig)} (unstopped : Unstopped events)
    (within : during <:+: events) : Unstopped during :=
  fun stopped => unstopped (within.subset stopped)

theorem InReply.among {idx : Nat} {during events : List (Event WorkerSig)}
    (inReply : InReply idx during) (within : during <:+: events) : InReply idx events := by
  obtain ⟨resp, received, query, parsed, member⟩ := inReply
  exact ⟨resp, received, query.trans within, parsed, member⟩

section Sending

variable [Blake3] {config : WorkerConfig} {events : List (Event WorkerSig)}

theorem Delivered.among {idx : Nat} {during : List (Event WorkerSig)}
    (delivered : Delivered config idx during) (within : during <:+: events) :
    Delivered config idx events := by
  obtain ⟨offset, size, data, rest, ranged, read, sent⟩ := delivered
  exact ⟨offset, size, data, rest, ranged, within.subset read, sent.trans within⟩

omit [Blake3] in
/-- The attempts succeed with an acknowledgment or because the worker is told to stop. -/
theorem sendAttempts_path {parts : List Bytes} {remaining : Nat} (unstopped : Unstopped events)
    (path : Prog.Path (sendAttempts parts remaining) events (.ret (.ok true))) :
    ∃ rest, acked parts rest <:+: events := by
  induction remaining generalizing events with
  | zero =>
      obtain ⟨_, same⟩ := path.ret
      cases same
  | succ remaining ih =>
      obtain ⟨sent, afterSend, rfl, sends⟩ := path.vis
      rcases sent with error | ⟨⟩
      · obtain ⟨_, same⟩ := sends.ret
        cases same
      obtain ⟨stopped, afterLoad, rfl, loads⟩ := sends.vis
      cases stopped with
      | true => exact absurd (List.mem_cons_of_mem _ List.mem_cons_self) unstopped
      | false =>
          obtain ⟨answer, afterAck, rfl, hears⟩ := loads.vis
          have behind : afterAck <:+: ⟨.sendParts parts, .ok ()⟩ :: ⟨.loadShutdown, false⟩ ::
              ⟨.recvFrame, answer⟩ :: afterAck :=
            (List.suffix_append [_, _, _] afterAck).isInfix
          have again : Prog.Path (sendAttempts parts remaining) afterAck (.ret (.ok true)) →
              ∃ rest, acked parts rest <:+: ⟨.sendParts parts, .ok ()⟩ ::
                ⟨.loadShutdown, false⟩ :: ⟨.recvFrame, answer⟩ :: afterAck := by
            intro path
            obtain ⟨rest, within⟩ := ih (unstopped.among behind) path
            exact ⟨rest, within.trans behind⟩
          rcases answer with error | ack
          · obtain ⟨_, same⟩ := hears.ret
            cases same
          · simp only [Prog.ret_bind] at hears
            split at hears
            · split at hears
              · exact again hears
              · obtain ⟨_, same⟩ := hears.ret
                cases same
            · rename_i status rest
              split at hears
              · rename_i accepted
                subst accepted
                exact ⟨rest, (List.prefix_append [_, _, _] afterAck).isInfix⟩
              · split at hears
                · exact again hears
                · obtain ⟨_, same⟩ := hears.ret
                  cases same

theorem sendChunk_delivers {filepath : Bytes} {idx offset size retries : Nat}
    (unstopped : Unstopped events)
    (path : Prog.Path (sendChunk filepath idx offset size retries) events (.ret (.ok true))) :
    ∃ data rest, ⟨.fs (.readAt filepath offset size), .ok data⟩ ∈ events ∧
      acked (chunkMessage idx offset data) rest <:+: events := by
  obtain ⟨opened, afterOpen, rfl, opens⟩ := path.vis
  rcases opened with error | ⟨⟩
  · obtain ⟨_, same⟩ := opens.ret
    cases same
  obtain ⟨read, afterRead, rfl, reads⟩ := opens.vis
  rcases read with error | data
  · obtain ⟨_, same⟩ := reads.ret
    cases same
  have behind := (List.suffix_append [⟨.fs (.openRead filepath), .ok ()⟩,
    ⟨.fs (.readAt filepath offset size), .ok data⟩] afterRead).isInfix
  obtain ⟨rest, within⟩ := sendAttempts_path (unstopped.among behind) reads
  exact ⟨data, rest, List.mem_cons_of_mem _ List.mem_cons_self, within.trans behind⟩

/-- What the loop counts as delivered was acknowledged. -/
theorem sendChunks_delivers {already indices : List Nat} {result outcome : WorkerResult}
    (unstopped : Unstopped events)
    (path : Prog.Path (sendChunks config already indices result) events (.ret outcome)) {idx : Nat}
    (member : idx ∈ outcome.okList) : idx ∈ result.okList ∨ Delivered config idx events := by
  induction indices generalizing result events with
  | nil =>
      obtain ⟨_, same⟩ := path.ret
      cases same
      exact .inl member
  | cons head rest ih =>
      obtain ⟨_, stopped⟩ | ⟨next, during, later, rfl, turn, sends, continued⟩ :=
        sendChunks_turn path
      · exact absurd stopped unstopped
      have first : during <:+: during ++ later := (List.prefix_append during later).isInfix
      have last : later <:+: during ++ later := (List.suffix_append during later).isInfix
      obtain listed | delivered := ih (unstopped.among last) continued
      · by_cases here : idx = head
        · subst here
          obtain earlier | ⟨offset, size, sending, ranged, within, sends⟩ := sends listed
          · exact .inl earlier
          · obtain ⟨data, rest, read, sent⟩ :=
              sendChunk_delivers (unstopped.among (within.trans first)) sends
            have delivered : Delivered config idx sending := ⟨offset, size, data, rest, ranged, read, sent⟩
            exact .inr (delivered.among (within.trans first))
        · exact .inl ((turn.okList listed).resolve_left here)
      · exact .inr (delivered.among last)

/-- A loop that is not told to stop leaves no chunk out. -/
theorem sendChunks_accounts {already indices : List Nat} {outcome : WorkerResult}
    (unstopped : Unstopped events)
    (path : Prog.Path (sendChunks config already indices ⟨[], []⟩) events (.ret outcome)) :
    ∀ idx ∈ indices, idx ∈ outcome.failList ∨ idx ∈ already ∨ Delivered config idx events := by
  obtain ⟨taken, left, rfl, told, lists⟩ := sendChunks_path path
  have all : left = [] := by
    by_contra some_
    exact unstopped (told some_)
  intro idx member
  rw [all, List.append_nil] at member
  by_cases known : idx ∈ already
  · exact .inr (.inl known)
  · obtain listed | failed := List.mem_append.mp ((lists idx).mpr (.inr ⟨member, known⟩))
    · exact .inr (.inr ((sendChunks_delivers unstopped path listed).resolve_left List.not_mem_nil))
    · exact .inl failed

omit [Blake3] in
theorem queryReceived_events {outcome : Option (Except IoError (List Nat))}
    (path : Prog.Path queryReceived events (.ret outcome)) :
    (∃ error, outcome = some (.error error)) ∨
      ∃ resp, events = queried resp ∧ outcome = (parseReceived resp).map .ok := by
  obtain ⟨sent, afterSend, rfl, sends⟩ := path.vis
  rcases sent with error | ⟨⟩
  · obtain ⟨_, same⟩ := sends.ret
    exact .inl ⟨error, Prog.ret.inj same⟩
  obtain ⟨answer, afterReply, rfl, hears⟩ := sends.vis
  rcases answer with error | resp
  · obtain ⟨_, same⟩ := hears.ret
    exact .inl ⟨error, Prog.ret.inj same⟩
  · simp only [Prog.ret_bind] at hears
    have ends : afterReply = [] := by
      split at hears
      · exact hears.ret.1
      · exact hears.ret.1
    subst ends
    exact .inr ⟨resp, rfl, queryReceived_path.mp path⟩

/-- How a worker ends that is not told to stop: it panics over a reply that has not all it announces,
or each of its chunks is accounted for. -/
theorem worker_accounts {outcome : Option WorkerResult} (unstopped : Unstopped events)
    (path : Prog.Path (worker config) events (.ret outcome)) :
    (outcome = none ∧ ∃ resp, queried resp <:+: events ∧ ¬ Intact resp) ∨
      ∃ result, outcome = some result ∧ ∀ idx ∈ config.chunkIndices,
        idx ∈ result.failList ∨ InReply idx events ∨ Delivered config idx events := by
  obtain ⟨stopped, afterLoad, rfl, loads⟩ := path.vis
  cases stopped with
  | true => exact absurd List.mem_cons_self unstopped
  | false =>
      obtain ⟨connected, afterConnect, rfl, connects⟩ := loads.vis
      rcases connected with error | ⟨⟩
      · obtain ⟨_, same⟩ := connects.ret
        exact .inr ⟨_, (Prog.ret.inj same), fun idx member => .inl member⟩
      · rw [Prog.ret_bind] at connects
        obtain ⟨received, query, later, rfl, queries, returns⟩ := Prog.Path.bind connects
        have asked : query <:+: ⟨.loadShutdown, false⟩ ::
            ⟨.connect config.host config.port, .ok ()⟩ :: (query ++ later) :=
          ⟨[_, _], later, rfl⟩
        have sent : later <:+: ⟨.loadShutdown, false⟩ ::
            ⟨.connect config.host config.port, .ok ()⟩ :: (query ++ later) :=
          (List.suffix_append (_ :: _ :: query) later).isInfix
        obtain ⟨error, rfl⟩ | ⟨resp, rfl, rfl⟩ := queryReceived_events queries
        · obtain ⟨_, same⟩ := returns.ret
          exact .inr ⟨_, (Prog.ret.inj same), fun idx member => .inl member⟩
        cases parsed : parseReceived resp with
        | none =>
            rw [parsed] at returns
            obtain ⟨_, same⟩ := returns.ret
            refine .inl ⟨Prog.ret.inj same, resp, asked, fun intact => ?_⟩
            have decodes := parseReceived_isSome.mpr intact
            rw [parsed] at decodes
            cases decodes
        | some already =>
            rw [parsed] at returns
            obtain ⟨result, sending, last, rfl, chunks, ends⟩ := Prog.Path.bind returns
            obtain ⟨rfl, same⟩ := ends.ret
            refine .inr ⟨result, Prog.ret.inj same, fun idx member => ?_⟩
            have within : sending <:+: sending ++ [] := (List.prefix_append sending []).isInfix
            obtain failed | inReply | delivered :=
              sendChunks_accounts (unstopped.among (within.trans sent)) chunks idx member
            · exact .inl failed
            · exact .inr (.inl ⟨resp, already, asked, parsed, inReply⟩)
            · exact .inr (.inr (delivered.among (within.trans sent)))

/-- A task that has ended has run as the worker it was started as. -/
theorem task_path {rest : WorkerProg Unit} (path : Prog.Path task events rest)
    {outcome : Option WorkerResult} (finishes : ⟨.finish outcome, ()⟩ ∈ events) :
    ∃ config during, ⟨.start, config⟩ ∈ events ∧ during <:+: events ∧
      Prog.Path (worker config) during (.ret outcome) := by
  cases path with
  | nil => cases finishes
  | @cons _ _ config later _ started =>
      simp only [Prog.ret_bind] at started
      have finishes : ⟨.finish outcome, ()⟩ ∈ later :=
        (List.mem_cons.mp finishes).resolve_left (by simp)
      have inside : ∀ {during left}, Prog.Path (worker config) during left →
          ⟨.finish outcome, ()⟩ ∉ during :=
        fun path member => path.all (Worker.worker_inside config) _ member
      obtain ⟨left, path⟩ | ⟨middle, during, last, rfl, path, ends⟩ := started.within
      · exact absurd finishes (inside path)
      refine ⟨config, during, List.mem_cons_self, ⟨[_], last, rfl⟩, ?_⟩
      have behind := (List.mem_append.mp finishes).resolve_left (inside path)
      cases ends with
      | nil => cases behind
      | cons closed =>
          have behind := (List.mem_cons.mp behind).resolve_left (by simp)
          cases closed with
          | nil => cases behind
          | cons finished =>
              obtain ⟨rfl, _⟩ := finished.ret
              have same := List.mem_singleton.mp behind
              cases same
              exact path

end Sending

end Worker

namespace Main

variable {config : ClientConfig} {dataPorts : List UInt16} {fileSize : Nat}
  {events : List (Event MainSig)}

/-- Workers are only started as the assignments say. -/
def SpawnsAssigned (config : ClientConfig) (dataPorts : List UInt16) (fileSize : Nat)
    (assigned : List (List Nat × Nat)) : MainOp → Prop
  | .spawnWorker worker given => ∃ chunkList, (chunkList, worker) ∈ assigned ∧
      given = workerConfig config dataPorts fileSize worker chunkList
  | _ => True

theorem spawnWorkers_assigned {among assigned : List (List Nat × Nat)} (within : assigned ⊆ among)
    (handles : List Nat) : (spawnWorkers config dataPorts fileSize assigned handles).All
      (SpawnsAssigned config dataPorts fileSize among) := by
  induction assigned generalizing handles with
  | nil => trivial
  | cons entry rest ih =>
      obtain ⟨chunkList, worker⟩ := entry
      have later : rest ⊆ among := fun other member => within (List.mem_cons_of_mem _ member)
      rw [spawnWorkers]
      split
      · exact ih later handles
      · exact ⟨⟨chunkList, within List.mem_cons_self, rfl⟩, fun _ => ih later _⟩

theorem runWorkers_assigned (assignments : List (List Nat)) :
    (runWorkers config assignments dataPorts fileSize).All
      (SpawnsAssigned config dataPorts fileSize assignments.zipIdx) := by
  refine .bind (spawnWorkers_assigned (List.Subset.refl _) []) fun handles => ?_
  refine (joinWorkers_spawns_nobody handles []).mono fun op nobody => ?_
  cases op with
  | spawnWorker => cases nobody
  | _ => trivial

/-- Every worker with chunks is waited for. -/
theorem spawnWorkers_handles {assigned : List (List Nat × Nat)} {handles handles' : List Nat}
    (path : Prog.Path (spawnWorkers config dataPorts fileSize assigned handles) events
      (.ret handles')) :
    handles ⊆ handles' ∧ ∀ chunkList worker, (chunkList, worker) ∈ assigned → chunkList ≠ [] →
      worker ∈ handles' := by
  induction assigned generalizing handles events with
  | nil =>
      obtain ⟨_, same⟩ := path.ret
      cases same
      exact ⟨List.Subset.refl _, nofun⟩
  | cons entry rest ih =>
      obtain ⟨chunks, assignee⟩ := entry
      rw [spawnWorkers] at path
      split at path
      · rename_i none_
        obtain ⟨kept, waited⟩ := ih path
        refine ⟨kept, fun chunkList worker member some_ => ?_⟩
        rcases List.mem_cons.mp member with same | later
        · cases same
          exact absurd (List.isEmpty_iff.mp none_) some_
        · exact waited chunkList worker later some_
      · obtain ⟨_, later, rfl, spawned⟩ := path.vis
        obtain ⟨kept, waited⟩ := ih spawned
        refine ⟨fun handle member => kept (List.mem_append_left _ member), ?_⟩
        intro chunkList worker member some_
        rcases List.mem_cons.mp member with same | later
        · cases same
          exact kept (List.mem_append_right _ List.mem_cons_self)
        · exact waited chunkList worker later some_

/-- What a worker reports that has returned is not lost. -/
theorem joinWorkers_reports {handles failed allFailed : List Nat}
    (path : Prog.Path (joinWorkers handles failed) events (.ret allFailed)) :
    failed ⊆ allFailed ∧ ∀ worker ∈ handles, ∃ outcome, ⟨.joinWorker worker, outcome⟩ ∈ events ∧
      Session.reported outcome ⊆ allFailed := by
  induction handles generalizing failed events with
  | nil =>
      obtain ⟨_, same⟩ := path.ret
      cases same
      exact ⟨List.Subset.refl _, nofun⟩
  | cons handle rest ih =>
      obtain ⟨outcome, later, rfl, joined⟩ := path.vis
      have here : failed ⊆ allFailed ∧ Session.reported outcome ⊆ allFailed ∧
          ∀ worker ∈ rest, ∃ outcome, ⟨.joinWorker worker, outcome⟩ ∈ later ∧
            Session.reported outcome ⊆ allFailed := by
        cases outcome with
        | none =>
            obtain ⟨kept, reports⟩ := ih joined
            exact ⟨kept, List.nil_subset _, reports⟩
        | some result =>
            obtain ⟨kept, reports⟩ := ih joined
            obtain ⟨first, second⟩ := List.append_subset.mp kept
            exact ⟨first, second, reports⟩
      obtain ⟨kept, reported, reports⟩ := here
      refine ⟨kept, fun worker member => ?_⟩
      rcases List.mem_cons.mp member with rfl | member
      · exact ⟨outcome, List.mem_cons_self, reported⟩
      · obtain ⟨outcome', event, reported'⟩ := reports worker member
        exact ⟨outcome', List.mem_cons_of_mem _ event, reported'⟩

theorem runWorkers_joins {assignments : List (List Nat)} {allFailed : List Nat}
    (path : Prog.Path (runWorkers config assignments dataPorts fileSize) events (.ret allFailed))
    {chunkList : List Nat} {worker : Nat} (assigned : (chunkList, worker) ∈ assignments.zipIdx)
    (some_ : chunkList ≠ []) :
    ∃ outcome, ⟨.joinWorker worker, outcome⟩ ∈ events ∧ Session.reported outcome ⊆ allFailed := by
  obtain ⟨handles, first, later, rfl, spawned, joined⟩ := path.bind
  obtain ⟨_, waited⟩ := spawnWorkers_handles spawned
  obtain ⟨_, reports⟩ := joinWorkers_reports joined
  obtain ⟨outcome, event, reported⟩ := reports worker (waited chunkList worker assigned some_)
  exact ⟨outcome, List.mem_append_right _ event, reported⟩

end Main

namespace Delivery

/-- Ctrl+C may be pressed before any call. -/
def sem (tid : Tid) (op : (sig tid).Op) (before : Session) (answer : (sig tid).Res op)
    (after : Session) : Prop :=
  ∃ pressed, Session.sem tid op { before with shutdown := before.shutdown || pressed } answer after

@[reducible] def Ctl : Tid → Type
  | .main => List Nat
  | .worker _ => Unit

/-- `run_workers` and the tasks that it starts. -/
def system : System Tid sig Ctl Session where
  sem := sem
  again := fun _ _ => none

def start [Blake3] (config : ClientConfig) (assignments : List (List Nat)) (dataPorts : List UInt16)
    (fileSize : Nat) : Pool sig Ctl (Logged sig Session) where
  prog
    | .main => Main.runWorkers config assignments dataPorts fileSize
    | .worker _ => Worker.task
  world := ⟨Session.initial, fun _ => []⟩

/-- What the logs of the tasks say about the session and about each other. -/
structure Consistent (logged : Logged sig Session) : Prop where
  spawned : ∀ worker config, logged.world.spawned worker = some config →
    ⟨.spawnWorker worker config, ()⟩ ∈ logged.log .main
  started : ∀ worker config, ⟨.start, config⟩ ∈ logged.log (.worker worker) →
    ⟨.spawnWorker worker config, ()⟩ ∈ logged.log .main
  finished : ∀ worker outcome, logged.world.finished worker = some outcome →
    ⟨.finish outcome, ()⟩ ∈ logged.log (.worker worker)
  joined : ∀ worker outcome, ⟨.joinWorker worker, outcome⟩ ∈ logged.log .main →
    ⟨.finish outcome, ()⟩ ∈ logged.log (.worker worker)
  unstopped : logged.world.shutdown = false →
    ∀ worker, Worker.Unstopped (logged.log (.worker worker))

/-- What a call of the main task does to the session, as far as the logs are concerned. -/
structure MainActs (before after : Session) (event : Event MainSig) : Prop where
  spawned : ∀ worker config, after.spawned worker = some config →
    before.spawned worker = some config ∨ event = ⟨.spawnWorker worker config, ()⟩
  finished : after.finished = before.finished
  quiet : after.shutdown = false → before.shutdown = false
  joined : ∀ worker outcome, event = ⟨.joinWorker worker, outcome⟩ →
    before.finished worker = some outcome

structure WorkerActs (index : Nat) (before after : Session) (event : Event WorkerSig) : Prop where
  spawned : after.spawned = before.spawned
  finished : ∀ worker outcome, after.finished worker = some outcome →
    before.finished worker = some outcome ∨ worker = index ∧ event = ⟨.finish outcome, ()⟩
  quiet : after.shutdown = false → before.shutdown = false ∧ event ≠ ⟨.loadShutdown, true⟩
  started : ∀ config, event = ⟨.start, config⟩ → before.spawned index = some config

section Steps

variable {before after : Session}

theorem mainActs {op : MainOp} {answer : op.Res} (acted : sem .main op before answer after) :
    MainActs before after ⟨op, answer⟩ := by
  obtain ⟨pressed, acted⟩ := acted
  have quiet : (before.shutdown || pressed) = false → before.shutdown = false :=
    fun unset => (Bool.or_eq_false_iff.mp unset).1
  cases op with
  | spawnWorker worker config =>
      cases acted
      refine ⟨fun other given spawned => ?_, rfl, quiet, nofun⟩
      by_cases same : other = worker
      · subst same
        cases (Function.update_self ..).symm.trans spawned
        exact .inr rfl
      · exact .inl ((Function.update_of_ne same ..).symm.trans spawned)
  | joinWorker worker =>
      obtain ⟨finished, rfl⟩ := acted
      refine ⟨fun _ _ => .inl, rfl, quiet, fun other outcome same => ?_⟩
      cases same
      exact finished
  | loadShutdown =>
      obtain ⟨_, rfl⟩ := acted
      exact ⟨fun _ _ => .inl, rfl, quiet, nofun⟩
  | isFile | metadataLen | fs | connect | sendFrame | recvFrame | recvFinal | closeStream =>
      cases acted
      exact ⟨fun _ _ => .inl, rfl, quiet, nofun⟩

theorem workerActs {index : Nat} {op : WorkerOp} {answer : op.Res}
    (acted : sem (.worker index) op before answer after) :
    WorkerActs index before after ⟨op, answer⟩ := by
  obtain ⟨pressed, acted⟩ := acted
  have quiet : (before.shutdown || pressed) = false → before.shutdown = false :=
    fun unset => (Bool.or_eq_false_iff.mp unset).1
  cases op with
  | start =>
      obtain ⟨spawned, rfl⟩ := acted
      refine ⟨rfl, fun _ _ => .inl, fun unset => ⟨quiet unset, nofun⟩, fun config same => ?_⟩
      cases same
      exact spawned
  | loadShutdown =>
      obtain ⟨loaded, rfl⟩ := acted
      refine ⟨rfl, fun _ _ => .inl, fun unset => ⟨quiet unset, fun same => ?_⟩, nofun⟩
      cases same
      exact nomatch loaded.trans unset
  | storeShutdown =>
      cases acted
      exact ⟨rfl, fun _ _ => .inl, nofun, nofun⟩
  | finish result =>
      cases acted
      refine ⟨rfl, fun other outcome finished => ?_, fun unset => ⟨quiet unset, nofun⟩, nofun⟩
      by_cases same : other = index
      · subst same
        cases (Function.update_self ..).symm.trans finished
        exact .inr ⟨rfl, rfl⟩
      · exact .inl ((Function.update_of_ne same ..).symm.trans finished)
  | connect | sendFrame | sendParts | recvFrame | fs | closeStream =>
      cases acted
      exact ⟨rfl, fun _ _ => .inl, fun unset => ⟨quiet unset, nofun⟩, nofun⟩

end Steps

theorem Consistent.main {before : Logged sig Session} (consistent : Consistent before)
    {event : Event MainSig} {after : Session} (acts : MainActs before.world after event) :
    Consistent (before.note .main event after) := by
  have kept : ∀ worker, (before.note .main event after).log (.worker worker) =
      before.log (.worker worker) := fun _ => Logged.note_log_other _ _ _ (by simp)
  constructor
  case spawned =>
    intro worker config spawned
    obtain earlier | now := acts.spawned worker config spawned
    · exact Logged.mem_note _ _ _ (consistent.spawned worker config earlier)
    · rw [Logged.note_log_self, now]
      exact List.mem_append_right _ List.mem_cons_self
  case started =>
    intro worker config started
    rw [kept] at started
    exact Logged.mem_note _ _ _ (consistent.started worker config started)
  case finished =>
    intro worker outcome finished
    rw [Logged.note_world, acts.finished] at finished
    rw [kept]
    exact consistent.finished worker outcome finished
  case joined =>
    intro worker outcome joined
    rw [Logged.note_log_self] at joined
    rw [kept]
    obtain earlier | now := List.mem_append.mp joined
    · exact consistent.joined worker outcome earlier
    · have finished := acts.joined worker outcome (List.mem_singleton.mp now).symm
      exact consistent.finished worker outcome finished
  case unstopped =>
    intro unset worker
    rw [kept]
    exact consistent.unstopped (acts.quiet unset) worker

theorem Consistent.worker {before : Logged sig Session} (consistent : Consistent before)
    {index : Nat} {event : Event WorkerSig} {after : Session}
    (acts : WorkerActs index before.world after event) :
    Consistent (before.note (.worker index) event after) := by
  have kept : (before.note (.worker index) event after).log .main = before.log .main :=
    Logged.note_log_other _ _ _ (by simp)
  have logged : ∀ worker earlier, earlier ∈ (before.note (.worker index) event after).log
      (.worker worker) → earlier ∈ before.log (.worker worker) ∨ worker = index ∧ earlier = event := by
    intro worker earlier member
    by_cases same : worker = index
    · subst same
      rw [Logged.note_log_self] at member
      exact (List.mem_append.mp member).imp_right fun now => ⟨rfl, List.mem_singleton.mp now⟩
    · rw [Logged.note_log_other _ _ _ (by simpa using same)] at member
      exact .inl member
  constructor
  case spawned =>
    intro worker config spawned
    rw [Logged.note_world, acts.spawned] at spawned
    rw [kept]
    exact consistent.spawned worker config spawned
  case started =>
    intro worker config started
    rw [kept]
    obtain earlier | ⟨rfl, now⟩ := logged worker _ started
    · exact consistent.started worker config earlier
    · exact consistent.spawned worker config (acts.started config now.symm)
  case finished =>
    intro worker outcome finished
    obtain earlier | ⟨rfl, now⟩ := acts.finished worker outcome finished
    · exact Logged.mem_note _ _ _ (consistent.finished worker outcome earlier)
    · rw [Logged.note_log_self, now]
      exact List.mem_append_right _ List.mem_cons_self
  case joined =>
    intro worker outcome joined
    rw [kept] at joined
    exact Logged.mem_note _ _ _ (consistent.joined worker outcome joined)
  case unstopped =>
    intro unset worker stopped
    obtain ⟨earlier, different⟩ := acts.quiet unset
    obtain member | ⟨_, now⟩ := logged worker _ stopped
    · exact consistent.unstopped earlier worker member
    · exact different now.symm

section Runs

variable [Blake3] {config : ClientConfig} {assignments : List (List Nat)} {dataPorts : List UInt16}
  {fileSize : Nat} {pool : Pool sig Ctl (Logged sig Session)}

theorem Consistent.start : Consistent (start config assignments dataPorts fileSize).world where
  spawned := nofun
  started := nofun
  finished := nofun
  joined := nofun
  unstopped := nofun

theorem consistent_of_reaches
    (reached : Reaches system.logged (fun _ => True) (start config assignments dataPorts fileSize)
      pool) : Consistent pool.world := by
  refine reached.invariant Consistent.start fun tid op before answer after consistent acted _ => ?_
  obtain ⟨world, acted, rfl⟩ := acted
  cases tid with
  | main => exact consistent.main (mainActs acted)
  | worker index => exact consistent.worker (workerActs acted)

end Runs

/-- No undelivered chunk goes unreported: where no chunk is reported and nobody has stopped the
transfer, every assigned chunk stood in the reply to the query of its worker or was acknowledged. -/
def Accounts [Blake3] (config : ClientConfig) (assignments : List (List Nat))
    (dataPorts : List UInt16) (fileSize : Nat) (pool : Pool sig Ctl (Logged sig Session)) : Prop :=
  pool.prog .main = .ret [] → pool.world.world.shutdown = false →
    ∀ chunkList worker, (chunkList, worker) ∈ assignments.zipIdx → ∀ idx ∈ chunkList,
      Worker.InReply idx (pool.world.log (.worker worker)) ∨
        Worker.Delivered (Main.workerConfig config dataPorts fileSize worker chunkList) idx
          (pool.world.log (.worker worker))

/-- Every chunk is accounted for unless a worker gets a reply to its query that announces more
chunks than it lists. -/
theorem accounts_of_intact [Blake3] (config : ClientConfig) (assignments : List (List Nat))
    (dataPorts : List UInt16) (fileSize : Nat) {pool : Pool sig Ctl (Logged sig Session)}
    (reached : Reaches system.logged (fun _ => True) (start config assignments dataPorts fileSize)
      pool)
    (intact : ∀ worker resp, Worker.queried resp <:+: pool.world.log (.worker worker) →
      Intact resp) :
    Accounts config assignments dataPorts fileSize pool := by
  intro returned unset chunkList worker assigned idx member
  have paths : ∀ tid, Prog.Path _ (pool.world.log tid) (pool.prog tid) :=
    reached.path (fun _ _ => rfl) fun _ => rfl
  have consistent := consistent_of_reaches reached
  have ran : Prog.Path (Main.runWorkers config assignments dataPorts fileSize)
      (pool.world.log .main) (.ret []) := returned ▸ paths .main
  obtain ⟨outcome, joined, reported⟩ :=
    Main.runWorkers_joins ran assigned (List.ne_nil_of_mem member)
  obtain ⟨given, during, started, within, path⟩ := Worker.task_path (paths (.worker worker))
    (consistent.joined worker outcome joined)
  -- what the worker was started with is what it was assigned
  obtain ⟨assignedList, listed, rfl⟩ := ran.all (Main.runWorkers_assigned assignments) _
    (consistent.started worker given started)
  have same : assignedList = chunkList :=
    Option.some.inj ((List.mem_zipIdx_iff_getElem?.mp listed).symm.trans
      (List.mem_zipIdx_iff_getElem?.mp assigned))
  subst same
  have unstopped := (consistent.unstopped unset worker).among within
  obtain ⟨rfl, resp, query, truncated⟩ | ⟨result, rfl, accounted⟩ :=
    Worker.worker_accounts unstopped path
  · exact absurd (intact worker resp (query.trans within)) truncated
  · obtain failed | inReply | delivered := accounted idx member
    · exact absurd (reported failed) List.not_mem_nil
    · exact .inl (inReply.among within)
    · exact .inr (delivered.among within)

section Sample

open Session

/-- The only worker, for the only chunk. -/
def onlyWorker : WorkerConfig :=
  Main.workerConfig sampleConfig [45000] 1 0 [0]

def spawned : Session :=
  { initial with spawned := Function.update (fun _ => none) 0 (some onlyWorker) }

def ended (outcome : Option WorkerResult) : Session :=
  { spawned with finished := Function.update (fun _ => none) 0 (some outcome) }

/-- A run of the worker, up to its end. -/
def RunsToEnd [Blake3] (outcome : Option WorkerResult) (events : List (Event WorkerSig)) : Prop :=
  ∀ before : Logged sig Session, Runs (system.logged.sem (.worker 0)) Worker.task
    (before.notes (.worker 0) spawned []) (.ret ())
    (before.notes (.worker 0) (ended outcome) events)

/-- A worker that has nothing to report ends the transfer without a failed chunk. -/
theorem RunsToEnd.reaches [Blake3] {outcome : Option WorkerResult} {events : List (Event WorkerSig)}
    (ran : RunsToEnd outcome events) (unreported : reported outcome = []) :
    ∃ pool, Reaches system.logged (fun _ => True) (start sampleConfig [[0]] [45000] 1) pool ∧
      pool.prog .main = .ret [] ∧ pool.world.world.shutdown = false ∧
        pool.world.log (.worker 0) = events ∧
          ∀ worker, worker ≠ 0 → pool.world.log (.worker worker) = [] := by
  have begun : Reaches system.logged (fun _ => True) (start sampleConfig [[0]] [45000] 1) _ := .refl
  let started := (start sampleConfig [[0]] [45000] 1).world.note .main
    ⟨.spawnWorker 0 onlyWorker, ()⟩ spawned
  have spawns : Runs (system.logged.sem .main) (Main.runWorkers sampleConfig [[0]] [45000] 1)
      (start sampleConfig [[0]] [45000] 1).world (Main.joinWorkers [0] []) started :=
    .vis () ⟨_, ⟨false, rfl⟩, rfl⟩ .refl
  obtain ⟨pool₁, reached, step₁⟩ := begun.alone .main rfl rfl spawns
  obtain ⟨pool₂, reached, step₂⟩ := reached.alone (.worker 0) (step₁.others _ (by simp))
    (step₁.world.trans (started.notes_nil (.worker 0)).symm) (ran started)
  let finished := started.notes (.worker 0) (ended outcome) events
  have joins : Runs (system.logged.sem .main) (Main.joinWorkers [0] []) finished (.ret [])
      (finished.note .main ⟨.joinWorker 0, outcome⟩ (ended outcome)) := by
    refine .vis outcome ⟨ended outcome, ⟨false, rfl, by rw [unreported]; rfl⟩, rfl⟩ ?_
    cases outcome with
    | none => exact .refl
    | some result =>
        have nothing : result.failList = [] := unreported
        simp only [Prog.ret_bind, nothing]
        exact .refl
  obtain ⟨pool₃, reached, step₃⟩ := reached.alone .main ((step₂.others _ (by simp)).trans step₁.prog)
    step₂.world joins
  refine ⟨pool₃, reached, step₃.prog, ?_, ?_, fun worker other => ?_⟩
  · rw [step₃.world]
    rfl
  · rw [step₃.world, Logged.note_log_other _ _ _ (by simp), Logged.notes_log_self,
      Logged.note_log_other _ _ _ (by simp)]
    rfl
  · rw [step₃.world, Logged.note_log_other _ _ _ (by simp),
      Logged.notes_log_other _ _ _ (by simpa using other), Logged.note_log_other _ _ _ (by simp)]
    rfl

/-- The reply lists the only chunk. -/
theorem runsToEnd_listed [Blake3] : RunsToEnd (some ⟨[], []⟩)
    (⟨.start, onlyWorker⟩ :: Worker.opened onlyWorker [0, 0, 0, 1, 0, 0, 0, 0] ++
      [⟨.loadShutdown, false⟩, ⟨.closeStream, ()⟩, ⟨.finish (some ⟨[], []⟩), ()⟩]) := by
  intro before
  refine .notes onlyWorker ⟨false, rfl, rfl⟩ (.notes false ⟨false, rfl, rfl⟩ ?_)
  refine .notes (.ok ()) ⟨false, rfl⟩ (.notes (.ok ()) ⟨false, rfl⟩ ?_)
  refine .notes (.ok [0, 0, 0, 1, 0, 0, 0, 0]) ⟨false, rfl⟩ (.notes false ⟨false, rfl, rfl⟩ ?_)
  exact .notes () ⟨false, rfl⟩ (.notes () ⟨false, rfl⟩ .refl)

/-- The reply announces a chunk and lists none. -/
theorem runsToEnd_truncated [Blake3] : RunsToEnd none
    (⟨.start, onlyWorker⟩ :: Worker.opened onlyWorker [0, 0, 0, 1] ++
      [⟨.closeStream, ()⟩, ⟨.finish none, ()⟩]) := by
  intro before
  refine .notes onlyWorker ⟨false, rfl, rfl⟩ (.notes false ⟨false, rfl, rfl⟩ ?_)
  refine .notes (.ok ()) ⟨false, rfl⟩ (.notes (.ok ()) ⟨false, rfl⟩ ?_)
  refine .notes (.ok [0, 0, 0, 1]) ⟨false, rfl⟩ (.notes () ⟨false, rfl⟩ ?_)
  exact .notes () ⟨false, rfl⟩ .refl

theorem accounts_of_intact_listed :
    let _ := Blake3.sample
    ∃ pool, pool.prog .main = .ret [] ∧ pool.world.world.shutdown = false ∧
      Accounts sampleConfig [[0]] [45000] 1 pool := by
  intro _
  obtain ⟨pool, reached, returned, unset, own, others⟩ := runsToEnd_listed.reaches rfl
  refine ⟨pool, returned, unset, accounts_of_intact sampleConfig [[0]] [45000] 1 reached ?_⟩
  intro worker resp query
  have replied := Worker.replied_of_queried query
  by_cases same : worker = 0
  · subst same
    rw [own] at replied
    simp only [Worker.opened, Worker.queried, List.cons_append, List.nil_append, List.mem_cons,
      Event.mk.injEq, reduceCtorEq, false_and, heq_eq_eq, Except.ok.injEq, true_and, false_or,
      or_false, List.not_mem_nil] at replied
    rw [replied]
    decide
  · rw [others worker same] at replied
    cases replied

/-- The worker panics over the reply, and nobody learns that the only chunk was never sent. -/
theorem chunk_unreported :
    let _ := Blake3.sample
    ¬ ∀ config assignments dataPorts fileSize (pool : Pool sig Ctl (Logged sig Session)),
      Reaches system.logged (fun _ => True) (start config assignments dataPorts fileSize) pool →
        Accounts config assignments dataPorts fileSize pool := by
  intro _ accounts
  obtain ⟨pool, reached, returned, unset, own, _⟩ := runsToEnd_truncated.reaches rfl
  have accounted := accounts sampleConfig [[0]] [45000] 1 pool reached returned unset [0] 0
    List.mem_cons_self 0 List.mem_cons_self
  rw [own] at accounted
  obtain ⟨resp, received, query, parsed, member⟩ | ⟨_, _, _, rest, _, read, _⟩ := accounted
  · have replied := Worker.replied_of_queried query
    simp only [Worker.opened, Worker.queried, List.cons_append, List.nil_append, List.mem_cons,
      Event.mk.injEq, reduceCtorEq, false_and, heq_eq_eq, Except.ok.injEq, true_and, false_or,
      or_false, List.not_mem_nil] at replied
    have panics : parseReceived [0, 0, 0, 1] = none := by decide
    rw [replied, panics] at parsed
    cases parsed
  · simp [Worker.opened, Worker.queried] at read

end Sample

end Delivery

end BeeSync.Client
