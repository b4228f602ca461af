import BeeSync.Client.Session

/-!
# The exit code of the client

The exit code is truthful in every run in which no worker stores the shutdown flag,
and in no other: a worker that stores the flag for a failed chunk makes the main
task take the transfer for interrupted.
-/

set_option autoImplicit false

namespace BeeSync.Client

open Encoding Interaction

namespace Session

/-- No worker acts any more: each one spawned has finished. -/
def Silent (session : Session) : Prop :=
  ∀ worker, session.spawned worker ≠ none → session.finished worker ≠ none

/-- Before any worker is spawned. -/
structure Idle (session : Session) : Prop where
  unspawned : ∀ worker, session.spawned worker = none
  quiet : session.shutdown = false
  unconfirmed : session.finalFrame = none
  unreported : session.failures = []

/-- The handshake was answered with a status and ports. -/
def Answered (status : UInt8) (dataPorts : List UInt16) (session : Session) : Prop :=
  ∃ data, session.response = some data ∧ parseResponse data = .ok (status, dataPorts)

/-- What a worker's step leaves alone, and that it acts only while it runs. -/
structure WorkerMoves (worker : Nat) (before after : Session) : Prop where
  spawned : after.spawned = before.spawned
  response : after.response = before.response
  finalFrame : after.finalFrame = before.finalFrame
  failures : after.failures = before.failures
  others : ∀ other, other ≠ worker → after.finished other = before.finished other
  finished : before.finished worker ≠ none → after.finished worker ≠ none
  running : before.spawned worker = none ∨ before.finished worker ≠ none → after = before

/-- What a step of the main task leaves alone. -/
structure MainMoves (before after : Session) : Prop where
  shutdown : after.shutdown = before.shutdown
  finished : after.finished = before.finished
  spawned : ∀ worker, before.spawned worker ≠ none → after.spawned worker ≠ none

theorem WorkerMoves.refl (worker : Nat) (session : Session) : WorkerMoves worker session session :=
  ⟨rfl, rfl, rfl, rfl, fun _ _ => rfl, id, fun _ => rfl⟩

theorem MainMoves.refl (session : Session) : MainMoves session session :=
  ⟨rfl, rfl, fun _ => id⟩

/-- What the client is worth when it is through with its workers. -/
structure Outcome (exitCode : Nat) (session : Session) : Prop where
  silent : Silent session
  truthful : Truthful session exitCode ↔ session.shutdown = false

def contract : Contract sig Ctl Session where
  inv := fun _ => True
  guar
    | .main => MainMoves
    | .worker index => WorkerMoves index
  ob := fun _ _ _ => True
  post
    | .main => Outcome
    | .worker _ => fun _ _ => True

abbrev protocol (allowed : Label sig → Prop) (tid : Tid) : Protocol (sig tid) Session :=
  contract.protocol system allowed tid

section Stability

variable {allowed : Label sig → Prop}

private theorem main_interf {before after : Session}
    (moved : (protocol allowed .main).interf before after) :
    ∃ worker, WorkerMoves worker before after := by
  obtain ⟨other, different, step⟩ := moved
  cases other with
  | main => exact absurd rfl different
  | worker index => exact ⟨index, step⟩

private theorem silent_fixed {before after : Session} (silent : Silent before)
    (moved : (protocol allowed .main).interf before after) : after = before := by
  obtain ⟨worker, step⟩ := main_interf moved
  apply step.running
  by_cases spawned : before.spawned worker = none
  · exact .inl spawned
  · exact .inr (silent worker spawned)

theorem stable_of_silent {assertion : Session → Prop}
    (silent : ∀ session, assertion session → Silent session) :
    (protocol allowed .main).Stable assertion := by
  intro before after _ holds moved _
  rwa [silent_fixed (silent before holds) moved]

theorem Idle.silent {session : Session} (idle : Idle session) : Silent session :=
  fun worker spawned => absurd (idle.unspawned worker) spawned

end Stability

section MainTask

variable {allowed : Label sig → Prop} {α : Type}

/-- Operations that neither change the session nor depend on it. -/
def Quiet : MainOp → Prop
  | .isFile _ | .metadataLen _ | .fs _ | .connect _ _ | .sendFrame _ | .closeStream => True
  | _ => False

private theorem quiet_step {op : MainOp} (quiet : Quiet op) {session session' : Session}
    {answer : op.Res} (acted : mainSem op session answer session') : session' = session := by
  cases op <;> first | exact acted | cases quiet

/-- An assertion that the workers keep holds through quiet programs. -/
private theorem quiet_triple {kept : Session → Prop} {program : MainProg α}
    (stable : (protocol allowed .main).Stable kept) (quiet : program.All Quiet) :
    Triple (protocol allowed .main) kept program fun _ => kept := by
  refine .uniform stable quiet fun op quietOp session _ holds => ⟨trivial, ?_⟩
  rintro answer session' ⟨acted, _⟩
  rw [quiet_step quietOp acted]
  exact ⟨MainMoves.refl session, trivial, holds⟩

private theorem fileHashLoop_quiet [Blake3] (path : Bytes) (reads offset : Nat) (hasher : Hasher) :
    (fileHashLoop path reads offset hasher).All fun _ => True := by
  induction reads generalizing offset hasher with
  | zero => exact ⟨trivial, nofun⟩
  | succ reads ih =>
      refine Prog.All.attempt ⟨trivial, fun _ => trivial⟩ fun piece => ?_
      split
      · trivial
      · exact ih _ _

private theorem buildHandshake_quiet [Blake3] (reads : Nat) (filepath : Bytes) (chunkSize : Nat) :
    (Main.buildHandshake reads filepath chunkSize).All Quiet := by
  unfold Main.buildHandshake
  split
  · trivial
  · refine Prog.All.recover ⟨trivial, fun _ => trivial⟩ (fun _ => trivial) fun fileSize => ?_
    refine Prog.All.recover ?_ (fun _ => trivial) fun _ => trivial
    refine Prog.All.embed (Prog.All.attempt ⟨trivial, fun _ => trivial⟩ fun _ => ?_)
    exact fileHashLoop_quiet filepath reads 0 .new

private theorem setupTransfer_quiet (config : ClientConfig) :
    (Main.setupTransfer config).All Quiet := by
  refine ⟨trivial, fun found => ?_⟩
  cases found
  · trivial
  · exact ⟨trivial, fun _ => trivial⟩

/-- The exit code 1 is truthful before any worker was spawned. -/
private theorem Idle.failure {session : Session} (idle : Idle session) : Outcome 1 session :=
  ⟨idle.silent, iff_of_true ⟨nofun, fun _ => by decide⟩ idle.quiet⟩

private theorem stable_idle (more : Session → Prop) :
    (protocol allowed .main).Stable fun session => Idle session ∧ more session :=
  stable_of_silent fun _ holds => holds.1.silent

/-- After the handshake the response is known, or the client fails. -/
private theorem performHandshake_triple [Blake3] (reads : Nat) (config : ClientConfig) :
    Triple (protocol allowed .main) Idle (Main.performHandshake reads config) fun
      | none => Idle
      | some (status, dataPorts) => fun session =>
        Idle session ∧ Answered status dataPorts session := by
  have stable : (protocol allowed .main).Stable Idle := stable_of_silent fun _ idle => idle.silent
  have failed : Triple (protocol allowed .main) Idle
      (.ret none : MainProg (Option (UInt8 × List UInt16))) fun
        | none => Idle
        | some (status, dataPorts) => fun session =>
          Idle session ∧ Answered status dataPorts session :=
    .ret stable fun _ _ idle => idle
  refine .recover (fun _ => Idle) (quiet_triple stable ⟨trivial, fun _ => trivial⟩) (fun _ => failed)
    fun _ => ?_
  refine .recover (fun _ => Idle) (quiet_triple stable (buildHandshake_quiet _ _ _)) (fun _ => failed)
    fun handshakeMsg => ?_
  refine .recover (fun _ => Idle) (quiet_triple stable ⟨trivial, fun _ => trivial⟩) (fun _ => failed)
    fun _ => ?_
  refine .vis (fun answer session => Idle session ∧ ∀ data, answer = .ok data →
    session.response = some data) stable (fun session _ idle => ⟨trivial, ?_⟩) ?_
  · rintro answer session' ⟨rfl, _⟩
    refine ⟨⟨rfl, rfl, fun _ => id⟩, trivial, ⟨idle.1, idle.2, idle.3, idle.4⟩, ?_⟩
    rintro data rfl
    rfl
  · intro answer
    cases answer with
    | error error => exact .ret (stable_idle _) fun _ _ holds => holds.1
    | ok data =>
        cases parsed : parseResponse data with
        | error error =>
            simp only [Prog.ret_bind, parsed]
            exact .ret (stable_idle _) fun _ _ holds => holds.1
        | ok answer =>
            obtain ⟨status, dataPorts⟩ := answer
            simp only [Prog.ret_bind, parsed]
            exact .ret (stable_idle _) fun _ _ holds => ⟨holds.1, data, holds.2 data rfl, parsed⟩

/-- No worker is running and none has failed or stored the flag. -/
structure Settled (session : Session) : Prop where
  silent : Silent session
  quiet : session.shutdown = false
  unconfirmed : session.finalFrame = none
  unreported : session.failures = []

/-- The confirmation decides the exit code by what the server reports. -/
private theorem confirm_triple :
    Triple (protocol allowed .main) Settled Main.confirm Outcome := by
  refine .vis (fun answer session => Silent session ∧ session.shutdown = false ∧
    session.failures = [] ∧ ∀ data, answer = .ok data → session.finalFrame = some data)
    (stable_of_silent fun _ settled => settled.silent) (fun session _ settled => ⟨trivial, ?_⟩) ?_
  · rintro answer session' ⟨rfl, _⟩
    refine ⟨⟨rfl, rfl, fun _ => id⟩, trivial, settled.silent, settled.quiet, settled.unreported, ?_⟩
    rintro data rfl
    rfl
  · intro answer
    have stable : ∀ more : Session → Prop, (protocol allowed .main).Stable fun session =>
        Silent session ∧ more session := fun _ => stable_of_silent fun _ holds => holds.1
    have failure : ∀ session : Session, Silent session ∧ session.shutdown = false ∧
        session.failures = [] ∧ (∀ data, answer = .ok data → session.finalFrame = some data) →
          Outcome 1 session := fun session holds =>
      ⟨holds.1, iff_of_true ⟨nofun, fun _ => by decide⟩ holds.2.1⟩
    cases answer with
    | error error => exact .ret (stable _) fun session _ holds => failure session holds
    | ok data =>
        cases data with
        | nil => exact .ret (stable _) fun session _ holds => failure session holds
        | cons status rest =>
            by_cases accepted : status = Handshake.respOk
            · subst accepted
              refine .ret (stable _) fun session _ holds => ?_
              refine ⟨holds.1, iff_of_true ⟨fun _ => ?_, ?_⟩ holds.2.1⟩
              · exact .inr ⟨rest, holds.2.2.2 _ rfl⟩
              · intro reported
                exact absurd holds.2.2.1 reported
            · simp only [Prog.ret_bind, if_neg accepted]
              exact .ret (stable _) fun session _ holds => failure session holds

/-- While workers are being spawned and joined: which of them may still run, what
they have reported, and that the response promised ports. -/
structure Working (pending : List Nat) (reports : List Nat) (session : Session) : Prop where
  pending : ∀ worker, session.spawned worker ≠ none →
    worker ∈ pending ∨ session.finished worker ≠ none
  unconfirmed : session.finalFrame = none
  reported : session.failures = reports
  accepted : ∃ dataPorts, Answered Handshake.respOk dataPorts session

private theorem stable_working (pending reports : List Nat) :
    (protocol allowed .main).Stable (Working pending reports) := by
  intro before after _ holds moved _
  obtain ⟨worker, step⟩ := main_interf moved
  refine ⟨fun other spawned => ?_, step.finalFrame ▸ holds.unconfirmed,
    step.failures ▸ holds.reported, ?_⟩
  · rw [step.spawned] at spawned
    rcases holds.pending other spawned with member | finished
    · exact .inl member
    · by_cases same : other = worker
      · subst same
        exact .inr (step.finished finished)
      · rw [step.others other same]
        exact .inr finished
  · obtain ⟨dataPorts, data, response, parsed⟩ := holds.accepted
    exact ⟨dataPorts, data, step.response.trans response, parsed⟩

private theorem spawnWorkers_triple (config : ClientConfig) (dataPorts : List UInt16)
    (fileSize : Nat) (assigned : List (List Nat × Nat)) (handles : List Nat) :
    Triple (protocol allowed .main) (Working handles [])
      (Main.spawnWorkers config dataPorts fileSize assigned handles)
      fun handles => Working handles [] := by
  induction assigned generalizing handles with
  | nil => exact .ret (stable_working handles []) fun _ _ holds => holds
  | cons entry rest ih =>
      obtain ⟨chunkList, worker⟩ := entry
      unfold Main.spawnWorkers
      split
      · exact ih handles
      · refine .vis (fun _ => Working (handles ++ [worker]) []) (stable_working handles [])
          (fun session _ holds => ⟨trivial, ?_⟩) fun _ => ih _
        rintro _ session' ⟨rfl, _⟩
        refine ⟨⟨rfl, rfl, fun other spawned => ?_⟩, trivial, fun other spawned => ?_,
          holds.unconfirmed, holds.reported, holds.accepted⟩
        · dsimp only
          by_cases same : other = worker
          · subst same
            rw [Function.update_self]
            exact Option.some_ne_none _
          · rwa [Function.update_of_ne same]
        · by_cases same : other = worker
          · subst same
            exact .inl (List.mem_append_right handles List.mem_cons_self)
          · dsimp only at spawned
            rw [Function.update_of_ne same] at spawned
            exact (holds.pending other spawned).imp (List.mem_append_left _) id

private theorem joinWorkers_triple (handles reports : List Nat) :
    Triple (protocol allowed .main) (Working handles reports) (Main.joinWorkers handles reports)
      fun reports => Working [] reports := by
  induction handles generalizing reports with
  | nil => exact .ret (stable_working [] reports) fun _ _ holds => holds
  | cons worker rest ih =>
      refine .vis (fun answer => Working rest (reports ++ reported answer))
        (stable_working _ reports) (fun session _ holds => ⟨trivial, ?_⟩) fun answer => ?_
      · rintro answer session' ⟨⟨finished, rfl⟩, _⟩
        refine ⟨⟨rfl, rfl, fun _ => id⟩, trivial, fun other spawned => ?_, holds.unconfirmed,
          congrArg (· ++ reported answer) holds.reported, holds.accepted⟩
        rcases holds.pending other spawned with member | ended
        · rcases List.mem_cons.mp member with rfl | member
          · exact .inr (by rw [finished]; exact Option.some_ne_none _)
          · exact .inl member
        · exact .inr ended
      · cases answer with
        | some result => exact ih _
        | none =>
            have same : reports ++ reported none = reports := List.append_nil reports
            rw [same]
            exact ih reports

private theorem Working.silent {reports : List Nat} {session : Session}
    (working : Working [] reports session) : Silent session :=
  fun worker spawned => (working.pending worker spawned).resolve_left (List.not_mem_nil)

/-- A client that takes its transfer for interrupted reports success without any
word of the server. -/
private theorem Working.interrupted {reports : List Nat} {session : Session}
    (working : Working [] reports session) (shutdown : session.shutdown = true) :
    Outcome 0 session := by
  refine ⟨working.silent, iff_of_false (fun truthful => ?_) (by rw [shutdown]; decide)⟩
  obtain ⟨dataPorts, data, response, parsed⟩ := working.accepted
  rcases truthful.confirmed rfl with ⟨data', ports, response', exists_⟩ | ⟨rest, final⟩
  · rw [response, Option.some.injEq] at response'
    rw [← response', parsed] at exists_
    cases exists_
  · rw [working.unconfirmed] at final
    cases final

private theorem transfer_triple (config : ClientConfig) (fileSize numChunks : Nat)
    (dataPorts : List UInt16) :
    Triple (protocol allowed .main)
      (fun session => Idle session ∧ Answered Handshake.respOk dataPorts session)
      (Main.transfer config fileSize numChunks dataPorts) Outcome := by
  unfold Main.transfer
  dsimp only
  split
  case isTrue =>
    exact confirm_triple.conseq
      (fun _ _ holds => ⟨holds.1.silent, holds.1.quiet, holds.1.unconfirmed, holds.1.unreported⟩)
      fun _ _ _ holds => holds
  case isFalse =>
    refine .bind (fun reports => Working [] reports) ?_ fun allFailed => ?_
    · refine .bind (fun handles => Working handles []) ?_ fun handles =>
        joinWorkers_triple handles []
      refine (spawnWorkers_triple config dataPorts fileSize _ []).conseq ?_ fun _ _ _ holds => holds
      exact fun session _ holds => ⟨fun worker spawned => absurd (holds.1.unspawned worker) spawned,
        holds.1.unconfirmed, holds.1.unreported, dataPorts, holds.2⟩
    · refine .vis (fun answer session => Working [] allFailed session ∧
        session.shutdown = answer) (stable_working [] allFailed)
        (fun session _ holds => ⟨trivial, ?_⟩) fun answer => ?_
      · rintro answer session' ⟨⟨rfl, rfl⟩, _⟩
        exact ⟨MainMoves.refl _, trivial, holds, rfl⟩
      · have stable : (protocol allowed .main).Stable fun session =>
            Working [] allFailed session ∧ session.shutdown = answer :=
          stable_of_silent fun _ holds => holds.1.silent
        cases answer with
        | true => exact .ret stable fun _ _ holds => holds.1.interrupted holds.2
        | false =>
            cases allFailed with
            | nil =>
                exact confirm_triple.conseq
                  (fun _ _ holds => ⟨holds.1.silent, holds.2, holds.1.unconfirmed, holds.1.reported⟩)
                  fun _ _ _ holds => holds
            | cons failed more =>
                refine .ret stable fun _ _ holds => ⟨holds.1.silent, ?_⟩
                exact iff_of_true ⟨nofun, fun _ => by decide⟩ holds.2

/-- The main task ends with an exit code that is truthful unless the flag was stored. -/
private theorem task_triple [Blake3] (reads : Nat) (config : ClientConfig) :
    Triple (protocol allowed .main) Idle (Main.task reads config) Outcome := by
  have idle : (protocol allowed .main).Stable Idle := stable_of_silent fun _ holds => holds.silent
  have failed : Triple (protocol allowed .main) Idle (.ret 1) Outcome :=
    .ret idle fun _ _ holds => holds.failure
  refine .bind Outcome ?_ fun exitCode => ?_
  · refine .recover (fun _ => Idle) (quiet_triple idle (setupTransfer_quiet config))
      (fun _ => failed) fun (fileSize, numChunks) => ?_
    refine .bind _ (performHandshake_triple reads config) fun answer => ?_
    cases answer with
    | none => exact failed
    | some answer =>
        obtain ⟨status, dataPorts⟩ := answer
        have forget : Triple (protocol allowed .main) (fun session =>
            Idle session ∧ Answered status dataPorts session) Main.confirm Outcome :=
          confirm_triple.conseq (fun _ _ holds =>
            ⟨holds.1.silent, holds.1.quiet, holds.1.unconfirmed, holds.1.unreported⟩)
            fun _ _ _ holds => holds
        dsimp only
        split
        case isTrue accepted =>
          subst accepted
          exact transfer_triple config fileSize numChunks dataPorts
        case isFalse =>
          split
          case isTrue present =>
            subst present
            refine .ret (stable_idle _) fun session _ holds => ⟨holds.1.silent, ?_⟩
            obtain ⟨data, response, parsed⟩ := holds.2
            refine iff_of_true ⟨fun _ => .inl ⟨data, dataPorts, response, parsed⟩, ?_⟩ holds.1.quiet
            intro reported
            exact absurd holds.1.unreported reported
          case isFalse =>
            split
            · exact forget
            · exact .ret (stable_idle _) fun _ _ holds => holds.1.failure
  · exact .bind (fun _ => Outcome exitCode) (quiet_triple (stable_of_silent fun _ holds =>
      holds.silent) ⟨trivial, fun _ => trivial⟩) fun _ =>
        .ret (stable_of_silent fun _ holds => holds.silent) fun _ _ holds => holds

end MainTask

section Workers

variable {allowed : Label sig → Prop} {worker : Nat}

/-- A worker runs: it has been spawned and has not finished. -/
structure Running (worker : Nat) (session : Session) : Prop where
  spawned : session.spawned worker ≠ none
  unfinished : session.finished worker = none

private theorem stable_unfinished :
    (protocol allowed (.worker worker)).Stable fun session => session.finished worker = none := by
  rintro before after _ unfinished ⟨other, different, step⟩ _
  cases other with
  | main => exact (congrFun step.finished worker).trans unfinished
  | worker index =>
      exact (step.others worker fun same => different (congrArg Tid.worker same.symm)).trans
        unfinished

private theorem stable_running : (protocol allowed (.worker worker)).Stable (Running worker) := by
  rintro before after inv running ⟨other, different, step⟩ inv'
  refine ⟨?_, stable_unfinished before after inv running.unfinished ⟨other, different, step⟩ inv'⟩
  cases other with
  | main => exact step.spawned worker running.spawned
  | worker index =>
      rw [step.spawned]
      exact running.spawned

private theorem inside_triple {α : Type} {program : WorkerProg α} (inside : program.All Worker.Inside) :
    Triple (protocol allowed (.worker worker)) (Running worker) program
      fun _ => Running worker := by
  refine .uniform stable_running inside fun op insideOp session _ running => ⟨trivial, ?_⟩
  rintro answer session' ⟨acted, _⟩
  have kept : session' = session → WorkerMoves worker session session' ∧ True ∧
      Running worker session' := by
    rintro rfl
    exact ⟨.refl worker _, trivial, running⟩
  cases op with
  | start => cases insideOp
  | finish result => cases insideOp
  | loadShutdown => exact kept acted.2
  | storeShutdown =>
      obtain rfl := acted
      refine ⟨⟨rfl, rfl, rfl, rfl, fun _ _ => rfl, id, ?_⟩, trivial,
        running.spawned, running.unfinished⟩
      rintro (unspawned | finished)
      · exact absurd unspawned running.spawned
      · exact absurd running.unfinished finished
  | connect | sendFrame | sendParts | recvFrame | fs | closeStream => exact kept acted

private theorem worker_triple [Blake3] :
    Triple (protocol allowed (.worker worker)) (fun session => session.finished worker = none)
      Worker.task fun _ _ => True := by
  refine .vis (fun _ => Running worker) stable_unfinished (fun session _ unfinished =>
    ⟨trivial, ?_⟩) fun config => ?_
  · rintro answer _ ⟨⟨spawned, rfl⟩, _⟩
    exact ⟨.refl worker _, trivial, by rw [spawned]; exact Option.some_ne_none _, unfinished⟩
  · rw [Prog.ret_bind]
    refine .bind (fun _ => Running worker) (inside_triple (Worker.worker_inside config)) fun result => ?_
    refine .bind (fun _ => Running worker) (inside_triple ⟨trivial, fun _ => trivial⟩) fun _ => ?_
    refine .vis (fun _ _ => True) stable_running (fun session _ running => ⟨trivial, ?_⟩)
      fun _ => .ret (.const True) fun _ _ _ => trivial
    rintro _ _ ⟨rfl, _⟩
    refine ⟨⟨rfl, rfl, rfl, rfl, fun other different => Function.update_of_ne different _ _,
      fun _ => ?_, ?_⟩, trivial, trivial⟩
    · dsimp only
      rw [Function.update_self]
      exact Option.some_ne_none _
    · rintro (unspawned | finished)
      · exact absurd unspawned running.spawned
      · exact absurd running.unfinished finished

end Workers

section Runs

variable [Blake3] {reads : Nat} {config : ClientConfig}

private theorem start_holds (allowed : Label sig → Prop) :
    contract.Holds system allowed (start reads config) where
  inv := trivial
  threads
    | .main => task_triple reads config initial trivial ⟨fun _ => rfl, rfl, rfl, rfl⟩
    | .worker _ => worker_triple initial trivial rfl

private theorem reaches_of_quiet {pool : Pool sig Ctl Session}
    (reached : Reaches system (fun _ => True) (start reads config) pool)
    (quiet : pool.world.shutdown = false) :
    Reaches system (fun label => ¬ StoresShutdown label) (start reads config) pool := by
  induction reached with
  | refl => exact .refl
  | @step pool pool' label _ step _ ih =>
      cases step with
      | restart _ again => cases again
      | @act tid op next answer world current acted =>
          have before : pool.world.shutdown = false := by
            rw [Pool.resume_world] at quiet
            cases tid with
            | main =>
                cases op with
                | loadShutdown | joinWorker => rwa [acted.2] at quiet
                | isFile | metadataLen | fs | connect | sendFrame | recvFrame | recvFinal
                  | spawnWorker | closeStream => rwa [acted] at quiet
            | worker index =>
                cases op with
                | storeShutdown =>
                    rw [acted] at quiet
                    cases quiet
                | start | loadShutdown => rwa [acted.2] at quiet
                | connect | sendFrame | sendParts | recvFrame | fs | closeStream | finish =>
                    rwa [acted] at quiet
          refine .step (ih before) (.act current acted) ?_
          rintro shown ⟨⟩ ⟨index, answer', same⟩
          cases same
          rw [Pool.resume_world, acted] at quiet
          cases quiet

private theorem quiet_of_reaches {pool : Pool sig Ctl Session}
    (reached : Reaches system (fun label => ¬ StoresShutdown label) (start reads config) pool) :
    pool.world.shutdown = false := by
  induction reached with
  | refl => rfl
  | @step pool pool' label _ step permitted ih =>
      cases step with
      | restart _ again => cases again
      | @act tid op next answer world current acted =>
          rw [Pool.resume_world]
          cases tid with
          | main =>
              cases op with
              | loadShutdown | joinWorker => rwa [acted.2]
              | isFile | metadataLen | fs | connect | sendFrame | recvFrame | recvFinal
                | spawnWorker | closeStream => rwa [acted]
          | worker index =>
              cases op with
              | storeShutdown => exact absurd ⟨index, answer, rfl⟩ (permitted _ rfl)
              | start | loadShutdown => rwa [acted.2]
              | connect | sendFrame | sendParts | recvFrame | fs | closeStream | finish =>
                  rwa [acted]

end Runs

/-- A one-byte file sent with one attempt for each chunk. -/
def sampleConfig : ClientConfig where
  host := "localhost"
  port := 19999
  filepath := ascii "f"
  chunkSize := 2097152
  parallel := 25
  retries := 1
  chunkSize_pos := Nat.zero_lt_succ _

/-- In any run without Ctrl+C, the exit code the client ends with is truthful exactly
when no worker stored the shutdown flag on the way. -/
theorem exit_code_truthful_iff [Blake3] (reads : Nat) (config : ClientConfig)
    {pool : Pool sig Ctl Session} {exitCode : Nat}
    (reached : Reaches system (fun _ => True) (start reads config) pool)
    (ended : pool.prog .main = .ret exitCode) :
    Truthful pool.world exitCode ↔
      Reaches system (fun label => ¬ StoresShutdown label) (start reads config) pool := by
  have outcome : Outcome exitCode pool.world :=
    ((start_holds _).reaches (fun _ _ _ again => by cases again) reached).returned ended
  rw [outcome.truthful]
  exact ⟨reaches_of_quiet reached, quiet_of_reaches⟩

/-- What the main task has left to do once it has spawned its worker. -/
private def joining : MainProg Nat :=
  ((Main.joinWorkers [0] []).bind fun allFailed =>
    (Main.call .loadShutdown).bind fun
      | true => .ret 0
      | false => if allFailed.isEmpty then Main.confirm else .ret 1).bind fun exitCode =>
        (Main.call .closeStream).bind fun _ => .ret exitCode

private def sampleWorker : WorkerConfig :=
  Main.workerConfig sampleConfig [45000] 1 0 [0]

/-- The server has accepted the handshake with one port, and the worker is spawned. -/
private def accepted : Session :=
  { initial with
    response := some [0, 1, 0xAF, 0xC8]
    spawned := Function.update (fun _ => none) 0 (some sampleWorker) }

private theorem accepted_reached :
    Reaches system (fun _ => True) (@start .sample 10 sampleConfig)
      ((@start .sample 10 sampleConfig).resume .main joining accepted) := by
  refine Reaches.refl.runs rfl ?_
  refine .vis true ⟨rfl, trivial⟩ (.vis (.ok 1) ⟨rfl, trivial⟩ (.vis (.ok ()) ⟨rfl, trivial⟩ ?_))
  refine .vis (.ok 1) ⟨rfl, trivial⟩ (.vis (.ok ()) ⟨rfl, trivial⟩ ?_)
  refine .vis (.ok [0x61]) ⟨rfl, trivial⟩ (.vis (.ok []) ⟨rfl, trivial⟩ ?_)
  refine .vis (.ok ()) ⟨rfl, trivial⟩ (.vis (.ok [0, 1, 0xAF, 0xC8]) ⟨rfl, trivial⟩ ?_)
  exact .vis () ⟨rfl, trivial⟩ .refl

/-- The chunk is acknowledged, the server confirms the file, and the client ends with 0. -/
theorem exit_code_truthful_iff_confirmed :
    ∃ pool : Pool sig Ctl Session,
      Reaches system (fun _ => True) (@start .sample 10 sampleConfig) pool ∧
        pool.prog .main = .ret 0 ∧ pool.world.finished 0 = some (some ⟨[0], []⟩) ∧
          pool.world.finalFrame = some [Handshake.respOk] ∧
            (Truthful pool.world 0 ↔
              Reaches system (fun label => ¬ StoresShutdown label)
                (@start .sample 10 sampleConfig) pool) := by
  let _ := Blake3.sample
  let acknowledged : Session := { accepted with
    finished := Function.update (fun _ => none) 0 (some (some ⟨[0], []⟩)) }
  have sent : Reaches system (fun _ => True) (start 10 sampleConfig)
      (((start 10 sampleConfig).resume .main joining accepted).resume (.worker 0)
        (.ret ()) acknowledged) := by
    refine accepted_reached.runs rfl ?_
    refine .vis sampleWorker ⟨⟨rfl, rfl⟩, trivial⟩ (.vis false ⟨⟨rfl, rfl⟩, trivial⟩ ?_)
    refine .vis (.ok ()) ⟨rfl, trivial⟩ (.vis (.ok ()) ⟨rfl, trivial⟩ ?_)
    refine .vis (.ok [0, 0, 0, 0]) ⟨rfl, trivial⟩ (.vis false ⟨⟨rfl, rfl⟩, trivial⟩ ?_)
    refine .vis (.ok ()) ⟨rfl, trivial⟩ (.vis (.ok [0x61]) ⟨rfl, trivial⟩ ?_)
    refine .vis (.ok ()) ⟨rfl, trivial⟩ (.vis false ⟨⟨rfl, rfl⟩, trivial⟩ ?_)
    refine .vis (.ok [Chunk.ackOk]) ⟨rfl, trivial⟩ ?_
    exact .vis () ⟨rfl, trivial⟩ (.vis () ⟨rfl, trivial⟩ .refl)
  have ended : Reaches system (fun _ => True) (start 10 sampleConfig)
      ((((start 10 sampleConfig).resume .main joining accepted).resume (.worker 0)
        (.ret ()) acknowledged).resume .main (.ret 0)
          { acknowledged with finalFrame := some [Handshake.respOk] }) := by
    refine sent.runs rfl ?_
    refine .vis (some ⟨[0], []⟩) ⟨⟨rfl, rfl⟩, trivial⟩ (.vis false ⟨⟨rfl, rfl⟩, trivial⟩ ?_)
    exact .vis (.ok [Handshake.respOk]) ⟨rfl, trivial⟩ (.vis () ⟨rfl, trivial⟩ .refl)
  exact ⟨_, ended, Pool.resume_prog_self _ _ _ _, rfl, rfl,
    exit_code_truthful_iff 10 sampleConfig ended (Pool.resume_prog_self _ _ _ _)⟩

/-- A server that accepts the handshake and refuses the only chunk: the worker stores
the flag, and the client exits with 0 although nothing confirmed the transfer. -/
theorem exit_code_untruthful_rejected_chunk :
    ¬ ∀ pool : Pool sig Ctl Session,
      Reaches system (fun _ => True) (@start .sample 10 sampleConfig) pool →
        ∀ exitCode, pool.prog .main = .ret exitCode → Truthful pool.world exitCode := by
  intro truthful
  let _ := Blake3.sample
  let rejected : Session := { accepted with
    shutdown := true
    finished := Function.update (fun _ => none) 0 (some (some ⟨[], [0]⟩)) }
  have failed : Reaches system (fun _ => True) (start 10 sampleConfig)
      (((start 10 sampleConfig).resume .main joining accepted).resume (.worker 0)
        (.ret ()) rejected) := by
    refine accepted_reached.runs rfl ?_
    refine .vis sampleWorker ⟨⟨rfl, rfl⟩, trivial⟩ (.vis false ⟨⟨rfl, rfl⟩, trivial⟩ ?_)
    refine .vis (.ok ()) ⟨rfl, trivial⟩ (.vis (.ok ()) ⟨rfl, trivial⟩ ?_)
    refine .vis (.ok [0, 0, 0, 0]) ⟨rfl, trivial⟩ (.vis false ⟨⟨rfl, rfl⟩, trivial⟩ ?_)
    refine .vis (.ok ()) ⟨rfl, trivial⟩ (.vis (.ok [0x61]) ⟨rfl, trivial⟩ ?_)
    refine .vis (.ok ()) ⟨rfl, trivial⟩ (.vis false ⟨⟨rfl, rfl⟩, trivial⟩ ?_)
    refine .vis (.ok [Chunk.ackHashMismatch]) ⟨rfl, trivial⟩ (.vis () ⟨rfl, trivial⟩ ?_)
    exact .vis () ⟨rfl, trivial⟩ (.vis () ⟨rfl, trivial⟩ .refl)
  have ended : Reaches system (fun _ => True) (start 10 sampleConfig)
      ((((start 10 sampleConfig).resume .main joining accepted).resume (.worker 0)
        (.ret ()) rejected).resume .main (.ret 0) { rejected with failures := [0] }) := by
    refine failed.runs rfl ?_
    refine .vis (some ⟨[], [0]⟩) ⟨⟨rfl, rfl⟩, trivial⟩ (.vis true ⟨⟨rfl, rfl⟩, trivial⟩ ?_)
    exact .vis () ⟨rfl, trivial⟩ .refl
  exact (truthful _ ended 0 rfl).failed (by decide) rfl

end Session

end BeeSync.Client
