import BeeSync.Server.OneTransfer
import BeeSync.Server.ReadLoops
import BeeSync.Server.RecoveryPhases
import BeeSync.Server.RecoveryRuns

/-!
# No crash loses a chunk

In every state of a lifetime the receiver, the files and the tasks agree on how far the
transfer has come. What a lifetime leaves is sound whenever it ends, so the next one can
start from it.
-/

set_option autoImplicit false

namespace BeeSync.Server

open Encoding Arithmetic Interaction

section Handler

variable [Blake3] (job : Job)

/-- No chunk is missing. -/
def Job.Whole (marked : Set Nat) : Prop := ∀ idx < job.handshake.numChunks, idx ∈ marked

/-- How far the handler has come with the transfer. -/
def ControlPhase.Attends (fs : Fs FilePath) (marked : Set Nat) (begun : Prop) :
    ControlPhase → Prop
  | .starting | .created .. => ¬ begun
  | .accepted handshake => handshake = job.handshake ∧ ¬ begun
  | .resuming _ _ _ resume => ¬ begun ∧ resume.Recovered job fs
  | .serving _ _ complete | .looking _ _ complete _ => ¬ begun ∧ (complete = true → job.Whole marked)
  | .assembling _ _ _ assembly =>
      job.Whole marked ∧ (begun ↔ assembly ≠ .creating) ∧ assembly.Copied job fs
  | .reporting _ _ success => job.Whole marked ∧ success = true ∧ job.Delivered fs
  | .finished => begun → job.Whole marked ∧ job.Delivered fs

/-- A receiver of the transfer that knows chunks of the source. -/
structure Job.Good (state : FileReceiver) : Prop where
  matched : FileReceiver.Matched job.handshake state
  same : state.params = job.receiver.params
  valid : job.Valid state.metadata

variable {job} {fs fs' : Fs FilePath} {marked marked' : Set Nat} {begun : Prop}
  {state : FileReceiver}

/-- The handler relies on the files only while it works on them and once nothing is missing. -/
theorem ControlPhase.Attends.still {phase : ControlPhase}
    (attends : phase.Attends job fs marked begun) (early : phase.Unserved → fs' = fs)
    (late : job.Whole marked → fs' = fs) (grown : marked ⊆ marked') :
    phase.Attends job fs' marked' begun := by
  have whole : job.Whole marked → job.Whole marked' := fun all idx inRange =>
    grown (all idx inRange)
  cases phase with
  | starting | accepted | created => exact attends
  | resuming =>
      rw [early trivial]
      exact attends
  | serving | looking => exact attends.imp_right fun seen complete => whole (seen complete)
  | assembling | reporting =>
      rw [late attends.1]
      exact attends.imp_left whole
  | finished =>
      intro started
      obtain ⟨all, delivered⟩ := attends started
      rw [late all]
      exact ⟨whole all, delivered⟩

theorem ControlPhase.Attends.unanswered {phase : ControlPhase}
    (attends : phase.Attends job fs marked begun) (started : begun) : ¬ phase.Answers := by
  cases phase with
  | starting => exact absurd started attends
  | accepted => exact absurd started attends.2
  | serving => exact absurd started attends.1
  | _ => exact id

namespace Job.Good

theorem created : job.Good job.receiver where
  matched := .created _ _ _
  same := rfl
  valid := ⟨⟨rfl, rfl, rfl, rfl⟩, nofun⟩

theorem recorded {chunk : ChunkInHand} (good : job.Good state)
    (inRange : chunk.idx < job.handshake.numChunks) (bytes : chunk.data = job.chunk chunk.idx) :
    job.Good (state.recorded chunk) where
  matched := good.matched.recorded (good.matched.numChunks ▸ inRange)
  same := good.same
  valid := by
    have valid := good.valid.addChunk inRange
    rw [← bytes] at valid
    exact valid

theorem resumed [KeyOrder] {marked : FileReceiver} {metadata : TransferMetadata}
    (good : job.Good state) (fresh : ∀ idx, ¬ state.Received idx) (valid : job.Valid metadata)
    (all : state.markAll (KeyOrder.keys metadata.chunkHashes) = some marked) :
    job.Good (marked.setMetadata metadata) where
  matched := good.matched.resumed fresh (valid.params.of_params good.same.symm) all
  same := (FileReceiver.params_markAll all).trans good.same
  valid := valid

end Job.Good

end Handler

section Lifetimes

/-- Every chunk is sent to one task. -/
structure Lifetime.Dealt (lifetime : Lifetime) : Prop where
  alone : ∀ {task other idx}, lifetime.serving task = some idx →
    lifetime.serving other = some idx → other = task
  sent : ∀ {task idx}, lifetime.serving task = some idx → idx ∈ lifetime.sent
  known : ∀ idx ∈ lifetime.marked, idx ∈ lifetime.recovered ∨ idx ∈ lifetime.sent

/-- The chunks that are in the record and about to be marked. -/
def entering (phase : (role : Role Unit) → role.Phase) : Set Nat :=
  {idx | ∃ task, (phase (.data task)).Enters idx}

variable {phase : (role : Role Unit) → role.Phase} {lifetime : Lifetime}

theorem Lifetime.marked_iff {idx : Nat} {receiver : ReceiverId} {state : FileReceiver}
    (sole : ∀ receiver other, lifetime.store.receivers receiver ≠ none →
      lifetime.store.receivers other ≠ none → receiver = other)
    (found : lifetime.store.receivers receiver = some state) :
    idx ∈ lifetime.marked ↔ state.Received idx := by
  constructor
  · rintro ⟨other, state', found', received⟩
    have same := sole other receiver (by rw [found']; nofun) (by rw [found]; nofun)
    rw [same] at found'
    cases found.symm.trans found'
    exact received
  · exact fun received => ⟨receiver, state, found, received⟩

theorem Lifetime.marked_congr {lifetime' : Lifetime}
    (same : lifetime'.store.receivers = lifetime.store.receivers) :
    lifetime'.marked = lifetime.marked := by
  rw [marked, marked, same]

theorem entering_subset {task : Nat} {phase' : DataPhase} (unsaved : ¬ (phase (.data task)).Saved) :
    entering phase ⊆ entering (Function.update phase (.data task) phase') := by
  rintro idx ⟨other, receiver, chunk, state, recording, same⟩
  have different : other ≠ task := by
    rintro rfl
    exact unsaved ⟨receiver, chunk, state, recording⟩
  exact ⟨other, receiver, chunk, state, (Role.update_data_other different _).trans recording, same⟩

theorem entering_self {task idx : Nat} {phase' : DataPhase} (enters : phase'.Enters idx) :
    idx ∈ entering (Function.update phase (.data task) phase') := by
  refine ⟨task, ?_⟩
  rwa [Function.update_self]

theorem entering_control (phase' : ControlPhase) :
    entering (Function.update phase (.control ()) phase') = entering phase := by
  simp only [entering, Role.update_control_data]

variable [Blake3] (job : Job)

/-- The transfer is in good order, however it is interrupted. -/
structure Alive (phase : (role : Role Unit) → role.Phase) (lifetime : Lifetime) : Prop where
  one : OneTransfer phase lifetime.store
  good : ∀ receiver state, lifetime.store.receivers receiver = some state → job.Good state
  run : lifetime.resumed ↔ ¬ (phase (.control ())).Unserved
  accounts : job.Accounts lifetime.past lifetime.marked (entering phase) lifetime.resumed
    lifetime.assembling
  control : (phase (.control ())).Attends job lifetime.store.fs lifetime.marked lifetime.assembling
  data : ∀ task, (phase (.data task)).Attends job (lifetime.serving task) lifetime.marked
    lifetime.store.fs
  dealt : lifetime.Dealt

variable {job}

/-- Nothing is marked before the resume section has been left. -/
theorem Alive.marked_unserved (alive : Alive job phase lifetime)
    (unserved : (phase (.control ())).Unserved) : lifetime.marked = ∅ := by
  rw [Set.eq_empty_iff_forall_notMem]
  rintro idx ⟨receiver, state, found, received⟩
  exact alive.one.fresh unserved receiver state found idx received

theorem Alive.marked_inRange (alive : Alive job phase lifetime) :
    ∀ idx ∈ lifetime.marked, idx < job.handshake.numChunks := by
  rintro idx ⟨receiver, state, found, received⟩
  have good := alive.good receiver state found
  exact good.valid.inRange ((good.matched.flags idx).mp received)

/-- A chunk on its way is not in the record yet. -/
theorem Alive.unlisted (alive : Alive job phase lifetime) {task : Nat}
    (unsaved : ¬ (phase (.data task)).Saved) {idx : Nat}
    (mine : lifetime.serving task = some idx) : idx ∉ entering phase := by
  rintro ⟨other, receiver, chunk, state, recording, same⟩
  have attends := alive.data other
  rw [recording] at attends
  have theirs := attends.1.mine
  rw [same] at theirs
  have here := alive.dealt.alone mine theirs
  rw [here] at recording
  exact unsaved ⟨receiver, chunk, state, recording⟩

theorem Alive.found (alive : Alive job phase lifetime) (role : Role Unit) {receiver : ReceiverId}
    {state : FileReceiver} (holds : role.holding (phase role) = some (receiver, state)) :
    lifetime.store.receivers receiver = some state :=
  (alive.one.orderly.held role receiver state holds).2

end Lifetimes

section Data

variable [Blake3] {job : Job} {phase : (role : Role Unit) → role.Phase} {lifetime : Lifetime}
  {task : Nat} {store : Store (Role Unit)} {op : DataOp} {answer : op.Res} {phase' : DataPhase}

@[simp] theorem Job.noteData_store :
    (job.noteData task lifetime store op answer).store = store := by
  cases op with
  | recvFrame => cases answer <;> rfl
  | _ => rfl

@[simp] theorem Job.noteData_resumed :
    (job.noteData task lifetime store op answer).resumed = lifetime.resumed := by
  cases op with
  | recvFrame => cases answer <;> rfl
  | _ => rfl

@[simp] theorem Job.noteData_assembling :
    (job.noteData task lifetime store op answer).assembling = lifetime.assembling := by
  cases op with
  | recvFrame => cases answer <;> rfl
  | _ => rfl

@[simp] theorem Job.noteData_recovered :
    (job.noteData task lifetime store op answer).recovered = lifetime.recovered := by
  cases op with
  | recvFrame => cases answer <;> rfl
  | _ => rfl

theorem Job.noteData_serving : (job.noteData task lifetime store op answer).serving =
    Function.update lifetime.serving task (nowServing (lifetime.serving task) op answer) := by
  cases op with
  | recvFrame =>
      cases answer with
      | ok frame => rfl
      | error error => exact (Function.update_eq_self _ _).symm
  | _ => exact (Function.update_eq_self _ _).symm

/-- What a task is served next it has been served already, or nobody has been. -/
theorem Job.Transmits.fresh {idx : Nat} (transmits : job.Transmits lifetime op answer)
    (now : nowServing (lifetime.serving task) op answer = some idx) :
    lifetime.serving task = some idx ∨
      (idx ∉ lifetime.sent ∧ idx ∈ (job.noteData task lifetime store op answer).sent) := by
  cases op with
  | recvFrame =>
      cases answer with
      | ok frame =>
          have mine : headerIndex frame = some idx := now
          obtain query | ⟨other, honest⟩ := transmits
          · rw [query] at mine
            cases mine
          · cases honest.index.symm.trans mine
            exact .inr ⟨honest.unsent, .inr mine⟩
      | error error => exact .inl now
  | _ => exact .inl now

theorem Job.sent_noteData : lifetime.sent ⊆ (job.noteData task lifetime store op answer).sent := by
  intro idx member
  cases op with
  | recvFrame =>
      cases answer with
      | ok frame => exact .inl member
      | error error => exact member
  | _ => exact member

theorem Lifetime.Dealt.data (dealt : lifetime.Dealt) (transmits : job.Transmits lifetime op answer)
    (marks : ∀ idx ∈ (job.noteData task lifetime store op answer).marked,
      idx ∈ lifetime.marked ∨ lifetime.serving task = some idx) :
    (job.noteData task lifetime store op answer).Dealt := by
  have served : ∀ {other idx},
      (job.noteData task lifetime store op answer).serving other = some idx →
        lifetime.serving other = some idx ∨ (other = task ∧ idx ∉ lifetime.sent ∧
          idx ∈ (job.noteData task lifetime store op answer).sent) := by
    intro other idx serving
    rw [Job.noteData_serving] at serving
    by_cases here : other = task
    · subst here
      rw [Function.update_self] at serving
      exact (transmits.fresh serving).imp_right fun fresh => ⟨rfl, fresh⟩
    · rw [Function.update_of_ne here] at serving
      exact .inl serving
  constructor
  · intro one other idx mine theirs
    obtain mine | ⟨here, unsent, _⟩ := served mine
    · obtain theirs | ⟨_, unsent, _⟩ := served theirs
      · exact dealt.alone mine theirs
      · exact absurd (dealt.sent mine) unsent
    · obtain theirs | ⟨there, _, _⟩ := served theirs
      · exact absurd (dealt.sent theirs) unsent
      · exact there.trans here.symm
  · intro other idx serving
    obtain earlier | ⟨_, _, sent⟩ := served serving
    · exact Job.sent_noteData (dealt.sent earlier)
    · exact sent
  · intro idx member
    rw [Job.noteData_recovered]
    obtain earlier | mine := marks idx member
    · exact (dealt.known idx earlier).imp_right fun sent => Job.sent_noteData sent
    · exact .inr (Job.sent_noteData (dealt.sent mine))

/-- What a task hears is not marked. -/
theorem Alive.hears (alive : Alive job phase lifetime)
    (transmits : job.Transmits lifetime op answer) : job.Hears lifetime.marked op answer := by
  cases op with
  | recvFrame =>
      cases answer with
      | ok frame =>
          refine Or.imp_right (fun sent => ?_) transmits
          obtain ⟨idx, honest⟩ := sent
          refine ⟨idx, fun member => ?_, honest.toMessage⟩
          exact (alive.dealt.known idx member).elim honest.missing honest.unsent
      | error error => trivial
  | _ => trivial

/-- A task that has no record in place leaves the receivers as they are. -/
theorem Alive.receivers (alive : Alive job phase lifetime)
    (turned : DataTurn (phase (.data task)) op answer phase')
    (acted : Store.dataSem False (Role.data task) op lifetime.store answer store)
    (unsaved : ¬ (phase (.data task)).Saved) : store.receivers = lifetime.store.receivers := by
  have attends := alive.data task
  have unchanged : ∀ {receiver state}, (phase (.data task)).holding = some (receiver, state) →
      Store.unlockSem receiver state lifetime.store store →
        store.receivers = lifetime.store.receivers := by
    intro receiver state holds unlocked
    have found := alive.found (.data task) holds
    cases unlocked
    dsimp only
    rw [← found, Function.update_eq_self]
  generalize current : phase (.data task) = before at turned unsaved attends unchanged
  cases turned with
  | leave | refuse | accept | placed => exact unchanged rfl acted
  | failed => exact attends.elim
  | recorded => exact absurd ⟨_, _, _, rfl⟩ unsaved
  | unsaved ended => exact (attends.2.2.fine ended).elim
  | look | size | place | fail | record | store | save =>
      obtain ⟨_, _, same⟩ := acted
      rw [same]
  | connect => rw [acted.2]
  | idle op quiet =>
      cases op with
      | getReceiver => rw [acted.2]
      | start | accept | closeStream | dropListener => rw [show store = _ from acted]
      | _ => cases quiet
  | receive | hear | reply | close | acknowledge => rw [show store = _ from acted]

/-- What a task does is accounted for, unless it marks a chunk. -/
theorem Alive.data_accounts (alive : Alive job phase lifetime)
    (turned : DataTurn (phase (.data task)) op answer phase')
    (acted : Store.dataSem False (Role.data task) op lifetime.store answer store)
    (unsaved : ¬ (phase (.data task)).Saved) :
    job.Accounts (job.noteData task lifetime store op answer).past lifetime.marked
      (entering (Function.update phase (.data task) phase')) lifetime.resumed
        lifetime.assembling := by
  have more : entering phase ⊆ entering (Function.update phase (.data task) phase') :=
    entering_subset unsaved
  have accounts := alive.accounts
  have attends := alive.data task
  cases op with
  | fs call =>
      obtain ⟨fs, called, same⟩ := acted
      subst same
      have served : ¬ (phase (.control ())).Unserved := by
        intro unserved
        rw [alive.one.idle unserved task] at turned
        cases turned with
        | idle _ quiet => cases quiet
      refine turned.accounts (fun receiver state holds => ?_) called attends (alive.run.mpr served)
        (fun idx => alive.unlisted unsaved) more (fun idx => entering_self) accounts
      have found := alive.found (.data task) holds
      have good := alive.good receiver state found
      refine ⟨good.same, good.valid, fun idx => ?_⟩
      rw [lifetime.marked_iff alive.one.sole found, good.matched.flags]
  | sendFrame payload =>
      cases acted
      refine (accounts.ack fun idx member => ?_).enter more
      refine member.imp_right fun acked => ?_
      obtain ⟨ack, mine⟩ := acked
      generalize phase (.data task) = before at turned attends
      cases turned with
      | idle _ quiet => cases quiet
      | reply _ noAck => exact absurd ack noAck
      | acknowledge =>
          obtain ⟨other, member, theirs⟩ := attends
          cases mine.symm.trans theirs
          exact member
  | recvFrame =>
      have files := acted.files nofun
      cases answer with
      | ok frame =>
          dsimp only [Job.noteData, Lifetime.past]
          rw [files]
          exact accounts.enter more
      | error error =>
          dsimp only [Job.noteData, Lifetime.past]
          rw [files]
          exact accounts.enter more
  | _ =>
      dsimp only [Job.noteData, Lifetime.past]
      rw [acted.files nofun]
      exact accounts.enter more

/-- A task touches no file that another one relies on. -/
theorem Alive.data_others (alive : Alive job phase lifetime)
    (turned : DataTurn (phase (.data task)) op answer phase')
    (acted : Store.dataSem False (Role.data task) op lifetime.store answer store)
    {other : Nat} (different : other ≠ task) :
    (phase (.data other)).Attends job (lifetime.serving other) lifetime.marked store.fs := by
  have attends := alive.data task
  by_cases quiet : ∀ call, op ≠ .fs call
  · rw [acted.files quiet]
    exact alive.data other
  · obtain ⟨call, calls⟩ := not_forall_not.mp quiet
    subst calls
    obtain ⟨fs, called, same⟩ := acted
    subst same
    refine (alive.data other).still fun idx _ _ theirs => ?_
    obtain ⟨receiver, chunk, path, write, write', before, _, writing⟩ |
      ⟨receiver, chunk, state, save, save', before, _, saving⟩ := turned.onFiles
    · rw [before] at attends
      obtain ⟨serves, same, _⟩ := attends
      subst same
      have spared : ∀ {path}, path ≠ job.partPath chunk.idx →
          fs path = lifetime.store.fs path := fun apart =>
        called.frame fun writes => apart (writing.writes writes)
      refine ⟨spared fun same => different ?_, fun _ => ⟨?_, ?_⟩⟩
      · cases Job.partPath_inj.mp same
        exact alive.dealt.alone serves.mine theirs
      · exact spared Job.partPath_ne_tmpPath.symm
      · exact spared Job.partPath_ne_metaPath.symm
    · have holds : (phase (.data task)).holding = some (receiver, state) := by rw [before]; rfl
      have good := alive.good receiver state (alive.found (.data task) holds)
      have partsDir : state.partsDir = job.config.tempDir :=
        congrArg FileReceiver.Params.partsDir good.same
      have filename : state.filename = job.handshake.safeName :=
        congrArg FileReceiver.Params.filename good.same
      rw [partsDir, filename] at saving
      refine ⟨called.frame fun writes => ?_, fun holding => absurd ?_ different⟩
      · obtain here | here := saving.writes writes
        · exact Job.partPath_ne_tmpPath here
        · exact Job.partPath_ne_metaPath here
      · obtain ⟨⟨receiver', state'⟩, holds'⟩ := Option.ne_none_iff_exists'.mp holding
        have mine := alive.one.orderly.held (.data task) receiver state holds
        have theirs := alive.one.orderly.held (.data other) receiver' state' holds'
        have same := alive.one.sole receiver receiver' (by rw [mine.2]; nofun)
          (by rw [theirs.2]; nofun)
        rw [← same] at theirs
        cases mine.1.symm.trans theirs.1
        rfl

/-- Whoever works on the files has a chunk that is missing. -/
theorem Alive.data_files (alive : Alive job phase lifetime)
    (turned : DataTurn (phase (.data task)) op answer phase')
    (acted : Store.dataSem False (Role.data task) op lifetime.store answer store) :
    ((phase (.control ())).Unserved → store.fs = lifetime.store.fs) ∧
      (job.Whole lifetime.marked → store.fs = lifetime.store.fs) := by
  refine ⟨fun unserved => ?_, fun whole => ?_⟩
  · rw [(alive.one.idle_step unserved turned acted).2]
  · refine acted.files fun call calls => ?_
    subst calls
    have attends := alive.data task
    obtain ⟨_, _, _, _, _, before, _⟩ | ⟨_, _, _, _, _, before, _⟩ := turned.onFiles
    · rw [before] at attends
      exact attends.1.unmarked (whole _ attends.1.inRange)
    · rw [before] at attends
      exact attends.1.unmarked (whole _ attends.1.inRange)

theorem Alive.data_still (alive : Alive job phase lifetime)
    (turned : DataTurn (phase (.data task)) op answer phase')
    (acted : Store.dataSem False (Role.data task) op lifetime.store answer store)
    (transmits : job.Transmits lifetime op answer) (unsaved : ¬ (phase (.data task)).Saved) :
    Alive job (Function.update phase (.data task) phase')
      (job.noteData task lifetime store op answer) := by
  have receivers := alive.receivers turned acted unsaved
  have marked : (job.noteData task lifetime store op answer).marked = lifetime.marked :=
    Lifetime.marked_congr (by rw [Job.noteData_store, receivers])
  obtain ⟨early, late⟩ := alive.data_files turned acted
  constructor
  · rw [Job.noteData_store]
    exact alive.one.data turned acted
  · rw [Job.noteData_store, receivers]
    exact alive.good
  · rw [Job.noteData_resumed, Role.update_data_control]
    exact alive.run
  · rw [marked, Job.noteData_resumed, Job.noteData_assembling]
    exact alive.data_accounts turned acted unsaved
  · rw [marked, Job.noteData_store, Job.noteData_assembling, Role.update_data_control]
    exact alive.control.still early late subset_rfl
  · intro other
    rw [marked, Job.noteData_store, Job.noteData_serving]
    by_cases here : other = task
    · subst here
      rw [Function.update_self, Function.update_self]
      refine turned.attends unsaved (alive.hears transmits) (fun receiver state holds => ?_) acted
        (alive.data other)
      exact (alive.good receiver state (alive.found (.data other) holds)).same
    · rw [Role.update_data_other here, Function.update_of_ne here]
      exact alive.data_others turned acted here
  · exact alive.dealt.data transmits fun idx member => .inl (marked ▸ member)

/-- A task marks the chunk whose record is in place. -/
theorem Alive.data_mark (alive : Alive job phase lifetime)
    (turned : DataTurn (phase (.data task)) op answer phase')
    (acted : Store.dataSem False (Role.data task) op lifetime.store answer store)
    (transmits : job.Transmits lifetime op answer) (saved : (phase (.data task)).Saved) :
    Alive job (Function.update phase (.data task) phase')
      (job.noteData task lifetime store op answer) := by
  obtain ⟨receiver, chunk, state, recording⟩ := saved
  have one := alive.one.data turned acted
  have holds : (phase (.data task)).holding = some (receiver, state) := by rw [recording]; rfl
  have found := alive.found (.data task) holds
  have good := alive.good receiver state found
  have attends := alive.data task
  rw [recording] at attends turned
  obtain ⟨serves, whole, drafted⟩ := attends
  cases turned with
  | save saving => cases saving
  | unsaved ended => exact (drafted.fine ended).elim
  | recorded =>
      have files : store.fs = lifetime.store.fs := acted.files nofun
      have there : store.receivers receiver = some (state.recorded chunk) := by
        cases acted
        exact Function.update_self _ _ _
      have elsewhere : ∀ other, other ≠ receiver →
          store.receivers other = lifetime.store.receivers other := by
        intro other different
        cases acted
        exact Function.update_of_ne different _ _
      have inRange : chunk.idx < state.numChunks := good.matched.numChunks ▸ serves.inRange
      let lifetime' : Lifetime := { lifetime with store := store }
      have marks : ∀ idx, idx ∈ lifetime'.marked ↔ idx = chunk.idx ∨ idx ∈ lifetime.marked := by
        intro idx
        rw [lifetime'.marked_iff one.sole there, lifetime.marked_iff alive.one.sole found]
        by_cases here : idx = chunk.idx
        · rw [here]
          exact iff_of_true (FileReceiver.received_mark_self inRange) (.inl rfl)
        · rw [or_iff_right here]
          exact FileReceiver.received_mark_of_ne here
      have grown : lifetime.marked ⊆ lifetime'.marked := fun idx member =>
        (marks idx).mpr (.inr member)
      have saved : job.Saved lifetime.store.fs chunk.idx := by
        have valid := (good.recorded serves.inRange serves.bytes).valid
        refine ⟨(Job.listed_iff (valid.stored drafted)).mpr ?_, serves.bytes ▸ whole⟩
        exact OrderedMap.mem_keys_insert.mpr (.inl rfl)
      constructor
      · exact one
      · intro other state' found'
        by_cases here : other = receiver
        · subst here
          cases there.symm.trans found'
          exact good.recorded serves.inRange serves.bytes
        · exact alive.good other state' ((elsewhere other here).symm.trans found')
      · rw [Role.update_data_control]
        exact alive.run
      · dsimp only [Job.noteData, Lifetime.past]
        rw [files]
        refine alive.accounts.mark saved marks fun idx enters => ?_
        obtain ⟨other, receiver', chunk', state', recording', same⟩ := enters
        by_cases here : other = task
        · subst here
          cases recording.symm.trans recording'
          exact .inl same.symm
        · exact .inr ⟨other, receiver', chunk', state',
            (Role.update_data_other here _).trans recording', same⟩
      · rw [Role.update_data_control]
        exact alive.control.still (fun _ => files) (fun _ => files) grown
      · intro other
        rw [Job.noteData_store, files]
        by_cases here : other = task
        · subst here
          rw [Function.update_self]
          exact ⟨chunk.idx, (marks _).mpr (.inl rfl), serves.mine⟩
        · rw [Role.update_data_other here]
          refine (alive.data other).mark grown fun idx member theirs => ?_
          refine ((marks idx).mp member).resolve_left fun same => here ?_
          rw [same] at theirs
          exact alive.dealt.alone serves.mine theirs
      · refine alive.dealt.data transmits fun idx member => ?_
        obtain same | earlier := (marks idx).mp member
        · exact .inr (same ▸ serves.mine)
        · exact .inl earlier

theorem Alive.data_step (alive : Alive job phase lifetime)
    (turned : DataTurn (phase (.data task)) op answer phase')
    (acted : Store.dataSem False (Role.data task) op lifetime.store answer store)
    (transmits : job.Transmits lifetime op answer) :
    Alive job (Function.update phase (.data task) phase')
      (job.noteData task lifetime store op answer) := by
  by_cases saved : (phase (.data task)).Saved
  · exact alive.data_mark turned acted transmits saved
  · exact alive.data_still turned acted transmits saved

end Data

section Control

variable [Blake3] {job : Job} {phase : (role : Role Unit) → role.Phase} {lifetime : Lifetime}
  {store : Store (Role Unit)} {op : ControlOp} {phase' : ControlPhase}

/-- A call that neither begins an assembly nor goes on with one. -/
theorem Job.noteControl_fs {call : FsOp FilePath} (uncreated : call ≠ .create job.outputPath)
    (kept : lifetime.assembling → ∀ idx, call ≠ .remove (job.partPath idx)) :
    job.noteControl lifetime store (.fs call) = { lifetime with store := store } := by
  have consumed : lifetime.consumed ∪
      {idx | lifetime.assembling ∧ call = .remove (job.partPath idx)} = lifetime.consumed := by
    refine Set.union_eq_self_of_subset_right fun idx removed => ?_
    exact absurd removed.2 (kept removed.1 idx)
  have assembling : (lifetime.assembling ∨ call = .create job.outputPath) =
      lifetime.assembling := propext (or_iff_left uncreated)
  rw [noteControl, consumed, assembling]

theorem Job.noteControl_unlock {receiver : ReceiverId} {state : FileReceiver}
    (run : lifetime.resumed) :
    job.noteControl lifetime store (.unlock receiver state) = { lifetime with store := store } := by
  have recovered : {idx | (lifetime.resumed → idx ∈ lifetime.recovered) ∧
      (¬ lifetime.resumed → state.Received idx)} = lifetime.recovered := by
    ext idx
    exact ⟨fun member => member.1 run, fun member => ⟨fun _ => member, absurd run⟩⟩
  have resumed : True = lifetime.resumed := (eq_true run).symm
  rw [noteControl, recovered, resumed]

/-- The handler goes on without touching a file or the receiver. -/
theorem Alive.control_keep (alive : Alive job phase lifetime)
    (one : OneTransfer (Function.update phase (.control ()) phase') store)
    (files : store.fs = lifetime.store.fs) (receivers : store.receivers = lifetime.store.receivers)
    (unserved : phase'.Unserved ↔ (phase (.control ())).Unserved)
    (attends : phase'.Attends job lifetime.store.fs lifetime.marked lifetime.assembling) :
    Alive job (Function.update phase (.control ()) phase') { lifetime with store := store } := by
  have marked : Lifetime.marked { lifetime with store := store } = lifetime.marked :=
    Lifetime.marked_congr receivers
  constructor
  · exact one
  · rw [show Lifetime.store { lifetime with store := store } = store from rfl, receivers]
    exact alive.good
  · rw [Function.update_self, unserved]
    exact alive.run
  · rw [marked, entering_control]
    dsimp only [Lifetime.past]
    rw [files]
    exact alive.accounts
  · rw [marked, Function.update_self]
    dsimp only
    rw [files]
    exact attends
  · intro task
    rw [marked, Role.update_control_data]
    dsimp only
    rw [files]
    exact alive.data task
  · refine ⟨alive.dealt.alone, alive.dealt.sent, fun idx member => ?_⟩
    exact alive.dealt.known idx (marked ▸ member)

/-- The handler works on the resume section. -/
theorem Alive.control_unserved (alive : Alive job phase lifetime)
    (one : OneTransfer (Function.update phase (.control ()) phase') store)
    (unserved : (phase (.control ())).Unserved) (unserved' : phase'.Unserved)
    (good : ∀ receiver state, store.receivers receiver = some state → job.Good state)
    (sound : job.Sound ⟨store.fs, lifetime.acked, lifetime.consumed⟩)
    (attends : phase'.Attends job store.fs ∅ lifetime.assembling) :
    Alive job (Function.update phase (.control ()) phase') { lifetime with store := store } := by
  have here : Function.update phase (.control ()) phase' (.control ()) = phase' :=
    Function.update_self _ _ _
  have marked : Lifetime.marked { lifetime with store := store } = ∅ := by
    rw [Set.eq_empty_iff_forall_notMem]
    rintro idx ⟨receiver, state, found, received⟩
    exact one.fresh (here ▸ unserved') receiver state found idx received
  have unresumed : ¬ lifetime.resumed := fun run => alive.run.mp run unserved
  constructor
  · exact one
  · exact good
  · rw [here]
    exact iff_of_false unresumed (not_not_intro unserved')
  · rw [marked, show Lifetime.resumed { lifetime with store := store } = False from
      eq_false unresumed]
    exact .unresumed sound
  · rw [marked, here]
    exact attends
  · intro task
    rw [Role.update_control_data, alive.one.idle unserved task]
    trivial
  · refine ⟨alive.dealt.alone, alive.dealt.sent, fun idx member => ?_⟩
    rw [marked] at member
    exact member.elim

/-- The handler leaves the resume section. -/
theorem Alive.control_resume (alive : Alive job phase lifetime) {receiver : ReceiverId}
    {state : FileReceiver} {handshake : HandshakeData} {complete : Bool}
    (one : OneTransfer (Function.update phase (.control ())
      (.serving handshake receiver complete)) store)
    (unserved : (phase (.control ())).Unserved) (unlocked : Store.unlockSem receiver state
      lifetime.store store)
    (good : job.Good state)
    (whole : ∀ idx, state.Received idx → job.Saved lifetime.store.fs idx)
    (all : ∀ idx, job.Listed lifetime.store.fs idx → state.Received idx)
    (begun : ¬ lifetime.assembling) (seen : complete = true → state.isComplete = true) :
    Alive job (Function.update phase (.control ()) (.serving handshake receiver complete))
      (job.noteControl lifetime store (.unlock receiver state)) := by
  have unresumed : ¬ lifetime.resumed := fun run => alive.run.mp run unserved
  have files : store.fs = lifetime.store.fs := by rw [show store = _ from unlocked]
  have there : store.receivers receiver = some state := by
    rw [show store = _ from unlocked]
    exact Function.update_self _ _ _
  have elsewhere : ∀ other, other ≠ receiver →
      store.receivers other = lifetime.store.receivers other := by
    intro other different
    rw [show store = _ from unlocked]
    exact Function.update_of_ne different _ _
  have marks : ∀ idx, idx ∈ (job.noteControl lifetime store (.unlock receiver state)).marked ↔
      state.Received idx := fun idx => Lifetime.marked_iff one.sole there
  constructor
  · exact one
  · intro other state' found'
    by_cases here : other = receiver
    · subst here
      cases there.symm.trans found'
      exact good
    · exact alive.good other state' ((elsewhere other here).symm.trans found')
  · rw [Function.update_self]
    exact iff_of_true trivial id
  · have sound : job.Sound ⟨store.fs, lifetime.acked, lifetime.consumed⟩ := by
      rw [files]
      exact alive.accounts.sound
    refine .resume sound (fun idx member => ?_) fun idx listed => ?_
    · have saved := whole idx ((marks idx).mp member)
      rw [← files] at saved
      exact saved
    · have there : job.Listed store.fs idx := listed
      rw [files] at there
      exact (marks idx).mpr (all idx there)
  · rw [Function.update_self]
    refine ⟨begun, fun ended idx inRange => (marks idx).mpr ?_⟩
    refine FileReceiver.isComplete_iff.mp (seen ended) idx ?_
    rw [good.matched.numChunks]
    exact inRange
  · intro task
    rw [Role.update_control_data, alive.one.idle unserved task]
    trivial
  · refine ⟨alive.dealt.alone, alive.dealt.sent, fun idx member => .inl ?_⟩
    exact ⟨fun run => absurd run unresumed, fun _ => (marks idx).mp member⟩

/-- The handler works on the assembly. -/
theorem Alive.control_build (alive : Alive job phase lifetime) {handshake : HandshakeData}
    {receiver : ReceiverId} {state : FileReceiver} {assembly assembly' : AssemblePhase}
    {op : FsOp FilePath} {answer : op.Res}
    (current : phase (.control ()) = .assembling handshake receiver state assembly)
    (turned : AssembleTurn state assembly op answer assembly')
    (one : OneTransfer (Function.update phase (.control ())
      (.assembling handshake receiver state assembly')) store)
    (acted : Store.fsSem False op lifetime.store answer store) :
    Alive job (Function.update phase (.control ()) (.assembling handshake receiver state assembly'))
      (job.noteControl lifetime store (.fs op)) := by
  obtain ⟨fs, called, same⟩ := acted
  subst same
  have attends := alive.control
  rw [current] at attends
  obtain ⟨whole, begun, copied⟩ := attends
  have found : lifetime.store.receivers receiver = some state :=
    alive.found (.control ()) (by rw [current]; rfl)
  have params := (alive.good receiver state found).same
  have run : lifetime.resumed := alive.run.mpr (by rw [current]; exact id)
  have finalPath : state.finalPath = job.outputPath :=
    congrArg₂ FilePath.mk (congrArg FileReceiver.Params.outputDir params)
      (congrArg FileReceiver.Params.filename params)
  constructor
  · exact one
  · exact alive.good
  · rw [Function.update_self]
    exact iff_of_true run id
  · rw [entering_control]
    exact turned.accounts params called copied run begun.mpr alive.marked_inRange alive.accounts
  · rw [Function.update_self]
    refine ⟨whole, iff_of_true ?_ turned.begun, turned.copied params called copied⟩
    by_cases first : assembly = .creating
    · exact .inr ((turned.creates first).trans (congrArg _ finalPath))
    · exact .inl (begun.mpr first)
  · intro task
    rw [Role.update_control_data]
    exact (alive.data task).still fun idx missing inRange _ => absurd (whole idx inRange) missing
  · exact ⟨alive.dealt.alone, alive.dealt.sent, alive.dealt.known⟩

theorem Alive.control_step [KeyOrder] (alive : Alive job phase lifetime) {answer : op.Res}
    (turned : ControlTurn job.config (phase (.control ())) op answer phase')
    (acted : Store.controlSem False (Role.control ()) op lifetime.store answer store)
    (greets : job.Greets op answer) :
    Alive job (Function.update phase (.control ()) phase') (job.noteControl lifetime store op) := by
  have one := alive.one.control turned acted
  have attends := alive.control
  have run := alive.run
  have found : ∀ receiver state, (phase (.control ())).holding = some (receiver, state) →
      lifetime.store.receivers receiver = some state := fun _ _ => alive.found (.control ())
  generalize current : phase (.control ()) = before at turned attends run found
  cases turned with
  | quiet _ op quiet =>
      have same : store = lifetime.store := by
        cases op <;> first | exact acted | cases quiet
      have noted : job.noteControl lifetime store op = { lifetime with store := store } := by
        cases op <;> first | rfl | cases quiet
      rw [noted]
      exact alive.control_keep one (by rw [same]) (by rw [same]) (by rw [current]) attends
  | answer | hear =>
      have same : store = lifetime.store := acted
      exact alive.control_keep one (by rw [same]) (by rw [same]) (by rw [current]) attends
  | accept data handshake parsed =>
      have same : store = lifetime.store := acted
      cases parsed.symm.trans greets
      exact alive.control_keep one (by rw [same]) (by rw [same]) (by rw [current]; exact Iff.rfl)
        ⟨rfl, attends⟩
  | check op looks =>
      obtain ⟨fs, called, same⟩ := acted
      have untouched : ∀ path, ¬ op.writes path := by
        intro path writes
        cases op <;> first | exact writes | exact looks
      have files : fs = lifetime.store.fs := funext fun path => called.frame (untouched path)
      subst same files
      have uncreated : op ≠ .create job.outputPath := fun creates =>
        untouched job.outputPath (by rw [creates]; rfl)
      have kept : ∀ idx, op ≠ .remove (job.partPath idx) := fun idx removes =>
        untouched (job.partPath idx) (by rw [removes]; rfl)
      rw [Job.noteControl_fs uncreated fun _ => kept]
      exact alive.control_keep one rfl rfl (by rw [current]) attends
  | @create handshake receiver =>
      obtain ⟨_, same⟩ := acted
      obtain ⟨mine, begun⟩ := attends
      have none_ : ∀ other, lifetime.store.receivers other = none :=
        alive.one.unborn (by rw [current]; trivial)
      subst same mine
      refine alive.control_unserved one (by rw [current]; trivial) trivial ?_
        alive.accounts.sound begun
      intro other state found'
      by_cases here : other = receiver
      · subst here
        cases (Function.update_self other _ lifetime.store.receivers).symm.trans found'
        exact Job.Good.created
      · cases ((Function.update_of_ne here _ _).trans (none_ other)).symm.trans found'
  | resume =>
      obtain ⟨_, _, same⟩ := acted
      exact alive.control_keep one (by rw [same]) (by rw [same]) (by rw [current]; exact Iff.rfl)
        ⟨attends, trivial⟩
  | @recover handshake receiver state resume resume' op answer turned =>
      obtain ⟨fs, called, same⟩ := acted
      obtain ⟨begun, recovered⟩ := attends
      have params := (alive.good receiver state (found _ _ rfl)).same
      have tmpPath : state.tmpPath = job.tmpPath := congrArg FileReceiver.Params.tmpPath params
      obtain ⟨recovered', sound⟩ :=
        turned.recovered params alive.accounts.sound called recovered
      subst same
      have uncreated : op ≠ .create job.outputPath := fun creates =>
        Job.tmpPath_ne_outputPath (tmpPath.symm.trans (turned.creates creates).symm)
      rw [Job.noteControl_fs uncreated fun started => absurd started begun]
      exact alive.control_unserved one (by rw [current]; trivial) trivial alive.good sound
        ⟨begun, recovered'⟩
  | @unresumed handshake receiver state resume ended =>
      obtain ⟨begun, recovered⟩ := attends
      have here := found _ _ rfl
      have fresh := alive.one.fresh (by rw [current]; trivial) receiver state here
      refine alive.control_resume one (by rw [current]; trivial) acted (alive.good _ _ here)
        (fun idx received => absurd received (fresh idx)) (fun idx listed => ?_) begun nofun
      exact absurd listed (Job.not_listed (recovered.purged ended))
  | @resumed handshake receiver state marked resume metadata complete ended all whole =>
      obtain ⟨begun, recovered⟩ := attends
      have here := found _ _ rfl
      have fresh := alive.one.fresh (by rw [current]; trivial) receiver state here
      obtain ⟨valid, stored, parts⟩ := recovered.done ended
      have good := (alive.good _ _ here).resumed fresh valid all
      refine alive.control_resume one (by rw [current]; trivial) acted good
        (fun idx received => ?_) (fun idx listed => ?_) begun whole
      · have listed := (good.matched.flags idx).mp received
        exact ⟨(Job.listed_iff stored).mpr listed, parts idx listed⟩
      · exact (good.matched.flags idx).mpr ((Job.listed_iff stored).mp listed)
  | register | remove =>
      have same := acted
      cases same
      exact alive.control_keep one rfl rfl (by rw [current]) attends
  | look =>
      obtain ⟨_, _, same⟩ := acted
      exact alive.control_keep one (by rw [same]) (by rw [same]) (by rw [current]; exact Iff.rfl)
        attends
  | @leave handshake receiver complete state complete' seen =>
      have here := found _ _ rfl
      have good := alive.good _ _ here
      rw [Job.noteControl_unlock (run.mpr id)]
      refine alive.control_keep one (by rw [show store = _ from acted]) ?_
        (by rw [current]; exact Iff.rfl) ⟨attends.1, fun ended => ?_⟩
      · rw [show store = _ from acted]
        dsimp only
        rw [← here, Function.update_eq_self]
      · refine (seen ended).elim attends.2 fun all idx inRange => ?_
        refine (lifetime.marked_iff alive.one.sole here).mpr ?_
        refine FileReceiver.isComplete_iff.mp all idx ?_
        rw [good.matched.numChunks]
        exact inRange
  | @assemble handshake receiver state =>
      obtain ⟨_, _, same⟩ := acted
      obtain ⟨begun, seen⟩ := attends
      have whole := seen rfl
      refine alive.control_keep one (by rw [same]) (by rw [same]) (by rw [current]; exact Iff.rfl)
        ⟨whole, iff_of_false begun (not_not_intro rfl), fun idx inRange => ?_⟩
      have member := whole idx inRange
      exact ((alive.accounts.onDisk idx member).resolve_left
        (alive.accounts.whole begun idx member)).2
  | build turned => exact alive.control_build current turned one acted
  | @built handshake receiver state result absorbed =>
      have here := found _ _ rfl
      obtain ⟨whole, _, success, delivered⟩ := attends
      rw [Job.noteControl_unlock (run.mpr id)]
      refine alive.control_keep one (by rw [show store = _ from acted]) ?_
        (by rw [current]; exact Iff.rfl) ⟨whole, ?_, delivered⟩
      · rw [show store = _ from acted]
        dsimp only
        rw [← here, Function.update_eq_self]
      · rw [success]
        rfl
  | report =>
      have same : store = lifetime.store := acted
      exact alive.control_keep one (by rw [same]) (by rw [same]) (by rw [current]; exact Iff.rfl)
        fun _ => ⟨attends.1, attends.2.2⟩
  | abandon =>
      have same : store = lifetime.store := acted
      exact alive.control_keep one (by rw [same]) (by rw [same]) (by rw [current]; exact Iff.rfl)
        fun started => absurd started attends.1

/-- The handler reads the output file and the parts only, which end early enough. -/
theorem Alive.reads [KeyOrder] (alive : Alive job phase lifetime) {answer : op.Res}
    (turned : ControlTurn job.config (phase (.control ())) op answer phase')
    (acted : Store.controlSem False (Role.control ()) op lifetime.store answer store) :
    Control.ReadsWithin job.source.length op answer := by
  have attends := alive.control
  have sound := alive.accounts.sound
  have found : ∀ receiver state, (phase (.control ())).holding = some (receiver, state) →
      lifetime.store.receivers receiver = some state := fun _ _ => alive.found (.control ())
  generalize phase (.control ()) = before at turned attends found
  have within : ∀ {path offset limit content} {answer : Except IoError Bytes},
      Store.controlSem False (Role.control ()) (.fs (.readAt path offset limit)) lifetime.store
        answer store → lifetime.store.fs path = content →
      (content.getD []).length ≤ job.source.length →
      ∀ piece, answer = .ok piece → piece ≠ [] → offset + piece.length ≤ job.source.length := by
    intro path offset limit content answer acted here short piece answered some_
    obtain ⟨_, ⟨_, ⟨piece', answered', isPiece⟩ | ⟨fails, _⟩⟩, _⟩ := acted
    · cases answered.symm.trans answered'
      rw [here] at isPiece
      exact (isPiece.within some_).trans short
    · exact fails.elim
  cases turned with
  | @check handshake op looks =>
      cases op with
      | readAt path offset limit =>
          have mine : path = job.outputPath := looks.trans (by rw [attends.1]; rfl)
          subst mine
          refine within acted rfl ?_
          cases content : lifetime.store.fs job.outputPath with
          | none => exact Nat.zero_le _
          | some output => exact (sound.output output content).length_le
      | _ => trivial
  | recover turned =>
      cases turned with
      | save saving =>
          cases saving with
          | write writing => cases writing <;> trivial
          | _ => trivial
      | _ => trivial
  | @build handshake receiver state assembly assembly' op answer turned =>
      obtain ⟨_, _, copied⟩ := attends
      have params := (alive.good receiver state (found _ _ rfl)).same
      have partPath : ∀ idx, state.partPath idx = job.partPath idx :=
        FileReceiver.partPath_of_params params
      have part : ∀ {idx rest absorbed copied}, assembly = .reading idx rest absorbed copied →
          lifetime.store.fs (state.partPath idx) = some (job.chunk idx) := by
        rintro idx rest absorbed done rfl
        rw [partPath]
        exact copied.1.part
      have short : ∀ idx, ((some (job.chunk idx)).getD []).length ≤ job.source.length := by
        intro idx
        rw [Option.getD_some, Job.chunk_length]
        omega
      cases turned with
      | read | readEnd | readFails => exact within acted (part rfl) (short _)
      | _ => trivial
  | quiet _ op => cases op <;> trivial
  | _ => trivial

/-- Once an assembly has begun, the handler waits for nobody. -/
theorem Alive.unblocked [KeyOrder] (alive : Alive job phase lifetime) (begun : lifetime.assembling)
    {answer : op.Res} (turned : ControlTurn job.config (phase (.control ())) op answer phase') :
    (∀ receiver, op ≠ .lock receiver) ∧ ∀ state, op ≠ .newReceiver state := by
  have attends := alive.control
  generalize phase (.control ()) = before at turned attends
  cases turned with
  | quiet _ op quiet => cases op <;> first | cases quiet; done | exact ⟨nofun, nofun⟩
  | create => exact absurd begun attends.2
  | resume => exact absurd begun attends
  | look | assemble => exact absurd begun attends.1
  | _ => exact ⟨nofun, nofun⟩

end Control

section Lives

variable [Blake3] [KeyOrder] {job : Job} {past : Past}
  {pool : Pool (@Role.sig Unit) Role.Ctl Lifetime}

omit [KeyOrder] in
theorem Alive.start (sound : job.Sound past) :
    Alive job (@Role.begin Unit) (.initial past) where
  one := .start past.fs
  good _ _ found := by cases found
  run := iff_of_false id (not_not_intro trivial)
  accounts := by
    have marked : (Lifetime.initial past).marked = ∅ := by
      rw [Set.eq_empty_iff_forall_notMem]
      rintro idx ⟨_, _, found, _⟩
      cases found
    rw [marked]
    exact .unresumed sound
  control := id
  data _ := trivial
  dealt := by
    refine ⟨nofun, nofun, ?_⟩
    rintro idx ⟨_, _, found, _⟩
    cases found

/-- In every state that a server reaches over sound files the transfer is in good order. -/
theorem Alive.reached (sound : job.Sound past)
    (reached : Reaches job.system (fun _ => True) (job.start past) pool) :
    ∃ phase, Alive job phase pool.world ∧
      ∀ role, (pool.prog role).Follows (Role.turn job.config role) role.Ends (phase role) := by
  obtain ⟨phase, moved, follows⟩ := server_moves job.config reached
  refine ⟨phase, ?_, follows⟩
  refine moved.invariant (fun stance => Alive job stance.phase stance.world) (.start sound) ?_
  intro before after alive move
  cases move with
  | @act role op answer phase' world turned acted =>
      cases role with
      | control handler =>
          obtain ⟨store, acted, greets, same⟩ := acted
          subst same
          exact alive.control_step turned acted greets
      | data task =>
          obtain ⟨store, acted, transmits, same⟩ := acted
          subst same
          exact alive.data_step turned acted transmits

/-- Crashes leave what the next start can recover from. -/
theorem Job.Survives.sound (survives : job.Survives past) : job.Sound past := by
  induction survives with
  | untouched untouched => exact .untouched untouched
  | crash _ reached ih =>
      obtain ⟨phase, alive, _⟩ := Alive.reached ih reached
      exact alive.accounts.sound

/-- The handler never outlives the bound on its read loops. -/
theorem Job.Survives.bounded (survives : job.Survives past)
    (reached : Reaches job.system (fun _ => True) (job.start past) pool) :
    (pool.prog (.control ())).AllWhen (Control.ReadsWithin job.source.length)
      ControlOp.Bounded := by
  have begins : ((job.start past).prog (.control ())).AllWhen
      (Control.ReadsWithin job.source.length) ControlOp.Bounded := Control.task_bounded job.enough
  refine reached.allWhen (.control ()) begins ?_ ?_
  · intro state rest again
    have here : Control.again job.config state = some rest := again
    exact Control.again_bounded job.enough here
  · intro pool' op next answer world reached' current acted
    obtain ⟨phase, alive, follows⟩ := Alive.reached survives.sound reached'
    have mine := follows (.control ())
    rw [current] at mine
    obtain ⟨phase', turned, _⟩ := mine answer
    obtain ⟨store, acted, _, _⟩ := acted
    exact alive.reads turned acted

/-- Whatever crashes there have been, a restarted server marks what is whole, loses no
acknowledged chunk, and delivers the file if it goes on to assemble it. -/
theorem recovers_from_crashes (survives : job.Survives past)
    (reached : Reaches job.system (fun _ => True) (job.start past) pool) :
    job.Recovered pool := by
  obtain ⟨phase, alive, follows⟩ := Alive.reached survives.sound reached
  have mine := follows (.control ())
  have attends := alive.control
  constructor
  · intro _ begun idx member
    have kept := alive.accounts.whole begun idx member
    exact ((alive.accounts.onDisk idx member).resolve_left kept).2
  · exact alive.accounts.kept
  · intro begun op next current
    have bounded := survives.bounded reached
    rw [current] at bounded mine
    cases op with
    | fs call =>
        obtain ⟨answer, fs, called⟩ : ∃ answer fs, call.Sem False pool.world.store.fs answer fs :=
          FsOp.Sem.answers bounded.1 _
        exact ⟨answer, _, _, ⟨fs, called, rfl⟩, trivial, rfl⟩
    | lock receiver =>
        obtain ⟨_, turned, _⟩ := mine job.receiver
        exact absurd rfl ((alive.unblocked begun turned).1 receiver)
    | newReceiver state =>
        obtain ⟨_, turned, _⟩ := mine 0
        exact absurd rfl ((alive.unblocked begun turned).2 state)
    | createDirAll | sendFrame | bind => exact ⟨.ok (), _, _, rfl, trivial, rfl⟩
    | recvFrame => exact ⟨.error ⟨""⟩, _, _, rfl, trivial, rfl⟩
    | pollStream => exact ⟨.idle, _, _, rfl, trivial, rfl⟩
    | tryReservePorts => exact ⟨true, _, _, rfl, trivial, rfl⟩
    | unlock | releasePorts | dropSockets | dropDataSocks | registerReceivers | removeReceiver
    | spawnDataServer | closeStream => exact ⟨(), _, _, rfl, trivial, rfl⟩
  · intro begun payload next current
    rw [current] at mine
    obtain ⟨phase', turned, _⟩ := mine (.ok ())
    generalize phase (.control ()) = before at turned attends
    cases turned with
    | quiet _ _ quiet => cases quiet
    | answer _ answers => exact absurd answers (attends.unanswered begun)
    | report =>
        obtain ⟨_, success, delivered⟩ := attends
        rw [success]
        exact ⟨rfl, delivered⟩
    | abandon => exact absurd begun attends.1
  · intro begun value current
    rw [current] at mine
    have ended : value.Ends (phase (.control ())) := mine
    generalize phase (.control ()) = before at ended attends
    cases value with
    | waiting transfer =>
        obtain ⟨handshake, complete, there⟩ := ended
        rw [there] at attends
        exact absurd begun attends.1
    | returned | panicked =>
        cases before with
        | starting | created => exact absurd begun attends
        | accepted => exact absurd begun attends.2
        | resuming | serving | looking => exact absurd begun attends.1
        | assembling | reporting => cases ended
        | finished => exact (attends begun).2

end Lives

/-- The server crashes when the only chunk has been acknowledged. The next one finds it in the
record and on disk, marks it and assembles the file. -/
theorem recovers_from_crashes_resumed :
    let _ := Blake3.sample
    let _ := KeyOrder.increasing
    ∃ (job : Job) (past : Past) (pool : Pool (@Role.sig Unit) Role.Ctl Lifetime),
      job.source = [0x61] ∧ job.Survives past ∧ 0 ∈ past.acked ∧ past.fs job.outputPath = none ∧
        Reaches job.system (fun _ => True) (job.start past) pool ∧ 0 ∈ pool.world.recovered ∧
        pool.world.assembling ∧ pool.prog (.control ()) = .ret (.returned (.ok ())) ∧
        job.Recovered pool ∧ job.Delivered pool.world.store.fs := by
  intro _ _
  obtain ⟨job, source, config, parsed, numChunks, whole, created⟩ := exists_singleJob
  obtain ⟨crashing, reached, acked, stored⟩ :=
    reaches_acknowledged job source config parsed numChunks whole created
  have untouched : job.Untouched fun _ => none := ⟨fun _ => rfl, rfl, rfl⟩
  have crashed : job.Survives crashing.world.past := .crash (.untouched untouched) reached
  let opened : Lifetime := .initial crashing.world.past
  have left := congrArg Store.fs stored
  have same : opened.store.fs = _ := left
  let marked : FileReceiver := singleReceiver.recorded singleChunk
  have absent : opened.store.fs job.outputPath = none := by
    have kept : opened.store.fs job.receiver.finalPath = none := by
      rw [same]
      exact Store.receive_finalPath
    exact kept
  have record : opened.store.fs singleReceiver.metaPath = some marked.metadata.toBytes := by
    rw [same, created]
    exact Store.receive_metaPath
  have part : opened.store.fs (singleReceiver.partPath 0) = some [0x61] := by
    rw [same, created]
    exact Store.receive_partPath
  -- the resume section finds the chunk
  have fresh : (opened.store.leave 0 singleReceiver).Ready 0 singleReceiver := ⟨rfl, rfl⟩
  have valid : job.Valid marked.metadata := by
    have good : job.Good (job.receiver.recorded singleChunk) :=
      Job.Good.created.recorded (by rw [numChunks]; decide) whole.symm
    rw [created] at good
    exact good.valid
  have recorded : Stored opened.store.fs singleReceiver marked.metadata :=
    ⟨_, record, TransferMetadata.fromBytes_toBytes valid.encodable⟩
  have intact : ∀ idx ∈ marked.metadata.chunkHashes.keys,
      Matches opened.store.fs singleReceiver marked.metadata idx := by
    intro idx listed
    have first : idx ∈ [0] := listed
    rw [List.mem_singleton.mp first]
    exact ⟨_, part, rfl⟩
  have resumes : Runs (Store.readSem (Role.control ()) Control.sampleHandshake fun _ => True)
      (Control.resume 0) (opened.store.leave 0 job.receiver) (.ret (some true))
      ((opened.store.leave 0 singleReceiver).leave 0 marked) := by
    rw [created]
    exact Store.runs_resume_recorded fresh recorded ⟨rfl, rfl, rfl, rfl⟩ intact rfl trivial
  have ready : ((opened.store.leave 0 singleReceiver).leave 0 marked).Ready 0 marked := ⟨rfl, rfl⟩
  -- no chunk is missing
  let assembled : Fs FilePath := Function.update (Function.update (Function.update
    opened.store.fs marked.finalPath (some [0x61])) (marked.partPath 0) none) marked.metaPath none
  have assembles : Runs (FsOp.Sem False) (marked.assemble job.config.reads) opened.store.fs
      (.ret (.ok true)) assembled := by
    rw [config]
    exact Store.runs_assemble rfl part record nofun (by decide) rfl
  have completes : Runs (Store.within (Store.Hearing Control.sampleHandshake) (Role.control ()))
      (Control.task job.config) opened.store (.ret (.returned (.ok ())))
      (((opened.store.leave 0 singleReceiver).leave 0 marked).withFs assembled) :=
    Store.runs_complete rfl parsed rfl absent resumes ready assembles
  obtain ⟨ended, runs, stored', unsent⟩ := Job.runs_hearing parsed completes
  have begun : Reaches job.system (fun _ => True) (job.start crashing.world.past) _ := .refl
  obtain ⟨pool, reached', step⟩ := begun.alone (.control ()) rfl rfl runs
  have recovered : job.Recovered pool := recovers_from_crashes crashed reached'
  obtain ⟨phase, alive, _⟩ := Alive.reached crashed.sound reached'
  have received : 0 ∈ pool.world.marked := by
    refine ⟨0, marked, ?_, rfl⟩
    rw [step.world, stored']
    rfl
  have run : pool.world.resumed := by
    rw [alive.run]
    intro unserved
    rw [alive.marked_unserved unserved] at received
    exact received
  have assembling : pool.world.assembling := by
    by_contra waits
    have there := recovered.whole run waits 0 received
    have consumed : assembled (marked.partPath 0) = none := by
      have notMeta : marked.partPath 0 ≠ marked.metaPath := TransferMetadata.partPath_ne_metaPath 0
      exact (Function.update_of_ne notMeta _ _).trans (Function.update_self _ _ _)
    have gone : pool.world.store.fs (job.receiver.partPath 0) = none := by
      rw [step.world, stored', created]
      exact consumed
    cases gone.symm.trans there
  have known : 0 ∈ pool.world.recovered := by
    have dealt := alive.dealt.known 0 received
    rw [step.world, unsent] at dealt
    rw [step.world]
    exact dealt.resolve_right id
  exact ⟨job, _, pool, source, crashed, acked, absent, reached', known, assembling, step.prog,
    recovered, recovered.ends assembling _ step.prog⟩

end BeeSync.Server
