import BeeSync.Interaction.Shelf
import BeeSync.Server.OneTransfer
import BeeSync.Server.ResumeCheck

/-!
# One transfer and its parts

What the tasks of a transfer have in hand, and how the parts on disk follow from it: the
parts are a shelf that the tasks fill.
-/

set_option autoImplicit false

namespace BeeSync.Server

open Encoding Interaction

/-- The chunk that a frame brings. -/
def chunkOf (frame : Bytes) : Option ChunkInHand :=
  (parseChunkHeader frame).map fun header =>
    ⟨header.chunkIndex, field frame Chunk.headerSize header.chunkSize⟩

/-- One transfer, with what its tasks have in hand. -/
structure Intake where
  store : Store (Role Unit)
  /-- The frame that a task has received last. -/
  frame : Nat → Bytes
  /-- The chunk whose part a task has begun to write and whose hash it has not recorded yet. -/
  writing : Nat → Option ChunkInHand
  /-- The resume section has been left. -/
  resumed : Bool
  /-- Parts that the handler has removed since then and nobody has created again. -/
  consumed : Set FilePath

namespace Intake

def initial (fs : Fs FilePath) : Intake where
  store := .initial fs
  frame := fun _ => []
  writing := fun _ => none
  resumed := false
  consumed := ∅

def noteControl (op : ControlOp) (intake : Intake) : Intake :=
  match op with
  | .unlock .. => { intake with resumed := true }
  | .fs (.remove path) => { intake with
      consumed := intake.consumed ∪ {removed | intake.resumed = true ∧ removed = path} }
  | _ => intake

def noteData (task : Nat) (op : DataOp) (answer : op.Res) (intake : Intake) : Intake :=
  match op, answer with
  | .recvFrame, .ok frame => { intake with frame := Function.update intake.frame task frame }
  -- the temporary file of the record is created while the chunk is being written
  | .fs (.create path), _ => { intake with
      writing := Function.update intake.writing task
        ((intake.writing task).or (chunkOf (intake.frame task)))
      consumed := intake.consumed \ {path} }
  | .unlock .., _ => { intake with writing := Function.update intake.writing task none }
  | _, _ => intake

/-- No call on files fails. -/
def acts : Acts Unit Intake
  | .control _, op, intake, answer, intake' => ∃ store,
      Store.controlSem False (Role.control ()) op intake.store answer store ∧
        intake' = { noteControl op intake with store := store }
  | .data task, op, intake, answer, intake' => ∃ store,
      Store.dataSem False (Role.data task) op intake.store answer store ∧
        intake' = { noteData task op answer intake with store := store }

/-- A task creates a part only if nobody is writing other bytes for it. -/
def Apart : (role : Role Unit) → (op : role.sig.Op) → Intake → role.sig.Res op → Prop
  | .data task, .fs (.create _), intake, _ => intake.writing task = none →
      ∀ chunk other held, chunkOf (intake.frame task) = some chunk →
        intake.writing other = some held → held.idx = chunk.idx → held.data = chunk.data
  | _, _, _, _ => True

/-- Every marked part that has not been consumed is on disk with its recorded hash. -/
def DiskMatches [Blake3] (intake : Intake) : Prop :=
  ∀ receiver state, intake.store.receivers receiver = some state →
    ∀ idx, state.Received idx → state.partPath idx ∉ intake.consumed →
      ∃ part, intake.store.fs (state.partPath idx) = some part ∧
        state.metadata.chunkHashes.get? idx = some (calcHash part)

end Intake

/-- What a task writes, by the index of the chunk. -/
def DataPhase.work : DataPhase → Option (Shelf.Work Nat)
  | .storing _ chunk _ (.writing written) => some ⟨chunk.idx, chunk.data, some written⟩
  | .recording _ chunk _ _ => some ⟨chunk.idx, chunk.data, none⟩
  | _ => none

/-- What is noted of a task is what its phase says. -/
def DataPhase.Tracked (frame : Bytes) (writing : Option ChunkInHand) : DataPhase → Prop
  | .received _ heard | .sizing _ heard _ => heard = frame ∧ writing = none
  | .accepted _ chunk | .placing _ chunk _ | .storing _ chunk _ .opening =>
      chunkOf frame = some chunk ∧ writing = none
  | .storing _ chunk _ (.writing _) | .recording _ chunk _ _ => writing = some chunk
  | .storing _ _ _ .failed | .failing .. => False
  | .idle | .connected _ | .looking .. | .recorded .. => writing = none

namespace DataPhase.Tracked

variable {phase phase' : DataPhase} {frame : Bytes} {writing : Option ChunkInHand}

theorem work (tracked : phase.Tracked frame writing) :
    writing = phase.work.map fun work => ⟨work.slot, work.data⟩ := by
  cases phase with
  | storing receiver chunk path writePhase =>
      cases writePhase with
      | opening => exact tracked.2
      | writing => exact tracked
      | failed => cases tracked
  | received | sizing | accepted | placing => exact tracked.2
  | recording | idle | connected | looking | recorded => exact tracked
  | failing => cases tracked

theorem chunkOf_carries [Blake3] {state : FileReceiver} {chunk : ChunkInHand}
    (carries : Carries state frame chunk) : chunkOf frame = some chunk := by
  obtain ⟨header, parsed, index, _, _, bytes, _⟩ := carries.header
  obtain ⟨idx, data⟩ := chunk
  cases index
  cases bytes
  rw [chunkOf, parsed]
  rfl

theorem step [Blake3] {owner : Role Unit} {task : Nat} {op : DataOp} {answer : op.Res}
    {intake : Intake} {store : Store (Role Unit)}
    (tracked : phase.Tracked (intake.frame task) (intake.writing task))
    (turned : DataTurn phase op answer phase')
    (acted : Store.dataSem False owner op intake.store answer store) :
    phase'.Tracked ((Intake.noteData task op answer intake).frame task)
      ((Intake.noteData task op answer intake).writing task) := by
  cases turned with
  | idle op quiet answer => cases op <;> first | cases quiet; done | exact tracked
  | connect | look | reply | close | acknowledge => exact tracked
  | size => exact tracked
  | place => exact tracked
  | leave | refuse => exact Function.update_self _ _ _
  | receive frame =>
      have noted : Function.update intake.frame task frame task = frame := Function.update_self _ _ _
      exact ⟨noted.symm, tracked⟩
  | hear answer => cases answer <;> exact tracked
  | accept carries =>
      obtain ⟨heard, _⟩ := tracked
      exact ⟨heard ▸ chunkOf_carries carries, Function.update_self _ _ _⟩
  | placed => exact ⟨tracked.1, Function.update_self _ _ _⟩
  | store writing =>
      cases writing with
      | create =>
          refine (Function.update_self _ _ _).trans ?_
          rw [tracked.2, tracked.1]
          rfl
      | write => exact tracked
      | createFails | writeFails =>
          obtain ⟨_, outcome, _⟩ := acted
          obtain ⟨fine, _⟩ | ⟨failing, _⟩ := outcome
          · cases fine
          · exact failing
  | fail => cases tracked
  | failed => cases tracked
  | record => exact tracked
  | save saving =>
      cases saving with
      | write writing =>
          cases writing with
          | create | createFails =>
              refine (Function.update_self _ _ _).trans ?_
              rw [(show intake.writing task = _ from tracked)]
              rfl
          | write | writeFails => exact tracked
      | rename | renameFails | remove => exact tracked
  | recorded | unsaved => exact Function.update_self _ _ _

end DataPhase.Tracked

namespace Intake

theorem noteData_other {task other : Nat} (different : other ≠ task) (op : DataOp)
    (answer : op.Res) (intake : Intake) :
    (noteData task op answer intake).frame other = intake.frame other ∧
      (noteData task op answer intake).writing other = intake.writing other := by
  cases op with
  | recvFrame =>
      cases answer with
      | ok frame => exact ⟨Function.update_of_ne different _ _, rfl⟩
      | error error => exact ⟨rfl, rfl⟩
  | fs op =>
      cases op with
      | create path => exact ⟨rfl, Function.update_of_ne different _ _⟩
      | _ => exact ⟨rfl, rfl⟩
  | unlock receiver state => exact ⟨rfl, Function.update_of_ne different _ _⟩
  | _ => exact ⟨rfl, rfl⟩

theorem noteData_resumed (task : Nat) (op : DataOp) (answer : op.Res) (intake : Intake) :
    (noteData task op answer intake).resumed = intake.resumed := by
  cases op with
  | recvFrame => cases answer <;> rfl
  | fs op => cases op <;> rfl
  | _ => rfl

theorem noteControl_consumed {op : FsOp FilePath} {path : FilePath} (untouched : ¬ op.writes path)
    (intake : Intake) :
    path ∈ (noteControl (.fs op) intake).consumed ↔ path ∈ intake.consumed := by
  cases op with
  | remove target =>
      have outside : path ∉ {removed | intake.resumed = true ∧ removed = target} := fun removed =>
        untouched removed.2
      exact or_iff_left outside
  | _ => exact Iff.rfl

theorem noteControl_resumed {op : ControlOp} {intake : Intake} (resumed : intake.resumed = true) :
    (noteControl op intake).resumed = true := by
  cases op with
  | fs op => cases op <;> exact resumed
  | unlock => rfl
  | _ => exact resumed

theorem noteControl_tasks (op : ControlOp) (intake : Intake) :
    (noteControl op intake).frame = intake.frame ∧
      (noteControl op intake).writing = intake.writing := by
  cases op with
  | fs op => cases op <;> exact ⟨rfl, rfl⟩
  | _ => exact ⟨rfl, rfl⟩

variable [Blake3]

/-- The parts of a receiver, and who is writing them. -/
def shelf (phase : (role : Role Unit) → role.Phase) (intake : Intake) (state : FileReceiver) :
    Shelf Nat Nat (Option Digest) where
  content idx := intake.store.fs (state.partPath idx)
  work task := (phase (.data task)).work
  mark idx := if state.Received idx then some (state.metadata.chunkHashes.get? idx) else none
  emptied := {idx | state.partPath idx ∈ intake.consumed}

structure Sound (phase : (role : Role Unit) → role.Phase) (intake : Intake) : Prop where
  one : OneTransfer phase intake.store
  tracked : ∀ task, (phase (.data task)).Tracked (intake.frame task) (intake.writing task)
  inRange : ∀ task chunk, (phase (.data task)).inHand = some chunk → ∀ receiver state,
    intake.store.receivers receiver = some state → chunk.idx < state.numChunks
  placed : ∀ task r chunk path written, phase (.data task) = .storing r chunk path written →
    ∀ receiver state, intake.store.receivers receiver = some state →
      path = state.partPath chunk.idx
  resumed : (phase (.control ())).Unserved ∨ intake.resumed = true
  sure : ∀ handshake receiver state resume,
    phase (.control ()) = .resuming handshake receiver state resume →
      resume.Sure intake.store.fs state
  shelved : ¬ (phase (.control ())).Unserved → ∀ receiver state,
    intake.store.receivers receiver = some state →
      (shelf phase intake state).Sound fun part => some (calcHash part)

variable {phase : (role : Role Unit) → role.Phase} {intake : Intake}

theorem Sound.start (fs : Fs FilePath) : Sound Role.begin (initial fs) where
  one := .start fs
  tracked _ := rfl
  inRange _ _ holds := by cases holds
  placed _ _ _ _ _ there := by cases there
  resumed := .inl trivial
  sure _ _ _ _ there := by cases there
  shelved served := absurd trivial served

theorem Sound.matches (sound : Sound phase intake)
    (settled : ∀ task, intake.writing task = none) : intake.DiskMatches := by
  intro receiver state found idx received kept
  have served : ¬ (phase (.control ())).Unserved := fun unserved =>
    sound.one.fresh unserved receiver state found idx received
  have quiet : ∀ task, (phase (.data task)).work = none := by
    intro task
    have tracked := (sound.tracked task).work
    rw [settled task] at tracked
    exact Option.map_eq_none_iff.mp tracked.symm
  have marked : (shelf phase intake state).mark idx =
      some (state.metadata.chunkHashes.get? idx) := if_pos received
  exact (sound.shelved served receiver state found).matches marked kept quiet

omit [Blake3] in
theorem shelf_work (task : Nat) (phase' : DataPhase) :
    (fun other => (Function.update phase (.data task) phase' (.data other)).work) =
      Function.update (fun other => (phase (.data other)).work) task phase'.work := by
  funext other
  by_cases same : other = task
  · subst same
    rw [Function.update_self, Function.update_self]
  · rw [Role.update_data_other same, Function.update_of_ne same]

omit [Blake3] in
theorem shelf_still {task : Nat} {phase' : DataPhase} {intake' : Intake} {state : FileReceiver}
    (work : phase'.work = (phase (.data task)).work)
    (fs : ∀ idx, intake'.store.fs (state.partPath idx) = intake.store.fs (state.partPath idx))
    (consumed : ∀ idx, state.partPath idx ∈ intake'.consumed ↔
      state.partPath idx ∈ intake.consumed) :
    shelf (Function.update phase (.data task) phase') intake' state = shelf phase intake state := by
  apply Shelf.ext
  · funext idx
    exact fs idx
  · refine (shelf_work task phase').trans ?_
    rw [work]
    exact Function.update_eq_self task _
  · rfl
  · ext idx
    exact consumed idx

/-- What a task does to the shelf. -/
def Shelved (phase : (role : Role Unit) → role.Phase) (intake : Intake) (task : Nat)
    (phase' : DataPhase) (intake' : Intake) : Prop :=
  ∀ receiver state', intake'.store.receivers receiver = some state' →
    ∃ state, intake.store.receivers receiver = some state ∧ state'.params = state.params ∧
      (shelf (Function.update phase (.data task) phase') intake' state' = shelf phase intake state ∨
        Shelf.Step (fun part => some (calcHash part)) (shelf phase intake state)
          (shelf (Function.update phase (.data task) phase') intake' state'))

theorem Shelved.still {task : Nat} {phase' : DataPhase} {intake' : Intake}
    (receivers : intake'.store.receivers = intake.store.receivers)
    (work : phase'.work = (phase (.data task)).work) (fs : intake'.store.fs = intake.store.fs)
    (consumed : intake'.consumed = intake.consumed) :
    Shelved phase intake task phase' intake' := by
  intro receiver state found
  rw [receivers] at found
  refine ⟨state, found, rfl, .inl (shelf_still work (fun idx => by rw [fs]) fun idx => ?_)⟩
  rw [consumed]

omit [Blake3] in
theorem receivers_unlock {receiver : ReceiverId} {state : FileReceiver} {store store' : Store (Role Unit)}
    (held : store.receivers receiver = some state)
    (unlocked : Store.unlockSem receiver state store store') :
    store'.receivers = store.receivers := by
  cases unlocked
  exact (congrArg _ held.symm).trans (Function.update_eq_self receiver _)

theorem Shelved.save {task : Nat} {op : FsOp FilePath} {answer : op.Res} {phase' : DataPhase}
    {store : Store (Role Unit)} {partsDir filename : Bytes}
    (work : phase'.work = (phase (.data task)).work)
    (named : ∀ receiver state, intake.store.receivers receiver = some state →
      state.partsDir = partsDir ∧ state.filename = filename)
    (acted : Store.fsSem False op intake.store answer store)
    (writes : ∀ path, op.writes path → path = TransferMetadata.tmpPath partsDir filename ∨
      path = TransferMetadata.metaPath partsDir filename) :
    Shelved phase intake task phase' { noteData task (.fs op) answer intake with store := store } := by
  obtain ⟨fs, called, same⟩ := acted
  subst same
  intro receiver state found
  obtain ⟨dir, name⟩ := named receiver state found
  have apart : ∀ idx, ¬ op.writes (state.partPath idx) := by
    intro idx written
    rw [FileReceiver.partPath, dir, name] at written
    obtain isTmp | isMeta := writes _ written
    · exact TransferMetadata.partPath_ne_tmpPath idx isTmp
    · exact TransferMetadata.partPath_ne_metaPath idx isMeta
  refine ⟨state, found, rfl, .inl (shelf_still work (fun idx => called.frame (apart idx)) fun idx => ?_)⟩
  cases op with
  | create path =>
      have different : state.partPath idx ≠ path := fun same => apart idx same
      exact ⟨fun kept => kept.1, fun kept => ⟨kept, different⟩⟩
  | _ => exact Iff.rfl

theorem Shelved.store {task : Nat} {op : FsOp FilePath} {answer : op.Res}
    {store : Store (Role Unit)} {r : ReceiverId} {chunk : ChunkInHand} {path : FilePath}
    {writing writing' : WritePhase} (sound : Sound phase intake)
    (current : phase (.data task) = .storing r chunk path writing)
    (turned : WriteTurn path chunk.data writing op answer writing')
    (acted : Store.fsSem False op intake.store answer store)
    (apart : Apart (.data task) (.fs op) intake answer) :
    Shelved phase intake task (.storing r chunk path writing')
      { noteData task (.fs op) answer intake with store := store } := by
  obtain ⟨fs, called, same⟩ := acted
  subst same
  intro receiver state found
  refine ⟨state, found, rfl, .inr ?_⟩
  have named := sound.placed task r chunk path writing current receiver state found
  subst named
  have tracked := sound.tracked task
  rw [current] at tracked
  cases turned with
  | createFails | writeFails =>
      obtain ⟨fine, _⟩ | ⟨failing, _⟩ := called
      · cases fine
      · cases failing
  | create =>
      obtain ⟨_, changed⟩ | ⟨failing, _⟩ := called
      · subst changed
        obtain ⟨chunked, idle⟩ := tracked
        have agreed : (shelf phase intake state).Agreed chunk.idx chunk.data := by
          intro other work working there
          have held := (sound.tracked other).work
          rw [show (phase (.data other)).work = some work from working] at held
          exact apart idle chunk other _ chunked held there
        have after : shelf (Function.update phase (.data task)
            (.storing r chunk (state.partPath chunk.idx) (.writing 0)))
            { noteData task (.fs (.create (state.partPath chunk.idx))) (.ok ()) intake with
              store := { intake.store with
                fs := Function.update intake.store.fs (state.partPath chunk.idx) (some []) } } state =
            { shelf phase intake state with
              content := Function.update (shelf phase intake state).content chunk.idx (some [])
              work := Function.update (shelf phase intake state).work task
                (some ⟨chunk.idx, chunk.data, some 0⟩)
              emptied := (shelf phase intake state).emptied \ {chunk.idx} } := by
          apply Shelf.ext
          · exact Function.update_comp_eq_of_injective _ state.partPath_injective _ _
          · exact shelf_work task _
          · rfl
          · ext idx
            exact and_congr_right fun _ => not_congr state.partPath_injective.eq_iff
        rw [after]
        refine .begin task chunk.idx chunk.data ?_ agreed
        exact congrArg DataPhase.work current
      · cases failing
  | write written more =>
      obtain ⟨_, changed⟩ | ⟨failing, _⟩ := called
      · subst changed
        have after : shelf (Function.update phase (.data task)
            (.storing r chunk (state.partPath chunk.idx) (.writing (written + 1))))
            { noteData task (.fs (.writeAt (state.partPath chunk.idx) written chunk.data[written]))
                (.ok ()) intake with
              store := { intake.store with
                fs := Function.update intake.store.fs (state.partPath chunk.idx)
                  ((intake.store.fs (state.partPath chunk.idx)).map fun content =>
                    putByte content written chunk.data[written]) } } state =
            { shelf phase intake state with
              content := Function.update (shelf phase intake state).content chunk.idx
                (((shelf phase intake state).content chunk.idx).map fun content =>
                  putByte content written chunk.data[written])
              work := Function.update (shelf phase intake state).work task
                (some ⟨chunk.idx, chunk.data, some (written + 1)⟩) } := by
          apply Shelf.ext
          · exact Function.update_comp_eq_of_injective _ state.partPath_injective _ _
          · exact shelf_work task _
          · rfl
          · rfl
        rw [after]
        exact .write (congrArg DataPhase.work current) more
      · cases failing

theorem Shelved.close {task : Nat} {r : ReceiverId} {chunk : ChunkInHand} {path : FilePath}
    {held : FileReceiver} {intake' : Intake}
    (current : phase (.data task) = .storing r chunk path (.writing chunk.data.length))
    (receivers : intake'.store.receivers = intake.store.receivers)
    (fs : intake'.store.fs = intake.store.fs) (consumed : intake'.consumed = intake.consumed) :
    Shelved phase intake task (.recording r chunk held (.writing .opening)) intake' := by
  intro receiver state found
  rw [receivers] at found
  refine ⟨state, found, rfl, .inr ?_⟩
  have after : shelf (Function.update phase (.data task)
      (.recording r chunk held (.writing .opening))) intake' state =
      { shelf phase intake state with
        work := Function.update (shelf phase intake state).work task
          (some ⟨chunk.idx, chunk.data, none⟩) } := by
    apply Shelf.ext
    · funext idx
      exact congrFun fs _
    · exact shelf_work task _
    · rfl
    · ext idx
      exact Eq.to_iff (congrArg (state.partPath idx ∈ ·) consumed)
  rw [after]
  exact .close (congrArg DataPhase.work current)

theorem Shelved.record {task : Nat} {r : ReceiverId} {chunk : ChunkInHand} {held state' : FileReceiver}
    {saving : SavePhase} {phase' : DataPhase} {intake' : Intake}
    (current : phase (.data task) = .recording r chunk held saving) (idle : phase'.work = none)
    (found : intake.store.receivers r = some held) (inRange : chunk.idx < held.numChunks)
    (changed : state' = held.recorded chunk ∨ state' = (held.recorded chunk).setFailed)
    (receivers : intake'.store.receivers = Function.update intake.store.receivers r (some state'))
    (sole : ∀ receiver, intake'.store.receivers receiver ≠ none → receiver = r)
    (fs : intake'.store.fs = intake.store.fs) (consumed : intake'.consumed = intake.consumed) :
    Shelved phase intake task phase' intake' := by
  intro receiver other found'
  cases sole receiver (by rw [found']; nofun)
  rw [receivers, Function.update_self] at found'
  cases found'
  have params : state'.params = held.params := by
    obtain same | same := changed <;> rw [same] <;> rfl
  have metadata : state'.metadata = held.metadata.addChunk chunk.idx (calcHash chunk.data) := by
    obtain same | same := changed <;> rw [same] <;> rfl
  have received : ∀ idx, state'.Received idx ↔ (held.mark chunk.idx).Received idx := by
    obtain same | same := changed <;> rw [same] <;> exact fun _ => Iff.rfl
  have paths : ∀ idx, state'.partPath idx = held.partPath idx := by
    obtain same | same := changed <;> rw [same] <;> exact fun _ => rfl
  refine ⟨held, found, params, .inr ?_⟩
  have after : shelf (Function.update phase (.data task) phase') intake' state' =
      { shelf phase intake held with
        work := Function.update (shelf phase intake held).work task none
        mark := Function.update (shelf phase intake held).mark chunk.idx
          (some (some (calcHash chunk.data))) } := by
    apply Shelf.ext
    · funext idx
      exact (congrFun fs _).trans (congrArg intake.store.fs (paths idx))
    · exact (shelf_work task phase').trans (by rw [idle]; rfl)
    · funext idx
      change _ = Function.update (shelf phase intake held).mark chunk.idx
        (some (some (calcHash chunk.data))) idx
      by_cases here : idx = chunk.idx
      · subst here
        have marked := (received _).mpr (FileReceiver.received_mark_self inRange)
        refine (if_pos marked).trans ?_
        rw [metadata, TransferMetadata.addChunk, OrderedMap.get?_insert_self,
          Function.update_self]
      · have same : state'.Received idx ↔ held.Received idx :=
          (received idx).trans (FileReceiver.received_mark_of_ne here)
        rw [Function.update_of_ne here]
        simp only [shelf, same, metadata, TransferMetadata.addChunk,
          OrderedMap.get?_insert_of_ne _ _ here]
    · ext idx
      have same : state'.partPath idx ∈ intake'.consumed ↔ held.partPath idx ∈ intake.consumed := by
        rw [paths, consumed]
      exact same
  rw [after]
  exact .record (congrArg DataPhase.work current)

theorem Sound.shelved_data (sound : Sound phase intake) {task : Nat} {op : DataOp} {answer : op.Res}
    {phase' : DataPhase} {store : Store (Role Unit)}
    (turned : DataTurn (phase (.data task)) op answer phase')
    (acted : Store.dataSem False (Role.data task) op intake.store answer store)
    (apart : Apart (.data task) op intake answer) :
    Shelved phase intake task phase' { noteData task op answer intake with store := store } := by
  have held := sound.one.orderly.held (.data task)
  have exist := (OneTransfer.data_keeps sound.one.orderly turned acted).2
  have inRange := sound.inRange task
  generalize current : phase (.data task) = before at turned held inRange
  have work : ∀ {after : DataPhase}, before.work = none → after.work = none →
      after.work = (phase (.data task)).work := by
    intro after idle idle'
    rw [current, idle, idle']
  have hold : ∀ {receiver state}, before.holding = some (receiver, state) →
      intake.store.receivers receiver = some state := fun holds => (held _ _ holds).2
  cases turned with
  | idle op quiet answer =>
      cases op with
      | start | accept | closeStream | dropListener =>
          cases acted
          exact .still rfl (work rfl rfl) rfl rfl
      | getReceiver =>
          cases acted.2
          exact .still rfl (work rfl rfl) rfl rfl
      | fs | recvFrame | sendFrame | lock | unlock => cases quiet
  | connect =>
      cases acted.2
      exact .still rfl (work rfl rfl) rfl rfl
  | look | size | place =>
      obtain ⟨_, _, same⟩ := acted
      subst same
      exact .still rfl (work rfl rfl) rfl rfl
  | leave | refuse | accept | placed =>
      have receivers := receivers_unlock (hold rfl) acted
      cases acted
      exact .still receivers (work rfl rfl) rfl rfl
  | hear answer =>
      cases acted
      cases answer <;> exact .still rfl (work rfl rfl) rfl rfl
  | receive | reply | close | acknowledge =>
      cases acted
      exact .still rfl (work rfl rfl) rfl rfl
  | store writing => exact .store sound current writing acted apart
  | fail | failed =>
      have tracked := sound.tracked task
      rw [current] at tracked
      cases tracked
  | record =>
      obtain ⟨_, _, same⟩ := acted
      subst same
      exact .close current rfl rfl rfl
  | @save r chunk state saving saving' op answer saved =>
      refine .save (by rw [current]; rfl) (fun receiver other found => ?_) acted
        fun path written => saved.writes written
      have found' := hold rfl
      cases sound.one.sole receiver r (by rw [found]; nofun) (by rw [found']; nofun)
      cases found.symm.trans found'
      exact ⟨rfl, rfl⟩
  | @recorded r chunk state | @unsaved r chunk state =>
      have found := hold rfl
      have sole : ∀ receiver, store.receivers receiver ≠ none → receiver = r := fun receiver there =>
        sound.one.sole receiver r (exist receiver there) (by rw [found]; nofun)
      cases acted
      first
      | exact .record current rfl found (inRange chunk rfl r state found) (.inl rfl) rfl sole rfl rfl
      | exact .record current rfl found (inRange chunk rfl r state found) (.inr rfl) rfl sole rfl rfl

theorem Sound.data (sound : Sound phase intake) {task : Nat} {op : DataOp} {answer : op.Res}
    {phase' : DataPhase} {store : Store (Role Unit)}
    (turned : DataTurn (phase (.data task)) op answer phase')
    (acted : Store.dataSem False (Role.data task) op intake.store answer store)
    (apart : Apart (.data task) op intake answer) :
    Sound (Function.update phase (.data task) phase')
      { noteData task op answer intake with store := store } := by
  have one := sound.one.data turned acted
  have shelved := sound.shelved_data turned acted apart
  constructor
  · exact one
  · intro other
    by_cases same : other = task
    · subst same
      rw [Function.update_self]
      exact (sound.tracked other).step turned acted
    · rw [Role.update_data_other same]
      obtain ⟨frame, writing⟩ := noteData_other same op answer intake
      have tracked := sound.tracked other
      rw [← frame, ← writing] at tracked
      exact tracked
  · intro other chunk holds receiver state' found'
    obtain ⟨state, found, params, _⟩ := shelved receiver state' found'
    rw [show state'.numChunks = state.numChunks from congrArg FileReceiver.Params.numChunks params]
    by_cases same : other = task
    · subst same
      rw [Function.update_self] at holds
      obtain before | ⟨r, frame, held, sizing, carries⟩ := turned.inHand holds
      · exact sound.inRange other chunk before receiver state found
      · have there := (sound.one.orderly.held (.data other) r held (by rw [sizing]; rfl)).2
        cases sound.one.sole receiver r (by rw [found]; nofun) (by rw [there]; nofun)
        cases found.symm.trans there
        exact carries.inRange
    · rw [Role.update_data_other same] at holds
      exact sound.inRange other chunk holds receiver state found
  · intro other r chunk path written there receiver state' found'
    obtain ⟨state, found, params, _⟩ := shelved receiver state' found'
    rw [FileReceiver.partPath_of_params params]
    by_cases same : other = task
    · subst same
      rw [Function.update_self] at there
      obtain ⟨written', before⟩ | ⟨held, placing, path⟩ := turned.path there
      · exact sound.placed other r chunk path written' before receiver state found
      · have here := (sound.one.orderly.held (.data other) r held (by rw [placing]; rfl)).2
        cases sound.one.sole receiver r (by rw [found]; nofun) (by rw [here]; nofun)
        cases found.symm.trans here
        exact path
    · rw [Role.update_data_other same] at there
      exact sound.placed other r chunk path written there receiver state found
  · rw [Role.update_data_control]
    exact sound.resumed.imp_right (noteData_resumed task op answer intake).trans
  · intro handshake receiver state resume there
    rw [Role.update_data_control] at there
    obtain ⟨_, still⟩ := sound.one.idle_step (by rw [there]; trivial) turned acted
    dsimp only
    rw [still]
    exact sound.sure handshake receiver state resume there
  · intro served receiver state' found'
    rw [Role.update_data_control] at served
    obtain ⟨state, found, _, same | stepped⟩ := shelved receiver state' found'
    · rw [same]
      exact sound.shelved served receiver state found
    · exact (sound.shelved served receiver state found).step stepped

omit [Blake3] in
/-- The handler leaves the shelf as it is, apart from the parts it removes. -/
theorem shelf_control {phase' : ControlPhase} {intake' : Intake} {state : FileReceiver}
    (fs : ∀ idx, intake'.store.fs (state.partPath idx) = intake.store.fs (state.partPath idx))
    (consumed : ∀ idx, state.partPath idx ∈ intake'.consumed ↔
      state.partPath idx ∈ intake.consumed) :
    shelf (Function.update phase (.control ()) phase') intake' state = shelf phase intake state := by
  apply Shelf.ext
  · funext idx
    exact fs idx
  · funext task
    exact congrArg DataPhase.work (Role.update_control_data () phase' task)
  · rfl
  · ext idx
    exact consumed idx

variable [KeyOrder] {config : Control.Config}

/-- A handler that has left the resume section leaves the receivers as they are. -/
theorem served_receivers (orderly : Orderly phase intake.store) {op : ControlOp} {answer : op.Res}
    {phase' : ControlPhase} {store : Store (Role Unit)}
    (served : ¬ (phase (.control ())).Unserved)
    (turned : ControlTurn config (phase (.control ())) op answer phase')
    (acted : Store.controlSem False (Role.control ()) op intake.store answer store) :
    store.receivers = intake.store.receivers := by
  have held := orderly.held (.control ())
  generalize phase (.control ()) = before at turned held served
  cases turned with
  | quiet _ op quiet =>
      cases op <;> first | (cases acted; exact rfl) | cases quiet
  | answer | register | report | abandon | remove =>
      cases acted
      rfl
  | hear | accept | create | resume | check | recover | unresumed | resumed =>
      exact absurd trivial served
  | build =>
      obtain ⟨_, _, same⟩ := acted
      rw [same]
  | look | assemble =>
      obtain ⟨_, _, same⟩ := acted
      rw [same]
  | leave | built => exact receivers_unlock (held _ _ rfl).2 acted

omit [KeyOrder] in
theorem Sound.shelved_build (sound : Sound phase intake) {handshake : HandshakeData}
    {receiver : ReceiverId} {state : FileReceiver} {assembly assembly' : AssemblePhase}
    {op : FsOp FilePath} {answer : op.Res} {store : Store (Role Unit)}
    (current : phase (.control ()) = .assembling handshake receiver state assembly)
    (turned : AssembleTurn state assembly op answer assembly')
    (acted : Store.fsSem False op intake.store answer store) {phase' : ControlPhase} :
    (shelf (Function.update phase (.control ()) phase')
      { noteControl (.fs op) intake with store := store } state).Sound
        fun part => some (calcHash part) := by
  have served : ¬ (phase (.control ())).Unserved := by
    rw [current]
    exact id
  have resumed : intake.resumed = true := sound.resumed.resolve_left served
  have found := (sound.one.orderly.held (.control ()) receiver state (by rw [current]; rfl)).2
  have before := sound.shelved served receiver state found
  obtain ⟨fs, called, same⟩ := acted
  subst same
  obtain ⟨idx, removal⟩ | writes := turned.writes
  · subst removal
    have gone : fs = Function.update intake.store.fs (state.partPath idx) none := by
      obtain ⟨_, _, removed⟩ | ⟨missing, unchanged, _⟩ := called
      · exact removed
      · rw [unchanged, ← missing.resolve_right id]
        exact (Function.update_eq_self _ _).symm
    subst gone
    have after : shelf (Function.update phase (.control ()) phase')
        { noteControl (.fs (.remove (state.partPath idx))) intake with
          store := { intake.store with
            fs := Function.update intake.store.fs (state.partPath idx) none } } state =
        { shelf phase intake state with
          content := Function.update (shelf phase intake state).content idx none
          emptied := insert idx (shelf phase intake state).emptied } := by
      apply Shelf.ext
      · exact Function.update_comp_eq_of_injective _ state.partPath_injective _ _
      · funext task
        exact congrArg DataPhase.work (Role.update_control_data () phase' task)
      · rfl
      · ext other
        have same : state.partPath other = state.partPath idx ↔ other = idx :=
          state.partPath_injective.eq_iff
        simp only [shelf, noteControl, resumed, true_and, Set.mem_ofPred_eq, Set.mem_union,
          Set.mem_insert_iff, same, or_comm]
    rw [after]
    exact before.step (.empty idx)
  · have apart : ∀ idx, ¬ op.writes (state.partPath idx) := by
      intro idx written
      obtain final | isMeta := writes _ written
      · exact state.partPath_ne_finalPath idx final
      · exact TransferMetadata.partPath_ne_metaPath idx isMeta
    have still : shelf (Function.update phase (.control ()) phase')
        { noteControl (.fs op) intake with store := { intake.store with fs := fs } } state =
          shelf phase intake state :=
      shelf_control (fun idx => called.frame (apart idx)) fun idx =>
        noteControl_consumed (apart idx) intake
    rw [still]
    exact before

/-- What a handler that has left the resume section does to the shelf. -/
theorem Sound.shelved_control (sound : Sound phase intake) {op : ControlOp} {answer : op.Res}
    {phase' : ControlPhase} {store : Store (Role Unit)}
    (served : ¬ (phase (.control ())).Unserved)
    (turned : ControlTurn config (phase (.control ())) op answer phase')
    (acted : Store.controlSem False (Role.control ()) op intake.store answer store)
    {receiver : ReceiverId} {state : FileReceiver}
    (found : store.receivers receiver = some state) :
    (shelf (Function.update phase (.control ()) phase')
      { noteControl op intake with store := store } state).Sound
        fun part => some (calcHash part) := by
  rw [served_receivers sound.one.orderly served turned acted] at found
  have before := sound.shelved served receiver state found
  have still : ∀ {intake' : Intake}, intake'.store.fs = intake.store.fs →
      intake'.consumed = intake.consumed →
      (shelf (Function.update phase (.control ()) phase') intake' state).Sound
        fun part => some (calcHash part) := by
    intro intake' fs consumed
    have same : shelf (Function.update phase (.control ()) phase') intake' state =
        shelf phase intake state :=
      shelf_control (fun idx => congrFun fs _) fun idx =>
        Eq.to_iff (congrArg (state.partPath idx ∈ ·) consumed)
    rw [same]
    exact before
  generalize current : phase (.control ()) = here at turned served
  cases turned with
  | quiet _ op quiet =>
      cases op <;> first | (cases acted; exact still rfl rfl) | cases quiet
  | answer | register | report | abandon | remove =>
      cases acted
      exact still rfl rfl
  | hear | accept | create | resume | check | recover | unresumed | resumed =>
      exact absurd trivial served
  | @build handshake other held assembly assembly' op answer building =>
      have held := (sound.one.orderly.held (.control ()) other held (by rw [current]; rfl)).2
      cases sound.one.sole receiver other (by rw [found]; nofun) (by rw [held]; nofun)
      cases found.symm.trans held
      exact sound.shelved_build current building acted
  | look | assemble =>
      obtain ⟨_, _, same⟩ := acted
      subst same
      exact still rfl rfl
  | leave | built =>
      cases acted
      exact still rfl rfl

theorem Sound.shelved_resume (sound : Sound phase intake) {handshake : HandshakeData}
    {r : ReceiverId} {held state' : FileReceiver} {resume : ResumePhase}
    (current : phase (.control ()) = .resuming handshake r held resume)
    (leaves : resume.Leaves held state') {phase' : ControlPhase} {intake' : Intake}
    (fs : intake'.store.fs = intake.store.fs) :
    (shelf (Function.update phase (.control ()) phase') intake' state').Sound
      fun part => some (calcHash part) := by
  have unserved : (phase (.control ())).Unserved := by
    rw [current]
    trivial
  have found := (sound.one.orderly.held (.control ()) r held (by rw [current]; rfl)).2
  refine .of_idle (fun task => ?_) fun idx mark marks => ?_
  · have idle := sound.one.idle unserved task
    exact (congrArg DataPhase.work (Role.update_control_data () phase' task)).trans (by rw [idle]; rfl)
  · by_cases received : state'.Received idx
    · cases (if_pos received).symm.trans marks
      obtain same | ⟨metadata, marked, ended, all, same⟩ := leaves
      · subst same
        exact absurd received (sound.one.fresh unserved r state' found idx)
      · subst same
        have listed : idx ∈ metadata.chunkHashes.keys := by
          obtain listed | earlier := FileReceiver.received_markAll all received
          · exact (KeyOrder.perm metadata.chunkHashes).mem_iff.mp listed
          · exact absurd earlier (sound.one.fresh unserved r held found idx)
        have sure : ∀ idx ∈ metadata.chunkHashes.keys, Matches intake.store.fs held metadata idx := by
          have certain := sound.sure handshake r held resume current
          obtain loaded | ⟨saved, saving, _⟩ := ended
          · rw [loaded] at certain
            exact certain
          · rw [saving] at certain
            exact certain
        obtain ⟨part, onDisk, hashed⟩ := sure idx listed
        have paths : (marked.setMetadata metadata).partPath idx = held.partPath idx :=
          FileReceiver.partPath_of_params ((FileReceiver.params_setMetadata _ _).trans
            (FileReceiver.params_markAll all)) idx
        refine ⟨part, ?_, hashed⟩
        exact (congrFun fs _).trans ((congrArg intake.store.fs paths).trans onDisk)
    · cases (if_neg received).symm.trans marks

theorem Sound.sure_control (sound : Sound phase intake) {op : ControlOp} {answer : op.Res}
    {phase' : ControlPhase} {store : Store (Role Unit)}
    (turned : ControlTurn config (phase (.control ())) op answer phase')
    (acted : Store.controlSem False (Role.control ()) op intake.store answer store)
    {handshake : HandshakeData} {receiver : ReceiverId} {state : FileReceiver}
    {resume : ResumePhase} (there : phase' = .resuming handshake receiver state resume) :
    resume.Sure store.fs state := by
  have before := sound.sure
  generalize phase (.control ()) = here at turned before
  cases turned with
  | quiet _ op quiet =>
      have certain := before handshake receiver state resume there
      cases op <;> first | (cases acted; exact certain) | cases quiet
  | answer _ answers =>
      subst there
      cases answers
  | resume =>
      cases there
      trivial
  | recover recovering =>
      cases there
      obtain ⟨fs, called, same⟩ := acted
      subst same
      exact recovering.sure called (before _ _ _ _ rfl)
  | _ => cases there

theorem Sound.control (sound : Sound phase intake) {op : ControlOp} {answer : op.Res}
    {phase' : ControlPhase} {store : Store (Role Unit)}
    (turned : ControlTurn config (phase (.control ())) op answer phase')
    (acted : Store.controlSem False (Role.control ()) op intake.store answer store) :
    Sound (Function.update phase (.control ()) phase')
      { noteControl op intake with store := store } := by
  have one := sound.one.control turned acted
  have receivers : ∀ task, phase (.data task) ≠ .idle → store.receivers = intake.store.receivers := by
    intro task connected
    have served : ¬ (phase (.control ())).Unserved := fun unserved =>
      connected (sound.one.idle unserved task)
    exact served_receivers sound.one.orderly served turned acted
  constructor
  · exact one
  · intro task
    rw [Role.update_control_data]
    obtain ⟨frame, writing⟩ := noteControl_tasks op intake
    have tracked := sound.tracked task
    rw [← frame, ← writing] at tracked
    exact tracked
  · intro task chunk holds receiver state found
    rw [Role.update_control_data] at holds
    have connected : phase (.data task) ≠ .idle := fun idle => by
      rw [idle] at holds
      cases holds
    dsimp only at found
    rw [receivers task connected] at found
    exact sound.inRange task chunk holds receiver state found
  · intro task r chunk path written there receiver state found
    rw [Role.update_control_data] at there
    have connected : phase (.data task) ≠ .idle := fun idle => by
      rw [idle] at there
      cases there
    dsimp only at found
    rw [receivers task connected] at found
    exact sound.placed task r chunk path written there receiver state found
  · rw [Function.update_self]
    obtain unserved | resumed := sound.resumed
    · obtain unserved' | ⟨_, _, _, _, _, _, unlocks, _⟩ := turned.leaves unserved
      · exact .inl unserved'
      · subst unlocks
        exact .inr rfl
    · exact .inr (noteControl_resumed resumed)
  · intro handshake receiver state resume there
    rw [Function.update_self] at there
    exact sound.sure_control turned acted there
  · intro served' receiver state found
    rw [Function.update_self] at served'
    by_cases served : (phase (.control ())).Unserved
    · obtain unserved' | ⟨handshake, r, held, resume, state', current, unlocks, leaves⟩ :=
        turned.leaves served
      · exact absurd unserved' served'
      · subst unlocks
        have there := (sound.one.orderly.held (.control ()) r held (by rw [current]; rfl)).2
        cases acted
        have only : receiver = r := by
          by_contra different
          dsimp only at found
          rw [Function.update_of_ne different] at found
          exact different (sound.one.sole receiver r (by rw [found]; nofun) (by rw [there]; nofun))
        subst only
        dsimp only at found
        rw [Function.update_self] at found
        cases found
        exact sound.shelved_resume current leaves rfl
    · exact sound.shelved_control served turned acted found

/-- A server with one transfer. -/
def system (config : Control.Config) : System (Role Unit) Role.sig Role.Ctl Intake :=
  serverSystem config acts

theorem Sound.move {before after : Stance Role.Phase Intake}
    (sound : Sound before.phase before.world)
    (moved : Move ((system config).guarded Apart) (fun _ => True) (Role.turn config) before after) :
    Sound after.phase after.world := by
  cases moved with
  | @act tid op answer phase' world turned acted permitted =>
      obtain ⟨apart, acted⟩ := acted
      cases tid with
      | control handler =>
          obtain ⟨store, acted, same⟩ := acted
          subst same
          exact sound.control turned acted
      | data task =>
          obtain ⟨store, acted, same⟩ := acted
          subst same
          exact sound.data turned acted apart

end Intake

end BeeSync.Server
