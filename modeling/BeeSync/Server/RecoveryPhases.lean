import BeeSync.Server.RecoverySteps

/-!
# Chunks on their way

A task that has been sent a chunk has it in its hands until it is marked: where the task
stands says how much of the part is on disk, and whether the record lists it already.
-/

set_option autoImplicit false

namespace BeeSync.Server

open Encoding Arithmetic Interaction

section Messages

variable [Blake3] {job : Job} {idx : Nat} {frame : Bytes}

theorem Job.inRange_lt (inRange : idx < job.handshake.numChunks) : idx < 2 ^ 32 := by
  have few := job.handshake.numChunks_le
  have most : maxChunks < 2 ^ 32 := by decide
  omega

theorem Job.chunk_length (idx : Nat) : (job.chunk idx).length =
    min job.handshake.chunkSize (job.source.length - idx * job.handshake.chunkSize) :=
  slice_length _ _ _

theorem Job.Message.index (message : job.Message idx frame) : headerIndex frame = some idx := by
  obtain ⟨inRange, piece, _, same⟩ := message
  rw [same, headerIndex, parseChunkHeader_chunkMessage, Option.map_some,
    asU32_of_lt (Job.inRange_lt inRange)]

/-- What the server takes from the message of a chunk is the chunk. -/
theorem Job.Message.carries {state : FileReceiver} {chunk : ChunkInHand}
    (message : job.Message idx frame) (params : state.params = job.receiver.params)
    (carries : Carries state frame chunk) :
    chunk.idx = idx ∧ chunk.data = job.chunk idx := by
  obtain ⟨inRange, piece, isPiece, same⟩ := message
  obtain ⟨header, parsed, index, expected, _, bytes, _⟩ := carries
  rw [same, parseChunkHeader_chunkMessage] at parsed
  cases parsed
  have fileSize : state.fileSize = job.source.length :=
    (congrArg FileReceiver.Params.fileSize params).trans job.fileSize
  have chunkSize : state.chunkSize = job.handshake.chunkSize :=
    congrArg FileReceiver.Params.chunkSize params
  have numChunks : state.numChunks = Client.numChunks job.source.length job.handshake.chunkSize :=
    (congrArg FileReceiver.Params.numChunks params).trans job.numChunks
  have size : job.source.length < 2 ^ 64 := job.fileSize ▸ job.handshake.fileSize_lt
  dsimp only at index expected bytes
  rw [asU32_of_lt (Job.inRange_lt inRange)] at index expected
  rw [fileSize, chunkSize, numChunks, expectedChunkSize_eq size job.handshake.chunkSize_pos
    job.nonempty (job.numChunks ▸ inRange), ← Job.chunk_length] at expected
  have short : piece.length < 2 ^ 32 := by
    have bounded := isPiece.bounded
    rw [Job.chunk_length] at bounded
    have limit := job.handshake.chunkSize_lt
    omega
  rw [asU32_of_lt short] at expected bytes
  have whole : (job.chunk idx).length = piece.length := Option.some.inj expected
  refine ⟨index.symm, ?_⟩
  rw [bytes, same, chunkMessage_data]
  have taken : job.chunk idx <+: job.source.drop (idx * job.handshake.chunkSize) :=
    List.take_prefix _ _
  exact List.prefix_of_prefix_length_le isPiece.isPrefix taken (le_of_eq whole.symm)
    |>.eq_of_length whole.symm

end Messages

/-- The chunk that a task has been sent last. -/
def nowServing (served : Option Nat) : (op : DataOp) → op.Res → Option Nat
  | .recvFrame, .ok frame => headerIndex frame
  | _, _ => served

section Tasks

variable [Blake3] (job : Job)

/-- A task has accepted the chunk that it has been sent last. -/
structure Job.Serves (served : Option Nat) (marked : Set Nat) (chunk : ChunkInHand) : Prop where
  mine : served = some chunk.idx
  unmarked : chunk.idx ∉ marked
  inRange : chunk.idx < job.handshake.numChunks
  bytes : chunk.data = job.chunk chunk.idx

/-- How far a task has come with the chunk that it has been sent last. -/
def DataPhase.Attends (served : Option Nat) (marked : Set Nat) (fs : Fs FilePath) :
    DataPhase → Prop
  | .idle | .connected _ | .looking .. => True
  | .received _ frame | .sizing _ frame _ => ∃ idx ∉ marked, served = some idx ∧
      job.Message idx frame
  | .accepted _ chunk | .placing _ chunk _ => job.Serves served marked chunk
  | .storing _ chunk path write => job.Serves served marked chunk ∧
      path = job.partPath chunk.idx ∧ write.Written path chunk.data fs
  | .recording _ chunk state save => job.Serves served marked chunk ∧
      fs (job.partPath chunk.idx) = some chunk.data ∧
        save.Drafted (state.recorded chunk).metadata job.config.tempDir job.handshake.safeName fs
  | .recorded _ _ => ∃ idx ∈ marked, served = some idx
  | .failing .. => False

/-- What a task is sent: a query, or a chunk that is not marked. -/
def Job.Hears (marked : Set Nat) : (op : DataOp) → op.Res → Prop
  | .recvFrame, .ok frame => frame = [Chunk.queryMagic] ∨ ∃ idx ∉ marked, job.Message idx frame
  | _, _ => True

variable {job} {served : Option Nat} {marked marked' : Set Nat} {fs fs' : Fs FilePath}
  {phase phase' : DataPhase} {op : DataOp} {answer : op.Res}

/-- Others that leave a chunk on its way alone do not matter. -/
theorem DataPhase.Attends.still (attends : phase.Attends job served marked fs)
    (alone : ∀ idx ∉ marked, idx < job.handshake.numChunks → served = some idx →
      fs' (job.partPath idx) = fs (job.partPath idx) ∧
        (phase.holding ≠ none → fs' job.tmpPath = fs job.tmpPath ∧
          fs' job.metaPath = fs job.metaPath)) :
    phase.Attends job served marked fs' := by
  cases phase with
  | storing receiver chunk path write =>
      obtain ⟨serves, same, written⟩ := attends
      have part := (alone _ serves.unmarked serves.inRange serves.mine).1
      refine ⟨serves, same, ?_⟩
      cases write with
      | opening => trivial
      | writing count =>
          rw [same] at written ⊢
          exact part.trans written
      | failed => exact written
  | recording receiver chunk state save =>
      obtain ⟨serves, whole, drafted⟩ := attends
      obtain ⟨part, others⟩ := alone _ serves.unmarked serves.inRange serves.mine
      obtain ⟨temporary, record⟩ := others nofun
      refine ⟨serves, part.trans whole, ?_⟩
      cases save with
      | writing write =>
          cases write with
          | opening => trivial
          | writing count => exact temporary.trans drafted
          | failed => exact drafted
      | removing error => exact drafted
      | saved result =>
          cases result with
          | ok _ => exact record.trans drafted
          | error error => exact drafted
  | _ => exact attends

/-- The chunks that others mark do not matter. -/
theorem DataPhase.Attends.mark (attends : phase.Attends job served marked fs)
    (grown : marked ⊆ marked') (others : ∀ idx ∈ marked', served = some idx → idx ∈ marked) :
    phase.Attends job served marked' fs := by
  have serving : ∀ {chunk}, job.Serves served marked chunk → job.Serves served marked' chunk :=
    fun serves => ⟨serves.mine, fun member => serves.unmarked (others _ member serves.mine),
      serves.inRange, serves.bytes⟩
  cases phase with
  | received | sizing =>
      obtain ⟨idx, unmarked, mine, message⟩ := attends
      exact ⟨idx, fun member => unmarked (others idx member mine), mine, message⟩
  | accepted | placing => exact serving attends
  | storing | recording => exact attends.imp_left serving
  | recorded =>
      obtain ⟨idx, member, mine⟩ := attends
      exact ⟨idx, grown member, mine⟩
  | idle | connected | looking | failing => exact attends

omit [Blake3] in
theorem Store.dataSem.files {Owner : Type} {faults : Prop} {owner : Owner}
    {store store' : Store Owner} (acted : dataSem faults owner op store answer store')
    (other : ∀ call, op ≠ .fs call) : store'.fs = store.fs := by
  cases op with
  | fs call => exact absurd rfl (other call)
  | lock =>
      obtain ⟨_, _, same⟩ := acted
      rw [same]
  | getReceiver => rw [acted.2]
  | _ =>
      cases acted
      rfl

/-- A call on files is one of the write of a part or of the save of the record. -/
theorem DataTurn.onFiles {op : FsOp FilePath} {answer : op.Res}
    (turned : DataTurn phase (.fs op) answer phase') :
    (∃ receiver chunk path write write', phase = .storing receiver chunk path write ∧
      phase' = .storing receiver chunk path write' ∧
        WriteTurn path chunk.data write op answer write') ∨
    ∃ receiver chunk state save save', phase = .recording receiver chunk state save ∧
      phase' = .recording receiver chunk state save' ∧
        SaveTurn (state.recorded chunk).metadata state.partsDir state.filename save op answer
          save' := by
  cases turned with
  | idle _ quiet => cases quiet
  | store writing => exact .inl ⟨_, _, _, _, _, rfl, rfl, writing⟩
  | save saving => exact .inr ⟨_, _, _, _, _, rfl, rfl, saving⟩

theorem DataTurn.attends_files {op : FsOp FilePath} {answer : op.Res}
    (turned : DataTurn phase (.fs op) answer phase')
    (params : ∀ receiver state, phase.holding = some (receiver, state) →
      state.params = job.receiver.params)
    (acted : op.Sem False fs answer fs') (attends : phase.Attends job served marked fs) :
    phase'.Attends job served marked fs' := by
  obtain ⟨receiver, chunk, path, write, write', before, after, writing⟩ |
    ⟨receiver, chunk, state, save, save', before, after, saving⟩ := turned.onFiles
  · subst before after
    obtain ⟨serves, same, written⟩ := attends
    exact ⟨serves, same, writing.written written (acted.mono False.elim)⟩
  · subst before after
    obtain ⟨serves, whole, drafted⟩ := attends
    have same := params _ _ rfl
    have partsDir : state.partsDir = job.config.tempDir :=
      congrArg FileReceiver.Params.partsDir same
    have filename : state.filename = job.handshake.safeName :=
      congrArg FileReceiver.Params.filename same
    rw [partsDir, filename] at saving
    refine ⟨serves, (acted.frame fun writes => ?_).trans whole,
      saving.drafted drafted (acted.mono False.elim)⟩
    obtain here | here := saving.writes writes
    · exact Job.partPath_ne_tmpPath here
    · exact Job.partPath_ne_metaPath here

/-- A task keeps to the chunk that it has been sent. -/
theorem DataTurn.attends {Owner : Type} {owner : Owner} {store store' : Store Owner}
    (turned : DataTurn phase op answer phase') (unsaved : ¬ phase.Saved)
    (hears : job.Hears marked op answer)
    (params : ∀ receiver state, phase.holding = some (receiver, state) →
      state.params = job.receiver.params)
    (acted : Store.dataSem False owner op store answer store')
    (attends : phase.Attends job served marked store.fs) :
    phase'.Attends job (nowServing served op answer) marked store'.fs := by
  by_cases other : ∀ call, op ≠ .fs call
  · rw [acted.files other]
    cases turned with
    | idle | connect | look | leave | hear | reply | close | refuse | acknowledge => trivial
    | receive frame noQuery =>
        obtain ⟨idx, unmarked, message⟩ := hears.resolve_left noQuery
        exact ⟨idx, unmarked, message.index, message⟩
    | size | place => exact attends
    | accept carries =>
        obtain ⟨idx, unmarked, mine, message⟩ := attends
        obtain ⟨same, bytes⟩ := message.carries (params _ _ rfl) carries
        subst same
        exact ⟨mine, unmarked, message.inRange, bytes⟩
    | placed => exact ⟨attends, FileReceiver.partPath_of_params (params _ _ rfl) _, trivial⟩
    | fail => exact attends.2.2.elim
    | failed => exact attends.elim
    | record =>
        obtain ⟨serves, same, written⟩ := attends
        have whole := written
        rw [same, WritePhase.Written, List.take_length] at whole
        exact ⟨serves, whole, trivial⟩
    | recorded => exact absurd ⟨_, _, _, rfl⟩ unsaved
    | unsaved ended => exact (attends.2.2.fine ended).elim
    | store | save => exact absurd rfl (other _)
  · obtain ⟨call, calls⟩ := not_forall_not.mp other
    subst calls
    obtain ⟨fs, called, same⟩ := acted
    rw [same]
    exact turned.attends_files params called attends

/-- The chunk is in the record and about to be marked. -/
def DataPhase.Enters (phase : DataPhase) (idx : Nat) : Prop :=
  ∃ receiver chunk state, phase = .recording receiver chunk state (.saved (.ok ())) ∧
    chunk.idx = idx

variable {past : Past} {entering entering' : Set Nat} {resumed assembling : Prop}
  {chunk : ChunkInHand} {state : FileReceiver}

/-- What a task may note of a part that it writes. -/
theorem WriteTurn.accounts {write write' : WritePhase} {op : FsOp FilePath} {answer : op.Res}
    (writing : WriteTurn (job.partPath chunk.idx) chunk.data write op answer write')
    (serves : job.Serves served marked chunk)
    (written : write.Written (job.partPath chunk.idx) chunk.data past.fs)
    (acted : op.Sem False past.fs answer fs') (run : resumed) (unlisted : chunk.idx ∉ entering)
    (accounts : job.Accounts past marked entering resumed assembling) :
    job.Accounts ⟨fs', past.acked \ {idx | op = .create (job.partPath idx) ∧ idx ∈ past.consumed},
        past.consumed \ {idx | op = .create (job.partPath idx)}⟩ marked entering resumed
      assembling := by
  have there : ∀ {count}, past.fs (job.partPath chunk.idx) = some (chunk.data.take count) →
      chunk.idx ∉ past.consumed := by
    intro count found consumed
    cases found.symm.trans (accounts.sound.consumed _ consumed)
  have fresh : op = .create (job.partPath chunk.idx) ∨ chunk.idx ∉ past.consumed := by
    cases writing with
    | create | createFails => exact .inl rfl
    | write | writeFails => exact .inr (there written)
  have elsewhere : ∀ {idx}, op = .create (job.partPath idx) → idx = chunk.idx := fun creates =>
    Job.partPath_inj.mp (writing.writes (creates ▸ rfl))
  refine accounts.write run serves.unmarked unlisted ?_ ?_ ?_ (fun _ member => member.1) ?_
  · exact fun path different => acted.frame fun writes => different (writing.writes writes)
  · rintro ⟨consumed, uncreated⟩
    exact fresh.elim uncreated fun unconsumed => unconsumed consumed
  · intro other different
    exact ⟨fun member => member.1, fun member => ⟨member, fun creates =>
      different (elsewhere creates)⟩⟩
  · rintro ⟨_, kept⟩ consumed
    exact fresh.elim (fun creates => kept ⟨creates, consumed⟩) fun unconsumed => unconsumed consumed

/-- The save of a record lists a part that is whole. -/
theorem SaveTurn.accounts {save save' : SavePhase} {op : FsOp FilePath} {answer : op.Res}
    (saving : SaveTurn (state.recorded chunk).metadata job.config.tempDir job.handshake.safeName
      save op answer save')
    (serves : job.Serves served marked chunk) (valid : job.Valid state.metadata)
    (lists : ∀ idx, idx ∈ state.metadata.chunkHashes.keys ↔ idx ∈ marked)
    (whole : past.fs (job.partPath chunk.idx) = some chunk.data)
    (drafted : save.Drafted (state.recorded chunk).metadata job.config.tempDir
      job.handshake.safeName past.fs)
    (acted : op.Sem False past.fs answer fs') (run : resumed) (more : entering ⊆ entering')
    (enters : save' = .saved (.ok ()) → chunk.idx ∈ entering')
    (accounts : job.Accounts past marked entering resumed assembling) :
    job.Accounts { past with fs := fs' } marked entering' resumed assembling := by
  have drafted' := saving.drafted drafted (acted.mono False.elim)
  have spared : ∀ path, path ≠ job.tmpPath → path ≠ job.metaPath → fs' path = past.fs path :=
    fun path temporary record => acted.frame fun writes =>
      (saving.writes writes).elim temporary record
  have parts : ∀ idx, fs' (job.partPath idx) = past.fs (job.partPath idx) := fun idx =>
    spared _ Job.partPath_ne_tmpPath Job.partPath_ne_metaPath
  have output : fs' job.outputPath = past.fs job.outputPath :=
    spared _ Job.tmpPath_ne_outputPath.symm Job.metaPath_ne_outputPath.symm
  have elsewhere : ¬ op.writes job.metaPath →
      job.Accounts { past with fs := fs' } marked entering' resumed assembling := by
    intro unwritten
    refine (accounts.still (acted.frame unwritten) parts (fun content found => ?_) id).enter more
    exact accounts.sound.output content (output.symm.trans found)
  cases saving with
  | write writing =>
      exact elsewhere fun writes => Job.metaPath_ne_tmpPath (writing.writes writes)
  | rename =>
      have bytes := serves.bytes
      have replaced : fs' job.metaPath =
          some (state.metadata.addChunk chunk.idx (calcHash (job.chunk chunk.idx))).toBytes := by
        rw [← bytes]
        exact drafted'
      refine accounts.record run (valid.addChunk serves.inRange) (fun idx => ?_)
        (whole.trans (congrArg some bytes)) replaced parts output (enters rfl)
      exact OrderedMap.mem_keys_insert.trans (or_congr_right (lists idx))
  | renameFails => exact drafted'.elim
  | remove => exact drafted.elim

/-- Whatever a task does to the files is accounted for. -/
theorem DataTurn.accounts {op : FsOp FilePath} {answer : op.Res}
    (turned : DataTurn phase (.fs op) answer phase')
    (good : ∀ receiver state, phase.holding = some (receiver, state) →
      state.params = job.receiver.params ∧ job.Valid state.metadata ∧
        ∀ idx, idx ∈ state.metadata.chunkHashes.keys ↔ idx ∈ marked)
    (acted : op.Sem False past.fs answer fs') (attends : phase.Attends job served marked past.fs)
    (run : resumed) (unlisted : ∀ idx, served = some idx → idx ∉ entering)
    (more : entering ⊆ entering') (enters : ∀ idx, phase'.Enters idx → idx ∈ entering')
    (accounts : job.Accounts past marked entering resumed assembling) :
    job.Accounts ⟨fs', past.acked \ {idx | op = .create (job.partPath idx) ∧ idx ∈ past.consumed},
        past.consumed \ {idx | op = .create (job.partPath idx)}⟩ marked entering' resumed
      assembling := by
  obtain ⟨receiver, chunk, path, write, write', before, after, writing⟩ |
    ⟨receiver, chunk, state, save, save', before, after, saving⟩ := turned.onFiles
  · subst before after
    obtain ⟨serves, same, written⟩ := attends
    subst same
    exact (writing.accounts serves written acted run (unlisted _ serves.mine) accounts).enter more
  · subst before after
    obtain ⟨serves, whole, drafted⟩ := attends
    obtain ⟨params, valid, lists⟩ := good _ _ rfl
    have partsDir : state.partsDir = job.config.tempDir :=
      congrArg FileReceiver.Params.partsDir params
    have filename : state.filename = job.handshake.safeName :=
      congrArg FileReceiver.Params.filename params
    rw [partsDir, filename] at saving
    have uncreated : ∀ idx, op ≠ .create (job.partPath idx) := by
      intro idx creates
      have written : op.writes (job.partPath idx) := by
        rw [creates]
        rfl
      obtain here | here := saving.writes written
      · exact Job.partPath_ne_tmpPath here
      · exact Job.partPath_ne_metaPath here
    have acked : past.acked \ {idx | op = .create (job.partPath idx) ∧ idx ∈ past.consumed} =
        past.acked := by
      simp [uncreated]
    have consumed : past.consumed \ {idx | op = .create (job.partPath idx)} = past.consumed := by
      simp [uncreated]
    rw [acked, consumed]
    refine saving.accounts serves valid lists whole drafted acted run more (fun ended => ?_) accounts
    exact enters _ ⟨receiver, chunk, state, by rw [ended], rfl⟩

end Tasks

end BeeSync.Server
