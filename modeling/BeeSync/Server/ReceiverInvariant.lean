import BeeSync.Server.SharedRecord

/-!
# Three records of one transfer

A receiver has a flag for each chunk and a hash for each chunk that has arrived, and the hashes
are on disk as well. The three are updated in different places, one after the other. Whoever
finds the lock free finds them in agreement, as long as saving does not fail.
-/

set_option autoImplicit false

namespace BeeSync.Server

open Encoding Interaction

namespace FileReceiver

/-- The flags are set of the chunks that have a hash. -/
structure Matched (handshake : HandshakeData) (receiver : FileReceiver) : Prop
    extends Coherent handshake receiver where
  flags : ∀ idx, receiver.Received idx ↔ idx ∈ receiver.metadata.chunkHashes.keys

theorem isComplete_iff {receiver : FileReceiver} :
    receiver.isComplete = true ↔ ∀ idx < receiver.numChunks, receiver.Received idx := by
  rw [isComplete, List.all_eq_true, ← receiver.sized]
  constructor
  · intro all idx inside
    have marked : receiver.receivedChunks[idx] = true := all _ (List.getElem_mem inside)
    rw [Received, List.getElem?_eq_getElem inside, marked]
  · intro received flag member
    obtain ⟨idx, inside, here⟩ := List.getElem_of_mem member
    have marked := received idx inside
    rw [Received, List.getElem?_eq_getElem inside, here] at marked
    exact Option.some.inj marked

namespace Matched

variable {handshake : HandshakeData} {receiver : FileReceiver}

theorem isComplete_iff (matched : Matched handshake receiver) :
    receiver.isComplete = true ↔
      receiver.metadata.chunkHashes.entries.length = receiver.numChunks := by
  have among : receiver.metadata.chunkHashes.keys ⊆ List.range receiver.numChunks :=
    fun idx member => List.mem_range.mpr (matched.listed idx member)
  have fewer := List.subperm_of_subset (OrderedMap.keys_nodup _) among
  rw [FileReceiver.isComplete_iff, ← OrderedMap.length_keys]
  constructor
  · intro all
    have covered : List.range receiver.numChunks ⊆ receiver.metadata.chunkHashes.keys :=
      fun idx member => (matched.flags idx).mp (all idx (List.mem_range.mp member))
    have most := (List.subperm_of_subset List.nodup_range covered).length_le
    have least := fewer.length_le
    rw [List.length_range] at most least
    omega
  · intro many idx inside
    have whole := fewer.perm_of_length_le (by rw [List.length_range, many])
    exact (matched.flags idx).mpr (whole.mem_iff.mpr (List.mem_range.mpr inside))

theorem created (handshake : HandshakeData) (outputDir partsDir : Bytes) :
    Matched handshake (handshake.receiver outputDir partsDir) where
  fileSize := rfl
  chunkSize := rfl
  numChunks := rfl
  params := ⟨rfl, rfl, rfl, rfl⟩
  listed := nofun
  flags idx := ⟨fun received => (not_received_new _ _ _ _ _ _ _ idx received).elim, nofun⟩

theorem setFailed (matched : Matched handshake receiver) :
    Matched handshake receiver.setFailed :=
  ⟨matched.toCoherent.setFailed, matched.flags⟩

theorem recorded [Blake3] {chunk : ChunkInHand} (matched : Matched handshake receiver)
    (inRange : chunk.idx < receiver.numChunks) : Matched handshake (receiver.recorded chunk) := by
  refine ⟨matched.toCoherent.recorded inRange, fun idx => ?_⟩
  have inKeys : idx ∈ (receiver.recorded chunk).metadata.chunkHashes.keys ↔
      idx = chunk.idx ∨ idx ∈ receiver.metadata.chunkHashes.keys := OrderedMap.mem_keys_insert
  rw [inKeys]
  by_cases here : idx = chunk.idx
  · rw [here]
    exact ⟨fun _ => .inl rfl, fun _ => received_mark_self inRange⟩
  · rw [or_iff_right here, ← matched.flags]
    exact received_mark_of_ne here

/-- A record is taken over before any chunk is marked. -/
theorem resumed [KeyOrder] {marked : FileReceiver} {metadata : TransferMetadata}
    (matched : Matched handshake receiver) (fresh : ∀ idx, ¬ receiver.Received idx)
    (params : SameParams receiver metadata)
    (all : receiver.markAll (KeyOrder.keys metadata.chunkHashes) = some marked) :
    Matched handshake (marked.setMetadata metadata) := by
  refine ⟨matched.toCoherent.resumed params all, fun idx => ?_⟩
  have inRange : ∀ idx ∈ KeyOrder.keys metadata.chunkHashes, idx < receiver.numChunks := by
    intro idx member
    by_contra outside
    have panics := markAll_eq_none_iff.mpr ⟨idx, member, not_lt.mp outside⟩
    cases all.symm.trans panics
  obtain ⟨marked', all', received⟩ := markAll_of_lt inRange
  cases all.symm.trans all'
  have flags := received idx
  rw [or_iff_right (fresh idx), (KeyOrder.perm _).mem_iff] at flags
  exact flags

end Matched

/-- The receiver of an accepted handshake before it is given to the data ports: without a
chunk, or with those of the record that it has loaded. -/
inductive Opened [Blake3] [KeyOrder] (handshake : HandshakeData) (outputDir partsDir : Bytes) :
    FileReceiver → Prop where
  | created : Opened handshake outputDir partsDir (handshake.receiver outputDir partsDir)
  /-- Whatever the calls on the files are answered, if all indices are in range. -/
  | resumed {marked : FileReceiver} {metadata : TransferMetadata}
      {events : List (Event (FsSig FilePath))}
      (loaded : Prog.Path (handshake.receiver outputDir partsDir).loadOrPurgeMetadata events
        (.ret (some metadata)))
      (all : (handshake.receiver outputDir partsDir).markAll
        (KeyOrder.keys metadata.chunkHashes) = some marked) :
      Opened handshake outputDir partsDir (marked.setMetadata metadata)

theorem Opened.matched [Blake3] [KeyOrder] {handshake : HandshakeData} {outputDir partsDir : Bytes}
    {receiver : FileReceiver} (opened : Opened handshake outputDir partsDir receiver) :
    Matched handshake receiver := by
  have created := Matched.created handshake outputDir partsDir
  cases opened with
  | created => exact created
  | @resumed marked metadata events loaded all =>
      have params := loaded.yields (loadOrPurgeMetadata_yields _) metadata rfl
      exact created.resumed (not_received_new _ _ _ _ _ _ _) params all

end FileReceiver

section Saves

/-- A file that is being written: how much of it is there. -/
def WritePhase.Written {Path : Type} (path : Path) (data : Bytes) (fs : Fs Path) : WritePhase → Prop
  | .opening => True
  | .writing written => fs path = some (data.take written)
  | .failed => False

theorem WriteTurn.written {Path : Type} [DecidableEq Path] {path : Path} {data : Bytes}
    {write write' : WritePhase} {op : FsOp Path} {answer : op.Res} {fs fs' : Fs Path}
    (turned : WriteTurn path data write op answer write') (written : write.Written path data fs)
    (acted : op.Sem (¬ op.writes path) fs answer fs') : write'.Written path data fs' := by
  cases turned with
  | create =>
      obtain ⟨_, same⟩ | ⟨spared, _⟩ := acted
      · rw [same]
        exact Function.update_self _ _ _
      · exact absurd rfl spared
  | createFails error =>
      obtain ⟨fine, _⟩ | ⟨spared, _⟩ := acted
      · cases fine
      · exact absurd rfl spared
  | write done more =>
      obtain ⟨_, same⟩ | ⟨spared, _⟩ := acted
      · have before : fs path = some (data.take done) := written
        rw [before, Option.map_some, putByte_take more] at same
        rw [same]
        exact Function.update_self _ _ _
      · exact absurd rfl spared
  | writeFails done more error =>
      obtain ⟨fine, _⟩ | ⟨spared, _⟩ := acted
      · cases fine
      · exact absurd rfl spared

/-- A save that has not failed: what has been written of it, or that it is in place. -/
def SavePhase.Drafted (metadata : TransferMetadata) (partsDir filename : Bytes) (fs : Fs FilePath) :
    SavePhase → Prop
  | .writing .opening => True
  | .writing (.writing written) =>
      fs (TransferMetadata.tmpPath partsDir filename) = some (metadata.toBytes.take written)
  | .saved (.ok _) => fs (TransferMetadata.metaPath partsDir filename) = some metadata.toBytes
  | _ => False

theorem SavePhase.drafted_writing {metadata : TransferMetadata} {partsDir filename : Bytes}
    {fs : Fs FilePath} {write : WritePhase} :
    (SavePhase.writing write).Drafted metadata partsDir filename fs ↔
      write.Written (TransferMetadata.tmpPath partsDir filename) metadata.toBytes fs := by
  cases write <;> exact Iff.rfl

theorem SaveTurn.drafted {metadata : TransferMetadata} {partsDir filename : Bytes}
    {save save' : SavePhase} {op : FsOp FilePath} {answer : op.Res} {fs fs' : Fs FilePath}
    (turned : SaveTurn metadata partsDir filename save op answer save')
    (drafted : save.Drafted metadata partsDir filename fs)
    (acted : op.Sem (¬ op.writes (TransferMetadata.tmpPath partsDir filename)) fs answer fs') :
    save'.Drafted metadata partsDir filename fs' := by
  cases turned with
  | @write write write' op answer writing =>
      refine SavePhase.drafted_writing.mpr (writing.written ?_ acted)
      exact SavePhase.drafted_writing.mp drafted
  | rename =>
      obtain ⟨content, found, _, same⟩ | ⟨_, _, error, fails⟩ := acted
      · have whole := found.symm.trans drafted
        rw [List.take_length] at whole
        rw [same, whole]
        exact Function.update_self _ _ _
      · cases fails
  | renameFails error =>
      obtain ⟨_, _, fine, _⟩ | ⟨missing | spared, _⟩ := acted
      · cases fine
      · cases missing.symm.trans drafted
      · exact absurd (Or.inl rfl) spared
  | remove error => exact drafted.elim

/-- A save that has not failed has not come to a bad end. -/
theorem SavePhase.Drafted.fine {metadata : TransferMetadata} {partsDir filename : Bytes}
    {save : SavePhase} {fs : Fs FilePath} {error : IoError}
    (drafted : save.Drafted metadata partsDir filename fs) (ended : save.Done (.error error)) : False := by
  obtain failed | failed := ended
  · rw [failed] at drafted
    exact drafted
  · rw [failed] at drafted
    exact drafted

end Saves

/-- What the record says once the chunk at hand is in it. -/
def DataPhase.Drafts [Blake3] (params : FileReceiver.Params) (fs : Fs FilePath) : DataPhase → Prop
  | .recording _ chunk state save =>
      save.Drafted (state.recorded chunk).metadata params.partsDir params.filename fs
  | _ => True

/-- The record of the chunk at hand is in place, and the receiver has not been given back. -/
def DataPhase.Saved (phase : DataPhase) : Prop :=
  ∃ receiver chunk state, phase = .recording receiver chunk state (.saved (.ok ()))

/-- The receiver as an operation leaves it. -/
def DataOp.leaves (before : FileReceiver) : DataOp → FileReceiver
  | .unlock _ state => state
  | _ => before

section Turns

variable [Blake3] {params : FileReceiver.Params} {phase phase' : DataPhase} {op : DataOp}
  {answer : op.Res} {fs fs' : Fs FilePath} {frame : Option Bytes} {recorded : Set Nat}

theorem DataPhase.Drafts.still (drafts : phase.Drafts params fs)
    (temporary : fs' params.tmpPath = fs params.tmpPath)
    (target : fs' params.metaPath = fs params.metaPath) : phase.Drafts params fs' := by
  cases phase with
  | recording receiver chunk state save =>
      cases save with
      | writing write =>
          cases write with
          | opening => trivial
          | writing written => exact temporary.trans drafts
          | failed => exact drafts.elim
      | removing error => exact drafts.elim
      | saved result =>
          cases result with
          | ok _ => exact target.trans drafts
          | error error => exact drafts.elim
  | _ => trivial

/-- A receiver is given back as it was, with the mark of a failure, or with the chunk whose
record is in place. -/
theorem DataTurn.leaves {current : FileReceiver} (turned : DataTurn phase op answer phase')
    (drafts : phase.Drafts params fs)
    (mine : ∀ receiver state, phase.holding = some (receiver, state) → state = current) :
    (¬ phase.Saved ∧ (op.leaves current = current ∨ op.leaves current = current.setFailed)) ∨
      ∃ receiver chunk, phase = .recording receiver chunk current (.saved (.ok ())) ∧
        op.leaves current = current.recorded chunk := by
  cases turned with
  | leave | refuse | accept | placed => exact .inl ⟨nofun, .inl (mine _ _ rfl)⟩
  | failed =>
      cases mine _ _ rfl
      exact .inl ⟨nofun, .inr rfl⟩
  | recorded =>
      cases mine _ _ rfl
      exact .inr ⟨_, _, rfl, rfl⟩
  | unsaved ended => exact (SavePhase.Drafted.fine drafts ended).elim
  | save saving =>
      refine .inl ⟨fun saved => ?_, .inl rfl⟩
      obtain ⟨_, _, _, same⟩ := saved
      cases same
      cases saving
  | idle op quiet => cases op <;> first | exact .inl ⟨nofun, .inl rfl⟩ | cases quiet
  | _ => exact .inl ⟨nofun, .inl rfl⟩

/-- Only the save of a record touches the record and its temporary file. -/
theorem DataTurn.spares (turned : DataTurn phase op answer phase')
    (inStep : phase.InStep params frame recorded) :
    (¬ op.writes params.tmpPath ∧ ¬ op.writes params.metaPath) ∨
      ∃ receiver chunk state save, phase = .recording receiver chunk state save := by
  cases turned with
  | idle op quiet => cases op <;> first | exact .inl ⟨id, id⟩ | cases quiet
  | store writing =>
      obtain ⟨_, idx, placed⟩ := inStep
      subst placed
      refine .inl ⟨fun writes => ?_, fun writes => ?_⟩
      · exact TransferMetadata.partPath_ne_tmpPath idx (writing.writes writes).symm
      · exact TransferMetadata.partPath_ne_metaPath idx (writing.writes writes).symm
  | save => exact .inr ⟨_, _, _, _, rfl⟩
  | _ => exact .inl ⟨id, id⟩

theorem DataTurn.drafts {op : FsOp FilePath} {answer : op.Res}
    (turned : DataTurn phase (.fs op) answer phase') (drafts : phase.Drafts params fs)
    (mine : ∀ receiver state, phase.holding = some (receiver, state) → state.params = params)
    (acted : op.Sem (¬ op.writes params.tmpPath) fs answer fs') : phase'.Drafts params fs' := by
  cases turned with
  | idle _ quiet => cases quiet
  | store => trivial
  | save saving =>
      cases mine _ _ rfl
      exact saving.drafted drafts acted

/-- A save puts the record in place by its last call. -/
theorem DataTurn.unplaced (turned : DataTurn phase op answer phase')
    (inStep : phase.InStep params frame recorded)
    (mine : ∀ receiver state, phase.holding = some (receiver, state) → state.params = params)
    (drafts : phase'.Drafts params fs) (unsaved : ¬ phase'.Saved) : ¬ op.writes params.metaPath := by
  obtain ⟨_, spared⟩ | ⟨receiver, chunk, state, save, recording⟩ := turned.spares inStep
  · exact spared
  · subst recording
    cases mine _ _ rfl
    intro writes
    cases turned with
    | save saving =>
        cases saving with
        | write writing => exact TransferMetadata.metaPath_ne_tmpPath (writing.writes writes)
        | rename => exact unsaved ⟨_, _, _, rfl⟩
        | renameFails => exact drafts
        | remove => exact drafts
    | _ => exact writes

/-- Without a call on the files no save goes on. -/
theorem DataTurn.undrafted (turned : DataTurn phase op answer phase')
    (calls : ∀ call, op ≠ .fs call) : phase'.Drafts params fs := by
  cases turned with
  | store | save => exact absurd rfl (calls _)
  | _ => trivial

end Turns

namespace Ledger

/-- The data server tasks alone. Any call on files may fail but for those of a save. -/
def savingActs (params : FileReceiver.Params) : Acts Empty (Ledger Empty)
  | .data task, op, ledger, answer, ledger' => ∃ store,
      Store.dataSem (¬ op.writes params.tmpPath) (Role.data task) op ledger.store answer store ∧
        ledger' = noteData params task op answer ledger store

/-- A single transfer, whose receiver has been registered for its ports. -/
def sole (fs : Fs FilePath) (ports : List UInt16) (id : ReceiverId) (receiver : FileReceiver) :
    Ledger Empty :=
  { initial fs with
    store := {
      fs := fs
      receivers := Function.update (fun _ => none) id (some receiver)
      holder := fun _ => none
      registry := fun port => if port ∈ ports then some id else none } }

end Ledger

/-- The transfer is in good order, whoever is at work on it. -/
structure Upkeep [Blake3] (handshake : HandshakeData) (id : ReceiverId) (opened : FileReceiver)
    (phase : (role : Role Empty) → role.Phase) (ledger : Ledger Empty) (current : FileReceiver) :
    Prop where
  orderly : Orderly phase ledger.store
  sole : ∀ receiver, ledger.store.receivers receiver ≠ none → receiver = id
  found : ledger.store.receivers id = some current
  params : current.params = opened.params
  matched : FileReceiver.Matched handshake current
  inStep : ∀ task, (phase (.data task)).InStep opened.params (ledger.frame task) ledger.recorded
  drafts : ∀ task, (phase (.data task)).Drafts opened.params ledger.store.fs
  settled : ledger.recorded.Nonempty → (∀ task, ¬ (phase (.data task)).Saved) →
    ledger.store.fs opened.metaPath = some current.metadata.toBytes
  marked : ∀ idx, current.Received idx → opened.Received idx ∨ idx ∈ ledger.recorded

theorem Store.dataSem.leaves {Owner : Type} {faults : Prop} {owner : Owner}
    {store store' : Store Owner} {op : DataOp} {answer : op.Res} {id : ReceiverId}
    {current : FileReceiver} (acted : dataSem faults owner op store answer store')
    (mine : ∀ receiver state, op = .unlock receiver state → receiver = id)
    (found : store.receivers id = some current) :
    store'.receivers id = some (op.leaves current) := by
  cases op with
  | lock | fs =>
      obtain ⟨_, _, same⟩ := acted
      rw [same]
      exact found
  | unlock receiver state =>
      cases acted
      cases mine receiver state rfl
      exact Function.update_self _ _ _
  | getReceiver =>
      rw [acted.2]
      exact found
  | _ =>
      cases acted
      exact found

namespace Upkeep

variable [Blake3] {handshake : HandshakeData} {id : ReceiverId} {opened current : FileReceiver}
  {phase : (role : Role Empty) → role.Phase} {ledger : Ledger Empty}

/-- Whoever holds the lock holds it of this transfer. -/
theorem held (kept : Upkeep handshake id opened phase ledger current) {task : Nat}
    {receiver : ReceiverId} {state : FileReceiver}
    (holds : (phase (.data task)).holding = some (receiver, state)) :
    ledger.store.holder id = some (.data task) ∧ receiver = id ∧ state = current := by
  obtain ⟨holder, found⟩ := kept.orderly.held (.data task) receiver state holds
  have same := kept.sole receiver (by rw [found]; nofun)
  subst same
  cases found.symm.trans kept.found
  exact ⟨holder, rfl, rfl⟩

/-- Only one task at a time records a chunk. -/
theorem alone (kept : Upkeep handshake id opened phase ledger current) {task other : Nat}
    {receiver receiver' : ReceiverId} {state state' : FileReceiver}
    (holds : (phase (.data task)).holding = some (receiver, state))
    (holds' : (phase (.data other)).holding = some (receiver', state')) : other = task := by
  have same := (kept.held holds').1.symm.trans (kept.held holds).1
  cases same
  rfl

variable {task : Nat} {op : DataOp} {answer : op.Res} {phase' : DataPhase}
  {store : Store (Role Empty)}

theorem leaves (kept : Upkeep handshake id opened phase ledger current)
    (turned : DataTurn (phase (.data task)) op answer phase') :
    (¬ (phase (.data task)).Saved ∧
      (op.leaves current = current ∨ op.leaves current = current.setFailed)) ∨
      ∃ receiver chunk, phase (.data task) = .recording receiver chunk current (.saved (.ok ())) ∧
        op.leaves current = current.recorded chunk :=
  turned.leaves (kept.drafts task) fun _ _ holds => (kept.held holds).2.2

omit [Blake3] in
theorem inRange [Blake3] (kept : Upkeep handshake id opened phase ledger current)
    {receiver : ReceiverId} {chunk : ChunkInHand} {save : SavePhase}
    (recording : phase (.data task) = .recording receiver chunk current save) :
    chunk.idx < current.numChunks := by
  have inStep := kept.inStep task
  rw [recording] at inStep
  exact inStep.1.inRange.trans_eq (congrArg FileReceiver.Params.numChunks kept.params).symm

/-- A flag that is set stays set. -/
theorem received (kept : Upkeep handshake id opened phase ledger current)
    (turned : DataTurn (phase (.data task)) op answer phase') {idx : Nat}
    (received : current.Received idx) : (op.leaves current).Received idx := by
  obtain ⟨_, same | same⟩ | ⟨receiver, chunk, recording, same⟩ := kept.leaves turned
  · rwa [same]
  · rw [same]
    exact received
  · rw [same]
    by_cases here : idx = chunk.idx
    · rw [here]
      exact FileReceiver.received_mark_self (kept.inRange recording)
    · exact (FileReceiver.received_mark_of_ne here).mpr received

theorem leaves_matched (kept : Upkeep handshake id opened phase ledger current)
    (turned : DataTurn (phase (.data task)) op answer phase') :
    FileReceiver.Matched handshake (op.leaves current) ∧
      (op.leaves current).params = opened.params := by
  obtain ⟨_, same | same⟩ | ⟨receiver, chunk, recording, same⟩ := kept.leaves turned
  · rw [same]
    exact ⟨kept.matched, kept.params⟩
  · rw [same]
    exact ⟨kept.matched.setFailed, kept.params⟩
  · rw [same]
    exact ⟨kept.matched.recorded (kept.inRange recording), kept.params⟩

theorem leaves_marked (kept : Upkeep handshake id opened phase ledger current)
    (turned : DataTurn (phase (.data task)) op answer phase') {idx : Nat}
    (received : (op.leaves current).Received idx) :
    opened.Received idx ∨ idx ∈ ledger.recorded := by
  obtain ⟨_, same | same⟩ | ⟨receiver, chunk, recording, same⟩ := kept.leaves turned
  · rw [same] at received
    exact kept.marked idx received
  · rw [same] at received
    exact kept.marked idx received
  · rw [same] at received
    obtain here | earlier := FileReceiver.received_mark received
    · have inStep := kept.inStep task
      rw [recording] at inStep
      exact .inr (here ▸ inStep.2 rfl)
    · exact kept.marked idx earlier

/-- The files as a task leaves them to the others. -/
theorem act_drafts (kept : Upkeep handshake id opened phase ledger current)
    (turned : DataTurn (phase (.data task)) op answer phase')
    (acted : Store.dataSem (¬ op.writes opened.tmpPath) (Role.data task) op ledger.store answer store) :
    phase'.Drafts opened.params store.fs ∧
      ∀ other, other ≠ task → (phase (.data other)).Drafts opened.params store.fs := by
  constructor
  · by_cases calls : ∀ call, op ≠ .fs call
    · exact turned.undrafted calls
    · obtain ⟨call, calls⟩ := not_forall_not.mp calls
      subst calls
      obtain ⟨fs, called, same⟩ := acted
      subst same
      refine turned.drafts (kept.drafts task) (fun receiver state holds => ?_) called
      rw [(kept.held holds).2.2]
      exact kept.params
  · intro other different
    obtain ⟨temporary, target⟩ | ⟨_, _, _, _, recording⟩ := turned.spares (kept.inStep task)
    · exact (kept.drafts other).still (acted.frame temporary) (acted.frame target)
    · cases there : phase (.data other) with
      | recording =>
          have mine := congrArg DataPhase.holding recording
          have yours := congrArg DataPhase.holding there
          exact absurd (kept.alone mine yours) different
      | _ => trivial

/-- Once a record has been saved, the one on disk is that of the receiver whenever nobody is
about to give the receiver back. -/
theorem act_settled (kept : Upkeep handshake id opened phase ledger current)
    (turned : DataTurn (phase (.data task)) op answer phase')
    (acted : Store.dataSem (¬ op.writes opened.tmpPath) (Role.data task) op ledger.store answer store)
    (recorded : (Ledger.noteEntered opened.params (ledger.frame task) op answer
      ledger.recorded).Nonempty)
    (unsaved : ¬ phase'.Saved) (others : ∀ other, other ≠ task → ¬ (phase (.data other)).Saved) :
    store.fs opened.metaPath = some (op.leaves current).metadata.toBytes := by
  have drafts := (kept.act_drafts turned acted).1
  have spared : ¬ op.writes opened.metaPath := turned.unplaced (kept.inStep task)
    (fun _ _ holds => (kept.held holds).2.2 ▸ kept.params) drafts unsaved
  rw [acted.frame spared]
  obtain ⟨unsaved', left⟩ | ⟨receiver, chunk, recording, same⟩ := kept.leaves turned
  · have earlier : ledger.recorded.Nonempty := by
      obtain ⟨idx, entered⟩ := recorded
      obtain earlier | ⟨_, _, _, _, _, saved, _⟩ := turned.enters (kept.inStep task) entered
      · exact ⟨idx, earlier⟩
      · exact absurd ⟨_, _, _, saved⟩ unsaved
    have none_ : ∀ other, ¬ (phase (.data other)).Saved := by
      intro other
      by_cases here : other = task
      · exact here ▸ unsaved'
      · exact others other here
    obtain same | same := left
    · rw [same]
      exact kept.settled earlier none_
    · rw [same]
      exact kept.settled earlier none_
  · have there := kept.drafts task
    rw [recording] at there
    rw [same]
    exact there

theorem act (kept : Upkeep handshake id opened phase ledger current)
    (turned : DataTurn (phase (.data task)) op answer phase')
    (acted : Store.dataSem (¬ op.writes opened.tmpPath) (Role.data task) op ledger.store answer store) :
    Upkeep handshake id opened (Function.update phase (.data task) phase')
      (Ledger.noteData opened.params task op answer ledger store) (op.leaves current) := by
  have shift := turned.shift
  have mine : ∀ receiver state, op = .unlock receiver state → receiver = id := by
    intro receiver state unlocks
    subst unlocks
    obtain ⟨_, _, state', holds, _⟩ := shift
    exact (kept.held holds).2.1
  obtain ⟨drafts, others⟩ := kept.act_drafts turned acted
  have more : ledger.recorded ⊆
      Ledger.noteEntered opened.params (ledger.frame task) op answer ledger.recorded :=
    Ledger.subset_noteEntered opened.params (ledger.frame task) op answer
  constructor
  · exact kept.orderly.data turned acted
  · intro receiver present
    refine kept.sole receiver fun absent => present ?_
    have same := kept.orderly.data_params turned acted receiver
    rw [absent] at same
    exact Option.map_eq_none_iff.mp same
  · exact acted.leaves mine kept.found
  · exact (kept.leaves_matched turned).2
  · exact (kept.leaves_matched turned).1
  · intro other
    by_cases here : other = task
    · subst here
      dsimp only [Ledger.noteData]
      rw [Function.update_self, Function.update_self]
      exact turned.inStep (kept.inStep other) fun _ _ holds => (kept.held holds).2.2 ▸ kept.params
    · dsimp only [Ledger.noteData]
      rw [Role.update_data_other here, Function.update_of_ne here]
      exact (kept.inStep other).mono more
  · intro other
    by_cases here : other = task
    · subst here
      rw [Function.update_self]
      exact drafts
    · rw [Role.update_data_other here]
      exact others other here
  · intro recorded unsaved
    have unsaved' := unsaved task
    rw [Function.update_self] at unsaved'
    refine kept.act_settled turned acted recorded unsaved' fun other different => ?_
    have still := unsaved other
    rwa [Role.update_data_other different] at still
  · intro idx received
    exact (kept.leaves_marked turned received).imp_right fun earlier => more earlier

theorem start [KeyOrder] {outputDir partsDir : Bytes} (fs : Fs FilePath) (ports : List UInt16)
    (id : ReceiverId) (opens : FileReceiver.Opened handshake outputDir partsDir opened) :
    Upkeep handshake id opened Role.begin (.sole fs ports id opened) opened where
  orderly := {
    held := fun role receiver state holds => by cases role <;> cases holds
    known := fun role receiver knows => by cases role <;> cases knows
    registered := by
      intro port receiver registered
      dsimp only [Ledger.sole] at registered ⊢
      split at registered
      · cases registered
        rw [Function.update_self]
        nofun
      · cases registered
    taken := fun receiver holds => absurd rfl holds }
  sole := by
    intro receiver present
    by_contra other
    dsimp only [Ledger.sole] at present
    rw [Function.update_of_ne other] at present
    exact present rfl
  found := by
    dsimp only [Ledger.sole]
    rw [Function.update_self]
  params := rfl
  matched := opens.matched
  inStep _ := trivial
  drafts _ := trivial
  settled recorded := recorded.elim fun _ none_ => none_.elim
  marked _ := .inl

/-- Wherever the tasks go on to, the transfer is still in good order, with no flag unset. -/
theorem moves [KeyOrder] {config : Control.Config} {allowed : Label Role.sig → Prop}
    {phase' : (role : Role Empty) → role.Phase} {ledger' : Ledger Empty}
    (kept : Upkeep handshake id opened phase ledger current)
    (moved : Moves (serverSystem config (Ledger.savingActs opened.params)) allowed
      (Role.turn config) ⟨phase, ledger⟩ ⟨phase', ledger'⟩) :
    ∃ current', Upkeep handshake id opened phase' ledger' current' ∧
      ∀ idx, current.Received idx → current'.Received idx := by
  refine moved.invariant (fun stance => ∃ current',
    Upkeep handshake id opened stance.phase stance.world current' ∧
      ∀ idx, current.Received idx → current'.Received idx) ⟨current, kept, fun _ marked => marked⟩ ?_
  intro before after reached move
  obtain ⟨current', kept', grown⟩ := reached
  cases move with
  | @act tid op answer phase world turned acted =>
      cases tid with
      | control handler => exact handler.elim
      | data task =>
          obtain ⟨store, acted, same⟩ := acted
          subst same
          exact ⟨_, kept'.act turned acted, fun idx marked => kept'.received turned (grown idx marked)⟩

end Upkeep

/-- Whatever the data ports bring for the receiver of an accepted handshake, in whatever order,
its flags, its hashes and the record on disk agree, as long as no save fails. -/
theorem receiver_invariant [Blake3] [KeyOrder] {handshake : HandshakeData}
    {outputDir partsDir : Bytes} {opened : FileReceiver}
    (opens : FileReceiver.Opened handshake outputDir partsDir opened) (config : Control.Config)
    (fs : Fs FilePath) (ports : List UInt16) (id : ReceiverId)
    {pool : Pool Role.sig Role.Ctl (Ledger Empty)}
    (reached : Reaches (serverSystem config (Ledger.savingActs opened.params)) (fun _ => True)
      (serverStart config (.sole fs ports id opened)) pool) :
    ∃ receiver, pool.world.store.receivers id = some receiver ∧
      receiver.params = opened.params ∧
      receiver.receivedChunks.length = receiver.numChunks ∧
      (∀ idx, receiver.Received idx ↔ idx ∈ receiver.metadata.chunkHashes.keys) ∧
      (∀ idx ∈ receiver.metadata.chunkHashes.keys, idx < receiver.numChunks) ∧
      SameParams receiver receiver.metadata ∧
      (∀ idx, receiver.Received idx → opened.Received idx ∨ idx ∈ pool.world.recorded) ∧
      (∀ pool', Reaches (serverSystem config (Ledger.savingActs opened.params)) (fun _ => True)
        pool pool' → ∃ receiver', pool'.world.store.receivers id = some receiver' ∧
          ∀ idx, receiver.Received idx → receiver'.Received idx) ∧
      (pool.world.recorded.Nonempty → pool.world.store.holder id = none →
        Stored pool.world.store.fs receiver receiver.metadata) ∧
      (receiver.isComplete = true ↔
        receiver.metadata.chunkHashes.entries.length = receiver.numChunks) := by
  obtain ⟨phase, moved, follows⟩ := server_moves config reached
  obtain ⟨receiver, kept, _⟩ := (Upkeep.start fs ports id opens).moves moved
  refine ⟨receiver, kept.found, kept.params, receiver.sized, kept.matched.flags,
    kept.matched.listed, kept.matched.params, kept.marked, ?_, ?_, kept.matched.isComplete_iff⟩
  · intro pool' further
    obtain ⟨phase', moved', _⟩ := server_moves_from config further follows
    obtain ⟨receiver', kept', grown⟩ := kept.moves moved'
    exact ⟨receiver', kept'.found, grown⟩
  · intro recorded free
    have unsaved : ∀ task, ¬ (phase (.data task)).Saved := by
      intro task saved
      obtain ⟨_, _, _, recording⟩ := saved
      have holds := (kept.held (congrArg DataPhase.holding recording)).1
      cases free.symm.trans holds
    have there : receiver.metaPath = opened.metaPath := congrArg FileReceiver.Params.metaPath kept.params
    refine ⟨_, ?_, TransferMetadata.fromBytes_toBytes kept.matched.encodable⟩
    rw [there]
    exact kept.settled recorded unsaved

/-- The only chunk of a one-byte file has been recorded. -/
theorem receiver_invariant_single :
    let _ := Blake3.sample
    let _ := KeyOrder.increasing
    ∃ (pool : Pool (@Role.sig Empty) Role.Ctl (Ledger Empty)) (receiver : FileReceiver),
      pool.world.store.receivers 0 = some receiver ∧ receiver.isComplete = true ∧
        receiver.metadata.chunkHashes.entries.length = 1 ∧
          Stored pool.world.store.fs receiver receiver.metadata := by
  intro _ _
  obtain ⟨handshake, _, _, _, created⟩ := parseHandshake_sampleHandshake
  have opens : FileReceiver.Opened handshake (ascii "received") (ascii "received")
      singleReceiver := by
    rw [← created]
    exact .created
  have follows : FollowsData (Ledger.savingActs singleReceiver.params) (@Ledger.store Empty)
      (fun _ => True) :=
    fun _ _ _ _ after _ acted => ⟨_, ⟨after, acted.mono, rfl⟩, rfl, trivial⟩
  have begun : Reaches (serverSystem Control.sampleConfig
      (Ledger.savingActs singleReceiver.params)) (fun _ => True)
    (serverStart Control.sampleConfig (.sole (fun _ => none) [45000] 0 singleReceiver)) _ := .refl
  obtain ⟨pool, reached, _, _, _, received⟩ := follows.reaches_chunk 0 45000 begun rfl trivial rfl
    ⟨rfl, rfl⟩ (carries_singleChunk rfl) rfl
  obtain ⟨receiver, found, params, _, _, _, _, marked, _, stored, complete⟩ :=
    receiver_invariant opens Control.sampleConfig (fun _ => none) [45000] 0 reached
  rw [received] at found stored
  cases found
  have here : (singleReceiver.recorded singleChunk).Received 0 := by decide
  have recorded := (marked 0 here).resolve_left (by decide)
  have whole : (singleReceiver.recorded singleChunk).isComplete = true := by decide
  refine ⟨pool, singleReceiver.recorded singleChunk, ?_, whole, complete.mp whole, ?_⟩
  · rw [received]
    rfl
  · rw [received]
    exact stored ⟨0, recorded⟩ rfl

end BeeSync.Server
