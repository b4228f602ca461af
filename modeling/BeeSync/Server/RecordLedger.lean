import BeeSync.Interaction.Replacement
import BeeSync.Server.ConfirmedOutput
import BeeSync.Server.ReceiverStates

/-!
# The ledger of a record

Transfers of the same file that are live at the same time have a receiver each, and each
receiver saves its own record to the same place. A ledger follows who saves, which chunks have
been recorded and which have been acknowledged.
-/

set_option autoImplicit false

namespace BeeSync.Server

open Encoding Interaction

variable {Handler : Type}

/-- The transfers of one file, and what has become of its record. -/
structure Ledger (Handler : Type) where
  store : Store (Role Handler)
  roster : Roster Handler
  /-- The frame that a task has received last. -/
  frame : Nat → Option Bytes
  /-- Whoever is writing the temporary record. -/
  saver : Option (Role Handler)
  /-- The chunks whose record has been put in place since the server was started. -/
  recorded : Set Nat
  /-- The chunks that have been acknowledged. -/
  acked : Set Nat
  /-- What had been recorded when a recovery read the record, but for the parts that it has
  removed since. -/
  covered : Handler → Set Nat
  /-- An assembly has started. -/
  assembling : Prop

namespace FileReceiver.Params

def metaPath (params : Params) : FilePath :=
  TransferMetadata.metaPath params.partsDir params.filename

def tmpPath (params : Params) : FilePath :=
  TransferMetadata.tmpPath params.partsDir params.filename

def partPath (params : Params) (idx : Nat) : FilePath :=
  TransferMetadata.partPath params.partsDir params.filename idx

def finalPath (params : Params) : FilePath :=
  ⟨params.outputDir, params.filename⟩

/-- The chunks that a record on disk lists. -/
def entries (content : Bytes) : Set Nat :=
  fun idx => ∃ metadata, TransferMetadata.fromBytes content = .ok metadata ∧
    idx ∈ metadata.chunkHashes.keys

/-- The record of a transfer and its temporary file. -/
def register (params : Params) : Register FilePath TransferMetadata Nat where
  temporary := params.tmpPath
  target := params.metaPath
  encode := TransferMetadata.toBytes
  lists metadata := fun idx => idx ∈ metadata.chunkHashes.keys
  shows := entries
  apart := TransferMetadata.metaPath_ne_tmpPath

end FileReceiver.Params

namespace Ledger

def initial (fs : Fs FilePath) : Ledger Handler where
  store := .initial fs
  roster := .initial
  frame := fun _ => none
  saver := none
  recorded := ∅
  acked := ∅
  covered := fun _ => ∅
  assembling := False

section Notes

variable (params : FileReceiver.Params)

/-- The index of the chunk that a frame brings. -/
def indexOf (frame : Option Bytes) : Set Nat :=
  fun idx => ∃ header, frame.bind parseChunkHeader = some header ∧ header.chunkIndex = idx

/-- A save begins with the temporary file. -/
def Begins : (op : FsOp FilePath) → op.Res → Prop
  | .create path, .ok _ => path = params.tmpPath
  | _, _ => False

/-- The record is removed. -/
def Erases : (op : FsOp FilePath) → op.Res → Prop
  | .remove path, .ok _ => path = params.metaPath
  | _, _ => False

/-- A save ends when the temporary file is renamed or cannot be written. -/
def noteSaver (role : Role Handler) (op : FsOp FilePath) (answer : op.Res)
    (before : Option (Role Handler)) : Option (Role Handler) :=
  match op, answer with
  | .create path, .ok _ => if path = params.tmpPath then some role else before
  | .writeAt path _ _, .error _ => if path = params.tmpPath then none else before
  | .rename source _, _ => if source = params.tmpPath then none else before
  | _, _ => before

/-- A renamed record lists the chunks for which it has been saved. -/
def noteRecorded (new : Set Nat) (op : FsOp FilePath) (answer : op.Res) (before : Set Nat) :
    Set Nat :=
  match op, answer with
  | .rename _ target, .ok _ => if target = params.metaPath then before ∪ new else before
  | _, _ => before

def noteCovered (recorded : Set Nat) (op : FsOp FilePath) (answer : op.Res) (before : Set Nat) :
    Set Nat :=
  match op, answer with
  | .readFile path, .ok _ => if path = params.metaPath then recorded else before
  | .remove path, _ => fun idx => idx ∈ before ∧ path ≠ params.partPath idx
  | _, _ => before

def noteFrame (op : DataOp) (answer : op.Res) (before : Option Bytes) : Option Bytes :=
  match op, answer with
  | .recvFrame, .ok frame => some frame
  | _, _ => before

def noteEntered (frame : Option Bytes) (op : DataOp) (answer : op.Res) (before : Set Nat) :
    Set Nat :=
  match op, answer with
  | .fs op, answer => noteRecorded params (indexOf frame) op answer before
  | _, _ => before

variable [DecidableEq Handler]

def noteControl (handler : Handler) (op : ControlOp) (answer : op.Res) (ledger : Ledger Handler)
    (store : Store (Role Handler)) : Ledger Handler :=
  { ledger with
    store := store
    roster := ledger.roster.noteControl handler op answer
    saver := match op, answer with
      | .fs op, answer => noteSaver params (.control handler) op answer ledger.saver
      | _, _ => ledger.saver
    covered := match op, answer with
      | .fs op, answer => Function.update ledger.covered handler
          (noteCovered params ledger.recorded op answer (ledger.covered handler))
      | _, _ => ledger.covered
    assembling := ledger.assembling ∨ op = .fs (.create params.finalPath) }

omit [DecidableEq Handler] in
def noteData (task : Nat) (op : DataOp) (answer : op.Res) (ledger : Ledger Handler)
    (store : Store (Role Handler)) : Ledger Handler :=
  { ledger with
    store := store
    roster := ledger.roster.noteData task op answer
    frame := Function.update ledger.frame task (noteFrame op answer (ledger.frame task))
    saver := match op, answer with
      | .fs op, answer => noteSaver params (.data task) op answer ledger.saver
      | _, _ => ledger.saver
    recorded := noteEntered params (ledger.frame task) op answer ledger.recorded
    acked := match op, answer with
      | .sendFrame payload, .ok _ =>
          if payload = [Chunk.ackOk] then ledger.acked ∪ indexOf (ledger.frame task)
          else ledger.acked
      | _, _ => ledger.acked }

/-- Any call on files may fail. -/
def acts : Acts Handler (Ledger Handler)
  | .control handler, op, ledger, answer, ledger' => ∃ store,
      Store.controlSem True (Role.control handler) op ledger.store answer store ∧
        ledger' = noteControl params handler op answer ledger store
  | .data task, op, ledger, answer, ledger' => ∃ store,
      Store.dataSem True (Role.data task) op ledger.store answer store ∧
        ledger' = noteData params task op answer ledger store

omit [DecidableEq Handler] in
/-- Every transfer that the server has accepted so far is about this file. -/
def Shared (ledger : Ledger Handler) : Prop :=
  ∀ receiver state, ledger.store.receivers receiver = some state → state.params = params

omit [DecidableEq Handler] in
/-- The record on disk lists these chunks. -/
def Lists (chunks : Set Nat) (ledger : Ledger Handler) : Prop :=
  ∀ idx ∈ chunks, ∃ content, ledger.store.fs params.metaPath = some content ∧
    idx ∈ FileReceiver.Params.entries content

omit [DecidableEq Handler] in
/-- The record on disk lists every chunk that has been acknowledged. -/
def Complete (ledger : Ledger Handler) : Prop :=
  ledger.Lists params ledger.acked

omit [DecidableEq Handler] in
/-- The chunks whose hash the receiver that a task serves has in its own record. -/
def Known (ledger : Ledger Handler) (task : Nat) : Set Nat := fun idx =>
  ∃ receiver state, ledger.roster.served task = some receiver ∧
    ledger.store.receivers receiver = some state ∧ idx ∈ state.metadata.chunkHashes.keys

omit [DecidableEq Handler] in
/-- Until an assembly starts, a save begins only when no other one is under way and whoever
saves knows of all chunks that have been recorded: a task from its receiver or because it is the
chunk at hand, a recovery because it has read the record after them and kept their parts. And
a recovery removes a record only before a chunk has been recorded. -/
def Informed : (role : Role Handler) → (op : role.sig.Op) → Ledger Handler →
    role.sig.Res op → Prop
  | .data task, .fs op, ledger, answer => ¬ ledger.assembling → Begins params op answer →
      ledger.saver = none ∧ ledger.recorded ⊆ ledger.Known task ∪ indexOf (ledger.frame task)
  | .control handler, .fs op, ledger, answer => ¬ ledger.assembling →
      (Begins params op answer → ledger.saver = none ∧ ledger.recorded ⊆ ledger.covered handler) ∧
        (Erases params op answer → ledger.recorded = ∅)
  | _, _, _, _ => True

def system [Blake3] [KeyOrder] (config : Control.Config) (params : FileReceiver.Params) :
    System (Role Handler) Role.sig Role.Ctl (Ledger Handler) :=
  serverSystem config (acts params)

end Notes

end Ledger

/-- The record that a save writes, and how much of it is in the temporary file. -/
def SavePhase.progress (metadata : TransferMetadata) : SavePhase → Option (TransferMetadata × Nat)
  | .writing (.writing written) => some (metadata, written)
  | _ => none

def ControlPhase.progress : ControlPhase → Option (TransferMetadata × Nat)
  | .resuming _ _ _ (.saving clean save) => save.progress clean
  | _ => none

def DataPhase.progress [Blake3] : DataPhase → Option (TransferMetadata × Nat)
  | .recording _ chunk state save => save.progress (state.recorded chunk).metadata
  | _ => none

def Role.progress [Blake3] : (role : Role Handler) → role.Phase → Option (TransferMetadata × Nat)
  | .control _ => ControlPhase.progress
  | .data _ => DataPhase.progress

/-- The saves that are under way. -/
def Role.saves [Blake3] (phase : (role : Role Handler) → role.Phase) (role : Role Handler) :
    Option (TransferMetadata × Nat) :=
  role.progress (phase role)

theorem Role.saves_update [DecidableEq (Role Handler)] [Blake3]
    (phase : (role : Role Handler) → role.Phase) (role : Role Handler) (phase' : role.Phase) :
    saves (Function.update phase role phase') =
      Function.update (saves phase) role (role.progress phase') := by
  funext other
  by_cases here : other = role
  · subst here
    rw [saves, Function.update_self, Function.update_self]
  · rw [saves, Function.update_of_ne here, Function.update_of_ne here]
    rfl

/-- A finished save writes nothing. -/
theorem SavePhase.Done.progress {metadata : TransferMetadata} {save : SavePhase}
    {outcome : Except IoError Unit} (done : save.Done outcome) : save.progress metadata = none := by
  cases outcome with
  | ok _ =>
      cases done
      rfl
  | error error =>
      obtain same | same := done
      · rw [same]
        rfl
      · rw [same]
        rfl

namespace Ledger

section Saves

variable {params : FileReceiver.Params} {role : Role Handler} {op : FsOp FilePath} {answer : op.Res}
  {fs fs' : Fs FilePath} {saver : Option (Role Handler)} {recorded new : Set Nat}
  {work : Role Handler → Option (TransferMetadata × Nat)}

theorem noteSaver_still (untouched : ¬ op.writes params.tmpPath) :
    noteSaver params role op answer saver = saver := by
  cases op with
  | create path | writeAt path =>
      have elsewhere : path ≠ params.tmpPath := fun same => untouched same.symm
      cases answer <;> simp [noteSaver, elsewhere]
  | rename source target =>
      have elsewhere : source ≠ params.tmpPath := fun same => untouched (.inl same.symm)
      simp [noteSaver, elsewhere]
  | _ => rfl

theorem noteRecorded_still (untouched : ¬ op.writes params.metaPath) :
    noteRecorded params new op answer recorded = recorded := by
  cases op with
  | rename source target =>
      have elsewhere : target ≠ params.metaPath := fun same => untouched (.inr same.symm)
      cases answer <;> simp [noteRecorded, elsewhere]
  | _ => rfl

theorem noteRecorded_empty : noteRecorded params ∅ op answer recorded = recorded := by
  cases op with
  | rename source target => cases answer <;> simp [noteRecorded]
  | _ => rfl

theorem subset_noteRecorded : recorded ⊆ noteRecorded params new op answer recorded := by
  cases op with
  | rename source target =>
      cases answer with
      | error error => exact subset_rfl
      | ok _ =>
          dsimp only [noteRecorded]
          split
          · exact Set.subset_union_left
          · exact subset_rfl
  | _ => exact subset_rfl

theorem subset_noteEntered (params : FileReceiver.Params) (frame : Option Bytes) (op : DataOp)
    (answer : op.Res) : recorded ⊆ noteEntered params frame op answer recorded := by
  cases op with
  | fs op => exact subset_noteRecorded
  | _ => exact subset_rfl

/-- A call that leaves the record and its temporary file alone. -/
theorem kept_still (kept : params.register.Kept fs work saver recorded)
    (acted : op.Sem True fs answer fs') (temporary : ¬ op.writes params.tmpPath)
    (target : ¬ op.writes params.metaPath) :
    params.register.Kept fs' work (noteSaver params role op answer saver)
      (noteRecorded params new op answer recorded) := by
  rw [noteSaver_still temporary, noteRecorded_still target]
  exact kept.still (acted.frame temporary) (acted.frame target)

/-- A save that begins with all that has been recorded leaves a record that lists it. -/
theorem kept_save [DecidableEq Handler] {metadata : TransferMetadata} {save save' : SavePhase}
    (kept : params.register.Kept fs work saver recorded)
    (turned : SaveTurn metadata params.partsDir params.filename save op answer save')
    (acted : op.Sem True fs answer fs') (mine : work role = save.progress metadata)
    (encodable : metadata.Encodable)
    (informed : Begins params op answer →
      saver = none ∧ recorded ⊆ params.register.lists metadata)
    (covers : new ⊆ params.register.lists metadata) :
    params.register.Kept fs' (Function.update work role (save'.progress metadata))
      (noteSaver params role op answer saver) (noteRecorded params new op answer recorded) := by
  have idle : save.progress metadata = none → Function.update work role none = work := fun none_ => by
    rw [← none_, ← mine, Function.update_eq_self]
  cases turned with
  | write writing =>
      cases writing with
      | create =>
          obtain ⟨_, created⟩ | ⟨_, _, error, fails⟩ := acted
          · obtain ⟨free, lists⟩ := informed rfl
            rw [free] at kept
            have saving : noteSaver params role (.create params.tmpPath) (.ok ()) saver =
                some role := if_pos rfl
            have apart : params.metaPath ≠ params.tmpPath := TransferMetadata.metaPath_ne_tmpPath
            refine saving ▸ kept.begin lists ?_ ?_
            · rw [created]
              exact Function.update_self _ _ _
            · rw [created]
              exact Function.update_of_ne apart _ _
          · cases fails
      | createFails error =>
          obtain ⟨fails, _⟩ | ⟨_, same, _⟩ := acted
          · cases fails
          · rw [same]
            exact (idle rfl).symm ▸ kept
      | write written more =>
          obtain ⟨_, put⟩ | ⟨_, _, error, fails⟩ := acted
          · exact kept.write mine more put
          · cases fails
      | writeFails written more error =>
          obtain ⟨fails, _⟩ | ⟨_, same, _⟩ := acted
          · cases fails
          · have done : noteSaver params role (.writeAt params.tmpPath written metadata.toBytes[written])
                (.error error) saver = none := if_pos rfl
            rw [same]
            exact done ▸ kept.abandon (by rw [mine]; nofun) rfl
  | rename =>
      obtain ⟨content, there, _, renamed⟩ | ⟨_, _, error, fails⟩ := acted
      · have done : noteSaver params role (.rename params.tmpPath params.metaPath) (.ok ()) saver =
            none := if_pos rfl
        have entered : noteRecorded params new (.rename params.tmpPath params.metaPath) (.ok ())
            recorded = recorded ∪ new := if_pos rfl
        have shows : params.register.lists metadata ⊆
            params.register.shows (params.register.encode metadata) := fun idx listed =>
          ⟨metadata, TransferMetadata.fromBytes_toBytes encodable, listed⟩
        exact done ▸ entered ▸ kept.replace mine there renamed covers shows
      · cases fails
  | renameFails error =>
      obtain ⟨_, _, fails, _⟩ | ⟨_, same, _⟩ := acted
      · cases fails
      · have done : noteSaver params role (.rename params.tmpPath params.metaPath) (.error error)
            saver = none := if_pos rfl
        rw [same]
        exact done ▸ kept.abandon (by rw [mine]; nofun) rfl
  | remove =>
      have kept : params.register.Kept fs' work saver recorded := by
        have apart : params.metaPath ≠ params.tmpPath := TransferMetadata.metaPath_ne_tmpPath
        obtain ⟨_, _, same⟩ | ⟨_, same, _⟩ := acted
        · refine kept.discard ?_ ?_
          · rw [same]
            exact Function.update_self _ _ _
          · rw [same]
            exact Function.update_of_ne apart _ _
        · rw [same]
          exact kept
      exact (idle rfl).symm ▸ kept

end Saves

end Ledger

/-- What a recovery has read is a record of its transfer, and the parts that it has found to be
valid are listed there. -/
def ResumePhase.Reads (state : FileReceiver) : ResumePhase → Prop
  | .verifying metadata _ validIndices _ | .dropping metadata _ _ validIndices _ =>
      (SameParams state metadata ∧ metadata.Encodable) ∧
        ∀ idx ∈ validIndices, idx ∈ metadata.chunkHashes.keys
  | .saving metadata _ | .loaded metadata => SameParams state metadata ∧ metadata.Encodable
  | _ => True

/-- A recovery goes on to list these chunks. -/
def ResumePhase.Covers (covered : Set Nat) : ResumePhase → Prop
  | .verifying metadata unchecked validIndices _ => ∀ idx ∈ covered,
      idx ∈ metadata.chunkHashes.keys ∧ (idx ∈ unchecked ∨ idx ∈ validIndices)
  | .dropping metadata dropped unchecked validIndices _ => ∀ idx ∈ covered,
      idx ∈ metadata.chunkHashes.keys ∧ (idx = dropped ∨ idx ∈ unchecked ∨ idx ∈ validIndices)
  | .saving clean _ => ∀ idx ∈ covered, idx ∈ clean.chunkHashes.keys
  | _ => True

section Recoveries

variable {state : FileReceiver} {metadata : TransferMetadata} {unchecked validIndices : List Nat}
  {corruptCount : Nat} {covered : Set Nat}

theorem ResumePhase.reads_settle (same : SameParams state metadata) (encodable : metadata.Encodable)
    (listed : ∀ idx ∈ validIndices, idx ∈ metadata.chunkHashes.keys) :
    (settle state metadata unchecked validIndices corruptCount).Reads state := by
  rw [settle.eq_def]
  cases unchecked with
  | nil =>
      have clean := state.sameParams_cleanMetadata metadata validIndices
      dsimp only
      split
      · split
        · trivial
        · refine ⟨clean, encodable.restrict (clean.chunkSize.trans same.chunkSize.symm)
            (clean.numChunks.trans same.numChunks.symm)
            (clean.fileSize.trans same.fileSize.symm) fun idx member => ?_⟩
          exact listed idx ((FileReceiver.mem_keys_cleanMetadata listed idx).mp member)
      · exact ⟨same, encodable⟩
  | cons idx rest =>
      dsimp only
      split
      · exact ⟨⟨same, encodable⟩, listed⟩
      · exact ⟨⟨same, encodable⟩, listed⟩

theorem ResumePhase.covers_settle
    (listed : ∀ idx ∈ validIndices, idx ∈ metadata.chunkHashes.keys)
    (covers : ∀ idx ∈ covered, idx ∈ metadata.chunkHashes.keys ∧
      (idx ∈ unchecked ∨ idx ∈ validIndices)) :
    (settle state metadata unchecked validIndices corruptCount).Covers covered := by
  rw [settle.eq_def]
  cases unchecked with
  | nil =>
      dsimp only
      split
      · split
        · trivial
        · intro idx member
          refine (FileReceiver.mem_keys_cleanMetadata listed idx).mpr ?_
          exact (covers idx member).2.resolve_left List.not_mem_nil
      · trivial
  | cons head rest =>
      dsimp only
      split
      · intro idx member
        obtain ⟨inKeys, todo | done⟩ := covers idx member
        · exact ⟨inKeys, (List.mem_cons.mp todo).imp_right .inl⟩
        · exact ⟨inKeys, .inr (.inr done)⟩
      · exact covers

variable [Blake3] [KeyOrder] {resume resume' : ResumePhase} {op : FsOp FilePath} {answer : op.Res}

theorem ResumeTurn.reads (turned : ResumeTurn state resume op answer resume')
    (reads : resume.Reads state) : resume'.Reads state := by
  cases turned with
  | found | absent | unreadable | purge | purgePart => trivial
  | read data =>
      rw [ResumePhase.judge]
      cases parsed : TransferMetadata.fromBytes data with
      | error error => trivial
      | ok metadata =>
          dsimp only
          split
          · rename_i same
            exact ResumePhase.reads_settle (paramsMatch_iff.mp same)
              (TransferMetadata.fromBytes_encodable parsed) (by simp)
          · trivial
  | @valid metadata idx rest validIndices corruptCount data same =>
      obtain ⟨⟨params, encodable⟩, listed⟩ := reads
      refine ResumePhase.reads_settle params encodable fun other member => ?_
      obtain earlier | here := List.mem_append.mp member
      · exact listed other earlier
      · rw [List.mem_singleton.mp here]
        exact OrderedMap.mem_keys_iff.mpr ⟨_, same⟩
  | corrupt => exact reads
  | drop =>
      obtain ⟨⟨params, encodable⟩, listed⟩ := reads
      exact ResumePhase.reads_settle params encodable listed
  | save => exact reads

/-- A recovery keeps what the record on disk has listed, but for parts that it removes. -/
theorem ResumeTurn.covers {params : FileReceiver.Params} {recorded : Set Nat} {fs fs' : Fs FilePath}
    (turned : ResumeTurn state resume op answer resume') (acted : op.Sem True fs answer fs')
    (mine : state.params = params) (reads : resume.Reads state) (covers : resume.Covers covered)
    (shown : ∀ idx ∈ recorded, ∃ content, fs params.metaPath = some content ∧
      idx ∈ FileReceiver.Params.entries content) :
    resume'.Covers (Ledger.noteCovered params recorded op answer covered) := by
  subst mine
  cases turned with
  | found | absent | unreadable | purge | purgePart => trivial
  | read data =>
      obtain ⟨_, ⟨content, there, same⟩ | ⟨_, error, fails⟩⟩ := acted
      · cases same
        have onDisk : Ledger.noteCovered state.params recorded (.readFile state.metaPath) (.ok data)
            covered = recorded := if_pos rfl
        rw [onDisk, ResumePhase.judge]
        cases parsed : TransferMetadata.fromBytes data with
        | error error => trivial
        | ok metadata =>
            dsimp only
            split
            · refine ResumePhase.covers_settle (by simp) fun idx member => ?_
              obtain ⟨content, onDisk, metadata', parsed', listed⟩ := shown idx member
              cases onDisk.symm.trans there
              cases parsed'.symm.trans parsed
              exact ⟨listed, .inl ((KeyOrder.perm _).mem_iff.mpr listed)⟩
            · trivial
      · cases fails
  | @valid metadata idx rest validIndices corruptCount data same =>
      obtain ⟨_, listed⟩ := reads
      have elsewhere : Ledger.noteCovered state.params recorded (.readFile (state.partPath idx))
          (.ok data) covered = covered := if_neg (state.partPath_ne_metaPath idx)
      have valid : idx ∈ metadata.chunkHashes.keys := OrderedMap.mem_keys_iff.mpr ⟨_, same⟩
      rw [elsewhere]
      refine ResumePhase.covers_settle (fun other member => ?_) fun other member => ?_
      · obtain earlier | here := List.mem_append.mp member
        · exact listed other earlier
        · rwa [List.mem_singleton.mp here]
      · obtain ⟨inKeys, todo | done⟩ := covers other member
        · refine ⟨inKeys, (List.mem_cons.mp todo).symm.imp_right fun here => ?_⟩
          rw [here]
          exact List.mem_append_right _ List.mem_cons_self
        · exact ⟨inKeys, .inr (List.mem_append_left _ done)⟩
  | @corrupt metadata idx rest validIndices corruptCount answer differs =>
      have same : Ledger.noteCovered state.params recorded (.readFile (state.partPath idx)) answer
          covered = covered := by
        cases answer with
        | error error => rfl
        | ok data => exact if_neg (state.partPath_ne_metaPath idx)
      rw [same]
      intro other member
      obtain ⟨inKeys, todo | done⟩ := covers other member
      · exact ⟨inKeys, (List.mem_cons.mp todo).imp_right .inl⟩
      · exact ⟨inKeys, .inr (.inr done)⟩
  | @drop metadata idx rest validIndices corruptCount answer =>
      refine ResumePhase.covers_settle reads.2 fun other member => ?_
      obtain ⟨before, different⟩ := member
      obtain ⟨inKeys, dropped | left⟩ := covers other before
      · rw [dropped] at different
        exact absurd rfl different
      · exact ⟨inKeys, left⟩
  | save saving =>
      refine fun idx member => covers idx ?_
      cases saving with
      | write writing => cases writing <;> exact member
      | remove => exact member.1
      | _ => exact member

end Recoveries

/-- A frame brings a chunk of the transfer with this index. -/
structure FileReceiver.Params.Brings (params : FileReceiver.Params) (frame : Option Bytes)
    (idx : Nat) : Prop where
  index : Ledger.indexOf frame = {idx}
  inRange : idx < params.numChunks

/-- A task works on the chunk of the frame that it has received last, and has recorded it
before it is done with it. -/
def DataPhase.InStep (params : FileReceiver.Params) (frame : Option Bytes) (recorded : Set Nat) :
    DataPhase → Prop
  | .received _ frame' | .sizing _ frame' _ => frame = some frame'
  | .accepted _ chunk | .placing _ chunk _ => params.Brings frame chunk.idx
  | .storing _ chunk path _ => params.Brings frame chunk.idx ∧ ∃ idx, path = params.partPath idx
  | .recording _ chunk _ save => params.Brings frame chunk.idx ∧
      (save = .saved (.ok ()) → chunk.idx ∈ recorded)
  | .recorded _ chunk => params.Brings frame chunk.idx ∧ chunk.idx ∈ recorded
  | _ => True

/-- A handler recovers its own record, and has not gone beyond the beginning of its assembly. -/
def ControlPhase.Recovers (covered : Set Nat) : ControlPhase → Prop
  | .resuming _ _ state resume => resume.Reads state ∧ resume.Covers covered
  | .assembling _ _ _ assembly => assembly = .creating
  | _ => True

section Tasks

variable [Blake3] {params : FileReceiver.Params} {phase phase' : DataPhase} {op : DataOp}
  {answer : op.Res} {frame : Option Bytes} {recorded recorded' : Set Nat}

omit [Blake3] in
theorem DataPhase.InStep.mono (inStep : phase.InStep params frame recorded)
    (more : recorded ⊆ recorded') : phase.InStep params frame recorded' := by
  cases phase with
  | recording => exact ⟨inStep.1, fun saved => more (inStep.2 saved)⟩
  | recorded => exact ⟨inStep.1, more inStep.2⟩
  | _ => exact inStep

theorem Carries.brings {state : FileReceiver} {received : Bytes} {chunk : ChunkInHand}
    (carries : Carries state received chunk) (mine : state.params = params)
    (here : frame = some received) : params.Brings frame chunk.idx := by
  subst mine
  obtain ⟨header, parsed, index, _⟩ := carries.header
  have headed : frame.bind parseChunkHeader = some header := by
    rw [here]
    exact parsed
  refine ⟨Set.ext fun idx => ?_, carries.inRange⟩
  constructor
  · intro ⟨header', parsed', index'⟩
    cases headed.symm.trans parsed'
    exact index'.symm.trans index
  · intro same
    exact ⟨header, headed, index.trans (Set.mem_singleton_iff.mp same).symm⟩

/-- A save that has gone well has put its chunk into the record. -/
theorem DataTurn.inStep (turned : DataTurn phase op answer phase')
    (inStep : phase.InStep params frame recorded)
    (mine : ∀ receiver state, phase.holding = some (receiver, state) → state.params = params) :
    phase'.InStep params (Ledger.noteFrame op answer frame)
      (Ledger.noteEntered params frame op answer recorded) := by
  have inStep := inStep.mono (Ledger.subset_noteEntered params frame op answer)
  cases turned with
  | receive frame => exact rfl
  | size | place => exact inStep
  | accept carries => exact carries.brings (mine _ _ rfl) inStep
  | placed =>
      have same := mine _ _ rfl
      subst same
      exact ⟨inStep, _, rfl⟩
  | store => exact inStep
  | record => exact ⟨inStep.1, nofun⟩
  | @save receiver chunk state save save' op answer saving =>
      have same := mine receiver state rfl
      subst same
      refine ⟨inStep.1, fun saved => ?_⟩
      cases saving with
      | rename =>
          have entered : Ledger.noteEntered state.params frame
              (.fs (.rename state.params.tmpPath state.params.metaPath)) (.ok ()) recorded =
                recorded ∪ Ledger.indexOf frame := if_pos rfl
          have index : chunk.idx ∈ Ledger.indexOf frame := by
            rw [inStep.1.index]
            exact Set.mem_singleton _
          exact entered.symm.subset (.inr index)
      | _ => cases saved
  | recorded => exact ⟨inStep.1, inStep.2 rfl⟩
  | _ => trivial

/-- Only what has been recorded is acknowledged. -/
theorem DataTurn.acknowledges {payload : Bytes} {sent : Except IoError Unit}
    (turned : DataTurn phase (.sendFrame payload) sent phase') (acks : payload = [Chunk.ackOk])
    (inStep : phase.InStep params frame recorded) : Ledger.indexOf frame ⊆ recorded := by
  cases turned with
  | idle _ quiet => cases quiet
  | reply _ noAck => exact absurd acks noAck
  | acknowledge =>
      rw [inStep.1.index]
      exact Set.singleton_subset_iff.mpr inStep.2

end Tasks

/-- Every receiver has been created for a handshake and has a record of its transfer. -/
def Store.Coherent {Owner : Type} (store : Store Owner) : Prop :=
  ∀ receiver state, store.receivers receiver = some state →
    ∃ handshake, FileReceiver.Coherent handshake state

section Coherence

variable {store store' : Store (Role Handler)} {receiver : ReceiverId}
  {state state' : FileReceiver}

theorem Store.Coherent.put (coherent : store.Coherent)
    (mine : ∃ handshake, FileReceiver.Coherent handshake state) (holder : ReceiverId → Option (Role Handler)) :
    Store.Coherent { store with
      receivers := Function.update store.receivers receiver (some state)
      holder := holder } := by
  intro other state' found
  by_cases here : other = receiver
  · subst here
    cases (Function.update_self _ _ _).symm.trans found
    exact mine
  · exact coherent other state' ((Function.update_of_ne here _ _).symm.trans found)

theorem Store.Coherent.data [DecidableEq Handler] {task : Nat} {op : DataOp} {answer : op.Res}
    (coherent : store.Coherent)
    (acted : Store.dataSem True (Role.data task) op store answer store')
    (unlocks : ∀ receiver state, op = .unlock receiver state →
      ∃ handshake, FileReceiver.Coherent handshake state) : store'.Coherent := by
  cases op with
  | lock | fs =>
      obtain ⟨_, _, same⟩ := acted
      subst same
      exact coherent
  | unlock receiver state =>
      cases acted
      exact coherent.put (unlocks receiver state rfl) _
  | getReceiver =>
      rw [acted.2]
      exact coherent
  | _ =>
      cases acted
      exact coherent

theorem Store.Coherent.control [DecidableEq Handler] {handler : Handler} {op : ControlOp}
    {answer : op.Res} (coherent : store.Coherent)
    (acted : Store.controlSem True (Role.control handler) op store answer store')
    (unlocks : ∀ receiver state, op = .unlock receiver state →
      ∃ handshake, FileReceiver.Coherent handshake state)
    (creates : ∀ state, op = .newReceiver state →
      ∃ handshake, FileReceiver.Coherent handshake state) : store'.Coherent := by
  cases op with
  | lock | fs =>
      obtain ⟨_, _, same⟩ := acted
      subst same
      exact coherent
  | unlock receiver state =>
      cases acted
      exact coherent.put (unlocks receiver state rfl) _
  | newReceiver state =>
      obtain ⟨_, same⟩ := acted
      subst same
      exact coherent.put (creates state rfl) store.holder
  | _ =>
      cases acted
      exact coherent

variable [Blake3]

theorem DataTurn.coherent {phase phase' : DataPhase} {answer : Unit} {params : FileReceiver.Params}
    {frame : Option Bytes} {recorded : Set Nat}
    (turned : DataTurn phase (.unlock receiver state') answer phase')
    (inStep : phase.InStep params frame recorded)
    (mine : ∀ receiver state, phase.holding = some (receiver, state) → state.params = params)
    (held : ∀ receiver state, phase.holding = some (receiver, state) →
      ∃ handshake, FileReceiver.Coherent handshake state) :
    ∃ handshake, FileReceiver.Coherent handshake state' := by
  cases turned with
  | idle _ quiet => cases quiet
  | leave | refuse | accept | placed => exact held _ _ rfl
  | failed =>
      obtain ⟨handshake, coherent⟩ := held _ _ rfl
      exact ⟨handshake, coherent.setFailed⟩
  | recorded =>
      obtain ⟨handshake, coherent⟩ := held _ _ rfl
      have same := mine _ _ rfl
      subst same
      exact ⟨handshake, coherent.recorded inStep.1.inRange⟩
  | unsaved =>
      obtain ⟨handshake, coherent⟩ := held _ _ rfl
      have same := mine _ _ rfl
      subst same
      exact ⟨handshake, (coherent.recorded inStep.1.inRange).setFailed⟩

theorem ControlTurn.coherent [KeyOrder] {config : Control.Config} {phase phase' : ControlPhase}
    {answer : Unit} {covered : Set Nat}
    (turned : ControlTurn config phase (.unlock receiver state') answer phase')
    (recovers : phase.Recovers covered)
    (held : ∀ receiver state, phase.holding = some (receiver, state) →
      ∃ handshake, FileReceiver.Coherent handshake state) :
    ∃ handshake, FileReceiver.Coherent handshake state' := by
  cases turned with
  | quiet _ _ quiet => cases quiet
  | unresumed | leave | built => exact held _ _ rfl
  | resumed complete ended all =>
      obtain ⟨handshake, coherent⟩ := held _ _ rfl
      obtain loaded | ⟨saved, saving, _⟩ := ended
      · subst loaded
        exact ⟨handshake, coherent.resumed recovers.1.1 all⟩
      · subst saving
        exact ⟨handshake, coherent.resumed recovers.1.1 all⟩

end Coherence

section Progress

variable {state : FileReceiver} {metadata : TransferMetadata} {resume : ResumePhase}
  {handshake : HandshakeData} {receiver : ReceiverId}

theorem ControlPhase.progress_settle (unchecked validIndices : List Nat) (corruptCount : Nat) :
    (ControlPhase.resuming handshake receiver state
      (.settle state metadata unchecked validIndices corruptCount)).progress = none := by
  rw [ResumePhase.settle.eq_def]
  cases unchecked with
  | nil =>
      dsimp only
      split
      · split <;> rfl
      · rfl
  | cons idx rest =>
      dsimp only
      split <;> rfl

theorem ControlPhase.progress_judge [KeyOrder] (data : Bytes) :
    (ControlPhase.resuming handshake receiver state (.judge state data)).progress = none := by
  rw [ResumePhase.judge]
  cases TransferMetadata.fromBytes data with
  | error error => rfl
  | ok metadata =>
      dsimp only
      split
      · exact progress_settle _ _ _
      · rfl

theorem ResumePhase.Done.progress {result : Option TransferMetadata} (done : resume.Done result) :
    (ControlPhase.resuming handshake receiver state resume).progress = none := by
  cases result with
  | none =>
      obtain same | same := done
      · rw [same]
        rfl
      · rw [same]
        rfl
  | some metadata =>
      obtain same | ⟨saved, same, outcome, done⟩ := done
      · rw [same]
        rfl
      · rw [same]
        exact done.progress

end Progress

end BeeSync.Server
