import BeeSync.Server.Roster
import BeeSync.Server.StoreRuns

/-!
# Writes after the end of a transfer

Data server tasks outlive their transfer: they keep the receiver and go on taking chunks,
also while the output file is assembled and after the cleanup. Only if no acceptable chunk
is in their hands at the end, and none comes later, do they leave the files alone.
-/

set_option autoImplicit false

namespace BeeSync.Server

open Encoding Interaction

variable {Handler : Type}

/-- The transfers of a server, and what has happened since the end of each. -/
structure Ending (Handler : Type) where
  store : Store (Role Handler)
  roster : Roster Handler
  /-- The frame that a task has received and may still write for. -/
  pending : Nat → Option Bytes
  /-- The handler of a transfer has started the assembly or the cleanup. -/
  ended : ReceiverId → Prop
  /-- After that, a task of the transfer has written a part or the record. -/
  late : ReceiverId → Prop
  /-- The handler of a transfer has reported success. -/
  confirmed : ReceiverId → Prop

/-- Nothing is left of a transfer but its output. -/
def FileReceiver.Gone (receiver : FileReceiver) (fs : Fs FilePath) : Prop :=
  (∀ idx < receiver.numChunks, fs (receiver.partPath idx) = none) ∧ fs receiver.metaPath = none

def ControlOp.writes : ControlOp → FilePath → Prop
  | .fs op, path => op.writes path
  | _, _ => False

def DataOp.writes : DataOp → FilePath → Prop
  | .fs op, path => op.writes path
  | _, _ => False

namespace Store

variable {Owner : Type} {owner : Owner} {faults : Prop} {store store' : Store Owner} {path : FilePath}

theorem controlSem.frame {op : ControlOp} {answer : op.Res}
    (acted : controlSem faults owner op store answer store') (untouched : ¬ op.writes path) :
    store'.fs path = store.fs path := by
  cases op with
  | fs op =>
      obtain ⟨fs, called, same⟩ := acted
      rw [same]
      exact called.frame untouched
  | lock | newReceiver =>
      obtain ⟨_, same⟩ := acted
      first | rw [same] | rw [same.2]
  | _ =>
      cases acted
      rfl

theorem dataSem.frame {op : DataOp} {answer : op.Res}
    (acted : dataSem faults owner op store answer store') (untouched : ¬ op.writes path) :
    store'.fs path = store.fs path := by
  cases op with
  | fs op =>
      obtain ⟨fs, called, same⟩ := acted
      rw [same]
      exact called.frame untouched
  | lock =>
      obtain ⟨_, _, same⟩ := acted
      rw [same]
  | getReceiver => rw [acted.2]
  | _ =>
      cases acted
      rfl

end Store

namespace Ending

def initial (fs : Fs FilePath) : Ending Handler where
  store := .initial fs
  roster := .initial
  pending := fun _ => none
  ended := fun _ => False
  late := fun _ => False
  confirmed := fun _ => False

variable (ending : Ending Handler) (receiver : ReceiverId)

/-- The parts and the record of a transfer. -/
def File (path : FilePath) : Prop :=
  ∃ state, ending.store.receivers receiver = some state ∧
    (path = state.metaPath ∨ ∃ idx, path = state.partPath idx)

def Record (path : FilePath) : Prop :=
  ∃ state, ending.store.receivers receiver = some state ∧ path = state.metaPath

/-- The assembly of a transfer starts by creating the output file, the cleanup by giving up
a port. -/
def Ends : ControlOp → Prop
  | .fs (.create path) =>
      ∃ state, ending.store.receivers receiver = some state ∧ path = state.finalPath
  | .removeReceiver _ => True
  | _ => False

/-- After this call a task writes nothing more for its chunk. -/
def last : (op : FsOp FilePath) → op.Res → Bool
  | .rename .., _ => true
  | .create _, .error _ | .writeAt .., .error _ => true
  | _, _ => false

/-- What a task has in its hands after an operation. -/
def inHand (op : DataOp) (answer : op.Res) (before : Option Bytes) : Option Bytes :=
  match op, answer with
  | .recvFrame, .ok frame => some frame
  | .sendFrame _, _ | .getReceiver _, _ => none
  | .fs op, answer => if last op answer then none else before
  | _, _ => before

variable [DecidableEq Handler]

def noteControl (handler : Handler) (op : ControlOp) (answer : op.Res) (ending : Ending Handler) :
    Ending Handler :=
  { ending with
    roster := ending.roster.noteControl handler op answer
    ended := fun receiver => ending.ended receiver ∨
      ending.roster.begun handler = some receiver ∧ ending.Ends receiver op
    confirmed := fun receiver => ending.confirmed receiver ∨
      ending.roster.begun handler = some receiver ∧ op = .sendFrame [Control.finalStatus true] }

omit [DecidableEq Handler] in
def noteData (task : Nat) (op : DataOp) (answer : op.Res) (ending : Ending Handler) :
    Ending Handler :=
  { ending with
    roster := ending.roster.noteData task op answer
    pending := Function.update ending.pending task (inHand op answer (ending.pending task))
    late := fun receiver => ending.late receiver ∨ ending.roster.served task = some receiver ∧
      ending.ended receiver ∧ ∃ path, op.writes path ∧ ending.File receiver path }

/-- Any call on files may fail. -/
def acts : Acts Handler (Ending Handler)
  | .control handler, op, ending, answer, ending' => ∃ store,
      Store.controlSem True (Role.control handler) op ending.store answer store ∧
        ending' = { noteControl handler op answer ending with store := store }
  | .data task, op, ending, answer, ending' => ∃ store,
      Store.dataSem True (Role.data task) op ending.store answer store ∧
        ending' = { noteData task op answer ending with store := store }

variable [Blake3]

omit [DecidableEq Handler] in
/-- A chunk message that the server would store. -/
def Acceptable (frame : Bytes) : Prop :=
  ∃ state chunk, ending.store.receivers receiver = some state ∧ Carries state frame chunk

/-- No task of the transfer has an acceptable chunk in its hands. -/
def Settled : Prop :=
  ∀ task frame, ending.roster.served task = some receiver → ending.pending task = some frame →
    ¬ ending.Acceptable receiver frame

/-- The assembly or the cleanup starts when the tasks are settled, no acceptable chunk comes
after that, and the assembly does not fail to remove the record. -/
def Timely : (role : Role Handler) → (op : role.sig.Op) → Ending Handler → role.sig.Res op → Prop
  | .control handler, .fs (.create path), ending, _ => ∀ receiver,
      ending.roster.begun handler = some receiver → ending.Ends receiver (.fs (.create path)) →
        ending.Settled receiver
  | .control handler, .removeReceiver _, ending, _ => ∀ receiver,
      ending.roster.begun handler = some receiver → ending.Settled receiver
  | .control handler, .fs (.remove path), ending, answer => ∀ receiver,
      ending.roster.begun handler = some receiver → ending.ended receiver →
        ending.Record receiver path → answer = .ok () ∨ ending.store.fs path = none
  | .data task, .recvFrame, ending, .ok frame => ∀ receiver,
      ending.roster.served task = some receiver → ending.ended receiver →
        ¬ ending.Acceptable receiver frame
  | _, _, _, _ => True

/-- The files of a transfer that has ended are not written for other transfers. -/
def Apart : (role : Role Handler) → role.sig.Op → Ending Handler → Prop
  | .control handler, op, ending => ∀ other receiver, other ≠ handler →
      ending.roster.begun other = some receiver → ending.ended receiver →
        ∀ path, op.writes path → ¬ ending.File receiver path
  | .data task, op, ending => ∀ receiver, ending.roster.served task ≠ some receiver →
      ending.ended receiver → ∀ path, op.writes path → ¬ ending.File receiver path

def Quiet (role : Role Handler) (op : role.sig.Op) (ending : Ending Handler)
    (answer : role.sig.Res op) : Prop :=
  Timely role op ending answer ∧ Apart role op ending

end Ending

/-- What the phase of a task says about the frame it may still write for. -/
def DataPhase.Pending (accepts : Bytes → Prop) (pending : Option Bytes) : DataPhase → Prop
  | .received _ frame | .sizing _ frame _ => pending = some frame
  | .accepted .. | .placing .. | .storing _ _ _ .opening | .storing _ _ _ (.writing _)
  | .recording _ _ _ (.writing .opening) | .recording _ _ _ (.writing (.writing _)) =>
      ∃ frame, pending = some frame ∧ accepts frame
  | _ => True

theorem DataPhase.Pending.mono {accepts accepts' : Bytes → Prop} {pending : Option Bytes}
    {phase : DataPhase} (held : phase.Pending accepts pending)
    (wider : ∀ frame, accepts frame → accepts' frame) : phase.Pending accepts' pending := by
  unfold DataPhase.Pending at held ⊢
  split at held <;> first | exact held | exact held.imp fun frame => And.imp_right (wider frame)

theorem DataPhase.Pending.step [Blake3] {phase phase' : DataPhase} {accepts : Bytes → Prop}
    {op : DataOp} {answer : op.Res} {pending : Option Bytes} (held : phase.Pending accepts pending)
    (turned : DataTurn phase op answer phase')
    (accept : ∀ receiver frame state chunk, phase = .sizing receiver frame state →
      Carries state frame chunk → accepts frame) :
    phase'.Pending accepts (Ending.inHand op answer pending) := by
  cases turned with
  | receive frame => rfl
  | size | place | placed | record => exact held
  | accept carries => exact ⟨_, held, accept _ _ _ _ rfl carries⟩
  | store writing =>
      cases writing with
      | create | write => exact held
      | createFails | writeFails => trivial
  | save saving =>
      cases saving with
      | write writing =>
          cases writing with
          | create | write => exact held
          | createFails | writeFails => trivial
      | _ => trivial
  | _ => trivial

/-- The output file has been created and the outcome has not been reported. -/
def ControlPhase.Closing : ControlPhase → Prop
  | .assembling _ _ _ .creating => False
  | .assembling .. | .reporting .. => True
  | _ => False

/-- The phases that the end of a transfer may lead to. -/
def ControlPhase.Late : ControlPhase → Prop
  | .assembling .. | .reporting .. | .finished => True
  | _ => False

/-- The parts that have been assembled are gone. -/
def AssemblePhase.Cleared (fs : Fs FilePath) (state : FileReceiver) : AssemblePhase → Prop
  | .creating => True
  | .checking left _ => ∀ idx < state.numChunks, idx ∉ left → fs (state.partPath idx) = none
  | .opening idx rest _ | .reading idx rest _ _ | .writing idx rest _ _ _ _
  | .removing idx rest _ _ =>
      ∀ other < state.numChunks, other ∉ idx :: rest → fs (state.partPath other) = none
  | .assembled result _ => result = .ok true → state.Gone fs

def ControlPhase.Cleared (fs : Fs FilePath) (state : FileReceiver) : ControlPhase → Prop
  | .assembling _ _ _ assembly => assembly.Cleared fs state
  | .reporting _ _ success => success = true → state.Gone fs
  | _ => True

namespace FileReceiver

variable {state state' : FileReceiver} {fs fs' : Fs FilePath}

theorem Gone.frame (gone : state.Gone fs) (params : state'.params = state.params)
    (parts : ∀ idx, fs' (state.partPath idx) = fs (state.partPath idx))
    (record : fs' state.metaPath = fs state.metaPath) : state'.Gone fs' := by
  have numChunks : state'.numChunks = state.numChunks := congrArg Params.numChunks params
  obtain ⟨noPart, noRecord⟩ := gone
  constructor
  · intro idx inside
    rw [numChunks] at inside
    rw [partPath_of_params params, parts]
    exact noPart idx inside
  · rw [metaPath_of_params params, record]
    exact noRecord

end FileReceiver

theorem ControlPhase.Cleared.of_open {phase : ControlPhase} {state : FileReceiver}
    {fs : Fs FilePath} (open_ : ¬ phase.Closing) : phase.Cleared fs state := by
  cases phase with
  | assembling _ _ _ assembly =>
      cases assembly with
      | creating => trivial
      | _ => exact absurd trivial open_
  | reporting => exact absurd trivial open_
  | _ => trivial

theorem ControlPhase.Cleared.frame {phase : ControlPhase} {state state' : FileReceiver}
    {fs fs' : Fs FilePath} (cleared : phase.Cleared fs state) (params : state'.params = state.params)
    (parts : ∀ idx, fs' (state.partPath idx) = fs (state.partPath idx))
    (record : fs' state.metaPath = fs state.metaPath) : phase.Cleared fs' state' := by
  have numChunks : state'.numChunks = state.numChunks :=
    congrArg FileReceiver.Params.numChunks params
  have none_ : ∀ left : List Nat,
      (∀ idx < state.numChunks, idx ∉ left → fs (state.partPath idx) = none) →
      ∀ idx < state'.numChunks, idx ∉ left → fs' (state'.partPath idx) = none := by
    intro left gone idx inside missing
    rw [numChunks] at inside
    rw [FileReceiver.partPath_of_params params, parts]
    exact gone idx inside missing
  cases phase with
  | assembling _ _ _ assembly =>
      cases assembly with
      | creating => trivial
      | checking | opening | reading | writing | removing => exact none_ _ cleared
      | assembled => exact fun success => (cleared success).frame params parts record
  | reporting => exact fun success => (cleared success).frame params parts record
  | _ => trivial

/-- An assembly removes one part after the other, and the record at the end. -/
theorem AssembleTurn.cleared [Blake3] {state : FileReceiver} {assembly assembly' : AssemblePhase}
    {op : FsOp FilePath} {answer : op.Res} {faults : Prop} {fs fs' : Fs FilePath}
    (turned : AssembleTurn state assembly op answer assembly')
    (acted : op.Sem faults fs answer fs') (cleared : assembly.Cleared fs state)
    (removed : ∀ path, op = .remove path → path = state.metaPath → fs' path = none) :
    assembly'.Cleared fs' state := by
  have kept : ∀ {left : List Nat}, (∀ idx, ¬ op.writes (state.partPath idx)) →
      (∀ idx < state.numChunks, idx ∉ left → fs (state.partPath idx) = none) →
      ∀ idx < state.numChunks, idx ∉ left → fs' (state.partPath idx) = none := by
    intro left untouched gone idx inside missing
    rw [acted.frame (untouched idx)]
    exact gone idx inside missing
  cases turned with
  | create => exact fun idx inside missing => absurd (List.mem_range.mpr inside) missing
  | createFails | missing | openFails | readFails | writeFails | removeFails => exact nofun
  | found | open_ | read | readEnd => exact kept (fun _ => id) cleared
  | @write idx rest absorbed copied written unwritten byte =>
      have still := kept (fun idx => state.partPath_ne_finalPath idx) cleared
      rw [AssemblePhase.settle]
      split <;> exact still
  | @remove idx rest absorbed copied =>
      intro other inside missing
      by_cases same : other = idx
      · subst same
        obtain ⟨_, _, gone⟩ | ⟨_, _, error, fails⟩ := acted
        · rw [gone, Function.update_self]
        · cases fails
      · have untouched : state.partPath other ≠ state.partPath idx := fun equal =>
          same (state.partPath_injective equal)
        have before := cleared other inside (by simp [same, missing])
        exact (acted.frame untouched).trans before
  | finish answer =>
      intro _
      refine ⟨fun idx inside => ?_, removed _ rfl rfl⟩
      have untouched : state.partPath idx ≠ state.metaPath :=
        TransferMetadata.partPath_ne_metaPath idx
      exact (acted.frame untouched).trans (cleared idx inside List.not_mem_nil)

namespace Ending

structure Sound [DecidableEq Handler] [Blake3] (phase : (role : Role Handler) → role.Phase)
    (ending : Ending Handler) : Prop where
  fits : ending.roster.Fits phase ending.store
  pending : ∀ task, (phase (.data task)).Pending (fun frame => ∃ receiver,
    ending.roster.served task = some receiver ∧ ending.Acceptable receiver frame)
      (ending.pending task)
  begun : ∀ receiver, ending.ended receiver →
    ∃ handler, ending.roster.begun handler = some receiver
  late : ∀ handler receiver, ending.roster.begun handler = some receiver →
    ending.ended receiver → (phase (.control handler)).Late
  started : ∀ handler receiver, ending.roster.begun handler = some receiver →
    (phase (.control handler)).Closing → ending.ended receiver
  settled : ∀ receiver, ending.ended receiver → ending.Settled receiver
  timely : ∀ receiver, ¬ ending.late receiver
  cleared : ∀ handler receiver state, ending.roster.begun handler = some receiver →
    ending.store.receivers receiver = some state →
      (phase (.control handler)).Cleared ending.store.fs state
  confirmed : ∀ handler receiver, ending.roster.begun handler = some receiver →
    ending.confirmed receiver → phase (.control handler) = .finished
  sure : ∀ receiver, ending.confirmed receiver → ending.ended receiver
  gone : ∀ receiver state, ending.confirmed receiver →
    ending.store.receivers receiver = some state → state.Gone ending.store.fs

variable [DecidableEq Handler] [Blake3] {phase : (role : Role Handler) → role.Phase}
  {ending : Ending Handler}

theorem Sound.start (fs : Fs FilePath) : Sound (@Role.begin Handler) (initial fs) where
  fits := .start fs
  pending _ := trivial
  begun _ ended := ended.elim
  late _ _ begun := by cases begun
  started _ _ begun := by cases begun
  settled _ ended := ended.elim
  timely _ late := late
  cleared _ _ _ begun := by cases begun
  confirmed _ _ begun := by cases begun
  sure _ confirmed := confirmed.elim
  gone _ _ confirmed := confirmed.elim

omit [DecidableEq Handler] in
/-- What can be accepted depends on what the transfers are about. -/
theorem Acceptable.of_params {ending' : Ending Handler} {receiver : ReceiverId} {frame : Bytes}
    (acceptable : ending.Acceptable receiver frame)
    (params : (ending'.store.receivers receiver).map FileReceiver.params =
      (ending.store.receivers receiver).map FileReceiver.params) :
    ending'.Acceptable receiver frame := by
  obtain ⟨state, chunk, found, carries⟩ := acceptable
  rw [found, Option.map_some, Option.map_eq_some_iff] at params
  obtain ⟨state', found', params⟩ := params
  exact ⟨state', chunk, found', carries.of_params params⟩

/-- After the end no task of the transfer writes a part or the record. -/
theorem Sound.calm (sound : Sound phase ending) {receiver : ReceiverId}
    (ended : ending.ended receiver) {task : Nat}
    (mine : ending.roster.served task = some receiver) {op : DataOp} {answer : op.Res}
    {phase' : DataPhase} (turned : DataTurn (phase (.data task)) op answer phase')
    {path : FilePath} (writes : op.writes path) : ¬ ending.File receiver path := by
  have none_ : ¬ ∃ frame, ending.pending task = some frame ∧ ∃ receiver,
      ending.roster.served task = some receiver ∧ ending.Acceptable receiver frame := by
    intro writing
    obtain ⟨frame, there, other, served, acceptable⟩ := writing
    cases mine.symm.trans served
    exact sound.settled receiver ended task frame mine there acceptable
  have pending := sound.pending task
  have held := sound.fits.orderly.held (.data task)
  have served := sound.fits.served task
  generalize phase (.data task) = before at turned pending held served
  cases turned with
  | idle op quiet => cases op <;> first | exact absurd writes id | cases quiet
  | store writing => cases writing <;> exact absurd pending none_
  | @save r chunk state saving saving' op answer saved =>
      cases saved with
      | write writing => cases writing <;> exact absurd pending none_
      | rename | renameFails => exact absurd pending none_
      | remove =>
          intro file
          obtain ⟨other, found, named⟩ := file
          cases mine.symm.trans (served r rfl)
          cases found.symm.trans (held receiver state rfl).2
          cases writes
          obtain isMeta | ⟨idx, isPart⟩ := named
          · exact TransferMetadata.metaPath_ne_tmpPath isMeta.symm
          · exact TransferMetadata.partPath_ne_tmpPath idx isPart.symm
  | _ => exact absurd writes id

/-- After the end the parts and the record stay as they are, whatever the tasks do. -/
theorem Sound.still (sound : Sound phase ending) {receiver : ReceiverId}
    (ended : ending.ended receiver) {task : Nat} {op : DataOp} {answer : op.Res}
    {phase' : DataPhase} {store : Store (Role Handler)}
    (turned : DataTurn (phase (.data task)) op answer phase')
    (acted : Store.dataSem True (Role.data task) op ending.store answer store)
    (apart : Apart (.data task) op ending) {path : FilePath} (file : ending.File receiver path) :
    store.fs path = ending.store.fs path := by
  have untouched : ¬ op.writes path := by
    intro writes
    by_cases mine : ending.roster.served task = some receiver
    · exact sound.calm ended mine turned writes file
    · exact apart receiver mine ended path writes file
  exact Store.dataSem.frame acted untouched

omit [DecidableEq Handler] in
/-- What a task may still write for has been so before, or has just been received. -/
theorem noteData_pending {task : Nat} {op : DataOp} {answer : op.Res} {frame : Bytes}
    {receiver : ReceiverId} (timely : Timely (.data task) op ending answer)
    (ended : ending.ended receiver)
    (served : (ending.roster.noteData task op answer).served task = some receiver)
    (there : inHand op answer (ending.pending task) = some frame) :
    ending.roster.served task = some receiver ∧
      (ending.pending task = some frame ∨ ¬ ending.Acceptable receiver frame) := by
  cases op with
  | recvFrame =>
      cases answer with
      | error error => exact ⟨served, .inl there⟩
      | ok received =>
          cases there
          exact ⟨served, .inr (timely receiver served ended)⟩
  | getReceiver | sendFrame => cases there
  | fs op =>
      dsimp only [inHand] at there
      split at there
      · cases there
      · exact ⟨served, .inl there⟩
  | _ => exact ⟨served, .inl there⟩

theorem Sound.data (sound : Sound phase ending) {task : Nat} {op : DataOp} {answer : op.Res}
    {phase' : DataPhase} {store : Store (Role Handler)}
    (turned : DataTurn (phase (.data task)) op answer phase')
    (acted : Store.dataSem True (Role.data task) op ending.store answer store)
    (quiet : Quiet (.data task) op ending answer) :
    Sound (Function.update phase (.data task) phase')
      { noteData task op answer ending with store := store } := by
  obtain ⟨timely, apart⟩ := quiet
  have params := sound.fits.orderly.data_params turned acted
  have accept : ∀ {receiver frame}, ending.Acceptable receiver frame →
      Acceptable { noteData task op answer ending with store := store } receiver frame :=
    fun acceptable => acceptable.of_params (params _)
  have earlier : ∀ receiver state', store.receivers receiver = some state' →
      ∃ state, ending.store.receivers receiver = some state ∧ state'.params = state.params := by
    intro receiver state' found
    have same := params receiver
    rw [found, Option.map_some, eq_comm, Option.map_eq_some_iff] at same
    obtain ⟨state, found, same⟩ := same
    exact ⟨state, found, same.symm⟩
  have still : ∀ {receiver path}, ending.ended receiver → ending.File receiver path →
      store.fs path = ending.store.fs path :=
    fun ended file => sound.still ended turned acted apart file
  constructor
  · exact sound.fits.data turned acted
  · intro other
    have held := sound.pending other
    by_cases here : other = task
    · subst here
      have stepped := held.step turned fun receiver frame state chunk sizing carries => by
        have knows : (phase (.data other)).receiver = some receiver := by rw [sizing]; rfl
        have holds : (phase (.data other)).holding = some (receiver, state) := by rw [sizing]; rfl
        exact ⟨receiver, sound.fits.served other receiver knows, state, chunk,
          (sound.fits.orderly.held (.data other) receiver state holds).2, carries⟩
      dsimp only [noteData]
      rw [Function.update_self, Function.update_self]
      by_cases old : ∀ port, op ≠ .getReceiver port
      · rw [Roster.noteData_old answer ending.roster old]
        exact stepped.mono fun frame writing => writing.imp fun receiver => And.imp_right accept
      · generalize phase (.data other) = before at turned
        cases turned with
        | idle | connect => trivial
        | _ => exact absurd nofun old
    · dsimp only [noteData]
      rw [Role.update_data_other here, Function.update_of_ne here, Roster.noteData_other here]
      exact held.mono fun frame writing => writing.imp fun receiver => And.imp_right accept
  · intro receiver ended
    obtain ⟨handler, begun⟩ := sound.begun receiver ended
    exact ⟨handler, (congrFun (Roster.noteData_begun task op answer ending.roster) handler).trans begun⟩
  · intro handler receiver begun ended
    dsimp only [noteData] at begun
    rw [Roster.noteData_begun] at begun
    rw [Role.update_data_control]
    exact sound.late handler receiver begun ended
  · intro handler receiver begun closing
    dsimp only [noteData] at begun
    rw [Roster.noteData_begun] at begun
    rw [Role.update_data_control] at closing
    exact sound.started handler receiver begun closing
  · intro receiver ended other frame served there acceptable
    have before : ending.Acceptable receiver frame := acceptable.of_params (params receiver).symm
    dsimp only [noteData] at served there
    by_cases here : other = task
    · subst here
      rw [Function.update_self] at there
      obtain ⟨served, pending | refused⟩ := noteData_pending timely ended served there
      · exact sound.settled receiver ended other frame served pending before
      · exact refused before
    · rw [Roster.noteData_other here] at served
      rw [Function.update_of_ne here] at there
      exact sound.settled receiver ended other frame served there before
  · intro receiver late
    obtain late | ⟨served, ended, path, writes, file⟩ := late
    · exact sound.timely receiver late
    · exact sound.calm ended served turned writes file
  · intro handler receiver state' begun found'
    dsimp only [noteData] at begun
    rw [Roster.noteData_begun] at begun
    rw [Role.update_data_control]
    obtain ⟨state, found, params⟩ := earlier receiver state' found'
    by_cases closing : (phase (.control handler)).Closing
    · have ended := sound.started handler receiver begun closing
      refine (sound.cleared handler receiver state begun found).frame params (fun idx => ?_) ?_
      · exact still ended ⟨state, found, .inr ⟨idx, rfl⟩⟩
      · exact still ended ⟨state, found, .inl rfl⟩
    · exact .of_open closing
  · intro handler receiver begun confirmed
    dsimp only [noteData] at begun
    rw [Roster.noteData_begun] at begun
    rw [Role.update_data_control]
    exact sound.confirmed handler receiver begun confirmed
  · exact sound.sure
  · intro receiver state' confirmed found'
    have ended := sound.sure receiver confirmed
    obtain ⟨state, found, params⟩ := earlier receiver state' found'
    refine (sound.gone receiver state confirmed found).frame params (fun idx => ?_) ?_
    · exact still ended ⟨state, found, .inr ⟨idx, rfl⟩⟩
    · exact still ended ⟨state, found, .inl rfl⟩

variable [KeyOrder] {config : Control.Config}

theorem late_turn {before after : ControlPhase} {op : ControlOp} {answer : op.Res}
    (turned : ControlTurn config before op answer after) (late : before.Late) : after.Late := by
  cases turned with
  | quiet | answer => exact late
  | build | built | report | remove | abandon => trivial
  | _ => cases late

theorem Sound.ends (sound : Sound phase ending) {handler : Handler} {receiver : ReceiverId}
    (mine : ending.roster.begun handler = some receiver) {op : ControlOp} {answer : op.Res}
    {phase' : ControlPhase}
    (turned : ControlTurn config (phase (.control handler)) op answer phase')
    (timely : Timely (.control handler) op ending answer)
    (ended : ending.ended receiver ∨ ending.Ends receiver op) :
    phase'.Late ∧ ending.Settled receiver := by
  by_cases before : ending.ended receiver
  · exact ⟨late_turn turned (sound.late handler receiver mine before), sound.settled receiver before⟩
  · have now := ended.resolve_left before
    have held := sound.fits.orderly.held (.control handler)
    have begun := sound.fits.begun handler
    generalize phase (.control handler) = here at turned held begun
    cases turned with
    | remove => exact ⟨trivial, timely receiver mine⟩
    | quiet _ op none_ => cases op <;> first | exact absurd now id | cases none_
    | check op looks =>
        cases op with
        | create => cases looks
        | _ => exact absurd now id
    | @recover handshake r state resume resume' op answer recovering =>
        cases op with
        | create path =>
            obtain ⟨other, found, final⟩ := now
            cases mine.symm.trans (begun r rfl)
            have same : state = other := Option.some.inj ((held receiver state rfl).2.symm.trans found)
            rw [← same, recovering.creates rfl] at final
            exact absurd final state.tmpPath_ne_finalPath
        | _ => exact absurd now id
    | @build handshake r state assembly assembly' op answer building =>
        cases op with
        | create path => exact ⟨trivial, timely receiver mine now⟩
        | _ => exact absurd now id
    | _ => exact absurd now id

/-- An assembly that has created the output file has ended the transfer. -/
theorem Sound.starts (sound : Sound phase ending) {handler : Handler} {receiver : ReceiverId}
    (mine : ending.roster.begun handler = some receiver) {op : ControlOp} {answer : op.Res}
    {phase' : ControlPhase}
    (turned : ControlTurn config (phase (.control handler)) op answer phase')
    (closing : phase'.Closing) : ending.ended receiver ∨ ending.Ends receiver op := by
  have started := sound.started handler receiver mine
  have held := sound.fits.orderly.held (.control handler)
  have begun := sound.fits.begun handler
  generalize phase (.control handler) = here at turned started held begun
  cases turned with
  | quiet | answer => exact .inl (started closing)
  | built => exact .inl (started trivial)
  | @build handshake r state assembly assembly' op answer building =>
      cases assembly with
      | creating =>
          cases mine.symm.trans (begun r rfl)
          cases building with
          | create | createFails => exact .inr ⟨state, (held receiver state rfl).2, rfl⟩
      | _ => exact .inl (started trivial)
  | _ => cases closing

theorem Sound.reports (sound : Sound phase ending) {handler : Handler} {receiver : ReceiverId}
    (mine : ending.roster.begun handler = some receiver) {op : ControlOp} {answer : op.Res}
    {phase' : ControlPhase} {store : Store (Role Handler)}
    (turned : ControlTurn config (phase (.control handler)) op answer phase')
    (acted : Store.controlSem True (Role.control handler) op ending.store answer store)
    (confirmed : ending.confirmed receiver ∨ op = .sendFrame [Control.finalStatus true]) :
    phase' = .finished ∧ ending.ended receiver ∧ store.fs = ending.store.fs ∧
      store.receivers = ending.store.receivers ∧ ∀ state,
        ending.store.receivers receiver = some state → state.Gone ending.store.fs := by
  have cleared := fun state => sound.cleared handler receiver state mine
  have started := sound.started handler receiver mine
  have sure := sound.sure receiver
  have gone := fun state => sound.gone receiver state
  have old := sound.confirmed handler receiver mine
  generalize phase (.control handler) = here at turned cleared started old
  cases turned with
  | quiet _ op quiet =>
      have confirmed : ending.confirmed receiver := by
        obtain confirmed | send := confirmed
        · exact confirmed
        · subst send
          cases quiet
      have same : store = ending.store := by cases op <;> first | exact acted | cases quiet
      subst same
      exact ⟨old confirmed, sure confirmed, rfl, rfl, fun state => gone state confirmed⟩
  | answer _ answers payload response =>
      obtain confirmed | same := confirmed
      · rw [old confirmed] at answers
        cases answers
      · cases same
        exact absurd rfl response
  | @report handshake r success =>
      obtain confirmed | same := confirmed
      · cases old confirmed
      · have success : success = true := by
          cases success
          · cases same
          · rfl
        cases acted
        exact ⟨rfl, started trivial, rfl, rfl, fun state found => cleared state found success⟩
  | abandon =>
      obtain confirmed | same := confirmed
      · cases old confirmed
      · cases same
  | remove =>
      cases acted
      have confirmed : ending.confirmed receiver := confirmed.resolve_right nofun
      exact ⟨rfl, sure confirmed, rfl, rfl, fun state => gone state confirmed⟩
  | _ => cases old (confirmed.resolve_right nofun)

/-- What is left after the assembly, once the handler has taken another step. -/
theorem Sound.clears (sound : Sound phase ending) {handler : Handler} {receiver : ReceiverId}
    (mine : ending.roster.begun handler = some receiver) {op : ControlOp} {answer : op.Res}
    {phase' : ControlPhase} {store : Store (Role Handler)}
    (turned : ControlTurn config (phase (.control handler)) op answer phase')
    (acted : Store.controlSem True (Role.control handler) op ending.store answer store)
    (timely : Timely (.control handler) op ending answer) {state' : FileReceiver}
    (found' : store.receivers receiver = some state') : phase'.Cleared store.fs state' := by
  have cleared := fun state => sound.cleared handler receiver state mine
  have started := sound.started handler receiver mine
  have held := sound.fits.orderly.held (.control handler)
  have begun := sound.fits.begun handler
  generalize phase (.control handler) = here at turned cleared started held begun
  cases turned with
  | quiet _ op none_ =>
      have same : store = ending.store := by cases op <;> first | exact acted | cases none_
      subst same
      exact cleared state' found'
  | answer _ answers =>
      cases acted
      exact cleared state' found'
  | @build handshake r state assembly assembly' op answer building =>
      obtain ⟨fs, called, same⟩ := acted
      subst same
      cases mine.symm.trans (begun r rfl)
      have same : state = state' := Option.some.inj ((held receiver state rfl).2.symm.trans found')
      subst same
      refine building.cleared called (cleared state found') fun path removes record => ?_
      subst removes
      have closing : (ControlPhase.assembling handshake receiver state assembly).Closing := by
        cases building <;> trivial
      obtain ⟨_, _, gone⟩ | ⟨_, same, error, fails⟩ := called
      · dsimp only
        rw [gone, Function.update_self]
      · dsimp only
        rw [same]
        obtain removed | absent := timely receiver mine (started closing) ⟨state, found', record⟩
        · cases fails.symm.trans removed
        · exact absent
  | @built handshake r state result absorbed =>
      cases acted
      cases mine.symm.trans (begun r rfl)
      have present := (held receiver state rfl).2
      dsimp only at found'
      rw [Function.update_self] at found'
      have same : state = state' := Option.some.inj found'
      subst same
      intro success
      refine cleared state present ?_
      cases result with
      | error error => cases success
      | ok result => cases result <;> first | rfl | cases success
  | _ => exact .of_open id

omit [DecidableEq Handler] [Blake3] [KeyOrder] in
/-- After the end of a transfer other handlers leave its files alone. -/
theorem beside [DecidableEq Handler] [Blake3] {handler other : Handler} {receiver : ReceiverId}
    (different : other ≠ handler) (begun : ending.roster.begun other = some receiver)
    (ended : ending.ended receiver)
    {op : ControlOp} {answer : op.Res} {store : Store (Role Handler)}
    (acted : Store.controlSem True (Role.control handler) op ending.store answer store)
    (apart : Apart (.control handler) op ending) {path : FilePath}
    (file : ending.File receiver path) : store.fs path = ending.store.fs path := by
  have untouched : ¬ op.writes path := fun writes =>
    apart other receiver different begun ended path writes file
  exact Store.controlSem.frame acted untouched

theorem Sound.control (sound : Sound phase ending) {handler : Handler} {op : ControlOp}
    {answer : op.Res} {phase' : ControlPhase} {store : Store (Role Handler)}
    (turned : ControlTurn config (phase (.control handler)) op answer phase')
    (acted : Store.controlSem True (Role.control handler) op ending.store answer store)
    (quiet : Quiet (.control handler) op ending answer) :
    Sound (Function.update phase (.control handler) phase')
      { noteControl handler op answer ending with store := store } := by
  obtain ⟨timely, apart⟩ := quiet
  have begins : ∀ {other receiver}, (ending.roster.noteControl handler op answer).begun other =
      some receiver → ending.roster.begun other = some receiver ∨
        other = handler ∧ ending.store.receivers receiver = none ∧
          ∃ handshake, phase' = .created handshake receiver := by
    intro other receiver begun
    obtain begun | ⟨here, fresh, _, created⟩ := Roster.Fits.control_new turned acted begun
    · exact .inl begun
    · exact .inr ⟨here, fresh, created⟩
  have grown : ∀ {receiver}, ending.store.receivers receiver ≠ none →
      (store.receivers receiver).map FileReceiver.params =
        (ending.store.receivers receiver).map FileReceiver.params := by
    intro receiver present
    obtain ⟨state, found⟩ := Option.ne_none_iff_exists'.mp present
    obtain ⟨state', found', params⟩ := sound.fits.orderly.control_grows turned acted found
    rw [found, found', Option.map_some, Option.map_some, params]
  have earlier : ∀ {receiver state'}, ending.store.receivers receiver ≠ none →
      store.receivers receiver = some state' →
      ∃ state, ending.store.receivers receiver = some state ∧ state'.params = state.params := by
    intro receiver state' present found'
    have same := grown present
    rw [found', Option.map_some, eq_comm, Option.map_eq_some_iff] at same
    obtain ⟨state, found, same⟩ := same
    exact ⟨state, found, same.symm⟩
  have known : ∀ {receiver}, (ending.ended receiver ∨ ending.roster.begun handler = some receiver ∧
      ending.Ends receiver op) → ∃ other, ending.roster.begun other = some receiver := by
    intro receiver ended
    obtain ended | ⟨mine, _⟩ := ended
    · exact sound.begun receiver ended
    · exact ⟨handler, mine⟩
  have foreign : ∀ {other receiver}, other ≠ handler → ending.roster.begun other = some receiver →
      ending.roster.begun handler ≠ some receiver := by
    intro other receiver different begun mine
    exact different (sound.fits.distinct other handler receiver begun mine)
  have sure : ∀ {receiver}, (ending.confirmed receiver ∨ ending.roster.begun handler =
      some receiver ∧ op = .sendFrame [Control.finalStatus true]) → ending.ended receiver := by
    intro receiver confirmed
    obtain confirmed | ⟨mine, sent⟩ := confirmed
    · exact sound.sure receiver confirmed
    · exact (sound.reports mine turned acted (.inr sent)).2.1
  constructor
  · exact sound.fits.control turned acted
  · intro task
    rw [Role.update_control_data]
    dsimp only [noteControl]
    rw [Roster.noteControl_served]
    refine (sound.pending task).mono fun frame writing => ?_
    obtain ⟨receiver, served, acceptable⟩ := writing
    obtain ⟨state, chunk, found, carries⟩ := acceptable
    obtain ⟨state', found', params⟩ := sound.fits.orderly.control_grows turned acted found
    exact ⟨receiver, served, state', chunk, found', carries.of_params params⟩
  · intro receiver ended
    obtain ⟨other, begun⟩ := known ended
    exact ⟨other, sound.fits.control_stays turned begun⟩
  · intro other receiver begun' ended
    obtain begun | ⟨_, fresh, _⟩ := begins begun'
    · by_cases here : other = handler
      · subst here
        rw [Function.update_self]
        exact (sound.ends begun turned timely (ended.imp_right And.right)).1
      · rw [Role.update_control_other here]
        exact sound.late other receiver begun
          (ended.resolve_right fun mine => foreign here begun mine.1)
    · obtain ⟨other, begun⟩ := known ended
      exact absurd fresh (sound.fits.present other receiver begun)
  · intro other receiver begun' closing
    obtain begun | ⟨here, _, handshake, created⟩ := begins begun'
    · by_cases here : other = handler
      · subst here
        rw [Function.update_self] at closing
        exact (sound.starts begun turned closing).imp_right fun ends => ⟨begun, ends⟩
      · rw [Role.update_control_other here] at closing
        exact .inl (sound.started other receiver begun closing)
    · subst here created
      rw [Function.update_self] at closing
      cases closing
  · intro receiver ended task frame served there acceptable
    obtain ⟨other, begun⟩ := known ended
    have before : ending.Acceptable receiver frame :=
      acceptable.of_params (grown (sound.fits.present other receiver begun)).symm
    dsimp only [noteControl] at served
    rw [Roster.noteControl_served] at served
    obtain ended | ⟨mine, ends⟩ := ended
    · exact sound.settled receiver ended task frame served there before
    · exact (sound.ends mine turned timely (.inr ends)).2 task frame served there before
  · exact sound.timely
  · intro other receiver state' begun' found'
    obtain begun | ⟨here, _, handshake, created⟩ := begins begun'
    · by_cases here : other = handler
      · subst here
        rw [Function.update_self]
        exact sound.clears begun turned acted timely found'
      · rw [Role.update_control_other here]
        by_cases closing : (phase (.control other)).Closing
        · have ended := sound.started other receiver begun closing
          obtain ⟨state, found, params⟩ := earlier (sound.fits.present other receiver begun) found'
          refine (sound.cleared other receiver state begun found).frame params (fun idx => ?_) ?_
          · exact beside here begun ended acted apart ⟨state, found, .inr ⟨idx, rfl⟩⟩
          · exact beside here begun ended acted apart ⟨state, found, .inl rfl⟩
        · exact .of_open closing
    · subst here created
      rw [Function.update_self]
      trivial
  · intro other receiver begun' confirmed
    obtain begun | ⟨_, fresh, _⟩ := begins begun'
    · by_cases here : other = handler
      · subst here
        rw [Function.update_self]
        exact (sound.reports begun turned acted (confirmed.imp_right And.right)).1
      · rw [Role.update_control_other here]
        exact sound.confirmed other receiver begun
          (confirmed.resolve_right fun mine => foreign here begun mine.1)
    · obtain ⟨other, begun⟩ := sound.begun receiver (sure confirmed)
      exact absurd fresh (sound.fits.present other receiver begun)
  · exact fun receiver confirmed => .inl (sure confirmed)
  · intro receiver state' confirmed found'
    by_cases mine : ending.roster.begun handler = some receiver
    · obtain ⟨_, _, fs, receivers, gone⟩ :=
        sound.reports mine turned acted (confirmed.imp_right And.right)
      dsimp only at found' ⊢
      rw [receivers] at found'
      rw [fs]
      exact gone state' found'
    · have before : ending.confirmed receiver := confirmed.resolve_right fun sent => mine sent.1
      have ended := sound.sure receiver before
      obtain ⟨other, begun⟩ := sound.begun receiver ended
      have here : other ≠ handler := fun same => mine (same ▸ begun)
      obtain ⟨state, found, params⟩ := earlier (sound.fits.present other receiver begun) found'
      refine (sound.gone receiver state before found).frame params (fun idx => ?_) ?_
      · exact beside here begun ended acted apart ⟨state, found, .inr ⟨idx, rfl⟩⟩
      · exact beside here begun ended acted apart ⟨state, found, .inl rfl⟩

def system (config : Control.Config) : System (Role Handler) Role.sig Role.Ctl (Ending Handler) :=
  serverSystem config acts

theorem Sound.move {before after : Stance (@Role.Phase Handler) (Ending Handler)}
    (sound : Sound before.phase before.world)
    (moved : Move ((system config).guarded Quiet) (fun _ => True) (Role.turn config) before after) :
    Sound after.phase after.world := by
  cases moved with
  | @act tid op answer phase' world turned acted permitted =>
      obtain ⟨quiet, acted⟩ := acted
      cases tid with
      | control handler =>
          obtain ⟨store, acted, same⟩ := acted
          subst same
          exact sound.control turned acted quiet
      | data task =>
          obtain ⟨store, acted, same⟩ := acted
          subst same
          exact sound.data turned acted quiet

end Ending

/-- In every run in which no acceptable chunk of a transfer is in the hands of a task when its
assembly or its cleanup starts, none comes later, and the files are not written for other
transfers, no task of the transfer writes a part or the record after that, and nothing is left
of it once it has been confirmed. -/
theorem no_late_writes [DecidableEq Handler] [Blake3] [KeyOrder] (config : Control.Config)
    (fs : Fs FilePath) {pool : Pool (@Role.sig Handler) Role.Ctl (Ending Handler)}
    (reached : Reaches ((Ending.system config).guarded Ending.Quiet) (fun _ => True)
      (serverStart config (Ending.initial fs)) pool) (receiver : ReceiverId) :
    ¬ pool.world.late receiver ∧ (pool.world.confirmed receiver → ∀ state,
      pool.world.store.receivers receiver = some state → state.Gone pool.world.store.fs) := by
  obtain ⟨phase, moved, _⟩ := server_moves config reached
  have sound : Ending.Sound phase pool.world :=
    moved.invariant (fun stance => Ending.Sound stance.phase stance.world) (Ending.Sound.start fs)
      fun _ _ sound moved => sound.move moved
  exact ⟨sound.timely receiver, fun confirmed state => sound.gone receiver state confirmed⟩

section Sample

namespace Ending

variable {ending : Ending Unit} {store : Store (Role Unit)}

/-- The only handler has begun a transfer. -/
def Busy (ending : Ending Unit) : Prop :=
  ∃ receiver, ending.roster.begun () = some receiver ∧ ending.store.receivers receiver ≠ none

/-- While no task has a frame in its hands, a single handler whose calls do not fail is quiet. -/
theorem runs_handler [Blake3] {config : Control.Config} {program rest : ControlProg ControlState}
    (idle : ∀ task, ending.pending task = none)
    (ran : Runs (Store.controlSem False (Role.control ())) program ending.store rest store) :
    ∃ ending', Runs (((system config).guarded Quiet).sem (.control ())) program ending rest ending' ∧
      ending'.store = store ∧ (∀ task, ending'.pending task = none) ∧
        (∀ receiver, ending.confirmed receiver → ending'.confirmed receiver) ∧
          (ending.Busy → ending'.Busy) := by
  refine Runs.lift Ending.store (fun world => (∀ task, world.pending task = none) ∧
    (∀ receiver, ending.confirmed receiver → world.confirmed receiver) ∧
      (ending.Busy → world.Busy)) ?_ ⟨idle, fun _ => id, id⟩ ran
  intro op world answer after kept acted
  obtain ⟨idle, confirmed, busy⟩ := kept
  have settled : ∀ receiver, world.Settled receiver := by
    intro receiver task frame _ there
    cases (idle task).symm.trans there
  have timely : Timely (.control ()) op world answer := by
    cases op with
    | fs op =>
        cases op with
        | create path => exact fun receiver _ _ => settled receiver
        | remove path =>
            intro _ _ _ _
            obtain ⟨_, called, _⟩ := acted
            obtain ⟨_, removed, _⟩ | ⟨absent, _⟩ := called
            · exact .inl removed
            · exact .inr (absent.resolve_right id)
        | _ => trivial
    | removeReceiver => exact fun receiver _ => settled receiver
    | _ => trivial
  have quiet : Quiet (.control ()) op world answer :=
    ⟨timely, fun other receiver different => absurd rfl different⟩
  refine ⟨_, ⟨quiet, after, acted.mono, rfl⟩, rfl, idle, fun receiver before => ?_, fun before => ?_⟩
  · exact .inl (confirmed receiver before)
  · obtain ⟨receiver, begun, present⟩ := busy before
    cases op with
    | newReceiver state =>
        obtain ⟨_, same⟩ := acted
        refine ⟨answer, ?_, ?_⟩
        · exact Function.update_self () (some answer) world.roster.begun
        · rw [same]
          simp
    | _ => exact ⟨receiver, begun, acted.grows present⟩

/-- Before the end of any transfer a task is quiet, whatever it does. -/
theorem acts_quiet [Blake3] (config : Control.Config) {task : Nat} {op : DataOp} {answer : op.Res}
    (open_ : ∀ receiver, ¬ ending.ended receiver)
    (acted : Store.dataSem False (Role.data task) op ending.store answer store) :
    ((system config).guarded Quiet).sem (.data task) op ending answer
      { noteData task op answer ending with store := store } := by
  have timely : Timely (.data task) op ending answer := by
    cases op with
    | recvFrame =>
        cases answer with
        | error error => trivial
        | ok frame => exact fun receiver _ ended => absurd ended (open_ receiver)
    | _ => trivial
  have quiet : Quiet (.data task) op ending answer :=
    ⟨timely, fun receiver _ ended => absurd ended (open_ receiver)⟩
  exact ⟨quiet, store, acted.mono, rfl⟩

theorem runs_task [Blake3] {config : Control.Config} {α : Type} {program rest : DataProg α}
    {task : Nat} (open_ : ∀ receiver, ¬ ending.ended receiver)
    (others : ∀ other, other ≠ task → ending.pending other = none)
    (ran : Runs (Store.dataSem False (Role.data task)) program ending.store rest store) :
    ∃ ending', Runs (((system config).guarded Quiet).sem (.data task)) program ending rest ending' ∧
      ending'.store = store ∧ (∀ receiver, ¬ ending'.ended receiver) ∧
        ∀ other, other ≠ task → ending'.pending other = none := by
  refine Runs.lift Ending.store (fun world => (∀ receiver, ¬ world.ended receiver) ∧
    ∀ other, other ≠ task → world.pending other = none) ?_ ⟨open_, others⟩ ran
  intro op world answer after kept acted
  obtain ⟨open_, others⟩ := kept
  refine ⟨_, acts_quiet config open_ acted, rfl, open_, fun other different => ?_⟩
  exact (Function.update_of_ne different _ _).trans (others other different)

/-- A task that has acknowledged its chunk has nothing in its hands any more. -/
theorem followsChunk [Blake3] (config : Control.Config) (task : Nat) (receiver : ReceiverId)
    (state : FileReceiver) (frame : Bytes) (chunk : ChunkInHand) :
    FollowsChunk (((system config).guarded Quiet).sem (.data task)) (@Ending.store Unit) (.data task)
      receiver state frame chunk fun stage world => (∀ receiver, ¬ world.ended receiver) ∧
        (∀ other, other ≠ task → world.pending other = none) ∧
          (stage = .acknowledged → world.pending task = none) := by
  intro stage op answer stage' world after turned kept acted
  obtain ⟨open_, others, _⟩ := kept
  refine ⟨_, acts_quiet config open_ acted, rfl, open_, fun other different => ?_, ?_⟩
  · exact (Function.update_of_ne different _ _).trans (others other different)
  · intro done
    cases turned with
    | acknowledge => exact Function.update_self _ _ _
    | _ => cases done

/-- As long as the handler waits, its transfer has been begun and not ended. -/
theorem open_of_waiting [Blake3] [KeyOrder] {config : Control.Config} {fs : Fs FilePath}
    {pool : Pool (@Role.sig Unit) Role.Ctl (Ending Unit)}
    (reached : Reaches ((system config).guarded Quiet) (fun _ => True)
      (serverStart config (initial fs)) pool) {transfer : Transfer}
    (waiting : pool.prog (.control ()) = .ret (.waiting transfer)) :
    pool.world.Busy ∧ ∀ receiver, ¬ pool.world.ended receiver := by
  obtain ⟨phase, moved, follows⟩ := server_moves config reached
  have sound : Sound phase pool.world :=
    moved.invariant (fun stance => Sound stance.phase stance.world) (Sound.start fs)
      fun _ _ sound moved => sound.move moved
  have serving := follows (.control ())
  rw [waiting] at serving
  obtain ⟨handshake, complete, serving⟩ := serving
  have begun := sound.fits.begun () transfer.receiver (by rw [serving]; rfl)
  refine ⟨⟨_, begun, sound.fits.present _ _ begun⟩, fun receiver ended => ?_⟩
  obtain ⟨handler, begun⟩ := sound.begun receiver ended
  have late := sound.late () receiver begun ended
  rw [serving] at late
  exact late

theorem reaches_received :
    let _ := Blake3.sample
    let _ := KeyOrder.increasing
    ∃ (pool : Pool (@Role.sig Unit) Role.Ctl (Ending Unit)) (handshake : HandshakeData),
      Reaches ((system Control.sampleConfig).guarded Quiet) (fun _ => True)
        (serverStart Control.sampleConfig (initial fun _ => none)) pool ∧
      pool.prog (.control ()) = .ret (.waiting ⟨handshake, 0, [45000]⟩) ∧
      pool.prog (.data 0) = .ret (.connected 45000 0) ∧
      (∀ task, pool.world.pending task = none) ∧
      ∃ store : Store (Role Unit), store.Ready 0 singleReceiver ∧
        (∀ receiver, receiver ≠ 0 → store.receivers receiver = none) ∧
        pool.world.store = store.receive 0 singleReceiver singleChunk := by
  intro _ _
  obtain ⟨handshake, parsed, name, chunks, created⟩ := parseHandshake_sampleHandshake
  obtain ⟨untried, ports⟩ := dataPorts_first
  have ports : dataPorts = [] ++ 45000 :: 45001 :: untried := ports
  have begun : Reaches ((system Control.sampleConfig).guarded Quiet) (fun _ => True)
    (serverStart Control.sampleConfig (initial fun _ => none : Ending Unit)) _ := .refl
  have ready : (((Store.initial fun _ => none).leave 0 singleReceiver).enlist 45000 0 :
    Store (Role Unit)).Ready 0 singleReceiver := ⟨rfl, rfl⟩
  have sole : ∀ receiver, receiver ≠ 0 → (((Store.initial fun _ => none).leave 0
      singleReceiver).enlist 45000 0 : Store (Role Unit)).receivers receiver = none :=
    fun receiver different => Function.update_of_ne different _ _
  have reads : Runs (Store.readSem (Role.control ()) Control.sampleHandshake fun _ => True)
      (Control.task Control.sampleConfig)
      (Store.initial fun _ => none : Store (Role Unit)) (.ret (.waiting ⟨handshake, 0, [45000]⟩))
      (((Store.initial fun _ => none).leave 0 singleReceiver).enlist 45000 0) := by
    rw [← created]
    exact Store.runs_handshake_new rfl parsed (by rw [chunks]; rfl) ports rfl rfl rfl rfl
      trivial (by rw [HandshakeData.receiver, chunks]; rfl)
  have accepts := reads.mono fun _ _ _ _ acted => acted.2
  have nothing : ∀ task, (initial fun _ => none : Ending Unit).pending task = none := fun _ => rfl
  obtain ⟨accepted, runs, stored, idle, _⟩ := runs_handler nothing accepts
  obtain ⟨pool₁, reached, step₁⟩ := begun.alone (.control ()) rfl rfl runs
  have open_ := (open_of_waiting reached step₁.prog).2
  rw [step₁.world] at open_
  rw [← stored] at ready sole
  have registered : accepted.store.registry 45000 = some 0 := by
    rw [stored]
    rfl
  -- a task receives the only chunk
  obtain ⟨started, runs, same, open_, others⟩ := runs_task open_ (fun other _ => idle other)
    (Store.runs_start 45000)
  obtain ⟨pool₂, reached, step₂⟩ := reached.alone (.data 0) (step₁.others (.data 0) (by simp))
    step₁.world runs
  rw [← same] at registered ready sole
  obtain ⟨connected, runs, same, open_, others⟩ := runs_task open_ others
    (Store.runs_connect registered)
  obtain ⟨pool₃, reached, step₃⟩ := reached.aloneAgain (.data 0) step₂.prog step₂.world rfl runs
  rw [← same] at ready sole
  obtain ⟨received, receives, same, _, others, idle⟩ :=
    (followsChunk Control.sampleConfig 0 0 singleReceiver _ singleChunk).receives ready
      (carries_singleChunk rfl) rfl ⟨open_, others, nofun⟩
  obtain ⟨pool₄, reached, step₄⟩ := reached.aloneAgain (.data 0) step₃.prog step₃.world rfl receives
  refine ⟨pool₄, handshake, reached, ?_, step₄.prog, fun task => ?_, connected.store, ready, sole, ?_⟩
  · rw [step₄.others _ (by simp), step₃.others _ (by simp), step₂.others _ (by simp)]
    exact step₁.prog
  · rw [step₄.world]
    by_cases here : task = 0
    · subst here
      exact idle rfl
    · exact others task here
  · rw [step₄.world]
    exact same

theorem reaches_confirmed :
    let _ := Blake3.sample
    let _ := KeyOrder.increasing
    ∃ pool : Pool (@Role.sig Unit) Role.Ctl (Ending Unit),
      Reaches ((system Control.sampleConfig).guarded Quiet) (fun _ => True)
        (serverStart Control.sampleConfig (initial fun _ => none)) pool ∧
      pool.prog (.data 0) = .ret (.connected 45000 0) ∧ pool.world.confirmed 0 ∧
      pool.world.store.Ready 0 (singleReceiver.recorded singleChunk) := by
  intro _ _
  obtain ⟨pool, handshake, reached, waiting, connected, idle, store, ready, sole, same⟩ :=
    reaches_received
  let state := singleReceiver.recorded singleChunk
  have ready : pool.world.store.Ready 0 state := by
    rw [same]
    exact ⟨ready.free, Store.leave_self⟩
  have sole : ∀ receiver, receiver ≠ 0 → pool.world.store.receivers receiver = none := by
    intro receiver different
    rw [same]
    exact (Function.update_of_ne different _ _).trans (sole receiver different)
  have part : pool.world.store.fs (state.partPath 0) = some [0x61] := by
    rw [same]
    exact Store.receive_partPath
  have record : pool.world.store.fs state.metaPath = some state.metadata.toBytes := by
    rw [same]
    exact Store.receive_metaPath
  have assembles : Runs (FsOp.Sem False) (state.assemble 10) pool.world.store.fs
      (.ret (.ok true)) _ :=
    Store.runs_assemble rfl part record nofun (by decide) rfl
  have builds : Runs (Store.controlSem False (Role.control ()))
      ((Control.waitForCompletion Control.sampleConfig.reads ⟨handshake, 0, [45000]⟩).bind
        Control.closing) pool.world.store (Control.reporting ⟨handshake, 0, [45000]⟩) _ :=
    Store.runs_of_within (Store.runs_reporting ready rfl rfl assembles)
  obtain ⟨built, runs, same, idle, _, busy⟩ := runs_handler idle builds
  obtain ⟨receiver, mine, present⟩ := busy (open_of_waiting reached waiting).1
  have first : receiver = 0 := by
    by_contra different
    rw [same] at present
    exact present (sole receiver different)
  subst first
  have quiet : Quiet (.control ()) (.sendFrame [Control.finalStatus true]) built (.ok ()) :=
    ⟨trivial, fun other receiver different => absurd rfl different⟩
  have send : ((system Control.sampleConfig).guarded Quiet).sem (.control ())
      (.sendFrame [Control.finalStatus true]) built (.ok ()) _ := ⟨quiet, built.store, rfl, rfl⟩
  have idle : ∀ task, ({ noteControl () (.sendFrame [Control.finalStatus true]) (.ok ()) built with
    store := built.store } : Ending Unit).pending task = none := idle
  obtain ⟨cleaned, cleans, same', _, confirmed, _⟩ := runs_handler idle Store.runs_cleanup
  obtain ⟨pool', reached, step⟩ := reached.aloneAgain (.control ()) waiting rfl rfl
    (runs.trans (.vis (.ok ()) send cleans))
  refine ⟨pool', reached, (step.others _ (by simp)).trans connected, ?_, ?_⟩
  · rw [step.world]
    exact confirmed 0 (.inr ⟨mine, rfl⟩)
  · rw [step.world, same', same]
    exact ⟨ready.free, ready.found⟩

end Ending

/-- Nothing is left of it. -/
theorem no_late_writes_confirmed :
    let _ := Blake3.sample
    let _ := KeyOrder.increasing
    ∃ pool : Pool (@Role.sig Unit) Role.Ctl (Ending Unit),
      Reaches ((Ending.system Control.sampleConfig).guarded Ending.Quiet) (fun _ => True)
        (serverStart Control.sampleConfig (Ending.initial fun _ => none)) pool ∧
      pool.world.confirmed 0 ∧ ¬ pool.world.late 0 ∧
      (singleReceiver.recorded singleChunk).Gone pool.world.store.fs := by
  intro _ _
  obtain ⟨pool, reached, _, confirmed, ready⟩ := Ending.reaches_confirmed
  obtain ⟨timely, gone⟩ := no_late_writes Control.sampleConfig (fun _ => none) reached 0
  exact ⟨pool, reached, confirmed, timely, gone confirmed _ ready.found⟩

/-- The task gets the same chunk once more, and its part is there again. -/
theorem late_write :
    let _ := Blake3.sample
    let _ := KeyOrder.increasing
    ∃ pool : Pool (@Role.sig Unit) Role.Ctl (Ending Unit),
      Reaches (Ending.system Control.sampleConfig) (fun _ => True)
        (serverStart Control.sampleConfig (Ending.initial fun _ => none)) pool ∧
      ∃ receiver state, pool.world.confirmed receiver ∧
        pool.world.store.receivers receiver = some state ∧ ¬ state.Gone pool.world.store.fs := by
  intro _ _
  obtain ⟨pool, reached, connected, confirmed, ready⟩ := Ending.reaches_confirmed
  have follows : FollowsChunk (Ending.acts (.data 0)) (@Ending.store Unit) (.data 0) 0
      (singleReceiver.recorded singleChunk) (Client.chunkMessage 0 0 [0x61]).flatten singleChunk
        fun _ world => world.confirmed 0 :=
    fun _ _ _ _ _ after _ confirmed acted => ⟨_, ⟨after, acted.mono, rfl⟩, rfl, confirmed⟩
  obtain ⟨late, runs, same, confirmed⟩ := follows.stores ready (carries_singleChunk rfl) rfl confirmed
  obtain ⟨pool', reached, step⟩ := reached.unguarded.aloneAgain (.data 0) connected rfl rfl runs
  refine ⟨pool', reached, 0, singleReceiver.recorded singleChunk, ?_, ?_, fun gone => ?_⟩
  · rw [step.world]
    exact confirmed
  · rw [step.world, same]
    exact ready.found
  · have onDisk := gone.1 0 Nat.zero_lt_one
    rw [step.world, same] at onDisk
    cases (Store.put_self _ _).symm.trans onDisk

end Sample

end BeeSync.Server
