import BeeSync.Server.Assembly
import BeeSync.Server.Store
import BeeSync.Server.TransferFiles

/-!
# The final status

A handler reports success only for a file with the announced hash: whatever frames
arrive on the data connections, whatever the directories contain, and whoever else
changes files other than the output file of the transfer.
-/

set_option autoImplicit false

namespace BeeSync.Server

open Encoding Interaction

/-- The parties around one transfer: its handler, data server tasks, and everything
else that changes files. -/
inductive Party where
  | control
  | data (task : Nat)
  | others
  deriving DecidableEq

@[reducible] def OthersSig : Sig := ⟨Unit, fun _ => FilePath × Option Bytes⟩

@[reducible] def Party.sig : Party → Sig
  | .control => ControlSig
  | .data _ => DataSig
  | .others => OthersSig

@[reducible] def Party.Ctl : Party → Type
  | .control => ControlState
  | .data _ => DataState
  | .others => Unit

structure Reception where
  store : Store Party
  /-- The frame the handler received as a handshake. -/
  handshake : Option Bytes
  /-- The files when the handler last released its receiver, as it does when `assemble`
  has returned. -/
  released : Fs FilePath

namespace Reception

/-- The handshake of the transfer. -/
def Accepted (reception : Reception) (handshake : HandshakeData) : Prop :=
  ∃ data, reception.handshake = some data ∧ parseHandshake data = .ok handshake

/-- The output file of a handshake. -/
def outputPath (config : Control.Config) (handshake : HandshakeData) : FilePath :=
  ⟨config.outputDir, handshake.safeName⟩

/-- Any call on files may fail. The handshake is kept in mind, and the files as they are
when the handler releases its receiver. -/
def controlSem : (op : ControlOp) → Reception → op.Res → Reception → Prop
  | .recvFrame, reception, answer, reception' =>
      match answer with
      | .ok data => reception' = { reception with handshake := some data }
      | .error _ => reception' = reception
  | .unlock receiver state, reception, _, reception' => ∃ store,
      Store.unlockSem receiver state reception.store store ∧
        reception' = { reception with store := store, released := reception.store.fs }
  | op, reception, answer, reception' => ∃ store,
      Store.controlSem True Party.control op reception.store answer store ∧
        reception' = { reception with store := store }

def dataSem (task : Nat) (op : DataOp) (reception : Reception) (answer : op.Res)
    (reception' : Reception) : Prop :=
  ∃ store, Store.dataSem True (Party.data task) op reception.store answer store ∧
    reception' = { reception with store := store }

/-- Anything else may change any file but the output file. -/
def othersSem (config : Control.Config) (reception : Reception)
    (change : FilePath × Option Bytes) (reception' : Reception) : Prop :=
  (∀ handshake, reception.Accepted handshake → change.1 ≠ outputPath config handshake) ∧
    reception' = { reception with store := { reception.store with
      fs := Function.update reception.store.fs change.1 change.2 } }

def sem (config : Control.Config) : (party : Party) → (op : party.sig.Op) → Reception →
    party.sig.Res op → Reception → Prop
  | .control => controlSem
  | .data task => dataSem task
  | .others => fun _ => othersSem config

/-- The program of everything else: one change of a file after the other. -/
def others : Prog OthersSig Unit :=
  .vis () fun _ => .ret ()

variable [Blake3] [KeyOrder]

def system (config : Control.Config) : System Party Party.sig Party.Ctl Reception where
  sem := sem config
  again
    | .control => Control.again config
    | .data _ => Data.again
    | .others => fun _ => some others

/-- A handler about to run over arbitrary files. -/
def start (config : Control.Config) (fs : Fs FilePath) :
    Pool Party.sig Party.Ctl Reception where
  prog
    | .control => Control.task config
    | .data _ => Data.task
    | .others => others
  world := ⟨.initial fs, none, fs⟩

end Reception

namespace FinalStatus

variable {config : Control.Config}

/-- A receiver of the transfer. -/
def Of (config : Control.Config) (handshake : HandshakeData) (state : FileReceiver) : Prop :=
  state.filename = handshake.safeName ∧ state.outputDir = config.outputDir ∧
    state.fullHash = handshake.fullHash

theorem Of.congr {handshake : HandshakeData} {state state' : FileReceiver}
    (of : Of config handshake state) (same : state'.params = state.params) :
    Of config handshake state' := by
  obtain ⟨name, dir, hash⟩ := of
  exact ⟨(congrArg FileReceiver.Params.filename same).trans name,
    (congrArg FileReceiver.Params.outputDir same).trans dir,
    (congrArg FileReceiver.Params.fullHash same).trans hash⟩

variable [Blake3]

/-- The handler saw the output file with the announced hash when it released the
receiver. -/
def Delivered (config : Control.Config) (handshake : HandshakeData) (reception : Reception) :
    Prop :=
  ∃ content, reception.released (Reception.outputPath config handshake) = some content ∧
    calcHash content = handshake.fullHash

/-- The handshake stays, and the output file is the handler's. -/
structure Respects (config : Control.Config) (before after : Reception) : Prop where
  handshake : after.handshake = before.handshake
  released : after.released = before.released
  output : ∀ handshake, before.Accepted handshake →
    after.store.fs (Reception.outputPath config handshake) =
      before.store.fs (Reception.outputPath config handshake)

def contract (config : Control.Config) : Contract Party.sig Party.Ctl Reception where
  inv := fun reception => ∀ receiver state, reception.store.receivers receiver = some state →
    ∃ handshake, reception.Accepted handshake ∧ Of config handshake state
  guar
    | .control => fun before after => ∀ data, before.handshake = some data →
        after.handshake = some data
    | .data _ | .others => Respects config
  ob
    | .control => fun
      | .sendFrame payload => fun reception => payload = [Handshake.respOk] →
          ∃ handshake, reception.Accepted handshake ∧ Delivered config handshake reception
      | _ => fun _ => True
    | .data _ | .others => fun _ _ => True
  post
    | .control => fun
      | .waiting transfer => fun reception => reception.Accepted transfer.handshake
      | _ => fun _ => True
    | .data _ | .others => fun _ _ => True

abbrev protocol (config : Control.Config) (party : Party) : Protocol party.sig Reception :=
  (contract config).protocol (Reception.system config) (fun _ => True) party

section Handler

variable {handshake : HandshakeData}

private theorem control_interf {before after : Reception}
    (moved : (protocol config .control).interf before after) : Respects config before after := by
  obtain ⟨other, different, step⟩ := moved
  cases other with
  | control => exact absurd rfl different
  | data task => exact step
  | others => exact step

omit [Blake3] in
private theorem Respects.accepted {before after : Reception} (respects : Respects config before after)
    (accepted : before.Accepted handshake) : after.Accepted handshake := by
  obtain ⟨data, known, parsed⟩ := accepted
  exact ⟨data, respects.handshake.trans known, parsed⟩

private theorem stable_accepted :
    (protocol config .control).Stable fun reception => reception.Accepted handshake :=
  fun _ _ _ accepted moved _ => (control_interf moved).accepted accepted

private theorem stable_delivered (given : Prop) :
    (protocol config .control).Stable fun reception =>
      reception.Accepted handshake ∧ (given → Delivered config handshake reception) := by
  intro before after _ ⟨accepted, delivered⟩ moved _
  have respects := control_interf moved
  refine ⟨respects.accepted accepted, fun holds => ?_⟩
  rw [Delivered, respects.released]
  exact delivered holds

/-- Operations of the handler that no assertion here depends on. -/
def Quiet : ControlOp → Prop
  | .recvFrame | .newReceiver _ | .unlock _ _ => False
  | .sendFrame payload => payload ≠ [Handshake.respOk]
  | _ => True

private theorem step_heard (kept : Option Bytes → Prop) {op : ControlOp} (quiet : Quiet op) :
    (protocol config .control).Step (fun reception => kept reception.handshake) op
      fun _ reception => kept reception.handshake := by
  intro reception inv holds
  refine ⟨?_, ?_⟩
  · cases op <;> first | trivial | exact fun same => absurd same quiet
  · rintro answer after ⟨acted, _⟩
    have left : after.handshake = reception.handshake ∧
        after.store.receivers = reception.store.receivers := by
      cases op with
      | recvFrame | newReceiver | unlock => cases quiet
      | fs op =>
          obtain ⟨_, ⟨_, _, rfl⟩, rfl⟩ := acted
          exact ⟨rfl, rfl⟩
      | lock receiver =>
          obtain ⟨_, ⟨_, _, rfl⟩, rfl⟩ := acted
          exact ⟨rfl, rfl⟩
      | registerReceivers | removeReceiver =>
          obtain ⟨_, rfl, rfl⟩ := acted
          exact ⟨rfl, rfl⟩
      | _ =>
          obtain ⟨_, rfl, rfl⟩ := acted
          exact ⟨rfl, rfl⟩
    have same : ∀ handshake, reception.Accepted handshake → after.Accepted handshake :=
      fun handshake ⟨data, known, parsed⟩ => ⟨data, left.1.trans known, parsed⟩
    refine ⟨fun data known => left.1.trans known, fun receiver state found => ?_, ?_⟩
    · rw [left.2] at found
      obtain ⟨handshake, accepted, of⟩ := inv receiver state found
      exact ⟨handshake, same handshake accepted, of⟩
    · change kept after.handshake
      rw [left.1]
      exact holds

private theorem step_quiet {op : ControlOp} (quiet : Quiet op) :
    (protocol config .control).Step (fun reception => reception.Accepted handshake) op
      fun _ reception => reception.Accepted handshake :=
  step_heard (fun heard => ∃ data, heard = some data ∧ parseHandshake data = .ok handshake) quiet

private theorem quiet_triple {α : Type} {program : ControlProg α} (quiet : program.All Quiet) :
    Triple (protocol config .control) (fun reception => reception.Accepted handshake) program
      fun _ reception => reception.Accepted handshake :=
  .uniform stable_accepted quiet fun _ => step_quiet

omit [Blake3] in
private theorem fs_quiet {α : Type} (program : FsProg FilePath α) :
    (Control.onFs program).All Quiet :=
  .embed (.of_forall (fun _ => trivial) program)

private theorem step_lock (receiver : ReceiverId) :
    (protocol config .control).Step (fun reception => reception.Accepted handshake)
      (.lock receiver) fun state reception =>
        reception.Accepted handshake ∧ Of config handshake state := by
  intro reception inv accepted
  have quiet : Quiet (.lock receiver) := trivial
  obtain ⟨ob, acts⟩ := step_quiet quiet reception inv accepted
  refine ⟨ob, fun state after acted => ?_⟩
  obtain ⟨guar, inv', accepted'⟩ := acts state after acted
  obtain ⟨⟨_, ⟨_, found, _⟩, _⟩, _⟩ := acted
  obtain ⟨other, known, of⟩ := inv receiver state found
  obtain ⟨data, received, parsed⟩ := accepted
  obtain ⟨data', received', parsed'⟩ := known
  cases received.symm.trans received'
  cases parsed.symm.trans parsed'
  exact ⟨guar, inv', accepted', of⟩

private theorem step_unlock (receiver : ReceiverId) {state : FileReceiver}
    {before : Reception → Prop} (after : Reception → Prop) (of : Of config handshake state)
    (seen : ∀ reception, before reception → reception.Accepted handshake)
    (later : ∀ reception store, store.fs = reception.store.fs → before reception →
      after { reception with store := store, released := reception.store.fs }) :
    (protocol config .control).Step before (.unlock receiver state) fun _ => after := by
  refine fun reception inv holds => ⟨trivial, ?_⟩
  rintro _ _ ⟨⟨store, rfl, rfl⟩, _⟩
  refine ⟨fun data known => known, fun other state' found => ?_, later reception _ rfl holds⟩
  dsimp only at found
  by_cases same : other = receiver
  · subst same
    rw [Function.update_self] at found
    cases found
    exact ⟨handshake, seen reception holds, of⟩
  · rw [Function.update_of_ne same] at found
    exact inv other state' found

private theorem unlock_triple {α : Type} (receiver : ReceiverId) {state : FileReceiver}
    (of : Of config handshake state) {rest : ControlProg α} {post : α → Reception → Prop}
    (following : Triple (protocol config .control) (fun reception => reception.Accepted handshake)
      rest post) :
    Triple (protocol config .control) (fun reception => reception.Accepted handshake)
      ((Control.call (.unlock receiver state)).bind fun _ => rest) post :=
  .step _ stable_accepted
    (step_unlock receiver (fun reception => reception.Accepted handshake) of (fun _ => id)
      fun _ _ _ ⟨data, known, parsed⟩ => ⟨data, known, parsed⟩) fun _ => following

/-- A program that goes on from what the handler sees under the lock. -/
private theorem lock_triple {α : Type} (receiver : ReceiverId)
    {rest : FileReceiver → ControlProg α} {post : α → Reception → Prop}
    (following : ∀ state, Of config handshake state →
      Triple (protocol config .control) (fun reception => reception.Accepted handshake)
        (rest state) post) :
    Triple (protocol config .control) (fun reception => reception.Accepted handshake)
      ((Control.call (.lock receiver)).bind rest) post := by
  refine .step _ stable_accepted (step_lock receiver) fun state => ?_
  exact fun reception inv ⟨accepted, of⟩ => following state of reception inv accepted

private theorem resume_triple [KeyOrder] (receiver : ReceiverId) :
    Triple (protocol config .control) (fun reception => reception.Accepted handshake)
      (Control.resume receiver) fun _ reception => reception.Accepted handshake := by
  have ends : ∀ result : Option Bool,
      Triple (protocol config .control) (fun reception => reception.Accepted handshake)
        (.ret result) fun _ reception => reception.Accepted handshake := fun _ =>
    .ret stable_accepted fun _ _ accepted => accepted
  refine lock_triple receiver fun state of => ?_
  refine .bind _ (quiet_triple (fs_quiet _)) fun loaded => ?_
  cases loaded with
  | none => exact unlock_triple receiver of (ends _)
  | some metadata =>
      dsimp only
      split
      · exact ends _
      · rename_i marked all
        have same : (marked.setMetadata metadata).params = state.params :=
          (FileReceiver.params_setMetadata marked metadata).trans (FileReceiver.params_markAll all)
        exact unlock_triple receiver (of.congr same) (ends _)

/-- The handler's calls on files. -/
private abbrev filesProtocol (config : Control.Config) : Protocol (FsSig FilePath) Reception :=
  (protocol config .control).comap ControlOp.fs fun _ answer => answer

private def filesOf (reception : Reception) : Fs FilePath := reception.store.fs

private theorem step_fs {op : FsOp FilePath} {before : Reception → Prop}
    {after : op.Res → Reception → Prop}
    (acts : ∀ reception answer fs, before reception → op.Sem True reception.store.fs answer fs →
      after answer { reception with store := { reception.store with fs := fs } }) :
    (filesProtocol config).Step before op after := by
  refine fun reception inv holds => ⟨trivial, ?_⟩
  rintro _ _ ⟨answer, rfl, ⟨_, ⟨fs, acted, rfl⟩, rfl⟩, _⟩
  exact ⟨fun data known => known, inv, acts reception answer fs holds acted⟩

private theorem stable_output {content : Bytes} :
    (filesProtocol config).Stable (Holding filesOf (fun reception => reception.Accepted handshake)
      (Reception.outputPath config handshake) content) := by
  intro before after _ ⟨accepted, holds⟩ moved _
  have respects := control_interf moved
  exact ⟨respects.accepted accepted, (respects.output handshake accepted).trans holds⟩

private theorem writable_output :
    Writable (filesProtocol config) filesOf (fun reception => reception.Accepted handshake)
      (fun reception => reception.Accepted handshake) (Reception.outputPath config handshake) where
  stable := stable_accepted
  stable_failed := stable_accepted
  stable_content := fun _ => stable_output
  create := by
    refine step_fs fun reception answer fs accepted acted => ?_
    obtain ⟨rfl, rfl⟩ | ⟨_, rfl, error, rfl⟩ := acted
    · exact ⟨accepted, Function.update_self _ _ _⟩
    · exact accepted
  write := fun content byte => by
    refine step_fs fun reception answer fs ⟨accepted, holds⟩ acted => ?_
    obtain ⟨rfl, rfl⟩ | ⟨_, rfl, error, rfl⟩ := acted
    · refine ⟨accepted, (Function.update_self _ _ _).trans ?_⟩
      have known : reception.store.fs (Reception.outputPath config handshake) = some content := holds
      rw [known, Option.map_some, putByte_end]
    · exact accepted

private theorem step_beside {op : FsOp FilePath} {content : Bytes}
    (beside : ¬ op.writes (Reception.outputPath config handshake)) :
    (filesProtocol config).Step (Holding filesOf (fun reception => reception.Accepted handshake)
      (Reception.outputPath config handshake) content) op fun _ =>
        Holding filesOf (fun reception => reception.Accepted handshake)
          (Reception.outputPath config handshake) content :=
  step_fs fun _ _ _ ⟨accepted, holds⟩ acted => ⟨accepted, (acted.frame beside).trans holds⟩

omit [Blake3] in
private theorem Of.finalPath {state : FileReceiver} (of : Of config handshake state) :
    state.finalPath = Reception.outputPath config handshake := by
  obtain ⟨name, dir, _⟩ := of
  rw [FileReceiver.finalPath, Reception.outputPath, name, dir]

omit [Blake3] in
private theorem Of.ne_output {state : FileReceiver} (of : Of config handshake state)
    {path : FilePath} (auxiliary : FileReceiver.Auxiliary state.params path) :
    Reception.outputPath config handshake ≠ path := by
  rintro rfl
  have longer : state.filename.length < handshake.safeName.length := auxiliary
  rw [of.1] at longer
  exact lt_irrefl _ longer

private theorem assembling {state : FileReceiver} (of : Of config handshake state) (reads : Nat) :
    FileReceiver.Assembling (filesProtocol config) filesOf state reads
      (fun reception => reception.Accepted handshake) (fun _ reception => reception.Accepted handshake)
      (fun reception => reception.Accepted handshake)
      (fun reception => reception.Accepted handshake) fun _ => none := by
  have part := fun i => of.ne_output (state.auxiliary_partPath i)
  have same := of.finalPath
  have beside : ∀ {content : Bytes} (op : FsOp FilePath),
      ¬ op.writes (Reception.outputPath config handshake) →
        (filesProtocol config).Step (Holding filesOf
          (fun reception => reception.Accepted handshake)
          (Reception.outputPath config handshake) content) op fun _ => Holding filesOf
            (fun reception => reception.Accepted handshake)
            (Reception.outputPath config handshake) content := fun _ => step_beside
  constructor
  · exact stable_accepted
  · rw [same]
    refine writable_output.create.conseq (fun _ _ holds => holds) fun answer _ _ holds => ?_
    cases answer <;> exact holds
  · exact fun _ => same ▸ writable_output.toAppendable
  · exact fun _ => same ▸ stable_output
  all_goals rw [same]
  · intro i left content
    refine (beside (.exists_ (state.partPath i)) id).conseq (fun _ _ holds => holds) ?_
    rintro (_ | _ | _) _ _ holds
    exacts [holds.1, holds.1, holds]
  · intro i left content
    refine (beside (.openRead (state.partPath i)) id).conseq (fun _ _ holds => holds) ?_
    rintro (_ | _) _ _ holds
    exacts [holds.1, holds]
  · intro i left content offset
    refine (beside (.readAt (state.partPath i) offset bufferSize) id).conseq
      (fun _ _ holds => holds) ?_
    rintro (_ | _) _ _ holds
    exacts [holds.1, ⟨holds, nofun⟩]
  · exact fun _ _ _ _ _ _ _ => ⟨trivial, nofun⟩
  · intro i left content
    refine (beside (.remove (state.partPath i)) (part i)).conseq (fun _ _ holds => holds) ?_
    rintro (_ | _) _ _ holds
    exacts [holds.1, holds]
  · exact fun _ => step_beside (of.ne_output state.auxiliary_metaPath)

private theorem assembleFile_triple (reads : Nat) (receiver : ReceiverId) :
    Triple (protocol config .control) (fun reception => reception.Accepted handshake)
      (Control.assembleFile reads receiver) fun result reception =>
        reception.Accepted handshake ∧
          (result = .ok true → Delivered config handshake reception) := by
  refine lock_triple receiver fun state of => ?_
  have assemble := (assembling of reads).assemble
  refine .bind _ assemble.embed fun result => ?_
  have stable : (protocol config .control).Stable fun reception =>
      reception.Accepted handshake ∧ (result = .ok true → ∃ content,
        reception.store.fs (Reception.outputPath config handshake) = some content ∧
          calcHash content = handshake.fullHash) := by
    intro before after _ ⟨accepted, written⟩ moved _
    have respects := control_interf moved
    refine ⟨respects.accepted accepted, fun success => ?_⟩
    rw [respects.output handshake accepted]
    exact written success
  refine .conseq (.step (fun _ reception => reception.Accepted handshake ∧
    (result = .ok true → Delivered config handshake reception)) stable ?_ fun _ =>
      .ret (stable_delivered _) fun _ _ holds => holds) ?_ fun _ _ _ holds => holds
  · refine step_unlock receiver _ of (fun _ holds => holds.1) ?_
    rintro reception store same ⟨⟨data, known, parsed⟩, written⟩
    exact ⟨⟨data, known, parsed⟩, written⟩
  · intro reception _ assembled
    cases result with
    | error error => exact ⟨assembled, nofun⟩
    | ok same =>
        obtain ⟨content, ⟨accepted, holds⟩, _, decided⟩ | ⟨rfl, accepted⟩ := assembled
        · refine ⟨accepted, fun success => ⟨content, of.finalPath ▸ holds, ?_⟩⟩
          cases success
          exact (of_decide_eq_true decided.symm).trans of.2.2
        · exact ⟨accepted, nofun⟩

omit [Blake3] in
private theorem response_quiet (status : UInt8) (ports : List UInt16) :
    (Control.sendHandshakeResponse status ports).All Quiet := by
  refine .call fun same => ?_
  cases same

private theorem returns {before : Reception → Prop}
    (stable : (protocol config .control).Stable before) (result : Except IoError Unit) :
    Triple (protocol config .control) before (.ret (.returned result))
      ((contract config).post .control) :=
  .ret stable fun _ _ _ => trivial

private theorem rejects (status : UInt8) :
    Triple (protocol config .control) (fun reception => reception.Accepted handshake)
      (Control.answer status) ((contract config).post .control) :=
  .bind _ (quiet_triple (response_quiet status [])) fun result => returns stable_accepted result

private theorem report_triple {α : Type} (handshake : HandshakeData) (success : Bool) {rest : ControlProg α}
    {post : α → Reception → Prop}
    (following : Triple (protocol config .control) (fun reception => reception.Accepted handshake)
      rest post) :
    Triple (protocol config .control) (fun reception => reception.Accepted handshake ∧
      (success = true → Delivered config handshake reception))
      ((Control.call (.sendFrame [Control.finalStatus success])).bind fun _ => rest) post := by
  refine .step (fun _ reception => reception.Accepted handshake) (stable_delivered _) ?_
    fun _ => following
  rintro reception inv ⟨accepted, delivered⟩
  refine ⟨fun ok => ⟨handshake, accepted, delivered ?_⟩, ?_⟩
  · cases success with
    | true => rfl
    | false => cases ok
  · rintro _ _ ⟨⟨_, rfl, rfl⟩, _⟩
    exact ⟨fun data known => known, inv, accepted⟩

omit [Blake3] in
private theorem cleanup_quiet (ports : List UInt16) : (Control.cleanup ports).All Quiet := by
  refine .bind ?_ fun _ => ?_
  · induction ports with
    | nil => trivial
    | cons port rest ih => exact .bind (.call trivial) fun _ => ih
  · split
    · exact .call trivial
    · trivial

private theorem finish_triple (reads : Nat) (transfer : Transfer) :
    Triple (protocol config .control)
      (fun reception => reception.Accepted transfer.handshake)
      (Control.finish reads transfer) ((contract config).post .control) := by
  refine lock_triple transfer.receiver fun state of => unlock_triple transfer.receiver of ?_
  refine lock_triple transfer.receiver fun state of => unlock_triple transfer.receiver of ?_
  have failed : Triple (protocol config .control)
      (fun reception => reception.Accepted transfer.handshake) (.ret false)
      fun success reception => reception.Accepted transfer.handshake ∧
        (success = true → Delivered config transfer.handshake reception) :=
    .ret stable_accepted fun _ _ accepted => ⟨accepted, nofun⟩
  refine .bind (fun success reception => reception.Accepted transfer.handshake ∧
    (success = true → Delivered config transfer.handshake reception)) ?_ fun success => ?_
  · split
    · exact failed
    · split
      · exact failed
      · refine .recover _ (assembleFile_triple reads transfer.receiver) (fun _ => ?_) fun success => ?_
        · exact failed.conseq (fun _ _ holds => holds.1) fun _ _ _ holds => holds
        · refine .ret (stable_delivered _) fun _ _ ⟨accepted, delivered⟩ => ⟨accepted, fun same => ?_⟩
          exact delivered (congrArg Except.ok same)
  · exact report_triple _ success (.bind _ (quiet_triple (cleanup_quiet _)) fun _ =>
      returns stable_accepted _)

private theorem waitForCompletion_triple (reads : Nat) (transfer : Transfer) :
    Triple (protocol config .control) (fun reception => reception.Accepted transfer.handshake)
      (Control.waitForCompletion reads transfer) ((contract config).post .control) := by
  refine lock_triple transfer.receiver fun state of => unlock_triple transfer.receiver of ?_
  split
  · exact finish_triple reads transfer
  · refine .bind _ (quiet_triple (.call trivial)) fun poll => ?_
    cases poll with
    | idle | data => exact .ret stable_accepted fun _ _ accepted => accepted
    | disconnected => exact finish_triple reads transfer

private theorem confirmComplete_triple (receiver : ReceiverId) :
    Triple (protocol config .control) (fun reception => reception.Accepted handshake)
      (Control.confirmComplete config receiver) ((contract config).post .control) := by
  refine .recover _ (quiet_triple (response_quiet _ _)) (fun _ => returns stable_accepted _)
    fun _ => ?_
  refine .bind _ (assembleFile_triple config.reads receiver) fun result => ?_
  refine (report_triple handshake _ (returns stable_accepted _)).conseq ?_ fun _ _ _ holds => holds
  rintro reception _ ⟨accepted, delivered⟩
  refine ⟨accepted, fun success => delivered ?_⟩
  rcases result with error | (_ | _)
  · cases success
  · cases success
  · rfl

omit [Blake3] in
private theorem allocate_quiet (count maxParallel : Nat) :
    (Control.allocateSockets count maxParallel).All Quiet := by
  have next : ∀ untried, (Control.bindNext untried).All Quiet := by
    intro untried
    induction untried with
    | nil => trivial
    | cons port rest ih => exact .recover (.call trivial) (fun _ => ih) fun _ => trivial
  have loop : ∀ turns untried sockets, (Control.bindLoop turns untried sockets).All Quiet := by
    intro turns
    induction turns with
    | zero => exact fun _ _ => trivial
    | succ turns ih =>
        refine fun untried sockets => .bind (next untried) fun (found, rest) => ?_
        cases found with
        | some port => exact ih _ _
        | none => exact ih _ _
  refine .bind (.call trivial) fun accepted => ?_
  cases accepted with
  | false => trivial
  | true =>
      refine .bind (loop _ _ _) fun sockets => ?_
      split
      · exact .bind (.call trivial) fun _ => trivial
      · trivial

omit [Blake3] in
private theorem spawn_quiet (ports : List UInt16) :
    (Control.spawnDataServers ports).All Quiet := by
  induction ports with
  | nil => trivial
  | cons port rest ih => exact .bind (.call trivial) fun _ => ih

private theorem transferChunks_triple (receiver : ReceiverId) :
    Triple (protocol config .control) (fun reception => reception.Accepted handshake)
      (Control.transferChunks config handshake receiver) ((contract config).post .control) := by
  refine .recover _ (quiet_triple (allocate_quiet _ _)) (fun _ => rejects _) fun ports => ?_
  refine .bind _ (quiet_triple (.call trivial)) fun _ => ?_
  refine .recover _ (quiet_triple (response_quiet _ _)) (fun error => ?_) fun _ => ?_
  · exact .bind _ (quiet_triple (.call trivial)) fun _ => returns stable_accepted _
  · exact .bind _ (quiet_triple (spawn_quiet ports)) fun _ =>
      waitForCompletion_triple config.reads ⟨handshake, receiver, ports⟩

private theorem newReceiver_step (receiver : FileReceiver) (of : Of config handshake receiver) :
    (protocol config .control).Step (fun reception => reception.Accepted handshake)
      (.newReceiver receiver) fun _ reception => reception.Accepted handshake := by
  refine fun reception inv accepted => ⟨trivial, ?_⟩
  rintro answer _ ⟨⟨_, ⟨fresh, rfl⟩, rfl⟩, _⟩
  refine ⟨fun data known => known, fun other state found => ?_, accepted⟩
  dsimp only at found
  by_cases same : other = answer
  · subst same
    rw [Function.update_self] at found
    cases found
    exact ⟨handshake, accepted, of⟩
  · rw [Function.update_of_ne same] at found
    exact inv other state found

private theorem receiveFile_triple [KeyOrder] :
    Triple (protocol config .control) (fun reception => reception.Accepted handshake)
      (Control.receiveFile config handshake) ((contract config).post .control) := by
  refine .recover _ (quiet_triple (.call trivial)) (fun _ => rejects _) fun _ => ?_
  refine .recover _ (quiet_triple ?_) (fun _ => rejects _) fun _ => ?_
  · split
    · exact .call trivial
    · trivial
  refine .step _ stable_accepted (newReceiver_step _ ⟨rfl, rfl, rfl⟩) fun receiver => ?_
  refine .bind _ (resume_triple receiver) fun complete => ?_
  rcases complete with _ | (_ | _)
  · exact .ret stable_accepted fun _ _ _ => trivial
  · exact transferChunks_triple receiver
  · exact confirmComplete_triple receiver

/-- The handler hears one handshake, and knows nothing before. -/
private theorem handleControlConnection_triple [KeyOrder] :
    Triple (protocol config .control) (fun reception => reception.handshake = none)
      (Control.handleControlConnection config) ((contract config).post .control) := by
  have stable : (protocol config .control).Stable fun reception => reception.handshake = none :=
    fun _ _ _ unknown moved _ => (control_interf moved).handshake.trans unknown
  have known : ∀ data, (protocol config .control).Stable fun reception =>
      reception.handshake = some data :=
    fun _ _ _ _ known moved _ => (control_interf moved).handshake.trans known
  refine .vis (fun
    | .ok data => fun reception => reception.handshake = some data
    | .error _ => fun reception => reception.handshake = none) stable ?_ fun answer => ?_
  · refine fun reception inv unknown => ⟨trivial, ?_⟩
    have empty : ∀ receiver, reception.store.receivers receiver = none := by
      refine fun receiver => Option.eq_none_iff_forall_ne_some.mpr fun state found => ?_
      obtain ⟨_, ⟨data, given, _⟩, _⟩ := inv receiver state found
      cases unknown.symm.trans given
    have nothing : ∀ data, reception.handshake = some data → ∀ after : Reception,
        after.handshake = some data := fun data given => by cases unknown.symm.trans given
    rintro (error | data) after ⟨acted, _⟩
    · cases acted
      exact ⟨fun data given => nothing data given _, inv, unknown⟩
    · cases acted
      refine ⟨fun data given => nothing data given _, fun receiver state found => ?_, rfl⟩
      cases (empty receiver).symm.trans found
  · cases answer with
    | error error => exact returns stable _
    | ok data =>
        simp only [Prog.ret_bind]
        split
        · exact returns (known data) _
        · split
          · refine .step (fun _ reception => reception.handshake = some data) (known data) ?_
              fun _ => returns (known data) _
            refine step_heard (fun heard => heard = some data) fun same => ?_
            cases same
          · rename_i handshake parsed
            refine Triple.conseq (?_ : Triple _ (fun reception => reception.Accepted handshake) _ _)
              (fun _ _ given => ⟨data, given, parsed⟩) fun _ _ _ holds => holds
            refine .recover _ (quiet_triple (fs_quiet _)) (fun _ => returns stable_accepted _)
              fun present => ?_
            cases present with
            | true => exact rejects Handshake.respExists
            | false => exact receiveFile_triple

private theorem closing_triple (state : ControlState) :
    Triple (protocol config .control) ((contract config).post .control state)
      (Control.closing state) ((contract config).post .control) := by
  have closes : ∀ result : ControlState, (∀ transfer, result ≠ .waiting transfer) →
      Triple (protocol config .control) (fun _ => True)
        ((Control.call .closeStream).bind fun _ => .ret result)
        ((contract config).post .control) := by
    intro result ended
    refine .step (fun _ _ => True) (.const True) ?_ fun _ => ?_
    · exact step_heard (fun _ => True) trivial
    · refine .ret (.const True) fun _ _ _ => ?_
      cases result with
      | waiting transfer => exact absurd rfl (ended transfer)
      | returned _ | panicked => trivial
  cases state with
  | waiting transfer => exact .ret stable_accepted fun _ _ accepted => accepted
  | returned result => exact closes (.returned result) fun _ same => by cases same
  | panicked => exact closes .panicked fun _ same => by cases same

private theorem task_triple [KeyOrder] :
    Triple (protocol config .control) (fun reception => reception.handshake = none)
      (Control.task config) ((contract config).post .control) :=
  .bind _ handleControlConnection_triple closing_triple

private theorem again_triple {state : ControlState} {rest : ControlProg ControlState}
    (continues : Control.again config state = some rest) :
    Triple (protocol config .control) ((contract config).post .control state) rest
      ((contract config).post .control) := by
  cases state with
  | waiting transfer =>
      cases continues
      exact .bind _ (waitForCompletion_triple config.reads transfer) closing_triple
  | returned result => cases continues
  | panicked => cases continues

end Handler

section DataServer

variable {task : Nat}

/-- A data server task that has seen a receiver. -/
private def Seen (config : Control.Config) (state : FileReceiver) (reception : Reception) : Prop :=
  ∃ handshake, reception.Accepted handshake ∧ Of config handshake state

private theorem data_interf {before after : Reception}
    (moved : (protocol config (.data task)).interf before after) :
    ∀ data, before.handshake = some data → after.handshake = some data := by
  obtain ⟨other, _, step⟩ := moved
  intro data known
  cases other with
  | control => exact step data known
  | data _ => exact step.handshake.trans known
  | others => exact step.handshake.trans known

private theorem stable_seen (state : FileReceiver) :
    (protocol config (.data task)).Stable (Seen config state) := by
  rintro before after _ ⟨handshake, ⟨data, known, parsed⟩, of⟩ moved _
  exact ⟨handshake, ⟨data, data_interf moved data known, parsed⟩, of⟩

private theorem step_data {op : DataOp} {kept : Reception → Prop}
    (acts : ∀ reception answer after, kept reception →
      Reception.dataSem task op reception answer after →
        after.store.receivers = reception.store.receivers ∧
          (∀ handshake, reception.Accepted handshake →
            after.store.fs (Reception.outputPath config handshake) =
              reception.store.fs (Reception.outputPath config handshake)) ∧ kept after) :
    (protocol config (.data task)).Step kept op fun _ => kept := by
  refine fun reception inv holds => ⟨trivial, fun answer after ⟨acted, _⟩ => ?_⟩
  obtain ⟨receivers, output, later⟩ := acts reception answer after holds acted
  obtain ⟨store, _, rfl⟩ := acted
  refine ⟨⟨rfl, rfl, output⟩, fun receiver state found => ?_, later⟩
  rw [receivers] at found
  exact inv receiver state found

/-- Operations of a data server task that leave receivers and files alone. -/
def Idle : DataOp → Prop
  | .fs _ | .unlock _ _ => False
  | _ => True

private theorem step_idle {op : DataOp} (idle : Idle op) {kept : Reception → Prop}
    (stays : ∀ reception store, kept reception → kept { reception with store := store }) :
    (protocol config (.data task)).Step kept op fun _ => kept := by
  refine step_data fun reception answer after holds ⟨store, acted, same⟩ => ?_
  subst same
  refine ⟨?_, fun _ _ => ?_, stays _ _ holds⟩
  all_goals
    cases op with
    | fs | unlock => cases idle
    | lock =>
        obtain ⟨_, _, rfl⟩ := acted
        rfl
    | getReceiver =>
        obtain ⟨_, rfl⟩ := acted
        rfl
    | _ =>
        cases acted
        rfl

private theorem idle_triple {α : Type} {program : DataProg α} (idle : program.All Idle) :
    Triple (protocol config (.data task)) (fun _ => True) program fun _ _ => True :=
  .uniform (.const True) idle fun _ quiet => step_idle quiet fun _ _ _ => trivial

private theorem step_lock_data (receiver : ReceiverId) {kept : Reception → Prop} :
    (protocol config (.data task)).Step kept (.lock receiver) fun state => Seen config state := by
  intro reception inv _
  have idle : Idle (.lock receiver) := trivial
  have kept : (protocol config (.data task)).Step (fun _ => True) (.lock receiver) fun _ _ => True :=
    step_idle idle fun _ _ _ => trivial
  obtain ⟨ob, acts⟩ := kept reception inv trivial
  refine ⟨ob, fun state after acted => ?_⟩
  obtain ⟨guar, inv', _⟩ := acts state after acted
  refine ⟨guar, inv', ?_⟩
  obtain ⟨⟨store, ⟨_, found, _⟩, rfl⟩, _⟩ := acted
  exact inv receiver state found

private theorem step_unlock_data (receiver : ReceiverId) {state state' : FileReceiver}
    (same : state'.params = state.params) :
    (protocol config (.data task)).Step (Seen config state) (.unlock receiver state')
      fun _ => Seen config state := by
  refine fun reception inv seen => ⟨trivial, ?_⟩
  rintro _ _ ⟨⟨_, rfl, rfl⟩, _⟩
  refine ⟨⟨rfl, rfl, fun _ _ => rfl⟩, fun other state'' found => ?_, seen⟩
  dsimp only at found
  by_cases here : other = receiver
  · subst here
    rw [Function.update_self] at found
    cases found
    obtain ⟨handshake, accepted, of⟩ := seen
    exact ⟨handshake, accepted, of.congr same⟩
  · rw [Function.update_of_ne here] at found
    exact inv other state'' found

/-- Calls on files that write auxiliary files only. -/
def Beside (params : FileReceiver.Params) : DataOp → Prop
  | .fs op => FileReceiver.WritesAuxiliary params op
  | _ => False

private theorem files_triple {α : Type} {state : FileReceiver} {program : FsProg FilePath α}
    (auxiliary : program.All (FileReceiver.WritesAuxiliary state.params)) :
    Triple (protocol config (.data task)) (Seen config state) (Data.onFs program)
      fun _ => Seen config state := by
  have beside : (Data.onFs program).All (Beside state.params) := .embed auxiliary
  refine .uniform (stable_seen state) beside fun op writes => ?_
  cases op with
  | fs op =>
      refine step_data ?_
      rintro reception answer _ ⟨handshake, known, of⟩ ⟨_, ⟨fs, acted, rfl⟩, rfl⟩
      refine ⟨rfl, fun other accepted => ?_, handshake, known, of⟩
      refine acted.frame fun written => ?_
      obtain ⟨data, heard, parsed⟩ := known
      obtain ⟨data', heard', parsed'⟩ := accepted
      cases heard.symm.trans heard'
      cases parsed.symm.trans parsed'
      exact of.ne_output (writes _ written) rfl
  | _ => cases writes

private theorem look_triple {α : Type} (receiver : ReceiverId)
    {rest : FileReceiver → DataProg α} {post : α → Reception → Prop}
    (following : ∀ state, Triple (protocol config (.data task)) (Seen config state)
      (rest state) post) :
    Triple (protocol config (.data task)) (fun _ => True)
      ((Data.call (.lock receiver)).bind fun state =>
        (Data.call (.unlock receiver state)).bind fun _ => rest state) post :=
  .step _ (.const True) (step_lock_data receiver) fun state =>
    .step _ (stable_seen state) (step_unlock_data receiver rfl) fun _ => following state

private theorem forget {α : Type} {state : FileReceiver} {program : DataProg α}
    (triple : Triple (protocol config (.data task)) (fun _ => True) program fun _ _ => True) :
    Triple (protocol config (.data task)) (Seen config state) program fun _ _ => True :=
  triple.conseq (fun _ _ _ => trivial) fun _ _ _ holds => holds

private theorem release_triple {α : Type} (receiver : ReceiverId) (state : FileReceiver)
    {state' : FileReceiver} (same : state'.params = state.params) (value : α) :
    Triple (protocol config (.data task)) (Seen config state)
      ((Data.call (.unlock receiver state')).bind fun _ => .ret value) fun _ _ => True :=
  .step _ (stable_seen state) (step_unlock_data receiver same) fun _ =>
    .ret (stable_seen state) fun _ _ _ => trivial

private theorem verifyAndWriteChunk_triple (receiver : ReceiverId) (chunkIndex : Nat)
    (chunkData chunkHashRcvd : Bytes) :
    Triple (protocol config (.data task)) (fun _ => True)
      (Data.verifyAndWriteChunk receiver chunkIndex chunkData chunkHashRcvd) fun _ _ => True := by
  unfold Data.verifyAndWriteChunk
  split
  · refine look_triple receiver fun state => ?_
    refine .recover _ (files_triple (FileReceiver.writeFile_auxiliary
      (state.auxiliary_partPath chunkIndex) chunkData)) (fun _ => forget ?_) fun _ => forget ?_
    · exact .step _ (.const True) (step_lock_data receiver) fun state =>
        release_triple receiver state (FileReceiver.params_setFailed state) _
    · refine .step _ (.const True) (step_lock_data receiver) fun state => ?_
      have recorded : Triple (protocol config (.data task)) (Seen config state)
          (Data.onFs (state.recordChunk chunkIndex (calcHash chunkData)))
          fun recorded reception => Seen config state reception ∧
            recorded.1.params = state.params :=
        (files_triple (state.recordChunk_auxiliary _ _)).yields
          (.embed (.bind _ fun _ => rfl))
      refine .bind _ recorded fun (recorded, result) reception inv ⟨seen, same⟩ => ?_
      cases result with
      | ok _ => exact release_triple receiver state same _ reception inv seen
      | error _ =>
          exact release_triple receiver state ((recorded.params_setFailed).trans same) _ reception
            inv seen
  · exact .ret (.const True) fun _ _ _ => trivial

private theorem processChunk_triple (receiver : ReceiverId) (data : Bytes) :
    Triple (protocol config (.data task)) (fun _ => True) (Data.processChunk receiver data)
      fun _ _ => True := by
  have ends : ∀ result : Option (Except IoError Unit),
      Triple (protocol config (.data task)) (fun _ => True) (.ret result) fun _ _ => True :=
    fun _ => .ret (.const True) fun _ _ _ => trivial
  unfold Data.processChunk
  split
  · exact ends _
  · split
    · exact ends _
    · refine look_triple receiver fun state => forget ?_
      split
      · exact ends _
      · split
        · exact ends _
        · exact .bind _ (verifyAndWriteChunk_triple receiver _ _ _) fun ack =>
            .bind _ (idle_triple (.call trivial)) fun _ => ends _

private theorem disconnect_triple (port : UInt16) :
    Triple (protocol config (.data task)) (fun _ => True) (Data.disconnect port)
      fun _ _ => True :=
  idle_triple (.bind (.call trivial) fun _ => trivial)

private theorem serveFrame_triple (port : UInt16) (receiver : ReceiverId) :
    Triple (protocol config (.data task)) (fun _ => True) (Data.serveFrame port receiver)
      fun _ _ => True := by
  have goesOn : Triple (protocol config (.data task)) (fun _ => True)
      (.ret (DataState.connected port receiver)) fun _ _ => True :=
    .ret (.const True) fun _ _ _ => trivial
  refine look_triple receiver fun state => forget ?_
  split
  · exact disconnect_triple port
  · refine .recover _ (idle_triple (.call trivial)) (fun _ => disconnect_triple port) fun data => ?_
    split
    · exact disconnect_triple port
    · split
      · refine .recover _ (look_triple receiver fun state => forget (idle_triple (.call trivial)))
          (fun _ => disconnect_triple port) fun _ => goesOn
      · refine .bind _ (processChunk_triple receiver data) fun processed => ?_
        cases processed with
        | some _ => exact goesOn
        | none =>
            exact idle_triple (.bind (.call trivial) fun _ => .bind (.call trivial) fun _ => trivial)

private theorem acceptConnection_triple (port : UInt16) :
    Triple (protocol config (.data task)) (fun _ => True) (Data.acceptConnection port)
      fun _ _ => True := by
  refine idle_triple (.recover (.call trivial) (fun _ => ?_) fun _ => ?_)
  · exact .bind (.call trivial) fun _ => trivial
  · refine .bind (.call trivial) fun found => ?_
    cases found with
    | none => exact .bind (.call trivial) fun _ => trivial
    | some receiver => trivial

private theorem again_data {state : DataState} {rest : DataProg DataState}
    (continues : Data.again state = some rest) :
    Triple (protocol config (.data task)) (fun _ => True) rest fun _ _ => True := by
  cases state with
  | accepting port =>
      cases continues
      exact acceptConnection_triple port
  | connected port receiver =>
      cases continues
      exact serveFrame_triple port receiver
  | ended => cases continues

end DataServer

private theorem others_triple :
    Triple (protocol config .others) (fun _ => True) Reception.others fun _ _ => True := by
  refine .vis (fun _ _ => True) (.const True) (fun reception inv _ => ⟨trivial, ?_⟩) fun _ =>
    .ret (.const True) fun _ _ _ => trivial
  rintro change _ ⟨⟨elsewhere, rfl⟩, _⟩
  refine ⟨⟨rfl, rfl, fun handshake accepted => ?_⟩, inv, trivial⟩
  exact Function.update_of_ne (elsewhere handshake accepted).symm _ _

private theorem start_holds [KeyOrder] (config : Control.Config) (fs : Fs FilePath) :
    (contract config).Holds (Reception.system config) (fun _ => True)
      (Reception.start config fs) := by
  have inv : (contract config).inv (Reception.start config fs).world := nofun
  refine ⟨inv, fun party => ?_⟩
  cases party with
  | control => exact task_triple _ inv rfl
  | data task =>
      have start : Triple (protocol config (.data task)) (fun _ => True) Data.task fun _ _ => True :=
        idle_triple (.bind (.call trivial) fun _ => trivial)
      exact start _ inv trivial
  | others => exact others_triple _ inv trivial

private theorem loops (party : Party) (state : party.Ctl) (rest : Prog party.sig party.Ctl)
    (again : (Reception.system config).again party state = some rest) :
    Triple (protocol config party) ((contract config).post party state) rest
      ((contract config).post party) := by
  cases party with
  | control => exact again_triple again
  | data task => exact again_data again
  | others =>
      cases again
      exact others_triple

end FinalStatus

/-- Whatever arrives on the data connections and whatever the directories contain: when a
handler reports success, the output file had the hash of the accepted handshake at the
moment `assemble` returned. -/
theorem success_only_for_announced_hash [Blake3] [KeyOrder] (config : Control.Config)
    (fs : Fs FilePath) {pool : Pool Party.sig Party.Ctl Reception}
    (reached : Reaches (Reception.system config) (fun _ => True) (Reception.start config fs) pool)
    {next : Except IoError Unit → ControlProg ControlState}
    (reports : pool.prog .control = .vis (.sendFrame [Handshake.respOk]) next) :
    ∃ handshake content, pool.world.Accepted handshake ∧
      pool.world.released ⟨config.outputDir, handshake.safeName⟩ = some content ∧
        calcHash content = handshake.fullHash := by
  have holds := (FinalStatus.start_holds config fs).reaches FinalStatus.loops reached
  obtain ⟨handshake, accepted, content, released, same⟩ := holds.obligation reports rfl
  exact ⟨handshake, content, accepted, released, same⟩

namespace FinalStatus

/-- The record of a one-byte transfer whose only chunk has arrived. -/
def sampleMetadata : TransferMetadata :=
  (TransferMetadata.new 2097152 1 1 (Blake3.sample.hash [0x61])).addChunk 0
    (Blake3.sample.hash [0x61])

/-- The part and the metadata file of that transfer. -/
def sampleFiles : Fs FilePath :=
  Function.update (Function.update (fun _ => none)
    (TransferMetadata.partPath (ascii "received") (ascii "f") 0) (some [0x61]))
    (TransferMetadata.metaPath (ascii "received") (ascii "f")) (some sampleMetadata.toBytes)

end FinalStatus

set_option maxRecDepth 4000 in
/-- A transfer that is resumed with all its chunks. -/
theorem success_only_for_announced_hash_resumed :
    ∃ pool : Pool Party.sig Party.Ctl Reception,
      Reaches (@Reception.system .sample Control.sampleConfig) (fun _ => True)
        (@Reception.start .sample .increasing Control.sampleConfig FinalStatus.sampleFiles) pool ∧
      (∃ next, pool.prog .control = .vis (.sendFrame [Handshake.respOk]) next) ∧
      ∃ handshake content, pool.world.Accepted handshake ∧
        pool.world.released ⟨Control.sampleConfig.outputDir, handshake.safeName⟩ = some content ∧
          @calcHash .sample content = handshake.fullHash := by
  let _ := Blake3.sample
  let _ := KeyOrder.increasing
  let receiver : FileReceiver :=
    .new (ascii "f") 1 2097152 1 (calcHash [0x61]) (ascii "received") (ascii "received")
  let resumed : FileReceiver := (receiver.mark 0).setMetadata FinalStatus.sampleMetadata
  let sys := Reception.system Control.sampleConfig
  let start := Reception.start Control.sampleConfig FinalStatus.sampleFiles
  have led : Leads (fun op before answer after => sys.sem .control op before answer after ∧ True)
      (fun rest => ∃ next, rest = .vis (.sendFrame [Handshake.respOk]) next)
      (start.prog .control) start.world := by
    refine .vis (.ok Control.sampleHandshake) ⟨rfl, trivial⟩ ?_
    refine .vis (.ok false) ⟨⟨_, ⟨_, ⟨rfl, .inl rfl⟩, rfl⟩, rfl⟩, trivial⟩ ?_
    refine .vis (.ok ()) ⟨⟨_, rfl, rfl⟩, trivial⟩ ?_
    refine .vis 0 ⟨⟨_, ⟨rfl, rfl⟩, rfl⟩, trivial⟩ ?_
    refine .vis receiver ⟨⟨_, ⟨rfl, rfl, rfl⟩, rfl⟩, trivial⟩ ?_
    refine .vis (.ok true) ⟨⟨_, ⟨_, ⟨rfl, .inl rfl⟩, rfl⟩, rfl⟩, trivial⟩ ?_
    refine .vis (.ok FinalStatus.sampleMetadata.toBytes)
      ⟨⟨_, ⟨_, ⟨rfl, .inl ⟨_, rfl, rfl⟩⟩, rfl⟩, rfl⟩, trivial⟩ ?_
    refine .vis (.ok [0x61]) ⟨⟨_, ⟨_, ⟨rfl, .inl ⟨_, rfl, rfl⟩⟩, rfl⟩, rfl⟩, trivial⟩ ?_
    refine .vis () ⟨⟨_, rfl, rfl⟩, trivial⟩ ?_
    refine .vis (.ok ()) ⟨⟨_, rfl, rfl⟩, trivial⟩ ?_
    refine .vis resumed ⟨⟨_, ⟨rfl, rfl, rfl⟩, rfl⟩, trivial⟩ ?_
    refine .vis (.ok ()) ⟨⟨_, ⟨_, .inl ⟨rfl, rfl⟩, rfl⟩, rfl⟩, trivial⟩ ?_
    refine .vis (.ok true) ⟨⟨_, ⟨_, ⟨rfl, .inl rfl⟩, rfl⟩, rfl⟩, trivial⟩ ?_
    refine .vis (.ok ()) ⟨⟨_, ⟨_, ⟨rfl, .inl ⟨rfl, rfl⟩⟩, rfl⟩, rfl⟩, trivial⟩ ?_
    refine .vis (.ok [0x61])
      ⟨⟨_, ⟨_, ⟨rfl, .inl ⟨_, rfl, ⟨[], rfl⟩, by decide, nofun⟩⟩, rfl⟩, rfl⟩, trivial⟩ ?_
    refine .vis (.ok ()) ⟨⟨_, ⟨_, .inl ⟨rfl, rfl⟩, rfl⟩, rfl⟩, trivial⟩ ?_
    refine .vis (.ok [])
      ⟨⟨_, ⟨_, ⟨rfl, .inl ⟨_, rfl, ⟨[], rfl⟩, by decide, fun _ => .inl (by decide)⟩⟩, rfl⟩, rfl⟩,
        trivial⟩ ?_
    refine .vis (.ok ()) ⟨⟨_, ⟨_, .inl ⟨rfl, rfl, rfl⟩, rfl⟩, rfl⟩, trivial⟩ ?_
    refine .vis (.ok ()) ⟨⟨_, ⟨_, .inl ⟨rfl, rfl, rfl⟩, rfl⟩, rfl⟩, trivial⟩ ?_
    exact .vis () ⟨⟨_, rfl, rfl⟩, trivial⟩ (.here ⟨_, rfl⟩)
  have begins : Reaches sys (fun _ => True) start start := .refl
  obtain ⟨pool, reached, next, reports⟩ := begins.leads led
  exact ⟨pool, reached, ⟨next, reports⟩,
    success_only_for_announced_hash Control.sampleConfig FinalStatus.sampleFiles reached reports⟩

end BeeSync.Server
