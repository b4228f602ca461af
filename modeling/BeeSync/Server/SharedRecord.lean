import BeeSync.Server.PartsAgree
import BeeSync.Server.RecordLedger

/-!
# A record that several transfers save

Entries of one transfer are lost when the other one saves, unless whoever saves knows of all
chunks that have been recorded by then. A transfer that has its file to itself always knows.
-/

set_option autoImplicit false

namespace BeeSync.Server

open Encoding Interaction

variable {Handler : Type}

namespace Ledger

variable [DecidableEq Handler] [Blake3] {params : FileReceiver.Params}
  {phase : (role : Role Handler) → role.Phase} {ledger : Ledger Handler}

/-- As long as no assembly has started. -/
structure Sound (params : FileReceiver.Params) (phase : (role : Role Handler) → role.Phase)
    (ledger : Ledger Handler) : Prop where
  fits : ledger.roster.Fits phase ledger.store
  coherent : ledger.store.Coherent
  recovers : ∀ handler, (phase (.control handler)).Recovers (ledger.covered handler)
  inStep : ∀ task, (phase (.data task)).InStep params (ledger.frame task) ledger.recorded
  acked : ledger.acked ⊆ ledger.recorded
  kept : params.register.Kept ledger.store.fs (Role.saves phase) ledger.saver
    ledger.recorded

omit [DecidableEq Handler] in
theorem Sound.start (fs : Fs FilePath) : Sound params (@Role.begin Handler) (initial fs) where
  fits := .start fs
  coherent _ _ found := by cases found
  recovers _ := trivial
  inStep _ := trivial
  acked := subset_rfl
  kept := .start fs fun role => by cases role <;> rfl

omit [DecidableEq Handler] in
/-- Whoever holds the lock of a transfer has seen its receiver. -/
theorem Sound.held (sound : Sound params phase ledger) (shared : ledger.Shared params)
    (role : Role Handler) (receiver : ReceiverId) (state : FileReceiver)
    (holds : role.holding (phase role) = some (receiver, state)) :
    ledger.store.receivers receiver = some state ∧ state.params = params ∧
      ∃ handshake, FileReceiver.Coherent handshake state :=
  have found := (sound.fits.orderly.held role receiver state holds).2
  ⟨found, shared receiver state found, sound.coherent receiver state found⟩

/-- A task saves its chunk next to those of its receiver. -/
theorem Sound.data_kept (sound : Sound params phase ledger) (shared : ledger.Shared params)
    (unassembled : ¬ ledger.assembling) {task : Nat} {op : DataOp} {answer : op.Res}
    {phase' : DataPhase} {store : Store (Role Handler)}
    (turned : DataTurn (phase (.data task)) op answer phase')
    (acted : Store.dataSem True (Role.data task) op ledger.store answer store)
    (informed : Informed params (.data task) op ledger answer) :
    params.register.Kept store.fs
      (Function.update (Role.saves phase) (.data task) phase'.progress)
      (noteData params task op answer ledger store).saver
      (noteEntered params (ledger.frame task) op answer ledger.recorded) := by
  have held := sound.held shared (.data task)
  have served := sound.fits.served task
  have inStep := sound.inStep task
  have kept := sound.kept
  have still : phase'.progress = (phase (.data task)).progress → ¬ op.writes params.tmpPath →
      ¬ op.writes params.metaPath → params.register.Kept store.fs
        (Function.update (Role.saves phase) (.data task) phase'.progress)
        (noteData params task op answer ledger store).saver
        (noteEntered params (ledger.frame task) op answer ledger.recorded) := by
    intro same temporary target
    have idle : Function.update (Role.saves phase) (.data task) phase'.progress = Role.saves phase := by
      rw [same]
      exact Function.update_eq_self (Role.data task) (Role.saves phase)
    rw [idle]
    cases op with
    | fs op =>
        obtain ⟨fs, called, stored⟩ := acted
        subst stored
        exact kept_still kept called temporary target
    | _ => exact kept.still (Store.dataSem.frame acted id) (Store.dataSem.frame acted id)
  generalize current : phase (.data task) = before at turned held served inStep still
  cases turned with
  | @store receiver chunk path write write' op answer writing =>
      obtain ⟨_, idx, placed⟩ := inStep
      subst placed
      refine still rfl (fun writes => ?_) fun writes => ?_
      · exact TransferMetadata.partPath_ne_tmpPath idx (writing.writes writes).symm
      · exact TransferMetadata.partPath_ne_metaPath idx (writing.writes writes).symm
  | @save receiver chunk state save save' op answer saving =>
      obtain ⟨found, same, handshake, coherent⟩ := held receiver state rfl
      subst same
      obtain ⟨fs, called, stored⟩ := acted
      subst stored
      have encodable : (state.recorded chunk).metadata.Encodable :=
        (coherent.recorded inStep.1.inRange).encodable
      have mine : chunk.idx ∈ (state.recorded chunk).metadata.chunkHashes.keys :=
        OrderedMap.mem_keys_insert.mpr (.inl rfl)
      have covers : indexOf (ledger.frame task) ⊆
          state.params.register.lists (state.recorded chunk).metadata := by
        rw [inStep.1.index]
        exact Set.singleton_subset_iff.mpr mine
      refine kept_save kept saving called (by rw [Role.saves, current]; rfl) encodable
        (fun begins => ?_) covers
      obtain ⟨free, known⟩ := informed unassembled begins
      refine ⟨free, fun idx recorded => ?_⟩
      obtain ⟨receiver', state', serves, found', listed⟩ | here := known recorded
      · cases serves.symm.trans (served receiver rfl)
        cases found'.symm.trans found
        exact OrderedMap.mem_keys_insert.mpr (.inr listed)
      · exact covers here
  | idle op quiet => cases op <;> first | exact still rfl id id | cases quiet
  | unsaved ended => exact still ended.progress.symm id id
  | _ => exact still rfl id id

theorem Sound.data (sound : Sound params phase ledger) (shared : ledger.Shared params)
    (unassembled : ¬ ledger.assembling) {task : Nat} {op : DataOp} {answer : op.Res}
    {phase' : DataPhase} {store : Store (Role Handler)}
    (turned : DataTurn (phase (.data task)) op answer phase')
    (acted : Store.dataSem True (Role.data task) op ledger.store answer store)
    (informed : Informed params (.data task) op ledger answer) :
    Sound params (Function.update phase (.data task) phase')
      (noteData params task op answer ledger store) := by
  have held := sound.held shared (.data task)
  have mine : ∀ receiver state, (phase (.data task)).holding = some (receiver, state) →
      state.params = params := fun receiver state holds => (held receiver state holds).2.1
  have more : ledger.recorded ⊆ noteEntered params (ledger.frame task) op answer ledger.recorded :=
    subset_noteEntered params (ledger.frame task) op answer
  constructor
  · exact sound.fits.data turned acted
  · refine sound.coherent.data acted fun receiver state same => ?_
    subst same
    exact turned.coherent (sound.inStep task) mine fun receiver state holds =>
      (held receiver state holds).2.2
  · intro handler
    rw [Role.update_data_control]
    exact sound.recovers handler
  · intro other
    dsimp only [noteData]
    by_cases here : other = task
    · subst here
      rw [Function.update_self, Function.update_self]
      exact turned.inStep (sound.inStep other) mine
    · rw [Role.update_data_other here, Function.update_of_ne here]
      exact (sound.inStep other).mono more
  · cases op with
    | sendFrame payload =>
        cases answer with
        | error error => exact sound.acked
        | ok _ =>
            dsimp only [noteData]
            split
            · rename_i acks
              exact Set.union_subset sound.acked (turned.acknowledges acks (sound.inStep task))
            · exact sound.acked
    | _ => exact sound.acked.trans more
  · have kept := sound.data_kept shared unassembled turned acted informed
    exact (Role.saves_update phase (.data task) phase').symm ▸ kept

variable [KeyOrder] {config : Control.Config} {handler : Handler} {op : ControlOp} {answer : op.Res}
  {phase' : ControlPhase} {store : Store (Role Handler)}

/-- A recovery saves what it has kept of all that has been recorded. -/
theorem Sound.control_kept (sound : Sound params phase ledger) (shared : ledger.Shared params)
    (unassembled : ¬ (noteControl params handler op answer ledger store).assembling)
    (turned : ControlTurn config (phase (.control handler)) op answer phase')
    (acted : Store.controlSem True (Role.control handler) op ledger.store answer store)
    (informed : Informed params (.control handler) op ledger answer) :
    params.register.Kept store.fs
      (Function.update (Role.saves phase) (.control handler) phase'.progress)
      (noteControl params handler op answer ledger store).saver ledger.recorded := by
  have held := sound.held shared (.control handler)
  have recovers := sound.recovers handler
  have kept := sound.kept
  have still : phase'.progress = (phase (.control handler)).progress → ¬ op.writes params.tmpPath →
      ¬ op.writes params.metaPath → params.register.Kept store.fs
        (Function.update (Role.saves phase) (.control handler) phase'.progress)
        (noteControl params handler op answer ledger store).saver ledger.recorded := by
    intro same temporary target
    have idle : Function.update (Role.saves phase) (.control handler) phase'.progress =
        Role.saves phase := by
      rw [same]
      exact Function.update_eq_self (Role.control handler) (Role.saves phase)
    rw [idle]
    cases op with
    | fs op =>
        obtain ⟨fs, called, stored⟩ := acted
        subst stored
        have after : params.register.Kept fs (Role.saves phase)
            (noteSaver params (.control handler) op answer ledger.saver)
            (noteRecorded params ∅ op answer ledger.recorded) :=
          kept_still kept called temporary target
        rw [noteRecorded_empty] at after
        exact after
    | _ => exact kept.still (Store.controlSem.frame acted id) (Store.controlSem.frame acted id)
  generalize current : phase (.control handler) = before at turned held recovers still
  cases turned with
  | quiet _ op quiet => cases op <;> first | exact still rfl id id | cases quiet
  | check op looks => cases op <;> first | exact still rfl id id | exact looks.elim
  | unresumed ended => exact still ended.progress.symm id id
  | resumed complete ended => exact still ended.progress.symm id id
  | @recover handshake receiver state resume resume' op answer recovering =>
      obtain ⟨found, same, _⟩ := held receiver state rfl
      subst same
      cases recovering with
      | found | absent | unreadable => exact still rfl id id
      | corrupt => exact still rfl id id
      | read data => exact still (ControlPhase.progress_judge data) id id
      | valid => exact still (ControlPhase.progress_settle _ _ _) id id
      | @drop metadata idx rest validIndices corruptCount answer =>
          refine still (ControlPhase.progress_settle _ _ _) (fun writes => ?_) fun writes => ?_
          · exact TransferMetadata.partPath_ne_tmpPath idx writes.symm
          · exact TransferMetadata.partPath_ne_metaPath idx writes.symm
      | purgePart idx left answer =>
          refine still rfl (fun writes => ?_) fun writes => ?_
          · exact TransferMetadata.partPath_ne_tmpPath idx writes.symm
          · exact TransferMetadata.partPath_ne_metaPath idx writes.symm
      | purge answer =>
          obtain ⟨fs, called, stored⟩ := acted
          subst stored
          have idle : Function.update (Role.saves phase) (.control handler) none =
              Role.saves phase := by
            have none_ : none = Role.saves phase (.control handler) := by
              rw [Role.saves, current]
              rfl
            rw [none_, Function.update_eq_self]
          refine idle.symm ▸ ?_
          have temporary := called.frame TransferMetadata.metaPath_ne_tmpPath.symm
          cases answer with
          | ok _ =>
              have nothing := (informed fun started => unassembled (.inl started)).2 rfl
              exact kept.erase nothing temporary
          | error error =>
              obtain ⟨_, fails, _⟩ | ⟨_, same, _⟩ := called
              · cases fails
              · rw [same]
                exact kept
      | save saving =>
          obtain ⟨_, encodable⟩ := recovers.1
          have covers := recovers.2
          obtain ⟨fs, called, stored⟩ := acted
          subst stored
          have after := kept_save kept saving called (by rw [Role.saves, current]; rfl) encodable
            (fun begins => by
              obtain ⟨free, covered⟩ :=
                (informed fun started => unassembled (.inl started)).1 begins
              exact ⟨free, fun idx recorded => covers idx (covered recorded)⟩)
            (Set.empty_subset _)
          rw [noteRecorded_empty] at after
          exact after
  | @build handshake receiver state assembly assembly' op answer building =>
      obtain ⟨_, same, _⟩ := held receiver state rfl
      subst same
      cases recovers
      cases building with
      | create | createFails => exact absurd (.inr rfl) unassembled
  | _ => exact still rfl id id

theorem Sound.control_recovers (sound : Sound params phase ledger) (shared : ledger.Shared params)
    (unassembled : ¬ (noteControl params handler op answer ledger store).assembling)
    (turned : ControlTurn config (phase (.control handler)) op answer phase')
    (acted : Store.controlSem True (Role.control handler) op ledger.store answer store) :
    phase'.Recovers ((noteControl params handler op answer ledger store).covered handler) := by
  have held := sound.held shared (.control handler)
  have recovers := sound.recovers handler
  have shown := sound.kept.shown
  generalize phase (.control handler) = before at turned held recovers
  cases turned with
  | quiet _ op quiet => cases op <;> first | exact recovers | cases quiet
  | answer => exact recovers
  | resume => exact ⟨trivial, trivial⟩
  | assemble => exact rfl
  | @recover handshake receiver state resume resume' op answer recovering =>
      obtain ⟨_, same, _⟩ := held receiver state rfl
      subst same
      obtain ⟨fs, called, stored⟩ := acted
      obtain ⟨reads, covers⟩ := recovers
      dsimp only [noteControl]
      rw [Function.update_self]
      exact ⟨recovering.reads reads, recovering.covers called rfl reads covers shown⟩
  | @build handshake receiver state assembly assembly' op answer building =>
      obtain ⟨_, same, _⟩ := held receiver state rfl
      subst same
      cases recovers
      cases building with
      | create | createFails => exact absurd (.inr rfl) unassembled
  | _ => trivial

omit [Blake3] [KeyOrder] in
theorem noteControl_covered {other : Handler} (different : other ≠ handler) :
    (noteControl params handler op answer ledger store).covered other = ledger.covered other := by
  cases op with
  | fs op => exact Function.update_of_ne different _ _
  | _ => rfl

theorem Sound.control (sound : Sound params phase ledger) (shared : ledger.Shared params)
    (unassembled : ¬ (noteControl params handler op answer ledger store).assembling)
    (turned : ControlTurn config (phase (.control handler)) op answer phase')
    (acted : Store.controlSem True (Role.control handler) op ledger.store answer store)
    (informed : Informed params (.control handler) op ledger answer) :
    Sound params (Function.update phase (.control handler) phase')
      (noteControl params handler op answer ledger store) := by
  have held := sound.held shared (.control handler)
  constructor
  · exact sound.fits.control turned acted
  · refine sound.coherent.control acted (fun receiver state same => ?_) fun state same => ?_
    · subst same
      exact turned.coherent (sound.recovers handler) fun receiver state holds =>
        (held receiver state holds).2.2
    · subst same
      generalize phase (.control handler) = before at turned
      cases turned with
      | quiet _ _ quiet => cases quiet
      | @create handshake => exact ⟨handshake, rfl, rfl, rfl, ⟨rfl, rfl, rfl, rfl⟩, nofun⟩
  · intro other
    by_cases here : other = handler
    · subst here
      rw [Function.update_self]
      exact sound.control_recovers shared unassembled turned acted
    · rw [Role.update_control_other here, noteControl_covered here]
      exact sound.recovers other
  · intro task
    rw [Role.update_control_data]
    exact sound.inStep task
  · exact sound.acked
  · have kept := sound.control_kept shared unassembled turned acted informed
    exact (Role.saves_update phase (.control handler) phase').symm ▸ kept

omit [DecidableEq Handler] [Blake3] [KeyOrder] in
/-- Transfers keep their file: if all share it now, they have always done so. -/
theorem Shared.of_params {ledger' : Ledger Handler} (shared : ledger'.Shared params)
    (grows : ∀ receiver state, ledger.store.receivers receiver = some state →
      ∃ state', ledger'.store.receivers receiver = some state' ∧ state'.params = state.params) :
    ledger.Shared params := by
  intro receiver state found
  obtain ⟨state', found', same⟩ := grows receiver state found
  rw [← shared receiver state' found', same]

/-- If all transfers are of one file after a move, so they were before. -/
theorem shared_before {before after : Stance (@Role.Phase Handler) (Ledger Handler)}
    (fits : before.world.roster.Fits before.phase before.world.store)
    (moved : Move (system config params) (fun _ => True) (Role.turn config) before after)
    (shared : after.world.Shared params) : before.world.Shared params := by
  cases moved with
  | @act tid op answer phase' world turned acted permitted =>
      refine shared.of_params fun receiver state found => ?_
      cases tid with
      | control handler =>
          obtain ⟨store, acted, same⟩ := acted
          subst same
          exact fits.orderly.control_grows turned acted found
      | data task =>
          obtain ⟨store, acted, same⟩ := acted
          subst same
          have same := fits.orderly.data_params turned acted receiver
          rwa [found, Option.map_some, Option.map_eq_some_iff] at same

theorem unassembled_before
    {before after : Stance (@Role.Phase Handler) (Ledger Handler)}
    (moved : Move (system config params) (fun _ => True) (Role.turn config) before after)
    (unassembled : ¬ after.world.assembling) : ¬ before.world.assembling := by
  cases moved with
  | @act tid op answer phase' world turned acted permitted =>
      cases tid with
      | control handler =>
          obtain ⟨store, acted, same⟩ := acted
          subst same
          exact fun started => unassembled (.inl started)
      | data task =>
          obtain ⟨store, acted, same⟩ := acted
          subst same
          exact unassembled

/-- The roster fits, and the ledger is sound until an assembly starts. -/
structure Steady (params : FileReceiver.Params) (stance : Stance (@Role.Phase Handler)
    (Ledger Handler)) : Prop where
  fits : stance.world.roster.Fits stance.phase stance.world.store
  sound : stance.world.Shared params → ¬ stance.world.assembling →
    Sound params stance.phase stance.world

omit [DecidableEq Handler] [KeyOrder] in
theorem Steady.start (fs : Fs FilePath) : Steady params ⟨@Role.begin Handler, initial fs⟩ :=
  ⟨.start fs, fun _ _ => .start fs⟩

theorem Steady.move {before after : Stance (@Role.Phase Handler) (Ledger Handler)}
    (steady : Steady params before)
    (moved : Move ((system config params).guarded (Informed params)) (fun _ => True)
      (Role.turn config) before after) : Steady params after := by
  obtain ⟨fits, sound⟩ := steady
  cases moved with
  | @act tid op answer phase' world turned acted permitted =>
      obtain ⟨informed, acted⟩ := acted
      have moved : Move (system config params) (fun _ => True) (Role.turn config) before
          ⟨Function.update before.phase tid phase', world⟩ := .act turned acted trivial
      have earlier : world.Shared params → ¬ world.assembling →
          before.world.Shared params ∧ ¬ before.world.assembling := fun shared unassembled =>
        ⟨shared_before fits moved shared, unassembled_before moved unassembled⟩
      cases tid with
      | control handler =>
          obtain ⟨store, acted, same⟩ := acted
          subst same
          refine ⟨fits.control turned acted, fun shared unassembled => ?_⟩
          obtain ⟨shared', unassembled'⟩ := earlier shared unassembled
          exact (sound shared' unassembled').control shared' unassembled turned acted informed
      | data task =>
          obtain ⟨store, acted, same⟩ := acted
          subst same
          refine ⟨fits.data turned acted, fun shared unassembled => ?_⟩
          obtain ⟨shared', unassembled'⟩ := earlier shared unassembled
          exact (sound shared' unassembled').data shared' unassembled' turned acted informed

omit [DecidableEq Handler] [KeyOrder] in
theorem Sound.complete (sound : Sound params phase ledger) : ledger.Complete params :=
  fun idx acked => sound.kept.shown idx (sound.acked acked)

end Ledger

section Sole

variable [Blake3]

/-- A receiver that a task gives back has not forgotten a hash. -/
theorem DataTurn.remembers {phase phase' : DataPhase} {receiver : ReceiverId} {state' : FileReceiver}
    {answer : Unit} (turned : DataTurn phase (.unlock receiver state') answer phase') :
    ∃ state, phase.holding = some (receiver, state) ∧
      (∀ idx ∈ state.metadata.chunkHashes.keys, idx ∈ state'.metadata.chunkHashes.keys) ∧
        ∀ chunk, phase = .recording receiver chunk state (.saved (.ok ())) →
          chunk.idx ∈ state'.metadata.chunkHashes.keys := by
  cases turned with
  | idle _ quiet => cases quiet
  | leave | refuse | accept | placed => exact ⟨_, rfl, fun _ => id, nofun⟩
  | failed => exact ⟨_, rfl, fun _ => id, nofun⟩
  | recorded | unsaved =>
      refine ⟨_, rfl, fun idx listed => OrderedMap.mem_keys_insert.mpr (.inr listed), ?_⟩
      intro chunk same
      cases same
      exact OrderedMap.mem_keys_insert.mpr (.inl rfl)

/-- After a save the receiver is given back. -/
theorem DataTurn.saved {phase phase' : DataPhase} {op : DataOp} {answer : op.Res}
    {receiver : ReceiverId} {chunk : ChunkInHand} {state : FileReceiver}
    (turned : DataTurn phase op answer phase')
    (saved : phase = .recording receiver chunk state (.saved (.ok ()))) :
    ∃ state', op = .unlock receiver state' := by
  cases turned with
  | save saving =>
      cases saved
      cases saving
  | recorded | unsaved =>
      cases saved
      exact ⟨_, rfl⟩
  | _ => cases saved

/-- A chunk is entered by the save that has just been finished. -/
theorem DataTurn.enters {params : FileReceiver.Params} {frame : Option Bytes} {recorded : Set Nat}
    {phase phase' : DataPhase} {op : DataOp} {answer : op.Res}
    (turned : DataTurn phase op answer phase') (inStep : phase.InStep params frame recorded)
    {idx : Nat} (entered : idx ∈ Ledger.noteEntered params frame op answer recorded) :
    idx ∈ recorded ∨ ∃ receiver chunk state, (∃ saving, op = .fs saving) ∧
      phase.holding = some (receiver, state) ∧
        phase' = .recording receiver chunk state (.saved (.ok ())) ∧ chunk.idx = idx := by
  cases turned with
  | @store receiver chunk path write write' op answer writing =>
      obtain ⟨_, part, placed⟩ := inStep
      subst placed
      have untouched : ¬ op.writes params.metaPath := fun writes =>
        TransferMetadata.partPath_ne_metaPath part (writing.writes writes).symm
      exact .inl ((Ledger.noteRecorded_still untouched).subset entered)
  | @save receiver chunk state save save' op answer saving =>
      cases saving with
      | rename =>
          dsimp only [Ledger.noteEntered, Ledger.noteRecorded] at entered
          split at entered
          · rw [inStep.1.index] at entered
            refine entered.imp_right fun new => ⟨receiver, chunk, state, ⟨_, rfl⟩, rfl, rfl, ?_⟩
            exact (Set.mem_singleton_iff.mp new).symm
          · exact .inl entered
      | write writing => cases writing <;> exact .inl entered
      | _ => exact .inl entered
  | idle op quiet => cases op <;> first | exact .inl entered | cases quiet
  | _ => exact .inl entered

theorem ControlTurn.unserved [KeyOrder] {config : Control.Config} {phase phase' : ControlPhase}
    {op : ControlOp} {answer : op.Res} (turned : ControlTurn config phase op answer phase')
    (unserved : phase'.Unserved) : phase.Unserved := by
  cases turned with
  | quiet | answer => exact unserved
  | hear | accept | check | create | resume | recover => trivial
  | _ => cases unserved

/-- A handler that serves its transfer gives the receiver back as it is. -/
theorem ControlTurn.returns [KeyOrder] {config : Control.Config} {phase phase' : ControlPhase}
    {receiver : ReceiverId} {state' : FileReceiver} {answer : Unit}
    (turned : ControlTurn config phase (.unlock receiver state') answer phase')
    (served : ¬ phase.Unserved) : phase.holding = some (receiver, state') := by
  cases turned with
  | quiet _ _ quiet => cases quiet
  | unresumed | resumed => exact absurd trivial served
  | leave | built => rfl

namespace Ledger

variable {params : FileReceiver.Params} {phase : (role : Role Unit) → role.Phase}
  {ledger : Ledger Unit}

/-- With one transfer, what has been recorded is in its receiver, or the task that holds its
lock is about to put it there. -/
structure Sole (phase : (role : Role Unit) → role.Phase) (ledger : Ledger Unit) : Prop where
  one : OneTransfer phase ledger.store
  entered : ∀ idx ∈ ledger.recorded, ∃ receiver state,
    ledger.store.receivers receiver = some state ∧ (idx ∈ state.metadata.chunkHashes.keys ∨
      ∃ task chunk, phase (.data task) = .recording receiver chunk state (.saved (.ok ())) ∧
        chunk.idx = idx)
  early : (phase (.control ())).Unserved → ledger.recorded = ∅

omit [Blake3] in
theorem Sole.start (fs : Fs FilePath) : Sole (@Role.begin Unit) (initial fs) where
  one := .start fs
  entered _ entered := entered.elim
  early _ := rfl

/-- Who holds the lock of the only receiver is the only one to hold a lock. -/
theorem Sound.alone (sound : Sound params phase ledger) (one : OneTransfer phase ledger.store)
    {role other : Role Unit} {receiver receiver' : ReceiverId} {state state' : FileReceiver}
    (holds : role.holding (phase role) = some (receiver, state))
    (holds' : other.holding (phase other) = some (receiver', state')) : role = other := by
  obtain ⟨holder, found⟩ := sound.fits.orderly.held role receiver state holds
  obtain ⟨holder', found'⟩ := sound.fits.orderly.held other receiver' state' holds'
  have same := one.sole receiver receiver' (by rw [found]; nofun) (by rw [found']; nofun)
  subst same
  exact Option.some.inj (holder.symm.trans holder')

omit [Blake3] in
theorem holding_of_progress [Blake3] {role : Role Unit} (saves : Role.saves phase role ≠ none) :
    ∃ held, role.holding (phase role) = some held := by
  cases role with
  | control handler =>
      generalize current : phase (.control handler) = before
      rw [Role.saves, current] at saves
      cases before with
      | resuming => exact ⟨_, rfl⟩
      | _ => exact absurd rfl saves
  | data task =>
      generalize current : phase (.data task) = before
      rw [Role.saves, current] at saves
      cases before with
      | recording => exact ⟨_, rfl⟩
      | _ => exact absurd rfl saves

/-- Nobody saves while a role holds the lock without having begun to save. -/
theorem Sound.unsaved (sound : Sound params phase ledger) (one : OneTransfer phase ledger.store)
    {role : Role Unit} {held : ReceiverId × FileReceiver}
    (holds : role.holding (phase role) = some held) (idle : Role.saves phase role = none) :
    ledger.saver = none := by
  by_contra saving
  obtain ⟨other, saving⟩ := Option.ne_none_iff_exists'.mp saving
  obtain ⟨_, _, working, _⟩ := sound.kept.underway other saving
  obtain ⟨held', holds'⟩ := holding_of_progress (by rw [working]; nofun)
  cases sound.alone one holds holds'
  cases idle.symm.trans working

variable {params : FileReceiver.Params} {op : DataOp} {answer : op.Res}

theorem Sole.data (sole : Sole phase ledger) (sound : Sound params phase ledger) {task : Nat}
    {op : DataOp} {answer : op.Res} {phase' : DataPhase} {store : Store (Role Unit)}
    (turned : DataTurn (phase (.data task)) op answer phase')
    (acted : Store.dataSem True (Role.data task) op ledger.store answer store) :
    Sole (Function.update phase (.data task) phase') (noteData params task op answer ledger store) := by
  constructor
  · exact sole.one.data turned acted
  · intro idx entered
    obtain before | ⟨receiver, chunk, state, ⟨op, saving⟩, holds, saved, index⟩ :=
      turned.enters (sound.inStep task) entered
    · obtain ⟨receiver, state, found, known⟩ := sole.entered idx before
      by_cases unlocks : ∃ other state', op = .unlock other state'
      · obtain ⟨other, state', same⟩ := unlocks
        subst same
        cases acted
        obtain ⟨held, holds, keeps, finishes⟩ := turned.remembers
        have holds : (Role.data task : Role Unit).holding (phase (.data task)) = some (other, held) :=
          holds
        have found' := (sound.fits.orderly.held (.data task) other held holds).2
        have same := sole.one.sole receiver other (by rw [found]; nofun) (by rw [found']; nofun)
        subst same
        cases found.symm.trans found'
        refine ⟨receiver, state', Function.update_self _ _ _, .inl ?_⟩
        obtain listed | ⟨saver, chunk, saved, index⟩ := known
        · exact keeps idx listed
        · have holds' : (Role.data saver : Role Unit).holding (phase (.data saver)) =
              some (receiver, state) := by
            rw [saved]
            rfl
          cases sound.alone sole.one holds' holds
          rw [← index]
          exact finishes chunk saved
      · have receivers : store.receivers = ledger.store.receivers := by
          cases op with
          | lock | fs =>
              obtain ⟨_, _, same⟩ := acted
              rw [same]
          | unlock other state' => exact absurd ⟨other, state', rfl⟩ unlocks
          | getReceiver => rw [acted.2]
          | _ => rw [acted]
        refine ⟨receiver, state, (congrFun receivers receiver).trans found, known.imp_right ?_⟩
        intro ⟨saver, chunk, saved, index⟩
        have different : saver ≠ task := by
          intro same
          subst same
          exact unlocks ⟨receiver, turned.saved saved⟩
        exact ⟨saver, chunk, (Role.update_data_other different phase').trans saved, index⟩
    · subst saving
      have found := (sound.fits.orderly.held (.data task) receiver state holds).2
      obtain ⟨fs, _, same⟩ := acted
      subst same
      exact ⟨receiver, state, found, .inr ⟨task, chunk, (Function.update_self _ _ _).trans saved,
        index⟩⟩
  · intro unserved
    rw [Role.update_data_control] at unserved
    have idle := sole.one.idle unserved task
    refine Set.eq_empty_of_forall_notMem fun idx entered => ?_
    obtain before | ⟨_, _, _, _, holds, _⟩ := turned.enters (sound.inStep task) entered
    · rw [sole.early unserved] at before
      exact before.elim
    · rw [idle] at holds
      cases holds

/-- A task with the only receiver has all chunks in it that have been recorded. -/
theorem Sole.informed_data (sole : Sole phase ledger) (sound : Sound params phase ledger)
    {task : Nat} {op : DataOp} {answer : op.Res} {phase' : DataPhase}
    (turned : DataTurn (phase (.data task)) op answer phase') :
    Informed params (.data task) op ledger answer := by
  cases op with
  | fs op =>
      intro _ begins
      have inStep := sound.inStep task
      have serves := sound.fits.served task
      generalize current : phase (.data task) = before at turned inStep serves
      cases turned with
      | idle _ quiet => cases quiet
      | store writing =>
          obtain ⟨_, part, placed⟩ := inStep
          subst placed
          cases writing with
          | create => exact absurd begins (TransferMetadata.partPath_ne_tmpPath part)
          | _ => exact begins.elim
      | @save receiver chunk state save save' op answer saving =>
          cases saving with
          | write writing =>
              cases writing with
              | create =>
                  have holds : (Role.data task : Role Unit).holding (phase (.data task)) =
                      some (receiver, state) := by
                    rw [current]
                    rfl
                  have idle : Role.saves phase (.data task) = none := by
                    rw [Role.saves, current]
                    rfl
                  refine ⟨sound.unsaved sole.one holds idle, fun idx recorded => .inl ?_⟩
                  have found := (sound.fits.orderly.held (.data task) receiver state holds).2
                  obtain ⟨receiver', state', found', known⟩ := sole.entered idx recorded
                  have same := sole.one.sole receiver receiver' (by simp [found])
                    (by simp [found'])
                  subst same
                  cases found.symm.trans found'
                  obtain listed | ⟨saver, _, saved, _⟩ := known
                  · exact ⟨receiver, state, serves receiver rfl, found, listed⟩
                  · have holds' : (Role.data saver : Role Unit).holding (phase (.data saver)) =
                        some (receiver, state) := by
                      rw [saved]
                      rfl
                    cases sound.alone sole.one holds holds'
                    cases current.symm.trans saved
              | _ => exact begins.elim
          | _ => exact begins.elim
  | _ => trivial

variable [KeyOrder] {config : Control.Config} {op : ControlOp} {answer : op.Res}
  {phase' : ControlPhase} {store : Store (Role Unit)}

theorem Sole.control (sole : Sole phase ledger) (sound : Sound params phase ledger)
    (turned : ControlTurn config (phase (.control ())) op answer phase')
    (acted : Store.controlSem True (Role.control ()) op ledger.store answer store) :
    Sole (Function.update phase (.control ()) phase')
      (noteControl params () op answer ledger store) := by
  constructor
  · exact sole.one.control turned acted
  · intro idx entered
    obtain ⟨receiver, state, found, known⟩ := sole.entered idx entered
    have served : ¬ (phase (.control ())).Unserved := by
      intro unserved
      have here : idx ∈ ledger.recorded := entered
      rw [sole.early unserved] at here
      exact here.elim
    have found' : store.receivers receiver = some state := by
      cases op with
      | lock | fs =>
          obtain ⟨_, _, same⟩ := acted
          rw [same]
          exact found
      | newReceiver created => exact absurd (turned.unborn.2 created rfl).unserved served
      | unlock other state' =>
          cases acted
          have holds := (sound.fits.orderly.held (.control ()) other state'
            (turned.returns served)).2
          by_cases same : receiver = other
          · subst same
            exact (Function.update_self _ _ _).trans (holds.symm.trans found)
          · exact (Function.update_of_ne same _ _).trans found
      | _ =>
          rw [acted]
          exact found
    refine ⟨receiver, state, found', known.imp_right fun ⟨task, chunk, saved, index⟩ => ?_⟩
    exact ⟨task, chunk, (Role.update_control_data () phase' task).trans saved, index⟩
  · intro unserved
    rw [Function.update_self] at unserved
    exact sole.early (turned.unserved unserved)

/-- The only handler recovers before a chunk is received. -/
theorem Sole.informed_control (sole : Sole phase ledger) (sound : Sound params phase ledger)
    (shared : ledger.Shared params)
    (turned : ControlTurn config (phase (.control ())) op answer phase') :
    Informed params (.control ()) op ledger answer := by
  cases op with
  | fs op =>
      intro _
      have held := sound.held shared (.control ())
      have recovers := sound.recovers ()
      have early := sole.early
      generalize current : phase (.control ()) = before at turned recovers held early
      cases turned with
      | quiet _ _ quiet => cases quiet
      | check op looks => cases op <;> first | exact ⟨False.elim, False.elim⟩ | exact looks.elim
      | @recover handshake receiver state resume resume' op answer recovering =>
          have nothing := early trivial
          have holds : (Role.control () : Role Unit).holding (phase (.control ())) =
              some (receiver, state) := by
            rw [current]
            rfl
          refine ⟨fun begins => ⟨sound.unsaved sole.one holds ?_, ?_⟩, fun _ => nothing⟩
          · rw [Role.saves, current]
            cases recovering with
            | save saving =>
                cases saving with
                | write writing => cases writing <;> first | rfl | exact begins.elim
                | _ => exact begins.elim
            | _ => exact begins.elim
          · rw [nothing]
            exact Set.empty_subset _
      | @build handshake receiver state assembly assembly' op answer building =>
          obtain ⟨_, same, _⟩ := held receiver state rfl
          subst same
          cases recovers
          cases building with
          | create => exact ⟨fun begins => absurd begins.symm state.tmpPath_ne_finalPath, False.elim⟩
          | createFails => exact ⟨False.elim, False.elim⟩
  | _ => trivial

/-- The same with one transfer, which knows what it has recorded. -/
structure SoleSteady (params : FileReceiver.Params) (stance : Stance (@Role.Phase Unit) (Ledger Unit)) :
    Prop where
  steady : Steady params stance
  sole : stance.world.Shared params → ¬ stance.world.assembling → Sole stance.phase stance.world

omit [KeyOrder] in
theorem SoleSteady.start (fs : Fs FilePath) :
    SoleSteady params ⟨@Role.begin Unit, initial fs⟩ :=
  ⟨.start fs, fun _ _ => .start fs⟩

/-- With one transfer a save begins with all that has been recorded. -/
theorem SoleSteady.informed {stance : Stance (@Role.Phase Unit) (Ledger Unit)}
    (kept : SoleSteady params stance) (shared : stance.world.Shared params)
    (unassembled : ¬ stance.world.assembling) {role : Role Unit} {op : role.sig.Op}
    {answer : role.sig.Res op} {phase' : role.Phase}
    (turned : Role.turn config role (stance.phase role) op answer phase') :
    Informed params role op stance.world answer := by
  have sound := kept.steady.sound shared unassembled
  have sole := kept.sole shared unassembled
  cases role with
  | control handler => exact sole.informed_control sound shared turned
  | data task => exact sole.informed_data sound turned

theorem SoleSteady.move {before after : Stance (@Role.Phase Unit) (Ledger Unit)}
    (kept : SoleSteady params before)
    (moved : Move (system config params) (fun _ => True) (Role.turn config) before after) :
    SoleSteady params after := by
  have earlier : after.world.Shared params → ¬ after.world.assembling →
      before.world.Shared params ∧ ¬ before.world.assembling := fun shared unassembled =>
    ⟨shared_before kept.steady.fits moved shared, unassembled_before moved unassembled⟩
  cases moved with
  | @act tid op answer phase' world turned acted permitted =>
      constructor
      · refine ⟨?_, fun shared unassembled => ?_⟩
        · cases tid with
          | control handler =>
              obtain ⟨store, acted, same⟩ := acted
              subst same
              exact kept.steady.fits.control turned acted
          | data task =>
              obtain ⟨store, acted, same⟩ := acted
              subst same
              exact kept.steady.fits.data turned acted
        · obtain ⟨shared', unassembled'⟩ := earlier shared unassembled
          have informed := kept.informed shared' unassembled' turned
          exact (kept.steady.move (.act turned ⟨informed, acted⟩ trivial)).sound shared unassembled
      · intro shared unassembled
        obtain ⟨shared', unassembled'⟩ := earlier shared unassembled
        have sound := kept.steady.sound shared' unassembled'
        have sole := kept.sole shared' unassembled'
        cases tid with
        | control handler =>
            obtain ⟨store, acted, same⟩ := acted
            subst same
            exact sole.control sound turned acted
        | data task =>
            obtain ⟨store, acted, same⟩ := acted
            subst same
            exact sole.data sound turned acted

/-- The runs of a server with one transfer all meet the condition. -/
theorem sole_informed {fs : Fs FilePath} {pool : Pool (@Role.sig Unit) Role.Ctl (Ledger Unit)}
    (reached : Reaches (system config params) (fun _ => True) (serverStart config (initial fs)) pool)
    (shared : pool.world.Shared params) (unassembled : ¬ pool.world.assembling) :
    Reaches ((system config params).guarded (Informed params)) (fun _ => True)
      (serverStart config (initial fs)) pool := by
  induction reached with
  | refl => exact .refl
  | @step pool pool' label prior stepped permitted ih =>
      obtain ⟨phase, moved, follows⟩ := server_moves config prior
      have kept : SoleSteady params ⟨phase, pool.world⟩ :=
        moved.invariant (SoleSteady params) (.start fs) fun _ _ kept moved => kept.move moved
      cases stepped with
      | @act tid op next answer world current acted =>
          have mine := follows tid
          rw [current] at mine
          obtain ⟨phase', turned, _⟩ := mine answer
          have moved' : Move (system config params) (fun _ => True) (Role.turn config)
              ⟨phase, pool.world⟩ ⟨Function.update phase tid phase', world⟩ :=
            .act turned acted trivial
          have shared' := shared_before kept.steady.fits moved' shared
          have unassembled' := unassembled_before moved' unassembled
          have informed := kept.informed shared' unassembled' turned
          exact .step (ih shared' unassembled') (.act current ⟨informed, acted⟩) permitted
      | restart current again => exact .step (ih shared unassembled) (.restart current again) permitted

end Ledger

end Sole

/-- With one transfer no chunk that has been acknowledged is missing in the record, however its
data server tasks are interleaved. -/
theorem sole_record_complete [Blake3] [KeyOrder] (config : Control.Config) (fs : Fs FilePath)
    (params : FileReceiver.Params) {pool : Pool (@Role.sig Unit) Role.Ctl (Ledger Unit)}
    (reached : Reaches (Ledger.system config params) (fun _ => True)
      (serverStart config (Ledger.initial fs)) pool)
    (shared : pool.world.Shared params) (unassembled : ¬ pool.world.assembling) :
    pool.world.Complete params := by
  obtain ⟨phase, moved, _⟩ := server_moves config (Ledger.sole_informed reached shared unassembled)
  have steady : Ledger.Steady params ⟨phase, pool.world⟩ :=
    moved.invariant (Ledger.Steady params) (.start fs) fun _ _ steady moved => steady.move moved
  exact (steady.sound shared unassembled).complete

/-- Among transfers of one file: in every run in which, until an assembly starts, a save begins
only when no other one is under way and whoever saves knows of all chunks that have been
recorded, and a recovery removes the record only before a chunk has been recorded, the record on
disk lists every chunk that has been acknowledged. -/
theorem shared_record_complete [DecidableEq Handler] [Blake3] [KeyOrder] (config : Control.Config)
    (fs : Fs FilePath) (params : FileReceiver.Params)
    {pool : Pool (@Role.sig Handler) Role.Ctl (Ledger Handler)}
    (reached : Reaches ((Ledger.system config params).guarded (Ledger.Informed params))
      (fun _ => True) (serverStart config (Ledger.initial fs)) pool)
    (shared : pool.world.Shared params) (unassembled : ¬ pool.world.assembling) :
    pool.world.Complete params := by
  obtain ⟨phase, moved, _⟩ := server_moves config reached
  have steady : Ledger.Steady params ⟨phase, pool.world⟩ :=
    moved.invariant (Ledger.Steady params) (.start fs) fun _ _ steady moved => steady.move moved
  exact (steady.sound shared unassembled).complete

section Sample

namespace Ledger

theorem acked_grows (params : FileReceiver.Params) (task : Nat) (op : DataOp) (answer : op.Res)
    (ledger : Ledger Handler) (store : Store (Role Handler)) :
    ledger.acked ⊆ (noteData params task op answer ledger store).acked := by
  cases op with
  | sendFrame payload =>
      cases answer with
      | error error => exact subset_rfl
      | ok _ =>
          dsimp only [noteData]
          split
          · exact Set.subset_union_left
          · exact subset_rfl
  | _ => exact subset_rfl

section Runs

variable [Blake3] {params : FileReceiver.Params} {task : Nat} {receiver : ReceiverId}
  {state : FileReceiver} {frame : Bytes} {chunk : ChunkInHand}

/-- What a task that takes a chunk notes. -/
structure Taking (task : Nat) (receiver : ReceiverId) (state : FileReceiver) (frame : Bytes)
    (chunk : ChunkInHand) (before : Ledger Handler) (stage : ChunkStage) (ledger : Ledger Handler) :
    Prop where
  served : ledger.roster.served task = some receiver
  frame : stage ≠ .looking → ledger.frame task = some frame
  unsaved : stage = .looking ∨ stage = .holding →
    ledger.store.receivers receiver = some state ∧ ledger.recorded = before.recorded
  saver : stage ≠ .saving → ledger.saver = before.saver ∨ ledger.saver = none
  recorded : ledger.recorded ⊆ before.recorded ∪ {chunk.idx}
  acked : before.acked ⊆ ledger.acked
  done : stage = .acknowledged → before.acked ∪ {chunk.idx} ⊆ ledger.acked

theorem Taking.brings {stage : ChunkStage} {before ledger : Ledger Handler}
    (taking : Taking task receiver state frame chunk before stage ledger)
    (carries : Carries state frame chunk) (held : stage ≠ .looking) :
    indexOf (ledger.frame task) = {chunk.idx} :=
  (carries.brings rfl (taking.frame held)).index

/-- Whoever knows all that has been recorded before may save. -/
theorem Taking.saves {before ledger : Ledger Handler}
    (taking : Taking task receiver state frame chunk before .holding ledger)
    (carries : Carries state frame chunk) (idle : before.saver = none)
    (known : before.recorded ⊆ {idx | idx ∈ state.metadata.chunkHashes.keys} ∪ {chunk.idx}) :
    ledger.saver = none ∧
      ledger.recorded ⊆ ledger.Known task ∪ indexOf (ledger.frame task) := by
  obtain ⟨found, recorded⟩ := taking.unsaved (.inr rfl)
  constructor
  · rcases taking.saver (by decide) with same | none_
    · rw [same, idle]
    · exact none_
  · rw [recorded, taking.brings carries (by decide)]
    refine known.trans (Set.union_subset_union_left _ ?_)
    exact fun idx listed => ⟨receiver, state, taking.served, found, listed⟩

theorem Taking.next {stage stage' : ChunkStage} {before ledger : Ledger Handler} {op : DataOp}
    {answer : op.Res} {after : Store (Role Handler)}
    (taking : Taking task receiver state frame chunk before stage ledger)
    (carries : Carries state frame chunk)
    (turned : ChunkTurn receiver state frame chunk stage op answer stage')
    (acted : Store.dataSem False (Role.data task) op ledger.store answer after) :
    Taking task receiver state frame chunk before stage'
      (noteData state.params task op answer ledger after) := by
  constructor
  case served => cases turned <;> exact taking.served
  case frame =>
    intro held
    refine (Function.update_self _ _ _).trans ?_
    cases turned with
    | look | leave => exact absurd rfl held
    | hear => rfl
    | _ => exact taking.frame (by decide)
  case unsaved =>
    intro early
    cases turned with
    | look | lock => exact ⟨acted.2.2 ▸ acted.2.1, (taking.unsaved early).2⟩
    | leave | unlock =>
        obtain rfl := acted
        exact ⟨Function.update_self _ _ _, (taking.unsaved early).2⟩
    | hear =>
        obtain rfl := acted
        exact taking.unsaved (.inl rfl)
    | create | write =>
        obtain ⟨_, _, rfl⟩ := acted
        exact taking.unsaved early
    | _ => exact absurd early (by decide)
  case saver =>
    intro settled
    cases turned with
    | create =>
        have kept := taking.saver (by decide)
        have part : state.partPath chunk.idx ≠ state.params.tmpPath :=
          TransferMetadata.partPath_ne_tmpPath chunk.idx
        simp only [noteData, noteSaver]
        rw [if_neg part]
        exact kept
    | rename => exact .inr (if_pos rfl)
    | start | fill => exact absurd rfl settled
    | _ => exact taking.saver (by decide)
  case recorded =>
    cases turned with
    | rename =>
        have entered : noteRecorded state.params (indexOf (ledger.frame task))
            (.rename state.tmpPath state.metaPath) (.ok ()) ledger.recorded =
              ledger.recorded ∪ {chunk.idx} := by
          rw [taking.brings carries (by decide)]
          exact if_pos rfl
        exact entered.le.trans (Set.union_subset taking.recorded Set.subset_union_right)
    | _ => exact taking.recorded
  case acked =>
    exact taking.acked.trans (acked_grows state.params task op answer ledger after)
  case done =>
    intro done
    cases turned with
    | acknowledge =>
        have entered : (noteData state.params task (.sendFrame [Chunk.ackOk]) (.ok ()) ledger
            after).acked = ledger.acked ∪ {chunk.idx} := by
          simp only [noteData, if_true, taking.brings carries (by decide)]
        rw [entered]
        exact Set.union_subset_union_left _ taking.acked
    | _ => cases done

theorem followsChunk [DecidableEq Handler] [KeyOrder] (config : Control.Config) (informed : Prop)
    (task : Nat) (receiver : ReceiverId) (before : Ledger Handler)
    (carries : Carries state frame chunk) (same : state.params = params)
    (idle : informed → before.saver = none)
    (known : informed → before.recorded ⊆
      {idx | idx ∈ state.metadata.chunkHashes.keys} ∪ {chunk.idx}) :
    FollowsChunk (((system config params).guardedIf informed (Informed params)).sem (.data task))
      (@store Handler) (.data task) receiver state frame chunk
      (Taking task receiver state frame chunk before) := by
  subst same
  intro stage op answer stage' world after turned taking acted
  refine ⟨_, ⟨fun asked => ?_, after, acted.mono, rfl⟩, rfl, taking.next carries turned acted⟩
  cases turned with
  | create | start => exact fun _ _ => taking.saves carries (idle asked) (known asked)
  | write | fill | rename => exact fun _ begins => begins.elim
  | _ => trivial

end Runs

/-- As long as all handlers wait, no assembly has started. -/
structure Unopened (params : FileReceiver.Params) (stance : Stance (@Role.Phase Handler)
    (Ledger Handler)) : Prop where
  fits : stance.world.roster.Fits stance.phase stance.world.store
  late : stance.world.Shared params → stance.world.assembling →
    ∃ handler, (stance.phase (.control handler)).Late

section Unopened

variable [DecidableEq Handler] [Blake3] [KeyOrder] {params : FileReceiver.Params}
  {config : Control.Config}

omit [DecidableEq Handler] in
/-- The output file is created by an assembly. -/
theorem late_of_create {phase phase' : ControlPhase} {op : ControlOp} {answer : op.Res}
    (turned : ControlTurn config phase op answer phase')
    (shares : ∀ receiver state, phase.holding = some (receiver, state) → state.params = params)
    (creates : op = .fs (.create params.finalPath)) : phase'.Late := by
  cases turned with
  | quiet _ _ quiet =>
      rw [creates] at quiet
      cases quiet
  | check op looks =>
      cases creates
      exact looks.elim
  | @recover handshake receiver state resume resume' op answer recovering =>
      have same := shares receiver state rfl
      subst same
      cases creates
      exact absurd (recovering.creates rfl).symm state.tmpPath_ne_finalPath
  | build => trivial
  | _ => cases creates

theorem Unopened.move {before after : Stance (@Role.Phase Handler) (Ledger Handler)}
    (unopened : Unopened params before)
    (moved : Move (system config params) (fun _ => True) (Role.turn config) before after) :
    Unopened params after := by
  obtain ⟨fits, late⟩ := unopened
  have earlier := shared_before fits moved
  cases moved with
  | @act tid op answer phase' world turned acted permitted =>
      cases tid with
      | control handler =>
          obtain ⟨store, acted, same⟩ := acted
          subst same
          refine ⟨fits.control turned acted, fun shared assembling => ?_⟩
          have shared' := earlier shared
          obtain already | creates := assembling
          · obtain ⟨other, there⟩ := late shared' already
            refine ⟨other, ?_⟩
            by_cases here : other = handler
            · subst here
              dsimp only
              rw [Function.update_self]
              exact Ending.late_turn turned there
            · dsimp only
              rwa [Role.update_control_other here]
          · refine ⟨handler, ?_⟩
            dsimp only
            rw [Function.update_self]
            refine late_of_create turned (fun receiver state holds => ?_) creates
            exact shared' receiver state (fits.orderly.held (.control handler) receiver state holds).2
      | data task =>
          obtain ⟨store, acted, same⟩ := acted
          subst same
          refine ⟨fits.data turned acted, fun shared assembling => ?_⟩
          obtain ⟨other, there⟩ := late (earlier shared) assembling
          refine ⟨other, ?_⟩
          dsimp only
          rwa [Role.update_data_control]

theorem unassembled_of_waiting {fs : Fs FilePath}
    {pool : Pool (@Role.sig Handler) Role.Ctl (Ledger Handler)}
    (reached : Reaches (system config params) (fun _ => True) (serverStart config (initial fs)) pool)
    (shared : pool.world.Shared params)
    (waiting : ∀ handler, ∃ transfer, pool.prog (.control handler) = .ret (.waiting transfer)) :
    ¬ pool.world.assembling := by
  obtain ⟨phase, moved, follows⟩ := server_moves config reached
  have unopened : Unopened params ⟨phase, pool.world⟩ :=
    moved.invariant (Unopened params) ⟨.start fs, fun _ assembling => assembling.elim⟩
      fun _ _ unopened moved => unopened.move moved
  intro assembling
  obtain ⟨handler, late⟩ := unopened.late shared assembling
  obtain ⟨transfer, waits⟩ := waiting handler
  have ended := follows (.control handler)
  rw [waits] at ended
  obtain ⟨handshake, complete, serving⟩ := ended
  dsimp only at late
  rw [serving] at late
  cases late

end Unopened

/-- A server that opens a single data port for each transfer. -/
def sampleConfig : Control.Config := { Control.sampleConfig with maxParallel := 1 }

set_option maxRecDepth 8000 in
theorem parseHandshake_sampleHandshakes :
    let _ := Blake3.samples
    ∃ handshake, parseHandshake Control.sampleHandshakes = .ok handshake ∧
      handshake.safeName = ascii "f" ∧ handshake.numChunks = 2 ∧
        handshake.receiver (ascii "received") (ascii "received") = sampleReceiver :=
  ⟨_, rfl, rfl, rfl, rfl⟩

section Reaching

variable [DecidableEq Handler] [Blake3] [KeyOrder] {config : Control.Config}
  {params : FileReceiver.Params} {informed : Prop}
  {start pool : Pool (@Role.sig Handler) Role.Ctl (Ledger Handler)}

/-- What is noted of chunks and saves is as before. -/
structure Still (before ledger : Ledger Handler) : Prop where
  saver : ledger.saver = before.saver
  recorded : ledger.recorded = before.recorded
  acked : ledger.acked = before.acked

/-- A handler that changes no file knows enough. -/
theorem reaches_read (handler : Handler) {data : Bytes} {rest : ControlProg ControlState}
    {after : Store (Role Handler)}
    (reached : Reaches ((system config params).guardedIf informed (Informed params)) (fun _ => True)
      start pool)
    (ran : Runs (Store.readSem (Role.control handler) data fun _ => True) (pool.prog (.control handler))
      pool.world.store rest after) :
    ∃ pool', Reaches ((system config params).guardedIf informed (Informed params)) (fun _ => True)
        start pool' ∧ pool'.prog (.control handler) = rest ∧
      (∀ other, other ≠ .control handler → pool'.prog other = pool.prog other) ∧
        pool'.world.store = after ∧ Still pool.world pool'.world := by
  have lifts : ∀ (op : ControlOp) (world : Ledger Handler) (answer : op.Res)
      (after : Store (Role Handler)), Still pool.world world →
      Store.readSem (Role.control handler) data (fun _ => True) op world.store answer after →
        ∃ world', ((system config params).guardedIf informed (Informed params)).sem
            (.control handler) op world answer world' ∧
          world'.store = after ∧ Still pool.world world' := by
    intro op world answer after still acted
    obtain ⟨reads, acted⟩ := acted
    refine ⟨_, ⟨fun _ => ?_, after, acted.mono, rfl⟩, rfl, ?_, still.recorded, still.acked⟩
    · cases op with
      | fs op =>
          refine fun _ => ⟨fun begins => ?_, fun erases => ?_⟩
          · cases op with
            | create => exact reads.elim
            | _ => exact begins.elim
          · cases op with
            | remove => exact reads.elim
            | _ => exact erases.elim
      | _ => trivial
    · refine Eq.trans ?_ still.saver
      cases op with
      | fs op =>
          cases op with
          | create | writeAt | rename => exact reads.elim
          | _ => rfl
      | _ => rfl
  obtain ⟨opened, runs, stored, still⟩ := Runs.lift store (Still pool.world) lifts ⟨rfl, rfl, rfl⟩ ran
  obtain ⟨pool', reached, step⟩ := reached.alone (.control handler) rfl rfl runs
  refine ⟨pool', reached, step.prog, step.others, ?_, ?_⟩
  · rw [step.world]
    exact stored
  · rw [step.world]
    exact still

/-- A task takes a connection. -/
theorem reaches_connected {receiver : ReceiverId} (task : Nat) (port : UInt16)
    (reached : Reaches ((system config params).guardedIf informed (Informed params)) (fun _ => True)
      start pool)
    (fresh : pool.prog (.data task) = Data.task)
    (registered : pool.world.store.registry port = some receiver) :
    ∃ pool', Reaches ((system config params).guardedIf informed (Informed params)) (fun _ => True)
        start pool' ∧ pool'.prog (.data task) = .ret (.connected port receiver) ∧
      (∀ other, other ≠ .data task → pool'.prog other = pool.prog other) ∧
        pool'.world.store = pool.world.store ∧ Still pool.world pool'.world ∧
          pool'.world.roster.served task = some receiver := by
  let sys := (@system Handler _ _ _ config params).guardedIf informed (Informed params)
  have starts : Runs (sys.sem (.data task)) Data.task pool.world (.ret (.accepting port)) _ :=
    .vis port ⟨fun _ => trivial, pool.world.store, rfl, rfl⟩ .refl
  have connects : Runs (sys.sem (.data task)) (Data.acceptConnection port)
      (noteData params task .start port pool.world pool.world.store)
      (.ret (.connected port receiver)) _ :=
    .vis (.ok ()) ⟨fun _ => trivial, pool.world.store, rfl, rfl⟩
      (.vis (some receiver) ⟨fun _ => trivial, pool.world.store, ⟨registered.symm, rfl⟩, rfl⟩ .refl)
  obtain ⟨pool₁, reached, step₁⟩ := reached.alone (.data task) fresh rfl starts
  obtain ⟨pool₂, reached, step₂⟩ := reached.aloneAgain (.data task) step₁.prog step₁.world rfl connects
  refine ⟨pool₂, reached, step₂.prog, fun other different => ?_, ?_, ?_, ?_⟩
  · rw [step₂.others other different, step₁.others other different]
  · rw [step₂.world]
    rfl
  · rw [step₂.world]
    exact ⟨rfl, rfl, rfl⟩
  · rw [step₂.world]
    exact Function.update_self _ _ _

/-- A task takes a connection and acknowledges its first chunk. -/
theorem reaches_received {receiver : ReceiverId} {state : FileReceiver} {frame : Bytes}
    {chunk : ChunkInHand} (task : Nat) (port : UInt16)
    (reached : Reaches ((system config params).guardedIf informed (Informed params)) (fun _ => True)
      start pool)
    (fresh : pool.prog (.data task) = Data.task)
    (registered : pool.world.store.registry port = some receiver)
    (ready : pool.world.store.Ready receiver state) (carries : Carries state frame chunk)
    (unfailed : state.failed = false) (same : state.params = params)
    (idle : informed → pool.world.saver = none)
    (known : informed → pool.world.recorded ⊆
      {idx | idx ∈ state.metadata.chunkHashes.keys} ∪ {chunk.idx}) :
    ∃ pool', Reaches ((system config params).guardedIf informed (Informed params)) (fun _ => True)
        start pool' ∧
      (∀ other, other ≠ .data task → pool'.prog other = pool.prog other) ∧
      pool'.world.store = pool.world.store.receive receiver state chunk ∧
      pool.world.acked ∪ {chunk.idx} ⊆ pool'.world.acked ∧
      pool'.world.recorded ⊆ pool.world.recorded ∪ {chunk.idx} ∧
        (informed → pool'.world.saver = none) := by
  obtain ⟨pool₁, reached, connected, others, stored, still, served⟩ :=
    reaches_connected task port reached fresh registered
  rw [← stored] at ready ⊢
  rw [← still.saver] at idle
  rw [← still.recorded] at known ⊢
  have takes : Taking task receiver state frame chunk pool₁.world .looking pool₁.world :=
    ⟨served, fun held => absurd rfl held, fun _ => ⟨ready.found, rfl⟩, fun _ => .inl rfl,
      Set.subset_union_left, subset_rfl, nofun⟩
  obtain ⟨pool₂, reached, _, others', took, there⟩ :=
    (followsChunk config informed task receiver pool₁.world carries same idle known).reaches reached
      connected ready carries unfailed takes
  refine ⟨pool₂, reached, fun other different => ?_, there, ?_, took.recorded, fun asked => ?_⟩
  · rw [others' other different, others other different]
  · rw [← still.acked]
    exact took.done rfl
  · rcases took.saver (by decide) with kept | none_
    · rw [kept, idle asked]
    · exact none_

end Reaching

/-- A handler accepts the two-byte file and waits for its chunks. -/
theorem reaches_waiting [DecidableEq Handler] {informed : Prop}
    {start pool : Pool (@Role.sig Handler) Role.Ctl (Ledger Handler)}
    (handler : Handler) (receiver : ReceiverId) (refused : List UInt16) {untried : List UInt16}
    {port : UInt16} :
    let _ := Blake3.samples
    let _ := KeyOrder.increasing
    let sys := (@system Handler _ _ _ sampleConfig sampleReceiver.params).guardedIf informed
      (Informed sampleReceiver.params)
    Reaches sys (fun _ => True) start pool →
    pool.prog (.control handler) = Control.task sampleConfig →
    pool.world.store.receivers receiver = none → pool.world.store.holder receiver = none →
    pool.world.store.fs sampleReceiver.finalPath = none →
    pool.world.store.fs sampleReceiver.metaPath = none →
    dataPorts = refused ++ port :: untried →
    ∃ pool' transfer, Reaches sys (fun _ => True) start pool' ∧
      pool'.prog (.control handler) = .ret (.waiting transfer) ∧
      (∀ other, other ≠ .control handler → pool'.prog other = pool.prog other) ∧
      pool'.world.store = (pool.world.store.leave receiver sampleReceiver).enlist port receiver ∧
        Still pool.world pool'.world := by
  intro _ _ _ reached fresh absent unlocked missing unrecorded ports
  obtain ⟨handshake, parsed, name, chunks, created⟩ := parseHandshake_sampleHandshakes
  have output : sampleReceiver.finalPath = ⟨sampleConfig.outputDir, handshake.safeName⟩ := by
    rw [name]
    rfl
  have accepts : Runs (Store.readSem (Role.control handler) Control.sampleHandshakes fun _ => True)
      (pool.prog (.control handler))
      pool.world.store (.ret (.waiting ⟨handshake, receiver, [port]⟩))
      ((pool.world.store.leave receiver sampleReceiver).enlist port receiver) := by
    rw [← created] at unrecorded ⊢
    rw [output] at missing
    rw [fresh]
    exact Store.runs_handshake_new rfl parsed (by rw [chunks]; rfl) ports absent unlocked missing
      unrecorded trivial (by rw [HandshakeData.receiver, chunks]; rfl)
  obtain ⟨pool', reached, waits, others, stored, still⟩ := reaches_read handler reached accepts
  exact ⟨pool', _, reached, waits, others, stored, still⟩

end Ledger

/-- The second chunk of the sample transfer. -/
def lastChunk : ChunkInHand := ⟨1, [0x62]⟩

theorem carries_lastChunk :
    let _ := Blake3.samples
    Carries sampleReceiver (Client.chunkMessage 1 1 [0x62]).flatten lastChunk := by
  intro _
  refine carries_chunkMessage (by decide) (by simp) ?_
  have expected : expectedChunkSize 2 1 2 1 = some 1 := by decide
  exact expected

/-- The receiver once its first chunk has been recorded. -/
def resumedReceiver : FileReceiver := @FileReceiver.recorded .samples sampleReceiver (sampleChunk 0x61)

theorem encodable_recorded {chunk : ChunkInHand} (inRange : chunk.idx < 2) :
    let _ := Blake3.samples
    (sampleReceiver.recorded chunk).metadata.Encodable := by
  intro _
  obtain ⟨handshake, _, _, _, created⟩ := Ledger.parseHandshake_sampleHandshakes
  have coherent : FileReceiver.Coherent handshake sampleReceiver := by
    rw [← created]
    exact ⟨rfl, rfl, rfl, ⟨rfl, rfl, rfl, rfl⟩, nofun⟩
  exact (coherent.recorded inRange).encodable

/-- A handler that accepts the two-byte file when its first chunk has been recorded marks that one. -/
theorem resumes_resumedReceiver {Owner : Type} {owner : Owner} {store : Store Owner}
    {receiver : ReceiverId} :
    let _ := Blake3.samples
    let _ := KeyOrder.increasing
    store.Ready receiver sampleReceiver →
    store.fs sampleReceiver.metaPath = some resumedReceiver.metadata.toBytes →
    store.fs (sampleReceiver.partPath 0) = some [0x61] →
    Runs (Store.readSem owner Control.sampleHandshakes fun _ => True) (Control.resume receiver) store
      (.ret (some false))
      (store.leave receiver resumedReceiver) := by
  intro _ _ ready record part
  have stored : Stored store.fs sampleReceiver resumedReceiver.metadata :=
    ⟨_, record, TransferMetadata.fromBytes_toBytes (encodable_recorded (by decide))⟩
  have intact : ∀ idx ∈ resumedReceiver.metadata.chunkHashes.keys,
      Matches store.fs sampleReceiver resumedReceiver.metadata idx := by
    intro idx listed
    have first : idx ∈ [0] := listed
    rw [List.mem_singleton.mp first]
    exact ⟨_, part, rfl⟩
  exact Store.runs_resume_recorded ready stored ⟨rfl, rfl, rfl, rfl⟩ intact rfl trivial

/-- Two tasks of the only transfer acknowledge a chunk each. -/
theorem sole_record_complete_both :
    let _ := Blake3.samples
    let _ := KeyOrder.increasing
    ∃ pool : Pool (@Role.sig Unit) Role.Ctl (Ledger Unit),
      Reaches (Ledger.system Ledger.sampleConfig sampleReceiver.params) (fun _ => True)
        (serverStart Ledger.sampleConfig (.initial fun _ => none)) pool ∧
      0 ∈ pool.world.acked ∧ 1 ∈ pool.world.acked ∧ pool.world.Complete sampleReceiver.params := by
  intro _ _
  obtain ⟨untried, ports⟩ := dataPorts_first
  have begun : Reaches ((Ledger.system Ledger.sampleConfig sampleReceiver.params).guardedIf False
      (Ledger.Informed sampleReceiver.params)) (fun _ => True)
    (serverStart Ledger.sampleConfig (.initial fun _ => none : Ledger Unit)) _ := .refl
  obtain ⟨pool₁, transfer, reached, waits, others, same, _⟩ :=
    Ledger.reaches_waiting () 0 [] begun rfl rfl rfl rfl rfl ports
  obtain ⟨pool₂, reached, others₂, received, acked, _⟩ :=
    Ledger.reaches_received 0 45000 reached (by rw [others _ (by simp)]; rfl) (by rw [same]; rfl)
      (by rw [same]; exact ⟨rfl, rfl⟩) (carries_sampleChunk 0x61 rfl) rfl rfl False.elim False.elim
  rw [same] at received
  have carries : Carries resumedReceiver _ lastChunk := carries_lastChunk.of_params rfl
  obtain ⟨pool₃, reached, others₃, received', acked', _⟩ :=
    Ledger.reaches_received 1 45000 reached (by rw [others₂ _ (by simp), others _ (by simp)]; rfl)
      (by rw [received]; rfl) (by rw [received]; exact ⟨rfl, rfl⟩) carries rfl rfl False.elim False.elim
  rw [received] at received'
  have shared : pool₃.world.Shared sampleReceiver.params := by
    have none_ : (Store.initial fun _ => none : Store (Role Unit)).All
        fun state => state.params = sampleReceiver.params := Store.all_initial _ _
    have last : pool₃.world.store.All fun state => state.params = sampleReceiver.params := by
      rw [received']
      exact (((none_.leave 0 rfl).enlist 45000 0).receive rfl).receive rfl
    exact last
  have waiting : ∀ handler, ∃ transfer, pool₃.prog (.control handler) = .ret (.waiting transfer) := by
    intro handler
    refine ⟨transfer, ?_⟩
    rw [others₃ _ (by simp), others₂ _ (by simp)]
    exact waits
  have reached := reached.unguarded
  have unassembled := Ledger.unassembled_of_waiting reached shared waiting
  exact ⟨pool₃, reached, acked' (.inl (acked (.inr rfl))), acked' (.inr rfl),
    sole_record_complete Ledger.sampleConfig _ sampleReceiver.params reached shared unassembled⟩

/-- The first of two transfers acknowledges the first chunk. The second one finds it in the record
and acknowledges the other chunk, while the first one is still waiting. -/
theorem shared_record_complete_resumed :
    let _ := Blake3.samples
    let _ := KeyOrder.increasing
    ∃ pool : Pool (@Role.sig Bool) Role.Ctl (Ledger Bool),
      Reaches ((Ledger.system Ledger.sampleConfig sampleReceiver.params).guarded
          (Ledger.Informed sampleReceiver.params)) (fun _ => True)
        (serverStart Ledger.sampleConfig (.initial fun _ => none)) pool ∧
      (∀ handler, ∃ transfer, pool.prog (.control handler) = .ret (.waiting transfer)) ∧
      0 ∈ pool.world.acked ∧ 1 ∈ pool.world.acked ∧ pool.world.Complete sampleReceiver.params := by
  intro _ _
  obtain ⟨untried, ports⟩ := dataPorts_first
  have begun : Reaches ((Ledger.system Ledger.sampleConfig sampleReceiver.params).guardedIf True
      (Ledger.Informed sampleReceiver.params)) (fun _ => True)
    (serverStart Ledger.sampleConfig (.initial fun _ => none : Ledger Bool)) _ := .refl
  obtain ⟨pool₁, first, reached, waits, others, same, still⟩ :=
    Ledger.reaches_waiting false 0 [] begun rfl rfl rfl rfl rfl ports
  obtain ⟨pool₂, reached, others', received, acked, recorded, idle⟩ :=
    Ledger.reaches_received 0 45000 reached (by rw [others _ (by simp)]; rfl) (by rw [same]; rfl)
      (by rw [same]; exact ⟨rfl, rfl⟩) (carries_sampleChunk 0x61 rfl) rfl rfl
      (fun _ => still.saver) fun _ => by rw [still.recorded]; exact Set.empty_subset _
  have known : pool₂.world.recorded ⊆ {0} := by
    rw [still.recorded] at recorded
    exact recorded.trans (Set.empty_union _).le
  rw [same] at received
  -- the second handler takes over what is on disk
  obtain ⟨handshake, parsed, name, chunks, created⟩ := Ledger.parseHandshake_sampleHandshakes
  have created' : handshake.receiver Ledger.sampleConfig.outputDir Ledger.sampleConfig.tempDir =
      sampleReceiver := created
  have ports' : dataPorts = [45000] ++ 45001 :: untried := ports
  have record : pool₂.world.store.fs sampleReceiver.metaPath =
      some resumedReceiver.metadata.toBytes := by
    rw [received]
    exact Store.receive_metaPath
  have part : pool₂.world.store.fs (sampleReceiver.partPath 0) = some [0x61] := by
    rw [received]
    exact Store.receive_partPath
  have ready : (pool₂.world.store.leave 1 sampleReceiver).Ready 1 sampleReceiver := by
    rw [received]
    exact ⟨rfl, rfl⟩
  have resumes : Runs (Store.readSem (Role.control true) Control.sampleHandshakes fun _ => True)
      (Control.resume 1)
      (pool₂.world.store.leave 1 sampleReceiver) (.ret (some false))
      ((pool₂.world.store.leave 1 sampleReceiver).leave 1 resumedReceiver) :=
    resumes_resumedReceiver ready record part
  have accepts : Runs (Store.readSem (Role.control true) Control.sampleHandshakes fun _ => True)
      (pool₂.prog (.control true))
      pool₂.world.store (.ret (.waiting ⟨handshake, 1, [45001]⟩))
      (((pool₂.world.store.leave 1 sampleReceiver).leave 1 resumedReceiver).enlist 45001 1) := by
    rw [← created'] at resumes ⊢
    rw [others' _ (by simp), others _ (by simp)]
    exact Store.runs_handshake rfl parsed (by rw [chunks]; rfl) ports' (by rw [received]; rfl)
      (by rw [received, name]; rfl) resumes ⟨ready.free, Store.leave_self⟩ trivial rfl rfl
  obtain ⟨pool₃, reached, waits', others₃, stored, still'⟩ := Ledger.reaches_read true reached accepts
  rw [received] at stored
  have listed : pool₃.world.recorded ⊆
      {idx | idx ∈ resumedReceiver.metadata.chunkHashes.keys} ∪ {lastChunk.idx} := by
    rw [still'.recorded]
    refine known.trans (Set.singleton_subset_iff.mpr (.inl ?_))
    exact List.mem_singleton_self 0
  have carries : Carries resumedReceiver _ lastChunk := carries_lastChunk.of_params rfl
  obtain ⟨pool₄, reached, others₄, received', acked', _⟩ :=
    Ledger.reaches_received 1 45001 reached
      (by rw [others₃ _ (by simp), others' _ (by simp), others _ (by simp)]; rfl)
      (by rw [stored]; rfl) (by rw [stored]; exact ⟨rfl, rfl⟩) carries rfl rfl
      (fun _ => still'.saver.trans (idle trivial)) fun _ => listed
  rw [stored] at received'
  have waiting : ∀ handler, ∃ transfer, pool₄.prog (.control handler) = .ret (.waiting transfer) := by
    intro handler
    cases handler with
    | false =>
        refine ⟨first, ?_⟩
        rw [others₄ _ (by simp), others₃ _ (by simp), others' _ (by simp)]
        exact waits
    | true =>
        refine ⟨⟨handshake, 1, [45001]⟩, ?_⟩
        rw [others₄ _ (by simp)]
        exact waits'
  have shared : pool₄.world.Shared sampleReceiver.params := by
    have none_ : (Store.initial fun _ => none : Store (Role Bool)).All
        fun state => state.params = sampleReceiver.params := Store.all_initial _ _
    have taken : pool₂.world.store.All fun state => state.params = sampleReceiver.params := by
      rw [received]
      exact ((none_.leave 0 rfl).enlist 45000 0).receive rfl
    have last : pool₄.world.store.All fun state => state.params = sampleReceiver.params := by
      rw [received', ← received]
      have resumed : ((pool₂.world.store.leave 1 sampleReceiver).leave 1 resumedReceiver).All
          fun state => state.params = sampleReceiver.params := (taken.leave 1 rfl).leave 1 rfl
      exact (resumed.enlist 45001 1).receive rfl
    exact last
  have unassembled := Ledger.unassembled_of_waiting reached.unguarded shared waiting
  have both : pool₂.world.acked ∪ {lastChunk.idx} ⊆ pool₄.world.acked := by
    rw [← still'.acked]
    exact acked'
  rw [System.guardedIf_of_asked trivial] at reached
  exact ⟨pool₄, reached, waiting, both (.inl (acked (.inr rfl))), both (.inr rfl),
    shared_record_complete Ledger.sampleConfig _ sampleReceiver.params reached shared unassembled⟩

/-- The first of two transfers records and acknowledges the first chunk, the second one the
second chunk, and then the record lists that one only. -/
theorem shared_record_overwritten :
    let _ := Blake3.samples
    let _ := KeyOrder.increasing
    ∃ pool : Pool (@Role.sig Bool) Role.Ctl (Ledger Bool),
      Reaches (Ledger.system Ledger.sampleConfig sampleReceiver.params) (fun _ => True)
        (serverStart Ledger.sampleConfig (.initial fun _ => none)) pool ∧
      pool.world.Shared sampleReceiver.params ∧ ¬ pool.world.assembling ∧
        ¬ pool.world.Complete sampleReceiver.params := by
  intro _ _
  obtain ⟨untried, ports⟩ := dataPorts_first
  have begun : Reaches ((Ledger.system Ledger.sampleConfig sampleReceiver.params).guardedIf False
      (Ledger.Informed sampleReceiver.params)) (fun _ => True)
    (serverStart Ledger.sampleConfig (.initial fun _ => none : Ledger Bool)) _ := .refl
  obtain ⟨pool₁, first, reached, waits, others, same, _⟩ :=
    Ledger.reaches_waiting false 0 [] begun rfl rfl rfl rfl rfl ports
  obtain ⟨pool₂, second, reached, waits', others', same', _⟩ :=
    Ledger.reaches_waiting true 1 [45000] reached (others _ (by simp)) (by rw [same]; rfl)
      (by rw [same]; rfl) (by rw [same]; rfl) (by rw [same]; rfl) ports
  rw [same] at same'
  obtain ⟨pool₃, reached, others₃, received, acked, _⟩ :=
    Ledger.reaches_received 0 45000 reached (by rw [others' _ (by simp), others _ (by simp)]; rfl)
      (by rw [same']; rfl) (by rw [same']; exact ⟨rfl, rfl⟩) (carries_sampleChunk 0x61 rfl) rfl rfl
      False.elim False.elim
  rw [same'] at received
  obtain ⟨pool₄, reached, others₄, received', acked', _⟩ :=
    Ledger.reaches_received 1 45001 reached
      (by rw [others₃ _ (by simp), others' _ (by simp), others _ (by simp)]; rfl)
      (by rw [received]; rfl) (by rw [received]; exact ⟨rfl, rfl⟩) carries_lastChunk rfl rfl
      False.elim False.elim
  rw [received] at received'
  have shared : pool₄.world.Shared sampleReceiver.params := by
    have none_ : (Store.initial fun _ => none : Store (Role Bool)).All
        fun state => state.params = sampleReceiver.params := Store.all_initial _ _
    have last : pool₄.world.store.All fun state => state.params = sampleReceiver.params := by
      rw [received']
      exact ((((none_.leave 0 rfl).enlist 45000 0).leave 1 rfl).enlist 45001 1).receive rfl |>.receive rfl
    exact last
  have waiting : ∀ handler, ∃ transfer, pool₄.prog (.control handler) = .ret (.waiting transfer) := by
    intro handler
    cases handler with
    | false =>
        refine ⟨first, ?_⟩
        rw [others₄ _ (by simp), others₃ _ (by simp), others' _ (by simp)]
        exact waits
    | true =>
        refine ⟨second, ?_⟩
        rw [others₄ _ (by simp), others₃ _ (by simp)]
        exact waits'
  have reached := reached.unguarded
  refine ⟨pool₄, reached, shared, Ledger.unassembled_of_waiting reached shared waiting, ?_⟩
  intro complete
  obtain ⟨content, onDisk, metadata, parsed, listed⟩ := complete 0 (acked' (.inl (acked (.inr rfl))))
  have written : pool₄.world.store.fs sampleReceiver.metaPath =
      some (sampleReceiver.recorded lastChunk).metadata.toBytes := by
    rw [received']
    exact Store.receive_metaPath
  cases written.symm.trans onDisk
  rw [TransferMetadata.fromBytes_toBytes (encodable_recorded (by decide))] at parsed
  cases parsed
  revert listed
  decide

end Sample

end BeeSync.Server
