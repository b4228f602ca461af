import BeeSync.Server.SessionResume
import BeeSync.Server.StoreRuns

/-!
# The frames of a control session

What a handler writes on the control stream, against everything its calls may bring. A
session that ends has one of four shapes, unless the check for an existing file fails or a
record names a chunk that the transfer does not have.
-/

set_option autoImplicit false

namespace BeeSync.Server

open Encoding Interaction

namespace Session

variable [Blake3] {config : Control.Config} {handshake : HandshakeData} {data : Bytes}

section Assembling

/-- The calls of an assembly. -/
def AssembleFs (out : FilePath) (op : FsOp FilePath) : Prop :=
  QuietFs out op ∨ op = .create out

omit [Blake3] in
theorem AssembleFs.still {out : FilePath} {op : FsOp FilePath} (assembles : AssembleFs out op)
    (answer : op.Res) : Still out [⟨.fs op, answer⟩] := by
  cases assembles with
  | inl quiet => exact (quiet.calm answer).toStill
  | inr create =>
      subst create
      exact ⟨rfl, List.not_mem_nil, rfl⟩

omit [Blake3] in
theorem still_of_assembles {out : FilePath} {calls : List (Event (FsSig FilePath))}
    (assembles : ∀ call ∈ calls, AssembleFs out call.op) : Still out (calls.map onFs) := by
  induction calls with
  | nil => exact ⟨rfl, List.not_mem_nil, rfl⟩
  | cons call rest ih =>
      have first := (assembles call List.mem_cons_self).still call.answer
      exact first.append (ih fun other member => assembles other (List.mem_cons_of_mem call member))

omit [Blake3] in
private theorem quiet_copyPart {part : FilePath} (different : part ≠ outputPath config handshake)
    (reads offset written : Nat) (hasher : Hasher) :
    (FileReceiver.copyPart (outputPath config handshake) part reads offset written hasher).All
      (QuietFs (outputPath config handshake)) := by
  have append : ∀ offset content, (writeAll (outputPath config handshake) offset content).All
      (QuietFs (outputPath config handshake)) := by
    intro offset content
    induction content generalizing offset with
    | nil => trivial
    | cons byte rest ih => exact .attempt ⟨trivial, fun _ => trivial⟩ fun _ => ih _
  induction reads generalizing offset written hasher with
  | zero => exact ⟨trivial, nofun⟩
  | succ reads ih =>
      refine .attempt ⟨different, fun _ => trivial⟩ fun piece => ?_
      split
      · trivial
      · exact .attempt (append _ _) fun _ => ih _ _ _

variable {state : FileReceiver}

omit [Blake3] in
private theorem shown_finalPath (shown : Shown config handshake state) :
    state.finalPath = outputPath config handshake := by
  have outputDir : state.outputDir = config.outputDir :=
    congrArg FileReceiver.Params.outputDir shown
  have filename : state.filename = handshake.safeName :=
    congrArg FileReceiver.Params.filename shown
  rw [FileReceiver.finalPath, outputDir, filename]
  rfl

omit [Blake3] in
private theorem shown_partPath (shown : Shown config handshake state) (idx : Nat) :
    state.partPath idx ≠ outputPath config handshake := by
  have auxiliary := state.auxiliary_partPath idx
  rw [shown] at auxiliary
  exact auxiliary_ne_outputPath auxiliary

private theorem quiet_assembleParts (shown : Shown config handshake state) (reads : Nat)
    (left : List Nat) (written : Nat) (hasher : Hasher) :
    (state.assembleParts reads left written hasher).All
      (QuietFs (outputPath config handshake)) := by
  induction left generalizing written hasher with
  | nil => exact ⟨trivial, fun _ => trivial⟩
  | cons i rest ih =>
      have different := shown_partPath shown i
      have found : (TransferMetadata.pathExists (state.partPath i)).All
          (QuietFs (outputPath config handshake)) :=
        ⟨different, fun answer => by cases answer <;> trivial⟩
      refine .bind found fun present => ?_
      cases present with
      | false => trivial
      | true =>
          refine .attempt ⟨different, fun _ => trivial⟩ fun _ => ?_
          rw [shown_finalPath shown]
          refine .attempt (quiet_copyPart different _ _ _ _) fun copied => ?_
          exact .attempt ⟨trivial, fun _ => trivial⟩ fun _ => ih _ _

private theorem assembles_assemble (shown : Shown config handshake state) (reads : Nat) :
    (state.assemble reads).All (AssembleFs (outputPath config handshake)) := by
  have create : AssembleFs (outputPath config handshake) (.create state.finalPath) :=
    .inr (by rw [shown_finalPath shown])
  refine .attempt ⟨create, fun _ => trivial⟩ fun _ => ?_
  exact (quiet_assembleParts shown reads _ _ _).mono fun _ quiet => .inl quiet

private theorem traced_triple {α : Type} (parsed : parseHandshake data = .ok handshake)
    {program : FsProg FilePath α} (quiet : program.All (QuietFs (outputPath config handshake)))
    (base : History) :
    Triple (filesProtocol config data) (fun history => history = base) program
      fun result history => ∃ calls, history = base ++ calls.map onFs ∧
        program.Path calls (.ret result) := by
  induction program generalizing base with
  | ret value => exact .ret (stable_alone _) fun _ _ same => ⟨[], by simpa using same, .nil⟩
  | vis op next ih =>
      have shows : (filesProtocol config data).Step (fun history => history = base) op
          fun answer history => history = base ++ [⟨.fs op, answer⟩] := by
        have quietOp : Quiet (outputPath config handshake) (.fs op) := quiet.1
        refine files_step ((step_call fun history _ => quietOp.allowed parsed history).conseq
          (fun _ _ holds => holds) ?_)
        intro answer history _ called
        obtain ⟨before, same, known, _⟩ := called
        rw [same, known]
      refine .vis _ (stable_alone _) shows fun answer => ?_
      refine (ih answer (quiet.2 answer) _).conseq (fun _ _ holds => holds) ?_
      intro result history _ traced
      obtain ⟨calls, same, path⟩ := traced
      exact ⟨⟨op, answer⟩ :: calls, by simpa [onFs] using same, .cons path⟩

/-- The output file has been assembled in this session. -/
def Built (config : Control.Config) (handshake : HandshakeData) (frames : List Bytes)
    (result : Except IoError Bool) (history : History) : Prop :=
  Sound config handshake frames history ∧ ∃ before run after, history = before ++ run ++ after ∧
    Ready before ∧ before.written = frames ∧ Assembly config run result

private theorem assemble_triple (parsed : parseHandshake data = .ok handshake)
    (shown : Shown config handshake state) {base : History} (allowed : Assembles base) :
    Triple (filesProtocol config data) (fun history => history = base)
      (state.assemble config.reads) fun result history => ∃ calls,
        history = base ++ calls.map onFs ∧ (state.assemble config.reads).Path calls (.ret result) := by
  have create : (filesProtocol config data).Step (fun history => history = base)
      (.create state.finalPath) fun answer history =>
        history = base ++ [⟨.fs (.create state.finalPath), answer⟩] := by
    have called : (protocol config data).Step (fun history => history = base)
        (.fs (.create state.finalPath)) _ :=
      step_call fun history same handshake' parsed' _ => same ▸ allowed
    refine files_step (called.conseq (fun _ _ holds => holds) ?_)
    intro answer history _ called
    obtain ⟨before, same, known, _⟩ := called
    rw [same, known]
  refine .step _ (stable_alone _) create fun answer => ?_
  cases answer with
  | error error =>
      refine .ret (stable_alone _) fun history _ same => ?_
      exact ⟨[⟨.create state.finalPath, .error error⟩], same, .cons .nil⟩
  | ok done =>
      refine (traced_triple parsed (quiet_assembleParts shown config.reads _ _ _) _).conseq
        (fun _ _ holds => holds) ?_
      intro result history _ traced
      obtain ⟨calls, same, path⟩ := traced
      exact ⟨⟨.create state.finalPath, .ok done⟩ :: calls, by simpa [onFs] using same, .cons path⟩

variable {frames : List Bytes} {receiver : ReceiverId}

private theorem assembleFile_triple (parsed : parseHandshake data = .ok handshake) :
    Triple (protocol config data)
      (fun history => (Stage config handshake frames history ∧
        Created config handshake receiver history) ∧ Ready history)
      (Control.assembleFile config.reads receiver) (Built config handshake frames) := by
  intro base inv holds
  obtain ⟨⟨stage, created⟩, ready⟩ := holds
  have looks : (protocol config data).Step (fun history => history = base) (.lock receiver)
      fun state history => history = base ++ [⟨.lock receiver, state⟩] ∧
        Shown config handshake state := by
    have called : (protocol config data).Step (fun history => history = base) (.lock receiver) _ :=
      step_call fun _ _ => trivial
    refine called.conseq (fun _ _ holds => holds) ?_
    intro state history _ called
    obtain ⟨before, same, known, _, shows⟩ := called
    subst known
    exact ⟨same, shows _ created⟩
  refine Triple.step _ (stable_alone _) looks (fun state => ?_) base inv rfl
  intro history inv' looked
  obtain ⟨same, shown⟩ := looked
  have allowed : Assembles history := ⟨base, receiver, state, same, ready⟩
  have assembled : Triple (protocol config data) (fun current => current = history)
      (Control.onFs (state.assemble config.reads)) _ :=
    .embed (assemble_triple parsed shown allowed)
  refine Triple.bind _ assembled (fun result => ?_) history inv' rfl
  intro traced inv'' ended
  obtain ⟨calls, same', path⟩ := ended
  have leaves : (protocol config data).Step (fun current => current = traced)
      (.unlock receiver state) fun _ current =>
        current = traced ++ [⟨.unlock receiver state, ()⟩] := by
    have called : (protocol config data).Step (fun current => current = traced)
        (.unlock receiver state) _ := step_call fun _ _ => trivial
    refine called.conseq (fun _ _ holds => holds) ?_
    intro _ current _ called
    obtain ⟨before, same, known, _⟩ := called
    rw [same, known]
  refine Triple.step _ (stable_alone _) leaves (fun _ => .ret (stable_alone _) ?_) traced inv'' rfl
  intro current _ left
  let run : History := [⟨.lock receiver, state⟩] ++ calls.map onFs ++ [⟨.unlock receiver state, ()⟩]
  have whole : current = base ++ run := by
    rw [left, same', same]
    simp only [run, List.append_assoc]
  have middle := still_of_assembles (path.all (assembles_assemble shown config.reads))
  have still : Still (outputPath config handshake) run :=
    (Still.append ⟨rfl, List.not_mem_nil, rfl⟩ middle).append ⟨rfl, List.not_mem_nil, rfl⟩
  refine ⟨whole ▸ stage.toSound.append still, base, run, [], by simp [whole], ready, stage.written, ?_⟩
  exact ⟨receiver, state, calls, rfl, path⟩

end Assembling

section Replies

variable {frames : List Bytes} {receiver : ReceiverId}

theorem Sound.send {history : History} (sound : Sound config handshake frames history)
    (payload : Bytes) :
    Sound config handshake (frames ++ [payload]) (history ++ [⟨.sendFrame payload, .ok ()⟩]) := by
  constructor
  · rw [History.written_append, sound.written]
    rfl
  · simpa [CheckFailed, History.failures_append, History.failures] using sound.checked
  · simpa [ForeignPart, History.contents_append, History.contents] using sound.native

theorem Stage.send {history : History} (stage : Stage config handshake frames history)
    (payload : Bytes) :
    Stage config handshake (frames ++ [payload]) (history ++ [⟨.sendFrame payload, .ok ()⟩]) := by
  refine ⟨stage.toSound.send payload, ?_⟩
  simpa [History.creations_append, History.creations] using stage.uncreated

private theorem step_send {fact : History → Prop} (payload : Bytes) :
    (protocol config data).Step fact (.sendFrame payload) fun answer history =>
      answer = .ok () ∧ ∃ before, history = before ++ [⟨.sendFrame payload, .ok ()⟩] ∧ fact before := by
  have called : (protocol config data).Step fact (.sendFrame payload) _ :=
    step_call fun _ _ => trivial
  refine called.conseq (fun _ _ holds => holds) ?_
  intro answer history _ called
  obtain ⟨before, same, known, _, sent⟩ := called
  cases sent
  exact ⟨rfl, before, same, known⟩

/-- The session has one of the shapes. -/
def Shaped (config : Control.Config) (handshake : HandshakeData) (history : History) : Prop :=
  Shape config handshake history ∧ ¬ CheckFailed config handshake history ∧
    ¬ ForeignPart config handshake history

theorem Shaped.undisturbed :
    Undisturbed (outputPath config handshake) (Shaped config handshake) := by
  intro history run shaped calm
  obtain ⟨shape, checked, native⟩ := shaped
  have sound : Sound config handshake history.written history := ⟨rfl, checked, native⟩
  have sound' := sound.append calm.toStill
  exact ⟨Shape.undisturbed history run shape calm, sound'.checked, sound'.native⟩

/-- A handler that has returned after a session of one of the shapes. -/
private theorem shaped_triple (parsed : parseHandshake data = .ok handshake)
    (result : Except IoError Unit) :
    Triple (protocol config data) (Shaped config handshake) (.ret (.returned result))
      ((contract config data).post ()) := by
  refine .ret (stable_alone _) fun history _ shaped => ?_
  exact Ended.concludes parsed (.shaped shaped.1 shaped.2.1 shaped.2.2)

private theorem answer_triple (parsed : parseHandshake data = .ok handshake) (status : UInt8)
    (shapes : ∀ history, history.written = [handshakeResponse status []] →
      outputPath config handshake ∉ history.creations → Shape config handshake history) :
    Triple (protocol config data) (Stage config handshake []) (Control.answer status)
      ((contract config data).post ()) := by
  refine .step _ (stable_alone _) (step_send _) fun answer => ?_
  refine (shaped_triple parsed answer).conseq ?_ fun _ _ _ holds => holds
  intro history _ replied
  obtain ⟨_, before, same, stage⟩ := replied
  have stage' := stage.send (handshakeResponse status [])
  rw [← same] at stage'
  exact ⟨shapes history stage'.written stage'.uncreated, stage'.checked, stage'.native⟩

omit [Blake3] in
private theorem quiet_cleanup (ports : List UInt16) :
    (Control.cleanup ports).All (Quiet (outputPath config handshake)) := by
  have removed : ∀ ports, (Control.removeReceivers ports).All
      (Quiet (outputPath config handshake)) := by
    intro ports
    induction ports with
    | nil => trivial
    | cons port rest ih => exact ⟨trivial, fun _ => ih⟩
  refine .bind (removed ports) fun _ => ?_
  split
  · exact ⟨trivial, fun _ => trivial⟩
  · trivial

/-- What is known when the final status is about to be written. -/
private def Concluded (config : Control.Config) (handshake : HandshakeData) (ports : List UInt16)
    (success : Bool) (history : History) : Prop :=
  (success = false ∧
    Stage config handshake [handshakeResponse Handshake.respOk ports] history) ∨
    ∃ result, success = succeeded result ∧
      Built config handshake [handshakeResponse Handshake.respOk ports] result history

theorem Built.shaped {result : Except IoError Bool} {history : History}
    (built : Built config handshake frames result history) :
    Shaped config handshake (history ++
      [⟨.sendFrame [Control.finalStatus (succeeded result)], .ok ()⟩]) := by
  obtain ⟨sound, before, run, after, same, ready, written, assembly⟩ := built
  have sound' := sound.send [Control.finalStatus (succeeded result)]
  have placed : history ++ [⟨.sendFrame [Control.finalStatus (succeeded result)], .ok ()⟩] =
      before ++ run ++ (after ++
        [⟨.sendFrame [Control.finalStatus (succeeded result)], .ok ()⟩]) := by
    rw [same, List.append_assoc]
  have replied := sound'.written
  rw [← written] at replied
  exact ⟨.assembled placed ready assembly replied, sound'.checked, sound'.native⟩

private theorem Concluded.shaped {ports : List UInt16} {success : Bool} {history : History}
    (concluded : Concluded config handshake ports success history) :
    Shaped config handshake
      (history ++ [⟨.sendFrame [Control.finalStatus success], .ok ()⟩]) := by
  cases concluded with
  | inl abandoned =>
      obtain ⟨unsuccessful, stage⟩ := abandoned
      subst unsuccessful
      have stage' := stage.send [Control.finalStatus false]
      exact ⟨.abandoned stage'.written stage'.uncreated, stage'.checked, stage'.native⟩
  | inr assembled =>
      obtain ⟨result, same, built⟩ := assembled
      rw [same]
      exact built.shaped

variable {ports : List UInt16}

/-- The waiting loop has been left, with nothing assembled so far. -/
private abbrev Waited (config : Control.Config) (handshake : HandshakeData) (ports : List UInt16)
    (receiver : ReceiverId) (history : History) : Prop :=
  Stage config handshake [handshakeResponse Handshake.respOk ports] history ∧
    Created config handshake receiver history

private theorem waited_undisturbed :
    Undisturbed (outputPath config handshake) (Waited config handshake ports receiver) :=
  (Stage.undisturbed _).and (Created.undisturbed receiver)

private theorem look_triple {α : Type} {rest : FileReceiver → ControlProg α}
    {post : α → History → Prop} (base : History)
    (following : ∀ state, Triple (protocol config data)
      (fun history => history = base ++ [⟨.lock receiver, state⟩, ⟨.unlock receiver state, ()⟩])
      (rest state) post) :
    Triple (protocol config data) (fun history => history = base)
      ((Control.call (.lock receiver)).bind fun state =>
        (Control.call (.unlock receiver state)).bind fun _ => rest state) post := by
  have looks : (protocol config data).Step (fun history => history = base) (.lock receiver) _ :=
    step_call fun _ _ => trivial
  refine .step _ (stable_alone _) looks fun state => ?_
  have leaves : (protocol config data).Step
      (fun history => history = base ++ [⟨.lock receiver, state⟩]) (.unlock receiver state) _ :=
    step_call fun _ _ => trivial
  have left := Triple.step _ (stable_alone _) leaves fun _ =>
    (following state).conseq (fun history _ called => ?_) fun _ _ _ holds => holds
  · refine left.conseq (fun history _ called => ?_) fun _ _ _ holds => holds
    obtain ⟨before, same, known, _⟩ := called
    rw [same, known]
  · obtain ⟨before, same, known, _⟩ := called
    rw [same, known, List.append_assoc]
    rfl

private theorem finish_triple (transfer : Transfer) (parsed : parseHandshake data = .ok handshake) :
    Triple (protocol config data) (Waited config handshake ports transfer.receiver)
      (Control.finish config.reads transfer)
      ((contract config data).post ()) := by
  intro base inv waited
  refine look_triple base (fun state => ?_) base inv rfl
  refine look_triple _ fun state' => ?_
  intro history inv' same
  have looks : Calm (outputPath config handshake) [⟨.lock transfer.receiver, state⟩,
      ⟨.unlock transfer.receiver state, ()⟩, ⟨.lock transfer.receiver, state'⟩,
      ⟨.unlock transfer.receiver state', ()⟩] :=
    ⟨⟨rfl, List.not_mem_nil, rfl⟩, List.not_mem_nil⟩
  have whole : history = base ++ [⟨.lock transfer.receiver, state⟩,
      ⟨.unlock transfer.receiver state, ()⟩, ⟨.lock transfer.receiver, state'⟩,
      ⟨.unlock transfer.receiver state', ()⟩] := by simpa using same
  have waited' := waited_undisturbed base _ waited looks
  rw [← whole] at waited'
  have unsuccessful : Triple (protocol config data) (Waited config handshake ports transfer.receiver)
      (.ret false) (Concluded config handshake ports) :=
    .ret (stable_alone _) fun _ _ holds => .inl ⟨rfl, holds.1⟩
  have outcome : wp (protocol config data)
      (if state'.failed then .ret false
        else if !state.isComplete then .ret false
        else (Control.assembleFile config.reads transfer.receiver).recover (fun _ => .ret false) .ret)
      (Concluded config handshake ports) history := by
    split
    case isTrue => exact unsuccessful history inv' waited'
    case isFalse alive =>
      split
      case isTrue => exact unsuccessful history inv' waited'
      case isFalse complete =>
        have ready : Ready history := by
          refine .received whole waited'.1.written ?_ ?_
          · simpa using complete
          · simpa using alive
        refine Triple.bind _ (assembleFile_triple parsed) (fun result => ?_) history inv'
          ⟨waited', ready⟩
        cases result with
        | ok same =>
            refine .ret (stable_alone _) fun _ _ built => .inr ⟨.ok same, ?_, built⟩
            cases same <;> rfl
        | error error =>
            exact .ret (stable_alone _) fun _ _ built => .inr ⟨.error error, rfl, built⟩
  refine wp_bind (wp_mono inv' outcome fun success current inv'' concluded => ?_)
  refine Triple.step _ (stable_alone _) (step_send _) (fun answer => ?_) current inv'' concluded
  have cleaned : Triple (protocol config data) (Shaped config handshake)
      ((Control.cleanup transfer.ports).bind fun _ => .ret (.returned (.ok ())))
      ((contract config data).post ()) :=
    .bind _ (quiet_triple parsed Shaped.undisturbed (quiet_cleanup transfer.ports)) fun _ =>
      shaped_triple parsed (.ok ())
  refine cleaned.conseq (fun _ _ replied => ?_) fun _ _ _ holds => holds
  obtain ⟨_, before, same, concluded⟩ := replied
  rw [same]
  exact concluded.shaped

private theorem polled_triple (transfer : Transfer) (parsed : parseHandshake data = .ok handshake)
    (poll : Poll) :
    Triple (protocol config data) (Waited config handshake ports transfer.receiver)
      (match poll with
        | .idle => .ret (.waiting transfer)
        | .data => .ret (.waiting transfer)
        | .disconnected => Control.finish config.reads transfer)
      ((contract config data).post ()) := by
  have waits : Triple (protocol config data) (Waited config handshake ports transfer.receiver)
      (.ret (.waiting transfer)) ((contract config data).post ()) :=
    .ret (stable_alone _) fun _ _ holds => ⟨handshake, ports, parsed, holds.1, holds.2⟩
  cases poll with
  | idle => exact waits
  | data => exact waits
  | disconnected => exact finish_triple transfer parsed

private theorem decide_triple (transfer : Transfer) (parsed : parseHandshake data = .ok handshake)
    (state : FileReceiver) :
    Triple (protocol config data) (Waited config handshake ports transfer.receiver)
      (if state.isComplete || state.failed then
        Control.finish config.reads transfer
      else (Control.call .pollStream).bind fun
        | .idle => .ret (.waiting transfer)
        | .data => .ret (.waiting transfer)
        | .disconnected => Control.finish config.reads transfer)
      ((contract config data).post ()) := by
  have polls : (protocol config data).Step (Waited config handshake ports transfer.receiver) .pollStream _ :=
    step_quiet parsed waited_undisturbed trivial
  split
  · exact finish_triple transfer parsed
  · refine .step _ (stable_alone _) polls fun poll => ?_
    exact (polled_triple transfer parsed poll).conseq (fun _ _ polled => polled.1)
      fun _ _ _ holds => holds

private theorem waitForCompletion_triple (transfer : Transfer) (parsed : parseHandshake data = .ok handshake) :
    Triple (protocol config data) (Waited config handshake ports transfer.receiver)
      (Control.waitForCompletion config.reads transfer)
      ((contract config data).post ()) := by
  have leaves : ∀ state, Triple (protocol config data) (Waited config handshake ports transfer.receiver)
      ((Control.call (.unlock transfer.receiver state)).bind fun _ => _) ((contract config data).post ()) :=
    fun state => .step _ (stable_alone _) (step_unlock parsed waited_undisturbed state) fun _ =>
      (decide_triple transfer parsed state).conseq (fun _ _ left => left.1) fun _ _ _ holds => holds
  refine .step _ (stable_alone _) (step_lock parsed waited_undisturbed fun _ holds => holds.2) ?_
  exact fun state => (leaves state).conseq (fun _ _ looked => looked.1.2) fun _ _ _ holds => holds

omit [Blake3] in
private theorem quiet_spawnDataServers (ports : List UInt16) :
    (Control.spawnDataServers ports).All (Quiet (outputPath config handshake)) := by
  induction ports with
  | nil => trivial
  | cons port rest ih => exact ⟨trivial, fun _ => ih⟩

omit [Blake3] in
private theorem quiet_bindLoop (turns : Nat) (untried sockets : List UInt16) :
    (Control.bindLoop turns untried sockets).All (Quiet (outputPath config handshake)) := by
  have bound : ∀ untried, (Control.bindNext untried).All (Quiet (outputPath config handshake)) := by
    intro untried
    induction untried with
    | nil => trivial
    | cons port rest ih =>
        exact .recover ⟨trivial, fun _ => trivial⟩ (fun _ => ih) fun _ => trivial
  induction turns generalizing untried sockets with
  | zero => trivial
  | succ turns ih =>
      refine .bind (bound untried) fun found => ?_
      obtain ⟨port, rest⟩ := found
      cases port with
      | none => exact ih rest sockets
      | some port => exact ih rest (sockets ++ [port])

omit [Blake3] in
private theorem quiet_allocateSockets (count maxParallel : Nat) :
    (Control.allocateSockets count maxParallel).All (Quiet (outputPath config handshake)) := by
  refine ⟨trivial, fun reserved => ?_⟩
  cases reserved with
  | false => trivial
  | true =>
      have bound : (Control.bindLoop (min count maxParallel) dataPorts []).All
          (Quiet (outputPath config handshake)) := quiet_bindLoop _ _ _
      refine bound.bind fun sockets => ?_
      split
      · exact ⟨trivial, fun _ => trivial⟩
      · trivial

private theorem refused_triple (parsed : parseHandshake data = .ok handshake) :
    Triple (protocol config data) (Stage config handshake [])
      (Control.answer Handshake.respErr) ((contract config data).post ()) :=
  answer_triple parsed _ fun _ written fresh => .refused written fresh

private theorem transferChunks_triple (parsed : parseHandshake data = .ok handshake) :
    Triple (protocol config data)
      (fun history => Stage config handshake [] history ∧
        Created config handshake receiver history)
      (Control.transferChunks config handshake receiver) ((contract config data).post ()) := by
  have undisturbed : Undisturbed (outputPath config handshake) fun history =>
      Stage config handshake [] history ∧ Created config handshake receiver history :=
    (Stage.undisturbed []).and (Created.undisturbed receiver)
  refine .recover _ (quiet_triple parsed undisturbed (quiet_allocateSockets _ _))
    (fun _ => (refused_triple parsed).conseq (fun _ _ holds => holds.1) fun _ _ _ holds => holds)
    fun ports => ?_
  have registers : (protocol config data).Step (fun history => Stage config handshake [] history ∧
      Created config handshake receiver history) (.registerReceivers ports receiver) _ :=
    step_quiet parsed undisturbed trivial
  refine .step _ (stable_alone _) registers fun _ => ?_
  refine .step _ (stable_alone _) (step_send _) fun answer => ?_
  cases answer with
  | error error => exact fun _ _ sent => by cases sent.1
  | ok _ =>
      have spawned : Triple (protocol config data) (Waited config handshake ports receiver)
          ((Control.spawnDataServers ports).bind fun _ =>
            Control.waitForCompletion config.reads ⟨handshake, receiver, ports⟩)
          ((contract config data).post ()) :=
        .bind _ (quiet_triple parsed waited_undisturbed (quiet_spawnDataServers ports)) fun _ =>
          waitForCompletion_triple ⟨handshake, receiver, ports⟩ parsed
      refine spawned.conseq (fun history _ sent => ?_) fun _ _ _ holds => holds
      obtain ⟨_, before, same, known, _⟩ := sent
      rw [same]
      exact ⟨known.1.send _, List.mem_append_left _ known.2⟩

private theorem assembled_triple (parsed : parseHandshake data = .ok handshake) :
    Triple (protocol config data)
      (fun history => (Stage config handshake [handshakeResponse Handshake.respComplete []]
        history ∧ Created config handshake receiver history) ∧ Ready history)
      ((Control.assembleFile config.reads receiver).bind fun result =>
        (Control.call (.sendFrame [Control.finalStatus (match result with
          | .ok true => true
          | .ok false | .error _ => false)])).bind fun _ => .ret (.returned (.ok ())))
      ((contract config data).post ()) := by
  have reports : ∀ result, Triple (protocol config data)
      (Built config handshake [handshakeResponse Handshake.respComplete []] result)
      ((Control.call (.sendFrame [Control.finalStatus (succeeded result)])).bind fun _ =>
        .ret (.returned (.ok ()))) ((contract config data).post ()) := by
    intro result
    refine .step _ (stable_alone _) (step_send _) fun _ => ?_
    refine (shaped_triple parsed (.ok ())).conseq (fun _ _ sent => ?_) fun _ _ _ holds => holds
    obtain ⟨_, before, same, built⟩ := sent
    rw [same]
    exact built.shaped
  refine .bind _ (assembleFile_triple parsed) fun result => ?_
  cases result with
  | error error => exact reports (.error error)
  | ok same =>
      cases same with
      | false => exact reports (.ok false)
      | true => exact reports (.ok true)

private theorem confirmComplete_triple (parsed : parseHandshake data = .ok handshake) :
    Triple (protocol config data)
      (fun history => (Stage config handshake [] history ∧
        Created config handshake receiver history) ∧ LeftComplete receiver history)
      (Control.confirmComplete config receiver) ((contract config data).post ()) := by
  refine .step _ (stable_alone _) (step_send _) fun answer => ?_
  cases answer with
  | error error => exact fun _ _ sent => by cases sent.1
  | ok _ =>
      refine (assembled_triple parsed).conseq (fun history _ sent => ?_) fun _ _ _ holds => holds
      obtain ⟨_, before, same, ⟨stage, created⟩, state, member, complete⟩ := sent
      have stage' := stage.send (handshakeResponse Handshake.respComplete [])
      rw [← same] at stage'
      have left : ⟨.unlock receiver state, ()⟩ ∈ history := by
        rw [same]
        exact List.mem_append_left _ member
      refine ⟨⟨stage', ?_⟩, .resumed stage'.written left complete⟩
      rw [same]
      exact List.mem_append_left _ created

variable [KeyOrder]

private theorem receiveFile_triple (parsed : parseHandshake data = .ok handshake) :
    Triple (protocol config data) (Opening config handshake)
      (Control.receiveFile config handshake) ((contract config data).post ()) := by
  have refuses : Triple (protocol config data) (Opening config handshake)
      (Control.answer Handshake.respErr) ((contract config data).post ()) :=
    (refused_triple parsed).conseq (fun _ _ holds => holds.toStage) fun _ _ _ holds => holds
  have directory : ∀ dir, Triple (protocol config data) (Opening config handshake)
      (Control.call (.createDirAll dir)) fun _ => Opening config handshake := fun dir =>
    quiet_triple parsed Opening.undisturbed ⟨trivial, fun _ => trivial⟩
  have creates : (protocol config data).Step (Opening config handshake)
      (.newReceiver (own config handshake)) fun receiver history =>
        Opening config handshake history ∧ Created config handshake receiver history := by
    have quiet : Quiet (outputPath config handshake) (.newReceiver (own config handshake)) :=
      trivial
    refine (step_quiet parsed Opening.undisturbed quiet).conseq (fun _ _ holds => holds) ?_
    intro receiver history _ reached
    obtain ⟨opening, before, same, _⟩ := reached
    rw [same] at opening ⊢
    exact ⟨opening, List.mem_append_right _ List.mem_cons_self⟩
  have temporary : Triple (protocol config data) (Opening config handshake)
      (if config.tempDir ≠ config.outputDir then Control.call (.createDirAll config.tempDir)
        else .ret (.ok ())) fun _ => Opening config handshake := by
    split
    · exact directory config.tempDir
    · exact .ret (stable_alone _) fun _ _ holds => holds
  refine .recover _ (directory config.outputDir) (fun _ => refuses) fun _ => ?_
  refine .recover _ temporary (fun _ => refuses) fun _ => ?_
  refine .step _ (stable_alone _) creates fun receiver => ?_
  refine .bind _ (resume_triple parsed) fun resumed => ?_
  cases resumed with
  | none =>
      refine .ret (stable_alone _) fun history _ ended => ?_
      exact Ended.concludes parsed (.foreign ended.1 ended.2)
  | some complete =>
      cases complete with
      | true =>
          exact (confirmComplete_triple parsed).conseq
            (fun _ _ ended => ⟨ended.1, ended.2 rfl⟩) fun _ _ _ holds => holds
      | false =>
          exact (transferChunks_triple parsed).conseq (fun _ _ ended => ended.1)
            fun _ _ _ holds => holds

private theorem accepted_triple (parsed : parseHandshake data = .ok handshake) :
    Triple (protocol config data) (Opening config handshake)
      ((Control.onFs (Control.checkExistingFile config.reads config.outputDir handshake.safeName
          handshake.fullHash)).recover (fun error => .ret (.returned (.error error))) fun
        | true => Control.answer Handshake.respExists
        | false => Control.receiveFile config handshake)
      ((contract config data).post ()) := by
  have checks : Triple (protocol config data) (Opening config handshake)
      (Control.onFs (Control.checkExistingFile config.reads config.outputDir handshake.safeName
        handshake.fullHash)) (Checked config handshake) :=
    .embed (checkExistingFile_triple config.reads handshake.fullHash)
  refine .recover _ checks (fun error => ?_) fun found => ?_
  · refine .ret (stable_alone _) fun history _ unchecked => ?_
    exact Ended.concludes parsed (.unchecked unchecked.1 unchecked.2)
  · cases found with
    | true =>
        exact (answer_triple parsed Handshake.respExists fun _ written fresh =>
          .existing written fresh).conseq (fun _ _ holds => holds.toStage) fun _ _ _ holds => holds
    | false => exact receiveFile_triple parsed

/-- Nothing has happened but the frame that came in. -/
private def Arrived (data : Bytes) (history : History) : Prop :=
  history = [⟨.recvFrame, .ok data⟩]

private theorem handle_triple (nonempty : data ≠ []) :
    Triple (protocol config data) (fun history => history = [])
      (Control.handleControlConnection config) ((contract config data).post ()) := by
  have receives : (protocol config data).Step (fun history => history = []) .recvFrame
      fun answer history => answer = .ok data ∧ Arrived data history := by
    have called : (protocol config data).Step (fun history => history = []) .recvFrame _ :=
      step_call fun _ _ => trivial
    refine called.conseq (fun _ _ holds => holds) ?_
    intro answer history _ called
    obtain ⟨before, same, known, _, arrived⟩ := called
    cases arrived
    exact ⟨rfl, by rw [Arrived, same, known, List.nil_append]⟩
  refine .step _ (stable_alone _) receives fun answer => ?_
  cases answer with
  | error error => exact fun _ _ received => by cases received.1
  | ok received =>
      intro history inv arrived
      obtain ⟨same, arrived⟩ := arrived
      cases same
      rw [Arrived] at arrived
      have nonempty : data.isEmpty = false := by simpa using nonempty
      change wp _ (ite _ _ _) _ _
      rw [if_neg (by simp [nonempty])]
      cases parsed : parseHandshake data with
      | error error =>
          have refuses : Triple (protocol config data)
              (fun history => history = [⟨.recvFrame, .ok data⟩])
              (Control.answer Handshake.respErr) ((contract config data).post ()) := by
            refine .step _ (stable_alone _) (step_send _) fun _ => ?_
            refine .ret (stable_alone _) fun final _ replied => ?_
            obtain ⟨_, before, same, arrived⟩ := replied
            change Over config data final
            rw [Over, parsed, same, arrived]
            rfl
          exact refuses history inv arrived
      | ok handshake =>
          refine accepted_triple parsed history inv ?_
          subst arrived
          refine ⟨⟨⟨rfl, List.not_mem_nil, fun foreign => ?_⟩, List.not_mem_nil⟩, rfl⟩
          obtain ⟨_, _, _, _, read, _⟩ := foreign
          exact List.not_mem_nil read

omit [KeyOrder] in
private theorem closing_triple (state : ControlState) :
    Triple (protocol config data) ((contract config data).post () state)
      (Control.closing state) ((contract config data).post ()) := by
  have called : (protocol config data).Step (Over config data) .closeStream _ :=
    step_call fun _ _ => trivial
  have closes : (protocol config data).Step (Over config data) .closeStream
      fun _ => Over config data := by
    refine called.conseq (fun _ _ holds => holds) ?_
    intro _ history _ called
    obtain ⟨before, same, past, _⟩ := called
    rw [same]
    exact past.append fun _ => ⟨⟨rfl, List.not_mem_nil, rfl⟩, List.not_mem_nil⟩
  cases state with
  | waiting transfer => exact .ret (stable_alone _) fun _ _ holds => holds
  | returned result =>
      exact .step _ (stable_alone _) closes fun _ => .ret (stable_alone _) fun _ _ holds => holds
  | panicked =>
      exact .step _ (stable_alone _) closes fun _ => .ret (stable_alone _) fun _ _ holds => holds

private theorem start_holds (nonempty : data ≠ []) :
    (contract config data).Holds (History.system config data) (fun _ => True)
      (History.start config) := by
  refine ⟨trivial, fun _ => ?_⟩
  exact (handle_triple nonempty).bind _ closing_triple [] trivial rfl

end Replies

private theorem loops [KeyOrder] (tid : Unit) (state : ControlState)
    (rest : ControlProg ControlState) (again : Control.again config state = some rest) :
    Triple (protocol config data) ((contract config data).post tid state) rest
      ((contract config data).post tid) := by
  cases state with
  | waiting transfer =>
      cases again
      intro history inv waiting
      obtain ⟨handshake, ports, parsed, waited⟩ := waiting
      have turn : Triple (protocol config data) (Waited config handshake ports transfer.receiver)
          ((Control.waitForCompletion config.reads transfer).bind Control.closing) _ :=
        (waitForCompletion_triple transfer parsed).bind _ closing_triple
      exact turn history inv waited
  | returned result => cases again
  | panicked => cases again

end Session

/-- The control connection that brought a frame is through. -/
def Finished [Blake3] (pool : Pool (fun _ : Unit => ControlSig) (fun _ => ControlState) History) :
    Prop :=
  ∃ state, pool.prog () = .ret state ∧ ∀ transfer, state ≠ .waiting transfer

/-- A handler that has taken a frame writes RESP_ERR and nothing else when the frame is no
handshake. After a handshake its session has one of the four shapes exactly when the check
for an existing file did not fail and the record of an earlier transfer names no chunk
that this one does not have. It assembles only what is complete and has not failed. -/
theorem session_shape_iff [Blake3] [KeyOrder] (config : Control.Config) (data : Bytes)
    (nonempty : data ≠ [])
    {pool : Pool (fun _ : Unit => ControlSig) (fun _ => ControlState) History}
    (reached : Reaches (History.system config data) (fun _ => True) (History.start config) pool) :
    (Finished pool → match parseHandshake data with
      | .error _ => pool.world.written = [handshakeResponse Handshake.respErr []]
      | .ok handshake => Session.Shape config handshake pool.world ↔
          ¬ Session.CheckFailed config handshake pool.world ∧
            ¬ Session.ForeignPart config handshake pool.world) ∧
      ∀ handshake next, parseHandshake data = .ok handshake →
        pool.prog () = .vis (.fs (.create (Session.outputPath config handshake))) next →
          Session.Assembles pool.world := by
  have holds := (Session.start_holds nonempty).reaches Session.loops reached
  constructor
  · intro finished
    obtain ⟨state, current, through⟩ := finished
    have past : Session.Over config data pool.world := by
      have left := holds.returned current
      cases state with
      | waiting transfer => exact absurd rfl (through transfer)
      | returned result => exact left
      | panicked => exact left
    rw [Session.Over] at past
    cases parsed : parseHandshake data with
    | error error =>
        rw [parsed] at past
        exact past
    | ok handshake =>
        rw [parsed] at past
        exact past.shape_iff
  · intro handshake next parsed current
    exact holds.obligation current handshake parsed rfl

namespace Session

/-- The handler by itself, behind a history. -/
def alone (program : ControlProg ControlState) (history : History) :
    Pool (fun _ : Unit => ControlSig) (fun _ => ControlState) History :=
  (⟨fun _ => .ret .panicked, []⟩ : Pool (fun _ : Unit => ControlSig)
    (fun _ => ControlState) History).resume () program history

theorem finished_alone [Blake3] (result : Except IoError Unit) (history : History) :
    Finished (alone (.ret (.returned result)) history) :=
  ⟨.returned result, Pool.resume_prog_self _ _ _ _, nofun⟩

theorem reaches_alone [Blake3] [KeyOrder] {config : Control.Config} {data : Bytes}
    {program : ControlProg ControlState} {history : History}
    (ran : Runs (History.sem data) (Control.task config) [] program history) :
    Reaches (History.system config data) (fun _ => True) (History.start config)
      (alone program history) := by
  have permitted : Runs (fun op before answer after =>
      History.sem data op before answer after ∧ True) (Control.task config) [] program history := by
    simpa only [and_true] using ran
  have same : (History.start config).resume () program history = alone program history := by
    simp only [Pool.resume, alone]
    congr 1
  rw [← same]
  exact Reaches.refl.runs rfl permitted

/-- The receivers that have been created. -/
def created (history : History) : List (ReceiverId × FileReceiver) :=
  history.filterMap fun
    | ⟨.newReceiver state, receiver⟩ => some (receiver, state)
    | _ => none

theorem shows_created {history : History} {receiver : ReceiverId} {first state : FileReceiver}
    (once : created history = [(receiver, first)]) (same : state.params = first.params) :
    ∀ other : FileReceiver, ⟨.newReceiver other, receiver⟩ ∈ history →
      state.params = other.params := by
  intro other member
  have listed : (receiver, other) ∈ created history := List.mem_filterMap.mpr ⟨_, member, rfl⟩
  rw [once, List.mem_singleton] at listed
  cases listed
  exact same

/-- The receiver of a one-byte file whose chunk has arrived. -/
def whole : FileReceiver := singleReceiver.mark 0

/-- A handler has received that file and is about to assemble it. -/
def received : History :=
  [⟨.recvFrame, .ok Control.sampleHandshake⟩, ⟨.fs (.exists_ whole.finalPath), .ok false⟩,
    ⟨.createDirAll (ascii "received"), .ok ()⟩, ⟨.newReceiver singleReceiver, (0 : ReceiverId)⟩,
    ⟨.lock 0, singleReceiver⟩, ⟨.fs (.exists_ whole.metaPath), .ok false⟩,
    ⟨.unlock 0 singleReceiver, ()⟩, ⟨.tryReservePorts 1, true⟩, ⟨.bind 45000, .ok ()⟩,
    ⟨.registerReceivers [45000] 0, ()⟩,
    ⟨.sendFrame (handshakeResponse Handshake.respOk [45000]), .ok ()⟩, ⟨.spawnDataServer 45000, ()⟩,
    ⟨.lock 0, whole⟩, ⟨.unlock 0 whole, ()⟩, ⟨.lock 0, whole⟩, ⟨.unlock 0 whole, ()⟩,
    ⟨.lock 0, whole⟩, ⟨.unlock 0 whole, ()⟩, ⟨.lock 0, whole⟩]

set_option maxRecDepth 8000 in
theorem runs_received (handshake : HandshakeData) :
    let _ := Blake3.sample
    let _ := KeyOrder.increasing
    Runs (History.sem Control.sampleHandshake) (Control.task Control.sampleConfig) []
      (Control.building ⟨handshake, 0, [45000]⟩ whole (whole.assemble 10)) received := by
  intro _ _
  exact .vis (.ok Control.sampleHandshake) ⟨rfl, rfl⟩
    (.vis (.ok false) ⟨rfl, trivial⟩
    (.vis (.ok ()) ⟨rfl, trivial⟩
    (.vis 0 ⟨rfl, trivial⟩
    (.vis singleReceiver ⟨rfl, shows_created rfl rfl⟩
    (.vis (.ok false) ⟨rfl, trivial⟩
    (.vis () ⟨rfl, trivial⟩
    (.vis true ⟨rfl, trivial⟩
    (.vis (.ok ()) ⟨rfl, trivial⟩
    (.vis () ⟨rfl, trivial⟩
    (.vis (.ok ()) ⟨rfl, rfl⟩
    (.vis () ⟨rfl, trivial⟩
    (.vis whole ⟨rfl, shows_created rfl rfl⟩
    (.vis () ⟨rfl, trivial⟩
    (.vis whole ⟨rfl, shows_created rfl rfl⟩
    (.vis () ⟨rfl, trivial⟩
    (.vis whole ⟨rfl, shows_created rfl rfl⟩
    (.vis () ⟨rfl, trivial⟩
    (.vis whole ⟨rfl, shows_created rfl rfl⟩ .refl))))))))))))))))))

/-- The calls of the assembly, the final status and the cleanup. -/
def confirmed : History :=
  [⟨.fs (.create whole.finalPath), .ok ()⟩, ⟨.fs (.exists_ (whole.partPath 0)), .ok true⟩,
    ⟨.fs (.openRead (whole.partPath 0)), .ok ()⟩,
    ⟨.fs (.readAt (whole.partPath 0) 0 bufferSize), .ok [0x61]⟩,
    ⟨.fs (.writeAt whole.finalPath 0 0x61), .ok ()⟩,
    ⟨.fs (.readAt (whole.partPath 0) 1 bufferSize), .ok []⟩,
    ⟨.fs (.remove (whole.partPath 0)), .ok ()⟩, ⟨.fs (.remove whole.metaPath), .ok ()⟩,
    ⟨.unlock 0 whole, ()⟩, ⟨.sendFrame [Handshake.respOk], .ok ()⟩, ⟨.removeReceiver 45000, ()⟩,
    ⟨.releasePorts 1, ()⟩, ⟨.closeStream, ()⟩]

theorem runs_confirmed (handshake : HandshakeData) :
    let _ := Blake3.sample
    Runs (History.sem Control.sampleHandshake)
      (Control.building ⟨handshake, 0, [45000]⟩ whole (whole.assemble 10)) received
      (.ret (.returned (.ok ()))) (received ++ confirmed) := by
  intro _
  exact .vis (.ok ()) ⟨rfl, trivial⟩
    (.vis (.ok true) ⟨rfl, trivial⟩
    (.vis (.ok ()) ⟨rfl, trivial⟩
    (.vis (.ok [0x61]) ⟨rfl, trivial⟩
    (.vis (.ok ()) ⟨rfl, trivial⟩
    (.vis (.ok []) ⟨rfl, trivial⟩
    (.vis (.ok ()) ⟨rfl, trivial⟩
    (.vis (.ok ()) ⟨rfl, trivial⟩
    (.vis () ⟨rfl, trivial⟩
    (.vis (.ok ()) ⟨rfl, rfl⟩
    (.vis () ⟨rfl, trivial⟩
    (.vis () ⟨rfl, trivial⟩
    (.vis () ⟨rfl, trivial⟩ .refl))))))))))))

end Session

/-- A file of one byte is received: the handler comes to assemble it, and reports success. -/
theorem session_shape_iff_received :
    let _ := Blake3.sample
    let _ := KeyOrder.increasing
    ∃ assembling finished handshake,
      Reaches (History.system Control.sampleConfig Control.sampleHandshake) (fun _ => True)
        (History.start Control.sampleConfig) assembling ∧
      Reaches (History.system Control.sampleConfig Control.sampleHandshake) (fun _ => True)
        (History.start Control.sampleConfig) finished ∧
      parseHandshake Control.sampleHandshake = .ok handshake ∧
      (∃ next, assembling.prog () =
        .vis (.fs (.create (Session.outputPath Control.sampleConfig handshake))) next) ∧
      Session.Assembles assembling.world ∧ Finished finished ∧
      finished.world.written = [handshakeResponse Handshake.respOk [45000], [Handshake.respOk]] ∧
      Session.Shape Control.sampleConfig handshake finished.world := by
  intro _ _
  obtain ⟨handshake, parsed, name, _, _⟩ := parseHandshake_sampleHandshake
  have output : Session.outputPath Control.sampleConfig handshake = Session.whole.finalPath := by
    rw [Session.outputPath, name]
    rfl
  have received := Session.runs_received handshake
  have assembling := Session.reaches_alone received
  have finished := Session.reaches_alone (received.trans (Session.runs_confirmed handshake))
  have created : ∃ next, (Session.alone (Control.building ⟨handshake, 0, [45000]⟩ Session.whole
      (Session.whole.assemble 10)) Session.received).prog () =
        .vis (.fs (.create (Session.outputPath Control.sampleConfig handshake))) next := by
    rw [output]
    exact ⟨_, rfl⟩
  obtain ⟨next, creates⟩ := created
  have past := Session.finished_alone (.ok ()) (Session.received ++ Session.confirmed)
  have shape := (session_shape_iff Control.sampleConfig _ (by decide) finished).1 past
  rw [parsed] at shape
  refine ⟨_, _, handshake, assembling, finished, parsed, ⟨next, creates⟩, ?_, past, rfl,
    shape.mpr ⟨List.not_mem_nil, ?_⟩⟩
  · exact (session_shape_iff Control.sampleConfig _ (by decide) assembling).2 handshake next parsed
      creates
  · intro foreign
    obtain ⟨_, _, _, _, read, _⟩ := foreign
    exact List.not_mem_nil read

set_option maxRecDepth 4000 in
/-- The output path is a directory: it exists and can be opened, but not read. The handler
ends without a reply. -/
theorem session_without_reply :
    let _ := Blake3.sample
    let _ := KeyOrder.increasing
    ∃ pool handshake, Reaches (History.system Control.sampleConfig Control.sampleHandshake)
      (fun _ => True) (History.start Control.sampleConfig) pool ∧ Finished pool ∧
        parseHandshake Control.sampleHandshake = .ok handshake ∧ pool.world.written = [] ∧
          ¬ Session.Shape Control.sampleConfig handshake pool.world := by
  intro _ _
  let directory : IoError := ⟨"Is a directory"⟩
  have ran : Runs (History.sem Control.sampleHandshake) (Control.task Control.sampleConfig) []
      (.ret (.returned (.error directory))) _ :=
    .vis (.ok Control.sampleHandshake) ⟨rfl, rfl⟩ (.vis (.ok true) ⟨rfl, trivial⟩
      (.vis (.ok ()) ⟨rfl, trivial⟩ (.vis (.error directory) ⟨rfl, trivial⟩
        (.vis () ⟨rfl, trivial⟩ .refl))))
  exact ⟨_, _, Session.reaches_alone ran, Session.finished_alone _ _, rfl, rfl,
    fun shape => shape.written_ne_nil rfl⟩

end BeeSync.Server
