import BeeSync.Interaction.ThreadPool
import BeeSync.Server.Control
import BeeSync.Server.TransferFiles

/-!
# The history of a control session

The handler of one control connection is run by itself; its history records every call with
its answer. Here are the observations on a history, the facts about a session that calm calls
leave as they are, and the rules for single calls.
-/

set_option autoImplicit false

namespace BeeSync.Server

open Encoding Interaction

/-- The calls of a handler so far. -/
abbrev History := List (Event ControlSig)

namespace History

/-- The frames on the control stream. -/
def written (history : History) : List Bytes :=
  history.filterMap fun
    | ⟨.sendFrame payload, .ok _⟩ => some payload
    | _ => none

/-- The files that a check, an open or a read failed on. -/
def failures (history : History) : List FilePath :=
  history.filterMap fun
    | ⟨.fs (.exists_ path), .error _⟩ => some path
    | ⟨.fs (.openRead path), .error _⟩ => some path
    | ⟨.fs (.readAt path _ _), .error _⟩ => some path
    | _ => none

/-- The files that were read as a whole. -/
def contents (history : History) : List (FilePath × Bytes) :=
  history.filterMap fun
    | ⟨.fs (.readFile path), .ok data⟩ => some (path, data)
    | _ => none

/-- The files that were created or truncated. -/
def creations (history : History) : List FilePath :=
  history.filterMap fun
    | ⟨.fs (.create path), _⟩ => some path
    | _ => none

/-- The handler receives a frame, its sends succeed, and a lock shows a receiver with the
parameters it was created with. Everything else may be answered in any way. -/
def sem (data : Bytes) (op : ControlOp) (history : History) (answer : op.Res)
    (history' : History) : Prop :=
  history' = history ++ [⟨op, answer⟩] ∧
    match op, answer with
    | .recvFrame, answer => answer = .ok data
    | .sendFrame _, answer => answer = .ok ()
    | .lock receiver, answer => ∀ created : FileReceiver,
        ⟨.newReceiver created, receiver⟩ ∈ history → answer.params = created.params
    | _, _ => True

def system [Blake3] (config : Control.Config) (data : Bytes) :
    System Unit (fun _ => ControlSig) (fun _ => ControlState) History where
  sem _ := sem data
  again _ := Control.again config

def start [Blake3] [KeyOrder] (config : Control.Config) :
    Pool (fun _ : Unit => ControlSig) (fun _ => ControlState) History where
  prog _ := Control.task config
  world := []

end History

namespace Session

variable [Blake3] (config : Control.Config) (handshake : HandshakeData)

def outputPath : FilePath := ⟨config.outputDir, handshake.safeName⟩

/-- The check for an existing file fails. -/
def CheckFailed (history : History) : Prop :=
  outputPath config handshake ∈ history.failures

/-- The record on disk lists an index that the transfer does not have, and the part with
that index has the hash it lists. -/
def ForeignPart (history : History) : Prop :=
  ∃ data metadata idx part,
    ((handshake.receiver config.outputDir config.tempDir).metaPath, data) ∈ history.contents ∧
      TransferMetadata.fromBytes data = .ok metadata ∧
        ((handshake.receiver config.outputDir config.tempDir).partPath idx, part) ∈
          history.contents ∧
          metadata.chunkHashes.get? idx = some (calcHash part) ∧ handshake.numChunks ≤ idx

/-- A file call of the handler. -/
def onFs (call : Event (FsSig FilePath)) : Event ControlSig := ⟨.fs call.op, call.answer⟩

/-- The calls of one assembly and what it returns. -/
def Assembly (run : History) (result : Except IoError Bool) : Prop :=
  ∃ receiver state calls, run = [⟨.lock receiver, state⟩] ++ calls.map onFs ++
    [⟨.unlock receiver state, ()⟩] ∧ (state.assemble config.reads).Path calls (.ret result)

def succeeded : Except IoError Bool → Bool
  | .ok true => true
  | _ => false

/-- Every chunk was marked when the handler last looked: when it resumed an earlier
transfer, or in its last looks at the receiver, which had not failed. -/
inductive Ready (history : History) : Prop where
  | resumed {receiver : ReceiverId} {state : FileReceiver} :
      history.written = [handshakeResponse Handshake.respComplete []] →
        ⟨.unlock receiver state, ()⟩ ∈ history → state.isComplete = true → Ready history
  | received {earlier : History} {receiver : ReceiverId} {state state' : FileReceiver}
      {ports : List UInt16} :
      history = earlier ++ [⟨.lock receiver, state⟩, ⟨.unlock receiver state, ()⟩,
        ⟨.lock receiver, state'⟩, ⟨.unlock receiver state', ()⟩] →
        history.written = [handshakeResponse Handshake.respOk ports] →
          state.isComplete = true → state'.failed = false → Ready history

/-- What a session looks like when it ends. -/
inductive Shape (history : History) : Prop where
  | refused : history.written = [handshakeResponse Handshake.respErr []] →
      outputPath config handshake ∉ history.creations → Shape history
  | existing : history.written = [handshakeResponse Handshake.respExists []] →
      outputPath config handshake ∉ history.creations → Shape history
  | assembled {before run after : History} {result : Except IoError Bool} :
      history = before ++ run ++ after → Ready before → Assembly config run result →
        history.written = before.written ++ [[Control.finalStatus (succeeded result)]] →
          Shape history
  | abandoned {ports : List UInt16} :
      history.written = [handshakeResponse Handshake.respOk ports,
        [Control.finalStatus false]] →
        outputPath config handshake ∉ history.creations → Shape history

end Session

namespace History

theorem written_append (left right : History) :
    (left ++ right).written = left.written ++ right.written :=
  List.filterMap_append

theorem failures_append (left right : History) :
    (left ++ right).failures = left.failures ++ right.failures :=
  List.filterMap_append

theorem contents_append (left right : History) :
    (left ++ right).contents = left.contents ++ right.contents :=
  List.filterMap_append

theorem creations_append (left right : History) :
    (left ++ right).creations = left.creations ++ right.creations :=
  List.filterMap_append

end History

namespace Session

/-- Calls that write no frame, read no whole file and do not fail on the output file. -/
structure Still (out : FilePath) (run : History) : Prop where
  written : run.written = []
  failures : out ∉ run.failures
  contents : run.contents = []

/-- They do not create the output file either. -/
structure Calm (out : FilePath) (run : History) : Prop extends Still out run where
  creations : out ∉ run.creations

theorem Still.append {out : FilePath} {left right : History} (still : Still out left)
    (still' : Still out right) : Still out (left ++ right) := by
  constructor
  · rw [History.written_append, still.written, still'.written, List.append_nil]
  · simp [History.failures_append, still.failures, still'.failures]
  · rw [History.contents_append, still.contents, still'.contents, List.append_nil]

/-- Calls on files that cannot show, whatever they answer. -/
def QuietFs (out : FilePath) : FsOp FilePath → Prop
  | .create path | .exists_ path | .openRead path | .readAt path _ _ => path ≠ out
  | .readFile _ => False
  | _ => True

def Quiet (out : FilePath) : ControlOp → Prop
  | .sendFrame _ => False
  | .fs op => QuietFs out op
  | _ => True

theorem QuietFs.calm {out : FilePath} {op : FsOp FilePath} (quiet : QuietFs out op)
    (answer : op.Res) : Calm out [⟨.fs op, answer⟩] := by
  cases op with
  | create path => exact ⟨⟨rfl, List.not_mem_nil, rfl⟩, by simpa [History.creations] using quiet.symm⟩
  | exists_ path | openRead path | readAt path =>
      cases answer with
      | ok _ => exact ⟨⟨rfl, List.not_mem_nil, rfl⟩, List.not_mem_nil⟩
      | error error =>
          exact ⟨⟨rfl, by simpa [History.failures] using quiet.symm, rfl⟩, List.not_mem_nil⟩
  | readFile path => cases quiet
  | stuck => cases answer
  | writeAt | rename | remove => exact ⟨⟨rfl, List.not_mem_nil, rfl⟩, List.not_mem_nil⟩

theorem Quiet.calm {out : FilePath} {op : ControlOp} (quiet : Quiet out op) (answer : op.Res) :
    Calm out [⟨op, answer⟩] := by
  cases op with
  | sendFrame payload => cases quiet
  | fs op => exact QuietFs.calm quiet answer
  | _ => exact ⟨⟨rfl, List.not_mem_nil, rfl⟩, List.not_mem_nil⟩

/-- A fact about the session that calm calls leave true. -/
def Undisturbed (out : FilePath) (fact : History → Prop) : Prop :=
  ∀ history run, fact history → Calm out run → fact (history ++ run)

theorem Undisturbed.and {out : FilePath} {fact fact' : History → Prop}
    (left : Undisturbed out fact) (right : Undisturbed out fact') :
    Undisturbed out fun history => fact history ∧ fact' history :=
  fun history run holds calm => ⟨left history run holds.1 calm, right history run holds.2 calm⟩

variable [Blake3] {config : Control.Config} {handshake : HandshakeData}

/-- Nothing has gone wrong, and these frames have been written. -/
structure Sound (config : Control.Config) (handshake : HandshakeData) (frames : List Bytes)
    (history : History) : Prop where
  written : history.written = frames
  checked : ¬ CheckFailed config handshake history
  native : ¬ ForeignPart config handshake history

/-- The output file has not been touched either. -/
structure Stage (config : Control.Config) (handshake : HandshakeData) (frames : List Bytes)
    (history : History) : Prop extends Sound config handshake frames history where
  uncreated : outputPath config handshake ∉ history.creations

theorem Sound.append {frames : List Bytes} {history run : History}
    (sound : Sound config handshake frames history)
    (still : Still (outputPath config handshake) run) :
    Sound config handshake frames (history ++ run) := by
  constructor
  · rw [History.written_append, still.written, List.append_nil, sound.written]
  · simpa [CheckFailed, History.failures_append, still.failures] using sound.checked
  · rw [ForeignPart, History.contents_append, still.contents, List.append_nil]
    exact sound.native

theorem Stage.undisturbed (frames : List Bytes) :
    Undisturbed (outputPath config handshake) (Stage config handshake frames) := by
  intro history run stage calm
  refine ⟨stage.toSound.append calm.toStill, ?_⟩
  simpa [History.creations_append, calm.creations] using stage.uncreated

/-- No file has been read as a whole and no frame written. -/
structure Opening (config : Control.Config) (handshake : HandshakeData) (history : History) :
    Prop extends Stage config handshake [] history where
  unread : history.contents = []

theorem Opening.undisturbed :
    Undisturbed (outputPath config handshake) (Opening config handshake) := by
  intro history run opening calm
  refine ⟨Stage.undisturbed [] history run opening.toStage calm, ?_⟩
  rw [History.contents_append, calm.contents, List.append_nil, opening.unread]

/-- The receiver of the session. -/
def Created (config : Control.Config) (handshake : HandshakeData) (receiver : ReceiverId)
    (history : History) : Prop :=
  ⟨.newReceiver (handshake.receiver config.outputDir config.tempDir), receiver⟩ ∈ history

omit [Blake3] in
theorem Created.undisturbed (receiver : ReceiverId) :
    Undisturbed (outputPath config handshake) (Created config handshake receiver) :=
  fun _ _ created _ => List.mem_append_left _ created

theorem Shape.undisturbed :
    Undisturbed (outputPath config handshake) (Shape config handshake) := by
  intro history run shape calm
  have written : (history ++ run).written = history.written := by
    rw [History.written_append, calm.written, List.append_nil]
  have uncreated (fresh : outputPath config handshake ∉ history.creations) :
      outputPath config handshake ∉ (history ++ run).creations := by
    simpa [History.creations_append, calm.creations] using fresh
  cases shape with
  | refused reply fresh => exact .refused (written.trans reply) (uncreated fresh)
  | existing reply fresh => exact .existing (written.trans reply) (uncreated fresh)
  | assembled same ready assembly reply =>
      subst same
      exact .assembled (List.append_assoc _ _ run) ready assembly (written.trans reply)
  | abandoned reply fresh => exact .abandoned (written.trans reply) (uncreated fresh)

theorem Shape.written_ne_nil {history : History} (shape : Shape config handshake history) :
    history.written ≠ [] := by
  intro silent
  cases shape with
  | refused reply => cases silent.symm.trans reply
  | existing reply => cases silent.symm.trans reply
  | assembled _ _ _ reply => simp [silent] at reply
  | abandoned reply => cases silent.symm.trans reply

/-- How a session ends. -/
inductive Ended (config : Control.Config) (handshake : HandshakeData) (history : History) :
    Prop where
  | shaped : Shape config handshake history → ¬ CheckFailed config handshake history →
      ¬ ForeignPart config handshake history → Ended config handshake history
  | unchecked : CheckFailed config handshake history → history.written = [] →
      Ended config handshake history
  | foreign : ForeignPart config handshake history → history.written = [] →
      Ended config handshake history

theorem Ended.undisturbed :
    Undisturbed (outputPath config handshake) (Ended config handshake) := by
  intro history run ended calm
  have written : (history ++ run).written = history.written := by
    rw [History.written_append, calm.written, List.append_nil]
  cases ended with
  | shaped shape checked native =>
      have sound : Sound config handshake history.written history := ⟨rfl, checked, native⟩
      have sound' := sound.append calm.toStill
      exact .shaped (Shape.undisturbed history run shape calm) sound'.checked sound'.native
  | unchecked failed silent =>
      refine .unchecked ?_ (written.trans silent)
      rw [CheckFailed, History.failures_append]
      exact List.mem_append_left _ failed
  | foreign found silent =>
      refine .foreign ?_ (written.trans silent)
      rw [ForeignPart, History.contents_append, calm.contents, List.append_nil]
      exact found

/-- The session of a frame is over. -/
def Over (config : Control.Config) (data : Bytes) (history : History) : Prop :=
  match parseHandshake data with
  | .error _ => history.written = [handshakeResponse Handshake.respErr []]
  | .ok handshake => Ended config handshake history

theorem Ended.concludes {data : Bytes} {history : History}
    (parsed : parseHandshake data = .ok handshake) (ended : Ended config handshake history) :
    Over config data history := by
  rw [Over, parsed]
  exact ended

theorem Over.append {data : Bytes} {history run : History} (past : Over config data history)
    (calm : ∀ out, Calm out run) : Over config data (history ++ run) := by
  rw [Over] at past ⊢
  cases parsed : parseHandshake data with
  | error error =>
      rw [parsed] at past
      exact (History.written_append history run).trans (by
        rw [(calm ⟨[], []⟩).written, List.append_nil, past])
  | ok handshake =>
      rw [parsed] at past
      exact Ended.undisturbed history run past (calm _)

theorem Ended.shape_iff {history : History} (ended : Ended config handshake history) :
    Shape config handshake history ↔
      ¬ CheckFailed config handshake history ∧ ¬ ForeignPart config handshake history := by
  cases ended with
  | shaped shape checked native => exact ⟨fun _ => ⟨checked, native⟩, fun _ => shape⟩
  | unchecked failed silent =>
      exact ⟨fun shape => absurd silent shape.written_ne_nil, fun sound => absurd failed sound.1⟩
  | foreign found silent =>
      exact ⟨fun shape => absurd silent shape.written_ne_nil, fun sound => absurd found sound.2⟩

/-- The handler is about to assemble. -/
def Assembles (history : History) : Prop :=
  ∃ before receiver state, history = before ++ [⟨.lock receiver, state⟩] ∧ Ready before

def contract (config : Control.Config) (data : Bytes) :
    Contract (fun _ : Unit => ControlSig) (fun _ => ControlState) History where
  inv _ := True
  guar _ _ _ := True
  ob _
    | .fs (.create path) => fun history => ∀ handshake, parseHandshake data = .ok handshake →
        path = outputPath config handshake → Assembles history
    | _ => fun _ => True
  post _
    | .waiting transfer => fun history => ∃ handshake ports,
        parseHandshake data = .ok handshake ∧
          Stage config handshake [handshakeResponse Handshake.respOk ports] history ∧
            Created config handshake transfer.receiver history
    | _ => Over config data

abbrev protocol (config : Control.Config) (data : Bytes) : Protocol ControlSig History :=
  (contract config data).protocol (History.system config data) (fun _ => True) ()

variable {data : Bytes}

theorem stable_alone (kept : History → Prop) : (protocol config data).Stable kept := by
  intro _ _ _ _ moved _
  obtain ⟨other, different, _⟩ := moved
  exact absurd rfl different

section Steps

variable {frames : List Bytes} {fact : History → Prop}

/-- A call shows in the history, with an answer that the interpretation allows. -/
theorem step_call {op : ControlOp}
    (allowed : ∀ history, fact history → (contract config data).ob () op history) :
    (protocol config data).Step fact op fun answer history => ∃ before,
      history = before ++ [⟨op, answer⟩] ∧ fact before ∧ History.sem data op before answer history := by
  intro history _ holds
  refine ⟨allowed history holds, fun answer history' acted => ?_⟩
  exact ⟨trivial, trivial, history, acted.1.1, holds, acted.1⟩

theorem Quiet.allowed (parsed : parseHandshake data = .ok handshake) {op : ControlOp}
    (quiet : Quiet (outputPath config handshake) op) (history : History) :
    (contract config data).ob () op history := by
  cases op with
  | fs call =>
      cases call with
      | create path =>
          intro handshake' parsed' same
          cases parsed.symm.trans parsed'
          exact absurd same quiet
      | _ => trivial
  | _ => trivial

theorem step_quiet (parsed : parseHandshake data = .ok handshake)
    (undisturbed : Undisturbed (outputPath config handshake) fact)
    {op : ControlOp} (quiet : Quiet (outputPath config handshake) op) :
    (protocol config data).Step fact op fun answer history => fact history ∧
      ∃ before, history = before ++ [⟨op, answer⟩] ∧ fact before ∧
        History.sem data op before answer history := by
  refine (step_call fun history _ => quiet.allowed parsed history).conseq
    (fun _ _ holds => holds) ?_
  intro answer history _ called
  obtain ⟨before, same, known, acted⟩ := called
  refine ⟨?_, before, same, known, acted⟩
  rw [same]
  exact undisturbed before _ known (quiet.calm answer)

/-- Quiet programs leave the facts about a session as they are. -/
theorem quiet_triple {α : Type} (parsed : parseHandshake data = .ok handshake)
    (undisturbed : Undisturbed (outputPath config handshake) fact) {program : ControlProg α}
    (quiet : program.All (Quiet (outputPath config handshake))) :
    Triple (protocol config data) fact program fun _ => fact := by
  apply Triple.uniform (stable_alone _) quiet
  intro op quietOp
  exact (step_quiet parsed undisturbed quietOp).conseq (fun _ _ holds => holds)
    fun _ _ _ reached => reached.1

end Steps

end Session

end BeeSync.Server
