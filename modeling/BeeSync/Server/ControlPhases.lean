import BeeSync.Server.Control
import BeeSync.Server.FilePhases

/-!
# The phases of a control handler

What a handler may ask for next: whether its receiver exists, whether it holds the lock, how
far the recovery and the assembly have come, and what it has to report.
-/

set_option autoImplicit false

namespace BeeSync.Server

open Encoding Interaction

inductive ControlPhase where
  | starting
  | accepted (handshake : HandshakeData)
  | created (handshake : HandshakeData) (receiver : ReceiverId)
  | resuming (handshake : HandshakeData) (receiver : ReceiverId) (state : FileReceiver)
      (phase : ResumePhase)
  /-- The transfer is on its way; whether all its chunks have been seen. -/
  | serving (handshake : HandshakeData) (receiver : ReceiverId) (complete : Bool)
  | looking (handshake : HandshakeData) (receiver : ReceiverId) (complete : Bool)
      (state : FileReceiver)
  | assembling (handshake : HandshakeData) (receiver : ReceiverId) (state : FileReceiver)
      (phase : AssemblePhase)
  | reporting (handshake : HandshakeData) (receiver : ReceiverId) (success : Bool)
  | finished

/-- Requests that concern neither a receiver nor a file nor the peer. -/
def ControlOp.Quiet : ControlOp → Prop
  | .createDirAll _ | .pollStream | .tryReservePorts _ | .releasePorts _ | .bind _
  | .dropSockets _ | .dropDataSocks _ | .spawnDataServer _ | .closeStream => True
  | _ => False

/-- The phases in which a handshake may be answered. -/
def ControlPhase.Answers : ControlPhase → Prop
  | .starting | .accepted _ | .serving .. => True
  | _ => False

/-- Calls that look at the output file. -/
def LooksAt (path : FilePath) : FsOp FilePath → Prop
  | .exists_ other | .openRead other | .readAt other _ _ => other = path
  | .stuck => True
  | _ => False

/-- Whether an assembly went well. -/
def assembled : Except IoError Bool → Bool
  | .ok true => true
  | .ok false | .error _ => false

section Turns

variable [Blake3] [KeyOrder]

inductive ControlTurn (config : Control.Config) : Turns ControlSig ControlPhase where
  | quiet (phase : ControlPhase) (op : ControlOp) (quiet : op.Quiet) (answer : op.Res) :
      ControlTurn config phase op answer phase
  | answer (phase : ControlPhase) (answers : phase.Answers) (payload : Bytes)
      (response : payload.length ≠ 1) (sent : Except IoError Unit) :
      ControlTurn config phase (.sendFrame payload) sent phase
  | hear (answer : Except IoError Bytes) : ControlTurn config .starting .recvFrame answer .starting
  | accept (data : Bytes) (handshake : HandshakeData)
      (parsed : parseHandshake data = .ok handshake) :
      ControlTurn config .starting .recvFrame (.ok data) (.accepted handshake)
  | check {handshake : HandshakeData} (op : FsOp FilePath)
      (looks : LooksAt ⟨config.outputDir, handshake.safeName⟩ op) (answer : op.Res) :
      ControlTurn config (.accepted handshake) (.fs op) answer (.accepted handshake)
  | create {handshake : HandshakeData} (receiver : ReceiverId) :
      ControlTurn config (.accepted handshake)
        (.newReceiver (handshake.receiver config.outputDir config.tempDir)) receiver
        (.created handshake receiver)
  | resume {handshake : HandshakeData} {receiver : ReceiverId} (state : FileReceiver) :
      ControlTurn config (.created handshake receiver) (.lock receiver) state
        (.resuming handshake receiver state .looking)
  | recover {handshake : HandshakeData} {receiver : ReceiverId} {state : FileReceiver}
      {phase phase' : ResumePhase} {op : FsOp FilePath} {answer : op.Res} :
      ResumeTurn state phase op answer phase' →
        ControlTurn config (.resuming handshake receiver state phase) (.fs op) answer
          (.resuming handshake receiver state phase')
  | unresumed {handshake : HandshakeData} {receiver : ReceiverId} {state : FileReceiver}
      {phase : ResumePhase} (ended : phase.Done none) :
      ControlTurn config (.resuming handshake receiver state phase) (.unlock receiver state) ()
        (.serving handshake receiver false)
  | resumed {handshake : HandshakeData} {receiver : ReceiverId} {state marked : FileReceiver}
      {phase : ResumePhase} {metadata : TransferMetadata} (complete : Bool)
      (ended : phase.Done (some metadata))
      (all : state.markAll (KeyOrder.keys metadata.chunkHashes) = some marked)
      (whole : complete = true → (marked.setMetadata metadata).isComplete = true) :
      ControlTurn config (.resuming handshake receiver state phase)
        (.unlock receiver (marked.setMetadata metadata)) ()
        (.serving handshake receiver complete)
  | register {handshake : HandshakeData} {receiver : ReceiverId} {complete : Bool}
      (ports : List UInt16) :
      ControlTurn config (.serving handshake receiver complete)
        (.registerReceivers ports receiver) () (.serving handshake receiver complete)
  | look {handshake : HandshakeData} {receiver : ReceiverId} {complete : Bool}
      (state : FileReceiver) :
      ControlTurn config (.serving handshake receiver complete) (.lock receiver) state
        (.looking handshake receiver complete state)
  | leave {handshake : HandshakeData} {receiver : ReceiverId} {complete : Bool}
      {state : FileReceiver} (complete' : Bool)
      (seen : complete' = true → complete = true ∨ state.isComplete = true) :
      ControlTurn config (.looking handshake receiver complete state) (.unlock receiver state) ()
        (.serving handshake receiver complete')
  | assemble {handshake : HandshakeData} {receiver : ReceiverId} (state : FileReceiver) :
      ControlTurn config (.serving handshake receiver true) (.lock receiver) state
        (.assembling handshake receiver state .creating)
  | build {handshake : HandshakeData} {receiver : ReceiverId} {state : FileReceiver}
      {phase phase' : AssemblePhase} {op : FsOp FilePath} {answer : op.Res} :
      AssembleTurn state phase op answer phase' →
        ControlTurn config (.assembling handshake receiver state phase) (.fs op) answer
          (.assembling handshake receiver state phase')
  | built {handshake : HandshakeData} {receiver : ReceiverId} {state : FileReceiver}
      {result : Except IoError Bool} {absorbed : Bytes} :
      ControlTurn config (.assembling handshake receiver state (.assembled result absorbed))
        (.unlock receiver state) () (.reporting handshake receiver (assembled result))
  | report {handshake : HandshakeData} {receiver : ReceiverId} {success : Bool}
      (answer : Except IoError Unit) :
      ControlTurn config (.reporting handshake receiver success)
        (.sendFrame [Control.finalStatus success]) answer .finished
  | abandon {handshake : HandshakeData} {receiver : ReceiverId} {complete : Bool}
      (answer : Except IoError Unit) :
      ControlTurn config (.serving handshake receiver complete)
        (.sendFrame [Control.finalStatus false]) answer .finished
  | remove (port : UInt16) : ControlTurn config .finished (.removeReceiver port) () .finished

/-- Nothing is left that the peer has to be told of an assembly. -/
def ControlPhase.Reported : ControlPhase → Prop
  | .assembling .. | .reporting .. => False
  | _ => True

/-- The phase in which a turn of the waiting loop ends. -/
def ControlState.Ends : ControlState → ControlPhase → Prop
  | .waiting transfer, phase => ∃ handshake complete,
      phase = .serving handshake transfer.receiver complete
  | .returned _, phase | .panicked, phase => phase.Reported

namespace ControlPhase

variable {config : Control.Config} {handshake : HandshakeData} {receiver : ReceiverId}

private theorem quiet_follows {α : Type} {program : ControlProg α}
    (quiet : program.All ControlOp.Quiet) (phase : ControlPhase) :
    program.Follows (ControlTurn config) (fun _ phase' => phase' = phase) phase :=
  .uniform quiet (fun op allowed answer => .quiet phase op allowed answer) fun _ => rfl

private theorem answer_follows (phase : ControlPhase) (answers : phase.Answers) (status : UInt8) :
    (Control.answer status).Follows (ControlTurn config) ControlState.Ends phase := by
  refine fun sent => ⟨phase, .answer phase answers (handshakeResponse status [])
    (by simp [handshakeResponse]) sent, ?_⟩
  cases phase <;> trivial

private theorem quiet_removeReceivers (ports : List UInt16) :
    (Control.removeReceivers ports).Follows (ControlTurn config)
      (fun _ phase => phase = .finished) .finished := by
  induction ports with
  | nil => exact rfl
  | cons port rest ih => exact fun _ => ⟨_, .remove port, ih⟩

private theorem cleanup_follows (ports : List UInt16) :
    (Control.cleanup ports).Follows (ControlTurn config) (fun _ phase => phase = .finished)
      .finished := by
  refine (quiet_removeReceivers ports).bind fun _ phase there => ?_
  rw [there]
  split
  · have releases : (Control.call (.releasePorts ports.length)).All ControlOp.Quiet :=
      ⟨trivial, fun _ => trivial⟩
    exact quiet_follows releases _
  · exact rfl

private theorem assembleFile_follows (reads : Nat) :
    (Control.assembleFile reads receiver).Follows (ControlTurn config)
      (fun result phase => phase = .reporting handshake receiver (assembled result))
      (.serving handshake receiver true) := by
  refine fun state => ⟨_, .assemble state, ?_⟩
  have builds : (Control.onFs (state.assemble reads)).Follows (ControlTurn config) _
      (.assembling handshake receiver state .creating) :=
    (assemble_follows state reads).embed (ControlPhase.assembling handshake receiver state)
      fun _ _ _ _ turned => .build turned
  refine builds.bind fun result phase reached => ?_
  obtain ⟨phase', same, absorbed, done⟩ := reached
  subst done same
  exact fun _ => ⟨_, .built, rfl⟩

private theorem conclude_follows (ports : List UInt16) (success : Bool) {phase : ControlPhase}
    (reached : phase = .reporting handshake receiver success ∨
      success = false ∧ ∃ complete, phase = .serving handshake receiver complete) :
    ((Control.call (.sendFrame [Control.finalStatus success])).bind fun _ =>
      (Control.cleanup ports).bind fun _ => .ret (.returned (.ok ()))).Follows
        (ControlTurn config) ControlState.Ends phase := by
  have cleaned : ((Control.cleanup ports).bind fun _ => .ret (.returned (.ok ()))).Follows
      (ControlTurn config) ControlState.Ends .finished :=
    (cleanup_follows ports).bind fun _ _ there => there ▸ trivial
  intro answer
  obtain reporting | ⟨unsuccessful, complete, serving⟩ := reached
  · rw [reporting]
    exact ⟨_, .report answer, cleaned⟩
  · rw [unsuccessful, serving]
    exact ⟨_, .abandon answer, cleaned⟩

private theorem finish_follows (reads : Nat) (transfer : Transfer) (complete : Bool) :
    (Control.finish reads transfer).Follows (ControlTurn config) ControlState.Ends
      (.serving handshake transfer.receiver complete) := by
  refine fun state => ⟨_, .look state, fun _ => ⟨_, .leave state.isComplete .inr, ?_⟩⟩
  refine fun state' => ⟨_, .look state', fun _ => ⟨_, .leave state.isComplete .inl, ?_⟩⟩
  have unsuccessful : (Prog.ret false : ControlProg Bool).Follows (ControlTurn config)
      (fun success phase => phase = .reporting handshake transfer.receiver success ∨
        success = false ∧ ∃ complete, phase = .serving handshake transfer.receiver complete)
      (.serving handshake transfer.receiver state.isComplete) :=
    .inr ⟨rfl, _, rfl⟩
  have outcome : (if state'.failed then .ret false
      else if !state.isComplete then .ret false
      else (Control.assembleFile reads transfer.receiver).recover (fun _ => .ret false)
        .ret : ControlProg Bool).Follows (ControlTurn config)
      (fun success phase => phase = .reporting handshake transfer.receiver success ∨
        success = false ∧ ∃ complete, phase = .serving handshake transfer.receiver complete)
      (.serving handshake transfer.receiver state.isComplete) := by
    split
    · exact unsuccessful
    · split
      · exact unsuccessful
      · rename_i incomplete
        have complete : state.isComplete = true := by simpa using incomplete
        rw [complete]
        refine (assembleFile_follows reads).recover (fun error phase there => .inl there) ?_
        intro success phase there
        refine .inl (there.trans ?_)
        cases success <;> rfl
  exact outcome.bind fun success phase reached =>
    conclude_follows transfer.ports success reached

private theorem waitForCompletion_follows (reads : Nat) (transfer : Transfer) (complete : Bool) :
    (Control.waitForCompletion reads transfer).Follows (ControlTurn config) ControlState.Ends
      (.serving handshake transfer.receiver complete) := by
  refine fun state => ⟨_, .look state, fun _ => ⟨_, .leave complete .inl, ?_⟩⟩
  change Prog.Follows _ _ (ite _ _ _) _
  split
  · exact finish_follows reads transfer complete
  · refine fun poll => ⟨_, .quiet _ .pollStream trivial poll, ?_⟩
    cases poll with
    | idle => exact ⟨handshake, complete, rfl⟩
    | data => exact ⟨handshake, complete, rfl⟩
    | disconnected => exact finish_follows reads transfer complete

omit [Blake3] [KeyOrder] in
private theorem quiet_allocateSockets (count maxParallel : Nat) :
    (Control.allocateSockets count maxParallel).All ControlOp.Quiet := by
  have next : ∀ untried, (Control.bindNext untried).All ControlOp.Quiet := by
    intro untried
    induction untried with
    | nil => trivial
    | cons port rest ih =>
        exact .recover ⟨trivial, fun _ => trivial⟩ (fun _ => ih) fun _ => trivial
  have loop : ∀ turns untried sockets,
      (Control.bindLoop turns untried sockets).All ControlOp.Quiet := by
    intro turns
    induction turns with
    | zero => exact fun _ _ => trivial
    | succ turns ih =>
        intro untried sockets
        refine .bind (next untried) fun found => ?_
        obtain ⟨port, rest⟩ := found
        cases port with
        | none => exact ih rest sockets
        | some port => exact ih rest (sockets ++ [port])
  refine ⟨trivial, fun reserved => ?_⟩
  cases reserved with
  | false => trivial
  | true =>
      have bound : (Control.bindLoop (min count maxParallel) dataPorts []).All
          ControlOp.Quiet := loop _ _ _
      refine bound.bind fun sockets => ?_
      split
      · exact ⟨trivial, fun _ => trivial⟩
      · trivial

omit [Blake3] [KeyOrder] in
private theorem quiet_spawnDataServers (ports : List UInt16) :
    (Control.spawnDataServers ports).All ControlOp.Quiet := by
  induction ports with
  | nil => trivial
  | cons port rest ih => exact ⟨trivial, fun _ => ih⟩

private theorem transferChunks_follows (complete : Bool) :
    (Control.transferChunks config handshake receiver).Follows (ControlTurn config)
      ControlState.Ends (.serving handshake receiver complete) := by
  refine (quiet_follows (quiet_allocateSockets _ _) _).recover (fun _ phase there => ?_) ?_
  · rw [there]
    exact answer_follows (.serving handshake receiver complete) trivial _
  · intro ports phase there
    rw [there]
    refine fun _ => ⟨_, .register ports, fun sent => ?_⟩
    refine ⟨_, .answer (.serving handshake receiver complete) trivial
      (handshakeResponse Handshake.respOk ports) (by simp [handshakeResponse]) sent, ?_⟩
    cases sent with
    | error error => exact fun _ => ⟨_, .quiet _ (.dropDataSocks ports) trivial (), trivial⟩
    | ok _ =>
        have spawned : (Control.spawnDataServers ports).Follows (ControlTurn config) _
            (.serving handshake receiver complete) :=
          quiet_follows (quiet_spawnDataServers ports) _
        refine spawned.bind fun _ phase there => ?_
        rw [there]
        exact waitForCompletion_follows config.reads ⟨handshake, receiver, ports⟩ complete

private theorem confirmComplete_follows :
    (Control.confirmComplete config receiver).Follows (ControlTurn config) ControlState.Ends
      (.serving handshake receiver true) := by
  intro sent
  refine ⟨_, .answer (.serving handshake receiver true) trivial
    (handshakeResponse Handshake.respComplete []) (by simp [handshakeResponse]) sent, ?_⟩
  cases sent with
  | error error => trivial
  | ok _ =>
      refine (assembleFile_follows config.reads).bind fun result phase there => ?_
      rw [there]
      cases result with
      | error error => exact fun answer => ⟨_, .report answer, trivial⟩
      | ok same => cases same <;> exact fun answer => ⟨_, .report answer, trivial⟩

private theorem resume_follows :
    (Control.resume receiver).Follows (ControlTurn config)
      (fun result phase => phase.Reported ∧ ∀ complete, result = some complete →
        phase = .serving handshake receiver complete) (.created handshake receiver) := by
  refine fun state => ⟨_, .resume state, ?_⟩
  have recovers : (Control.onFs state.loadOrPurgeMetadata).Follows (ControlTurn config) _
      (.resuming handshake receiver state .looking) :=
    (loadOrPurgeMetadata_follows state).embed (ControlPhase.resuming handshake receiver state)
      fun _ _ _ _ turned => .recover turned
  refine recovers.bind fun loaded phase reached => ?_
  obtain ⟨phase', same, done⟩ := reached
  subst same
  cases loaded with
  | none =>
      refine fun _ => ⟨_, .unresumed done, trivial, fun complete same => ?_⟩
      cases same
      rfl
  | some metadata =>
      dsimp only
      cases all : state.markAll (KeyOrder.keys metadata.chunkHashes) with
      | none =>
          refine ⟨trivial, fun complete same => ?_⟩
          cases same
      | some marked =>
          have whole : decide (marked.receivedChunks.count true = marked.numChunks) = true →
              (marked.setMetadata metadata).isComplete = true := fun counted =>
            FileReceiver.isComplete_of_count (of_decide_eq_true counted : marked.receivedChunks.count
              true = marked.numChunks)
          refine fun _ => ⟨_, .resumed _ done all whole, trivial, fun complete same => ?_⟩
          cases same
          rfl

omit [KeyOrder] in
private theorem looks_checkExistingFile (reads : Nat) (outputDir safeName : Bytes)
    (expectedHash : Digest) :
    (Control.checkExistingFile reads outputDir safeName expectedHash).All
      (LooksAt ⟨outputDir, safeName⟩) := by
  have loop : ∀ offset hasher, (fileHashLoop (FilePath.mk outputDir safeName) reads offset
      hasher).All (LooksAt ⟨outputDir, safeName⟩) := by
    induction reads with
    | zero => exact fun _ _ => ⟨trivial, nofun⟩
    | succ reads ih =>
        intro offset hasher
        refine .attempt ⟨rfl, fun _ => trivial⟩ fun piece => ?_
        split
        · trivial
        · exact ih _ _
  refine .attempt ⟨rfl, fun _ => trivial⟩ fun found => ?_
  cases found with
  | false => trivial
  | true =>
      refine .attempt (.attempt ⟨rfl, fun _ => trivial⟩ fun _ => loop _ _) fun _ => trivial

private theorem receiveFile_follows :
    (Control.receiveFile config handshake).Follows (ControlTurn config) ControlState.Ends
      (.accepted handshake) := by
  have refuses : (Control.answer Handshake.respErr).Follows (ControlTurn config)
      ControlState.Ends (.accepted handshake) := answer_follows (.accepted handshake) trivial _
  have directory : ∀ dir, (Control.call (.createDirAll dir)).Follows (ControlTurn config)
      (fun _ phase => phase = .accepted handshake) (.accepted handshake) := by
    intro dir
    have creates : (Control.call (.createDirAll dir)).All ControlOp.Quiet :=
      ⟨trivial, fun _ => trivial⟩
    exact quiet_follows creates _
  have temporary : (if config.tempDir ≠ config.outputDir then
      Control.call (.createDirAll config.tempDir) else .ret (.ok ())).Follows (ControlTurn config)
        (fun _ phase => phase = .accepted handshake) (.accepted handshake) := by
    split
    · exact directory config.tempDir
    · exact rfl
  refine (directory config.outputDir).recover (fun _ _ there => there ▸ refuses) ?_
  intro _ phase there
  rw [there]
  refine temporary.recover (fun _ _ there => there ▸ refuses) fun _ phase there => ?_
  rw [there]
  refine fun receiver => ⟨_, .create receiver, resume_follows.bind fun resumed phase ended => ?_⟩
  cases resumed with
  | none => exact ended.1
  | some complete =>
      rw [ended.2 complete rfl]
      cases complete with
      | true => exact confirmComplete_follows
      | false => exact transferChunks_follows false

private theorem handleControlConnection_follows :
    (Control.handleControlConnection config).Follows (ControlTurn config) ControlState.Ends
      .starting := by
  intro answer
  cases answer with
  | error error => exact ⟨_, .hear (.error error), trivial⟩
  | ok data =>
      change ∃ phase, _ ∧ Prog.Follows _ _ (ite _ _ _) phase
      split
      · exact ⟨_, .hear (.ok data), trivial⟩
      · cases parsed : parseHandshake data with
        | error error => exact ⟨_, .hear (.ok data), answer_follows .starting trivial _⟩
        | ok handshake =>
            refine ⟨_, .accept data handshake parsed, ?_⟩
            have looks : (Control.checkExistingFile config.reads config.outputDir
                handshake.safeName handshake.fullHash).Follows
                  (fun _ op _ _ => LooksAt ⟨config.outputDir, handshake.safeName⟩ op)
                  (fun _ _ => True) () :=
              .uniform (looks_checkExistingFile _ _ _ _) (fun _ looks _ => looks) fun _ => trivial
            have checks : (Control.onFs (Control.checkExistingFile config.reads config.outputDir
                handshake.safeName handshake.fullHash)).Follows (ControlTurn config) _
                  (.accepted handshake) :=
              looks.embed (fun _ : Unit => ControlPhase.accepted handshake)
                fun _ op answer _ looks => ControlTurn.check op looks answer
            refine checks.recover (fun _ phase there => ?_) fun found phase there => ?_
            · obtain ⟨_, there, _⟩ := there
              rw [there]
              trivial
            · obtain ⟨_, there, _⟩ := there
              rw [there]
              cases found with
              | true => exact answer_follows (.accepted handshake) trivial _
              | false => exact receiveFile_follows

private theorem closing_follows (state : ControlState) {phase : ControlPhase}
    (ended : state.Ends phase) :
    (Control.closing state).Follows (ControlTurn config) ControlState.Ends phase := by
  cases state with
  | waiting transfer => exact ended
  | returned result => exact fun _ => ⟨phase, .quiet phase .closeStream trivial (), ended⟩
  | panicked => exact fun _ => ⟨phase, .quiet phase .closeStream trivial (), ended⟩

theorem task_follows :
    (Control.task config).Follows (ControlTurn config) ControlState.Ends .starting :=
  handleControlConnection_follows.bind fun state _ ended => closing_follows state ended

theorem again_follows {state : ControlState} {rest : ControlProg ControlState}
    (again : Control.again config state = some rest) {phase : ControlPhase}
    (ended : state.Ends phase) : rest.Follows (ControlTurn config) ControlState.Ends phase := by
  cases state with
  | waiting transfer =>
      cases again
      obtain ⟨handshake, complete, there⟩ := ended
      rw [there]
      exact (waitForCompletion_follows config.reads transfer complete).bind
        fun state _ ended => closing_follows state ended
  | returned result => cases again
  | panicked => cases again

end ControlPhase

end Turns

end BeeSync.Server
