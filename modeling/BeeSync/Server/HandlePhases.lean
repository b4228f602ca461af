import BeeSync.Server.ControlPhases

/-!
# What a control handler says to its peer

The phases of a control handler, with what it has told the peer and what it is about to do
for it: which answer is due, which ports are bound, which data server tasks are spawned, and
where it stands in the loop that waits for the chunks. Without that they are the phases in
which the handler deals with its receiver and the files.
-/

set_option autoImplicit false

namespace BeeSync.Server

open Encoding Interaction

inductive HandlePhase where
  | starting
  /-- Whether the output exists has not been asked. -/
  | accepted (handshake : HandshakeData)
  | comparing (handshake : HandshakeData)
  /-- The directories are being created, the first one first. -/
  | preparing (handshake : HandshakeData) (first : Bool)
  | entering (handshake : HandshakeData)
  | created (handshake : HandshakeData) (receiver : ReceiverId)
  | resuming (handshake : HandshakeData) (receiver : ReceiverId) (state : FileReceiver)
      (phase : ResumePhase)
  /-- Every chunk is there, and the peer is to be told. -/
  | confirming (handshake : HandshakeData) (receiver : ReceiverId)
  | reserving (handshake : HandshakeData) (receiver : ReceiverId)
  /-- A port is about to be bound, with so many to follow. -/
  | binding (handshake : HandshakeData) (receiver : ReceiverId) (turns : Nat) (port : UInt16)
      (untried sockets : List UInt16)
  | exhausted (handshake : HandshakeData) (receiver : ReceiverId) (sockets : List UInt16)
  | registering (transfer : Transfer)
  | offering (transfer : Transfer)
  | withdrawing (transfer : Transfer)
  | spawning (transfer : Transfer) (port : UInt16) (rest : List UInt16)
  | waiting (transfer : Transfer)
  | looking (transfer : Transfer) (state : FileReceiver)
  | polling (transfer : Transfer)
  /-- The loop has been left. -/
  | concluding (transfer : Transfer)
  | weighing (transfer : Transfer) (state : FileReceiver)
  | judging (transfer : Transfer) (complete : Bool)
  | judged (transfer : Transfer) (complete : Bool) (state : FileReceiver)
  | abandoning (transfer : Transfer) (complete : Bool)
  /-- The file is about to be assembled. -/
  | gathering (transfer : Transfer)
  | assembling (transfer : Transfer) (state : FileReceiver) (phase : AssemblePhase)
  | reporting (transfer : Transfer) (success : Bool)
  | removing (port : UInt16) (rest : List UInt16) (count : Nat)
  | releasing (count : Nat)
  /-- The handshake is answered without ports. -/
  | answering (status : UInt8) (inner : ControlPhase)
  | ending (inner : ControlPhase)
  | ended (inner : ControlPhase)

namespace HandlePhase

/-- The phase without what concerns the peer. -/
def inner : HandlePhase → ControlPhase
  | .starting => .starting
  | .accepted handshake | .comparing handshake | .preparing handshake _ | .entering handshake =>
      .accepted handshake
  | .created handshake receiver => .created handshake receiver
  | .resuming handshake receiver state phase => .resuming handshake receiver state phase
  | .confirming handshake receiver => .serving handshake receiver true
  | .reserving handshake receiver | .binding handshake receiver _ _ _ _
  | .exhausted handshake receiver _ => .serving handshake receiver false
  | .registering transfer | .offering transfer | .withdrawing transfer | .spawning transfer _ _
  | .waiting transfer | .polling transfer | .concluding transfer =>
      .serving transfer.handshake transfer.receiver false
  | .looking transfer state | .weighing transfer state =>
      .looking transfer.handshake transfer.receiver false state
  | .judging transfer complete | .abandoning transfer complete =>
      .serving transfer.handshake transfer.receiver complete
  | .judged transfer complete state => .looking transfer.handshake transfer.receiver complete state
  | .gathering transfer => .serving transfer.handshake transfer.receiver true
  | .assembling transfer state phase => .assembling transfer.handshake transfer.receiver state phase
  | .reporting transfer success => .reporting transfer.handshake transfer.receiver success
  | .removing _ _ _ | .releasing _ => .finished
  | .answering _ inner | .ending inner | .ended inner => inner

/-- What follows the search for ports. -/
def bound (config : Control.Config) (handshake : HandshakeData) (receiver : ReceiverId)
    (sockets : List UInt16) : HandlePhase :=
  if sockets.length < min handshake.numChunks config.maxParallel then
    .exhausted handshake receiver sockets
  else .registering ⟨handshake, receiver, sockets⟩

/-- The search for ports goes on. -/
def bind (config : Control.Config) (handshake : HandshakeData) (receiver : ReceiverId) :
    Nat → List UInt16 → List UInt16 → HandlePhase
  | turns + 1, port :: untried, sockets => .binding handshake receiver turns port untried sockets
  | _, _, sockets => bound config handshake receiver sockets

/-- The data server tasks that are left to spawn. -/
def spawn (transfer : Transfer) : List UInt16 → HandlePhase
  | [] => .waiting transfer
  | port :: rest => .spawning transfer port rest

/-- The receivers that are left to remove. -/
def remove (count : Nat) : List UInt16 → HandlePhase
  | [] => if count > 0 then .releasing count else .ending .finished
  | port :: rest => .removing port rest count

/-- What a look at the receiver comes to. -/
def judge (transfer : Transfer) (complete failed : Bool) : HandlePhase :=
  if failed then .abandoning transfer complete
  else if complete then .gathering transfer
  else .abandoning transfer false

end HandlePhase

section Turns

variable [Blake3] [KeyOrder]

inductive HandleTurn (config : Control.Config) : Turns ControlSig HandlePhase where
  | hear (answer : Except IoError Bytes)
      (nothing : answer = .ok [] ∨ ∃ error, answer = .error error) :
      HandleTurn config .starting .recvFrame answer (.ending .starting)
  | misunderstand (data : Bytes) (error : HandshakeError)
      (parsed : parseHandshake data = .error error) :
      HandleTurn config .starting .recvFrame (.ok data) (.answering Handshake.respErr .starting)
  | accept (data : Bytes) (handshake : HandshakeData)
      (parsed : parseHandshake data = .ok handshake) :
      HandleTurn config .starting .recvFrame (.ok data) (.accepted handshake)
  | absent {handshake : HandshakeData} :
      HandleTurn config (.accepted handshake)
        (.fs (.exists_ ⟨config.outputDir, handshake.safeName⟩)) (.ok false)
        (.preparing handshake true)
  | present {handshake : HandshakeData} :
      HandleTurn config (.accepted handshake)
        (.fs (.exists_ ⟨config.outputDir, handshake.safeName⟩)) (.ok true) (.comparing handshake)
  | unknown {handshake : HandshakeData} (error : IoError) :
      HandleTurn config (.accepted handshake)
        (.fs (.exists_ ⟨config.outputDir, handshake.safeName⟩)) (.error error)
        (.ending (.accepted handshake))
  | compare {handshake : HandshakeData} (op : FsOp FilePath)
      (looks : LooksAt ⟨config.outputDir, handshake.safeName⟩ op) (answer : op.Res)
      {phase : HandlePhase} (next : phase = .comparing handshake ∨ phase = .preparing handshake true ∨
        phase = .answering Handshake.respExists (.accepted handshake) ∨
          phase = .ending (.accepted handshake)) :
      HandleTurn config (.comparing handshake) (.fs op) answer phase
  | prepare {handshake : HandshakeData} (different : config.tempDir ≠ config.outputDir) :
      HandleTurn config (.preparing handshake true) (.createDirAll config.outputDir) (.ok ())
        (.preparing handshake false)
  | prepared {handshake : HandshakeData} (same : config.tempDir = config.outputDir) :
      HandleTurn config (.preparing handshake true) (.createDirAll config.outputDir) (.ok ())
        (.entering handshake)
  | preparedBoth {handshake : HandshakeData} :
      HandleTurn config (.preparing handshake false) (.createDirAll config.tempDir) (.ok ())
        (.entering handshake)
  | unprepared {handshake : HandshakeData} {first : Bool} (dir : Bytes) (error : IoError) :
      HandleTurn config (.preparing handshake first) (.createDirAll dir) (.error error)
        (.answering Handshake.respErr (.accepted handshake))
  | create {handshake : HandshakeData} (receiver : ReceiverId) :
      HandleTurn config (.entering handshake)
        (.newReceiver (handshake.receiver config.outputDir config.tempDir)) receiver
        (.created handshake receiver)
  | resume {handshake : HandshakeData} {receiver : ReceiverId} (state : FileReceiver) :
      HandleTurn config (.created handshake receiver) (.lock receiver) state
        (.resuming handshake receiver state .looking)
  | recover {handshake : HandshakeData} {receiver : ReceiverId} {state : FileReceiver}
      {phase phase' : ResumePhase} {op : FsOp FilePath} {answer : op.Res} :
      ResumeTurn state phase op answer phase' →
        HandleTurn config (.resuming handshake receiver state phase) (.fs op) answer
          (.resuming handshake receiver state phase')
  | unresumed {handshake : HandshakeData} {receiver : ReceiverId} {state : FileReceiver}
      {phase : ResumePhase} (ended : phase.Done none) :
      HandleTurn config (.resuming handshake receiver state phase) (.unlock receiver state) ()
        (.reserving handshake receiver)
  | resumed {handshake : HandshakeData} {receiver : ReceiverId} {state marked : FileReceiver}
      {phase : ResumePhase} {metadata : TransferMetadata} (ended : phase.Done (some metadata))
      (all : state.markAll (KeyOrder.keys metadata.chunkHashes) = some marked)
      (part : marked.receivedChunks.count true ≠ marked.numChunks) :
      HandleTurn config (.resuming handshake receiver state phase)
        (.unlock receiver (marked.setMetadata metadata)) () (.reserving handshake receiver)
  | completed {handshake : HandshakeData} {receiver : ReceiverId} {state marked : FileReceiver}
      {phase : ResumePhase} {metadata : TransferMetadata} (ended : phase.Done (some metadata))
      (all : state.markAll (KeyOrder.keys metadata.chunkHashes) = some marked)
      (whole : marked.receivedChunks.count true = marked.numChunks) :
      HandleTurn config (.resuming handshake receiver state phase)
        (.unlock receiver (marked.setMetadata metadata)) () (.confirming handshake receiver)
  | panic {handshake : HandshakeData} {receiver : ReceiverId} {state : FileReceiver}
      {phase : ResumePhase} {metadata : TransferMetadata} (ended : phase.Done (some metadata))
      (outside : state.markAll (KeyOrder.keys metadata.chunkHashes) = none) :
      HandleTurn config (.resuming handshake receiver state phase) .closeStream ()
        (.ended (.resuming handshake receiver state phase))
  | confirm {handshake : HandshakeData} {receiver : ReceiverId} :
      HandleTurn config (.confirming handshake receiver)
        (.sendFrame (handshakeResponse Handshake.respComplete [])) (.ok ())
        (.gathering ⟨handshake, receiver, []⟩)
  | unconfirmed {handshake : HandshakeData} {receiver : ReceiverId} (error : IoError) :
      HandleTurn config (.confirming handshake receiver)
        (.sendFrame (handshakeResponse Handshake.respComplete [])) (.error error)
        (.ending (.serving handshake receiver true))
  | reserve {handshake : HandshakeData} {receiver : ReceiverId} :
      HandleTurn config (.reserving handshake receiver)
        (.tryReservePorts (min handshake.numChunks config.maxParallel)) true
        (.bind config handshake receiver (min handshake.numChunks config.maxParallel) dataPorts [])
  | unreserved {handshake : HandshakeData} {receiver : ReceiverId} :
      HandleTurn config (.reserving handshake receiver)
        (.tryReservePorts (min handshake.numChunks config.maxParallel)) false
        (.answering Handshake.respErr (.serving handshake receiver false))
  | bind {handshake : HandshakeData} {receiver : ReceiverId} {turns : Nat} {port : UInt16}
      {untried sockets : List UInt16} :
      HandleTurn config (.binding handshake receiver turns port untried sockets) (.bind port)
        (.ok ()) (.bind config handshake receiver turns untried (sockets ++ [port]))
  | unbound {handshake : HandshakeData} {receiver : ReceiverId} {turns : Nat} {port : UInt16}
      {untried sockets : List UInt16} (error : IoError) :
      HandleTurn config (.binding handshake receiver turns port untried sockets) (.bind port)
        (.error error) (.bind config handshake receiver (turns + 1) untried sockets)
  | exhaust {handshake : HandshakeData} {receiver : ReceiverId} {sockets : List UInt16} :
      HandleTurn config (.exhausted handshake receiver sockets) (.dropSockets sockets) ()
        (.answering Handshake.respErr (.serving handshake receiver false))
  | register {transfer : Transfer} :
      HandleTurn config (.registering transfer)
        (.registerReceivers transfer.ports transfer.receiver) () (.offering transfer)
  | offer {transfer : Transfer} :
      HandleTurn config (.offering transfer)
        (.sendFrame (handshakeResponse Handshake.respOk transfer.ports)) (.ok ())
        (.spawn transfer transfer.ports)
  | unoffered {transfer : Transfer} (error : IoError) :
      HandleTurn config (.offering transfer)
        (.sendFrame (handshakeResponse Handshake.respOk transfer.ports)) (.error error)
        (.withdrawing transfer)
  | withdraw {transfer : Transfer} :
      HandleTurn config (.withdrawing transfer) (.dropDataSocks transfer.ports) ()
        (.ending (.serving transfer.handshake transfer.receiver false))
  | spawn {transfer : Transfer} {port : UInt16} {rest : List UInt16} :
      HandleTurn config (.spawning transfer port rest) (.spawnDataServer port) ()
        (.spawn transfer rest)
  | look {transfer : Transfer} (state : FileReceiver) :
      HandleTurn config (.waiting transfer) (.lock transfer.receiver) state
        (.looking transfer state)
  | wait {transfer : Transfer} {state : FileReceiver}
      (unfinished : (state.isComplete || state.failed) = false) :
      HandleTurn config (.looking transfer state) (.unlock transfer.receiver state) ()
        (.polling transfer)
  | stop {transfer : Transfer} {state : FileReceiver}
      (finished : (state.isComplete || state.failed) = true) :
      HandleTurn config (.looking transfer state) (.unlock transfer.receiver state) ()
        (.concluding transfer)
  | idle {transfer : Transfer} (poll : Poll) (connected : poll ≠ .disconnected) :
      HandleTurn config (.polling transfer) .pollStream poll (.waiting transfer)
  | disconnect {transfer : Transfer} :
      HandleTurn config (.polling transfer) .pollStream .disconnected (.concluding transfer)
  | weigh {transfer : Transfer} (state : FileReceiver) :
      HandleTurn config (.concluding transfer) (.lock transfer.receiver) state
        (.weighing transfer state)
  | weighed {transfer : Transfer} {state : FileReceiver} :
      HandleTurn config (.weighing transfer state) (.unlock transfer.receiver state) ()
        (.judging transfer state.isComplete)
  | judge {transfer : Transfer} {complete : Bool} (state : FileReceiver) :
      HandleTurn config (.judging transfer complete) (.lock transfer.receiver) state
        (.judged transfer complete state)
  | judged {transfer : Transfer} {complete : Bool} {state : FileReceiver} :
      HandleTurn config (.judged transfer complete state) (.unlock transfer.receiver state) ()
        (.judge transfer complete state.failed)
  | abandon {transfer : Transfer} {complete : Bool} (answer : Except IoError Unit) :
      HandleTurn config (.abandoning transfer complete) (.sendFrame [Control.finalStatus false])
        answer (.remove transfer.ports.length transfer.ports)
  | gather {transfer : Transfer} (state : FileReceiver) :
      HandleTurn config (.gathering transfer) (.lock transfer.receiver) state
        (.assembling transfer state .creating)
  | build {transfer : Transfer} {state : FileReceiver} {phase phase' : AssemblePhase}
      {op : FsOp FilePath} {answer : op.Res} :
      AssembleTurn state phase op answer phase' →
        HandleTurn config (.assembling transfer state phase) (.fs op) answer
          (.assembling transfer state phase')
  | built {transfer : Transfer} {state : FileReceiver} {result : Except IoError Bool}
      {absorbed : Bytes} :
      HandleTurn config (.assembling transfer state (.assembled result absorbed))
        (.unlock transfer.receiver state) () (.reporting transfer (assembled result))
  | report {transfer : Transfer} {success : Bool} (answer : Except IoError Unit) :
      HandleTurn config (.reporting transfer success) (.sendFrame [Control.finalStatus success])
        answer (.remove transfer.ports.length transfer.ports)
  | remove {port : UInt16} {rest : List UInt16} {count : Nat} :
      HandleTurn config (.removing port rest count) (.removeReceiver port) () (.remove count rest)
  | release {count : Nat} :
      HandleTurn config (.releasing count) (.releasePorts count) () (.ending .finished)
  | answer {status : UInt8} {inner : ControlPhase} (answers : inner.Answers)
      (sent : Except IoError Unit) :
      HandleTurn config (.answering status inner) (.sendFrame (handshakeResponse status [])) sent
        (.ending inner)
  | close {inner : ControlPhase} :
      HandleTurn config (.ending inner) .closeStream () (.ended inner)

namespace HandlePhase

variable {config : Control.Config} {handshake : HandshakeData} {receiver : ReceiverId}

omit [Blake3] [KeyOrder] in
@[simp] theorem inner_bind (turns : Nat) (untried sockets : List UInt16) :
    (HandlePhase.bind config handshake receiver turns untried sockets).inner =
      .serving handshake receiver false := by
  have bound : (HandlePhase.bound config handshake receiver sockets).inner =
      .serving handshake receiver false := by
    rw [HandlePhase.bound]
    split <;> rfl
  cases turns with
  | zero => exact bound
  | succ turns =>
      cases untried with
      | nil => exact bound
      | cons port untried => rfl

omit [Blake3] [KeyOrder] in
@[simp] theorem inner_spawn (transfer : Transfer) (ports : List UInt16) :
    (HandlePhase.spawn transfer ports).inner =
      .serving transfer.handshake transfer.receiver false := by
  cases ports <;> rfl

omit [Blake3] [KeyOrder] in
@[simp] theorem inner_remove (count : Nat) (ports : List UInt16) :
    (HandlePhase.remove count ports).inner = .finished := by
  cases ports with
  | nil =>
      rw [HandlePhase.remove]
      split <;> rfl
  | cons port rest => rfl

end HandlePhase

/-- Whoever watches only the receiver and the files sees the inner phases. -/
theorem HandleTurn.inner {config : Control.Config} {phase phase' : HandlePhase} {op : ControlOp}
    {answer : op.Res} (turned : HandleTurn config phase op answer phase') :
    ControlTurn config phase.inner op answer phase'.inner := by
  cases turned with
  | hear answer => exact .hear answer
  | misunderstand data => exact .hear (.ok data)
  | accept data handshake parsed => exact .accept data handshake parsed
  | absent | present | unknown => exact .check (.exists_ _) rfl _
  | @compare handshake op looks answer later next =>
      have there : phase'.inner = .accepted handshake := by
        obtain same | same | same | same := next <;> subst same <;> rfl
      rw [there]
      exact .check op looks answer
  | prepare | prepared | preparedBoth | unprepared => exact .quiet _ (.createDirAll _) trivial _
  | create receiver => exact .create receiver
  | resume state => exact .resume state
  | recover turned => exact .recover turned
  | unresumed ended => exact .unresumed ended
  | resumed ended all part => exact .resumed false ended all nofun
  | completed ended all whole =>
      exact .resumed true ended all fun _ => FileReceiver.isComplete_of_count whole
  | panic => exact .quiet _ .closeStream trivial ()
  | confirm | unconfirmed =>
      exact .answer (.serving _ _ true) trivial _ (by simp [handshakeResponse]) _
  | reserve =>
      rw [HandlePhase.inner_bind]
      exact .quiet _ (.tryReservePorts _) trivial true
  | unreserved => exact .quiet _ (.tryReservePorts _) trivial false
  | bind | unbound =>
      rw [HandlePhase.inner_bind]
      exact .quiet _ (.bind _) trivial _
  | exhaust => exact .quiet _ (.dropSockets _) trivial ()
  | register => exact .register _
  | offer =>
      rw [HandlePhase.inner_spawn]
      exact .answer (.serving _ _ false) trivial _ (by simp [handshakeResponse]) _
  | unoffered => exact .answer (.serving _ _ false) trivial _ (by simp [handshakeResponse]) _
  | withdraw => exact .quiet _ (.dropDataSocks _) trivial ()
  | spawn =>
      rw [HandlePhase.inner_spawn]
      exact .quiet _ (.spawnDataServer _) trivial ()
  | look state | weigh state | judge state => exact .look state
  | wait | stop => exact .leave false nofun
  | idle poll | disconnect => exact .quiet _ .pollStream trivial _
  | @weighed transfer state => exact .leave state.isComplete .inr
  | @judged transfer complete state =>
      have there : (HandlePhase.judge transfer complete state.failed).inner =
          .serving transfer.handshake transfer.receiver complete := by
        rw [HandlePhase.judge]
        cases state.failed <;> cases complete <;> rfl
      rw [there]
      exact .leave complete .inl
  | abandon answer =>
      rw [HandlePhase.inner_remove]
      exact .abandon answer
  | gather state => exact .assemble state
  | build turned => exact .build turned
  | built => exact .built
  | report answer =>
      rw [HandlePhase.inner_remove]
      exact .report answer
  | remove =>
      rw [HandlePhase.inner_remove]
      exact .remove _
  | release => exact .quiet _ (.releasePorts _) trivial ()
  | answer answers sent => exact .answer _ answers _ (by simp [handshakeResponse]) sent
  | close => exact .quiet _ .closeStream trivial ()

/-- The phase in which a turn of the waiting loop ends. -/
def ControlState.Handles : ControlState → HandlePhase → Prop
  | .waiting transfer, phase => phase = .waiting transfer
  | .returned _, phase | .panicked, phase => ∃ inner, phase = .ended inner

/-- The same with the stream still open. -/
private def Closes (config : Control.Config) : ControlState → HandlePhase → Prop
  | .waiting transfer, phase => phase = .waiting transfer
  | .returned _, phase => ∃ inner, phase = .ending inner
  | .panicked, phase => ∃ inner, HandleTurn config phase .closeStream () (.ended inner)

namespace HandlePhase

variable {config : Control.Config} {handshake : HandshakeData} {receiver : ReceiverId}

private theorem answer_follows (status : UInt8) (inner : ControlPhase) (answers : inner.Answers) :
    (Control.answer status).Follows (HandleTurn config) (Closes config) (.answering status inner) :=
  fun sent => ⟨_, .answer answers sent, _, rfl⟩

private theorem removeReceivers_follows (count : Nat) (ports : List UInt16) :
    (Control.removeReceivers ports).Follows (HandleTurn config)
      (fun _ phase => phase = .remove count []) (.remove count ports) := by
  induction ports with
  | nil => exact rfl
  | cons port rest ih => exact fun _ => ⟨_, .remove, ih⟩

private theorem cleanup_follows (ports : List UInt16) :
    (Control.cleanup ports).Follows (HandleTurn config) (fun _ phase => phase = .ending .finished)
      (.remove ports.length ports) := by
  refine (removeReceivers_follows ports.length ports).bind fun _ phase there => ?_
  rw [there, HandlePhase.remove]
  split
  · exact fun _ => ⟨_, .release, rfl⟩
  · exact rfl

private theorem assembleFile_follows (reads : Nat) (transfer : Transfer) :
    (Control.assembleFile reads transfer.receiver).Follows (HandleTurn config)
      (fun result phase => phase = .reporting transfer (assembled result))
      (.gathering transfer) := by
  refine fun state => ⟨_, .gather state, ?_⟩
  have builds : (Control.onFs (state.assemble reads)).Follows (HandleTurn config) _
      (.assembling transfer state .creating) :=
    (assemble_follows state reads).embed (HandlePhase.assembling transfer state)
      fun _ _ _ _ turned => .build turned
  refine builds.bind fun result phase reached => ?_
  obtain ⟨phase', same, absorbed, done⟩ := reached
  subst done same
  exact fun _ => ⟨_, .built, rfl⟩

private theorem conclude_follows (transfer : Transfer) (success : Bool) {phase : HandlePhase}
    (reached : phase = .reporting transfer success ∨
      success = false ∧ ∃ complete, phase = .abandoning transfer complete) :
    ((Control.call (.sendFrame [Control.finalStatus success])).bind fun _ =>
      (Control.cleanup transfer.ports).bind fun _ => .ret (.returned (.ok ()))).Follows
        (HandleTurn config) (Closes config) phase := by
  have cleaned : ((Control.cleanup transfer.ports).bind fun _ => .ret (.returned (.ok ()))).Follows
      (HandleTurn config) (Closes config) (.remove transfer.ports.length transfer.ports) :=
    (cleanup_follows transfer.ports).bind fun _ _ there => ⟨_, there⟩
  intro answer
  obtain reporting | ⟨unsuccessful, complete, abandoning⟩ := reached
  · rw [reporting]
    exact ⟨_, .report answer, cleaned⟩
  · rw [unsuccessful, abandoning]
    exact ⟨_, .abandon answer, cleaned⟩

private theorem finish_follows (reads : Nat) (transfer : Transfer) :
    (Control.finish reads transfer).Follows (HandleTurn config) (Closes config)
      (.concluding transfer) := by
  refine fun state => ⟨_, .weigh state, fun _ => ⟨_, .weighed, ?_⟩⟩
  refine fun state' => ⟨_, .judge state', fun _ => ⟨_, .judged, ?_⟩⟩
  have outcome : (if state'.failed then .ret false
      else if !state.isComplete then .ret false
      else (Control.assembleFile reads transfer.receiver).recover (fun _ => .ret false)
        .ret : ControlProg Bool).Follows (HandleTurn config)
      (fun success phase => phase = .reporting transfer success ∨
        success = false ∧ ∃ complete, phase = .abandoning transfer complete)
      (.judge transfer state.isComplete state'.failed) := by
    rw [HandlePhase.judge]
    split
    · exact .inr ⟨rfl, _, rfl⟩
    · cases complete : state.isComplete with
      | false => exact .inr ⟨rfl, _, rfl⟩
      | true =>
          refine (assembleFile_follows reads transfer).recover (fun error phase there => .inl there) ?_
          intro success phase there
          refine .inl (there.trans ?_)
          cases success <;> rfl
  exact outcome.bind fun success phase reached => conclude_follows transfer success reached

private theorem waitForCompletion_follows (reads : Nat) (transfer : Transfer) :
    (Control.waitForCompletion reads transfer).Follows (HandleTurn config) (Closes config)
      (.waiting transfer) := by
  intro state
  cases finished : state.isComplete || state.failed with
  | true =>
      refine ⟨_, .look state, fun _ => ⟨_, .stop finished, ?_⟩⟩
      simp only [Prog.ret_bind, finished, if_true]
      exact finish_follows reads transfer
  | false =>
      refine ⟨_, .look state, fun _ => ⟨_, .wait finished, ?_⟩⟩
      simp only [Prog.ret_bind, finished, Bool.false_eq_true, if_false]
      intro poll
      cases poll with
      | idle => exact ⟨_, .idle .idle nofun, rfl⟩
      | data => exact ⟨_, .idle .data nofun, rfl⟩
      | disconnected => exact ⟨_, .disconnect, finish_follows reads transfer⟩

/-- The search for one more port. -/
private theorem bindNext_follows (turns : Nat) (untried sockets : List UInt16) :
    (Control.bindNext untried).Follows (HandleTurn config)
      (fun found phase => phase = match found with
        | (some port, rest) => .bind config handshake receiver turns rest (sockets ++ [port])
        | (none, rest) => .bind config handshake receiver turns rest sockets)
      (.bind config handshake receiver (turns + 1) untried sockets) := by
  induction untried with
  | nil => cases turns <;> exact rfl
  | cons port rest ih =>
      intro answer
      cases answer with
      | ok _ => exact ⟨_, .bind, rfl⟩
      | error error => exact ⟨_, .unbound error, ih⟩

private theorem bindLoop_follows (turns : Nat) (untried sockets : List UInt16) :
    (Control.bindLoop turns untried sockets).Follows (HandleTurn config)
      (fun sockets phase => phase = .bound config handshake receiver sockets)
      (.bind config handshake receiver turns untried sockets) := by
  induction turns generalizing untried sockets with
  | zero => exact rfl
  | succ turns ih =>
      refine (bindNext_follows turns untried sockets).bind fun found phase there => ?_
      obtain ⟨port, rest⟩ := found
      rw [there]
      cases port with
      | none => exact ih rest sockets
      | some port => exact ih rest (sockets ++ [port])

private theorem allocateSockets_follows :
    (Control.allocateSockets handshake.numChunks config.maxParallel).Follows (HandleTurn config)
      (fun result phase => match result with
        | .ok ports => phase = .registering ⟨handshake, receiver, ports⟩
        | .error _ => phase = .answering Handshake.respErr (.serving handshake receiver false))
      (.reserving handshake receiver) := by
  intro reserved
  cases reserved with
  | false => exact ⟨_, .unreserved, rfl⟩
  | true =>
      refine ⟨_, .reserve, (bindLoop_follows _ dataPorts []).bind fun sockets phase there => ?_⟩
      rw [there, HandlePhase.bound]
      split
      · exact fun _ => ⟨_, .exhaust, rfl⟩
      · exact rfl

private theorem spawnDataServers_follows (transfer : Transfer) (ports : List UInt16) :
    (Control.spawnDataServers ports).Follows (HandleTurn config)
      (fun _ phase => phase = .waiting transfer) (.spawn transfer ports) := by
  induction ports with
  | nil => exact rfl
  | cons port rest ih => exact fun _ => ⟨_, .spawn, ih⟩

private theorem transferChunks_follows :
    (Control.transferChunks config handshake receiver).Follows (HandleTurn config) (Closes config)
      (.reserving handshake receiver) := by
  refine allocateSockets_follows.recover (fun _ phase there => ?_) fun ports phase there => ?_
  · rw [show phase = _ from there]
    exact answer_follows _ (.serving handshake receiver false) trivial
  · rw [show phase = _ from there]
    refine fun _ => ⟨_, .register, fun sent => ?_⟩
    cases sent with
    | error error => exact ⟨_, .unoffered error, fun _ => ⟨_, .withdraw, _, rfl⟩⟩
    | ok _ =>
        refine ⟨_, .offer, (spawnDataServers_follows ⟨handshake, receiver, ports⟩ ports).bind ?_⟩
        intro _ phase there
        rw [there]
        exact waitForCompletion_follows config.reads ⟨handshake, receiver, ports⟩

private theorem confirmComplete_follows :
    (Control.confirmComplete config receiver).Follows (HandleTurn config) (Closes config)
      (.confirming handshake receiver) := by
  intro sent
  cases sent with
  | error error => exact ⟨_, .unconfirmed error, _, rfl⟩
  | ok _ =>
      refine ⟨_, .confirm, ?_⟩
      refine (assembleFile_follows config.reads ⟨handshake, receiver, []⟩).bind fun result phase there => ?_
      rw [there]
      cases result with
      | error error => exact fun answer => ⟨_, .report answer, _, rfl⟩
      | ok same => cases same <;> exact fun answer => ⟨_, .report answer, _, rfl⟩

private theorem resume_follows :
    (Control.resume receiver).Follows (HandleTurn config)
      (fun result phase => match result with
        | none => Closes config .panicked phase
        | some true => phase = .confirming handshake receiver
        | some false => phase = .reserving handshake receiver) (.created handshake receiver) := by
  refine fun state => ⟨_, .resume state, ?_⟩
  have recovers : (Control.onFs state.loadOrPurgeMetadata).Follows (HandleTurn config) _
      (.resuming handshake receiver state .looking) :=
    (loadOrPurgeMetadata_follows state).embed (HandlePhase.resuming handshake receiver state)
      fun _ _ _ _ turned => .recover turned
  refine recovers.bind fun loaded phase reached => ?_
  obtain ⟨phase', same, done⟩ := reached
  subst same
  cases loaded with
  | none => exact fun _ => ⟨_, .unresumed done, rfl⟩
  | some metadata =>
      dsimp only
      cases all : state.markAll (KeyOrder.keys metadata.chunkHashes) with
      | none => exact ⟨_, .panic done all⟩
      | some marked =>
          by_cases whole : marked.receivedChunks.count true = marked.numChunks
          · simp only [whole, decide_true]
            exact fun _ => ⟨_, .completed done all whole, rfl⟩
          · simp only [whole, decide_false]
            exact fun _ => ⟨_, .resumed done all whole, rfl⟩

private theorem receiveFile_follows :
    (Control.receiveFile config handshake).Follows (HandleTurn config) (Closes config)
      (.preparing handshake true) := by
  have refuses : (Control.answer Handshake.respErr).Follows (HandleTurn config) (Closes config)
      (.answering Handshake.respErr (.accepted handshake)) :=
    answer_follows _ (.accepted handshake) trivial
  have enters : ((Control.call (.newReceiver (handshake.receiver config.outputDir
      config.tempDir))).bind fun receiver => (Control.resume receiver).bind fun
        | none => .ret .panicked
        | some true => Control.confirmComplete config receiver
        | some false => Control.transferChunks config handshake receiver).Follows
          (HandleTurn config) (Closes config) (.entering handshake) := by
    refine fun receiver => ⟨_, .create receiver, resume_follows.bind fun resumed phase ended => ?_⟩
    cases resumed with
    | none => exact ended
    | some complete =>
        cases complete with
        | true =>
            rw [show phase = _ from ended]
            exact confirmComplete_follows
        | false =>
            rw [show phase = _ from ended]
            exact transferChunks_follows
  intro answer
  cases answer with
  | error error => exact ⟨_, .unprepared _ error, refuses⟩
  | ok _ =>
      by_cases different : config.tempDir ≠ config.outputDir
      · refine ⟨_, .prepare different, ?_⟩
        simp only [Prog.ret_bind, different, ne_eq, not_false_eq_true, if_true]
        intro answer
        cases answer with
        | error error => exact ⟨_, .unprepared _ error, refuses⟩
        | ok _ => exact ⟨_, .preparedBoth, enters⟩
      · refine ⟨_, .prepared (not_not.mp different), ?_⟩
        simp only [Prog.ret_bind, different, if_false]
        exact enters

/-- How the look at the existing file ends. -/
private def Found (handshake : HandshakeData) : Except IoError Bool → HandlePhase → Prop
  | .ok true, phase => phase = .answering Handshake.respExists (.accepted handshake)
  | .ok false, phase => phase = .preparing handshake true
  | .error _, phase => phase = .ending (.accepted handshake)

private theorem fileHashLoop_follows (reads offset : Nat) (hasher : Hasher) :
    (Control.onFs ((fileHashLoop (FilePath.mk config.outputDir handshake.safeName) reads offset
      hasher).attempt fun existing => .ret (.ok (decide (existing = handshake.fullHash))))).Follows
        (HandleTurn config) (Found handshake) (.comparing handshake) := by
  induction reads generalizing offset hasher with
  | zero => exact nofun
  | succ reads ih =>
      intro answer
      cases answer with
      | error error => exact ⟨_, .compare (.readAt _ _ _) rfl _ (.inr (.inr (.inr rfl))), rfl⟩
      | ok piece =>
          cases piece with
          | cons byte piece => exact ⟨_, .compare (.readAt _ _ _) rfl _ (.inl rfl), ih _ _⟩
          | nil =>
              by_cases same : hasher.finalize = handshake.fullHash
              · refine ⟨_, .compare (.readAt _ _ _) rfl _ (.inr (.inr (.inl rfl))), ?_⟩
                simp [Found, same, Prog.Follows, Prog.bind, Prog.embed]
              · refine ⟨_, .compare (.readAt _ _ _) rfl _ (.inr (.inl rfl)), ?_⟩
                simp [Found, same, Prog.Follows, Prog.bind, Prog.embed]

private theorem checkExistingFile_follows (reads : Nat) :
    (Control.onFs (Control.checkExistingFile reads config.outputDir handshake.safeName
      handshake.fullHash)).Follows (HandleTurn config) (Found handshake) (.accepted handshake) := by
  intro found
  cases found with
  | error error => exact ⟨_, .unknown error, rfl⟩
  | ok there =>
      cases there with
      | false => exact ⟨_, .absent, rfl⟩
      | true =>
          refine ⟨_, .present, fun opened => ?_⟩
          cases opened with
          | error error => exact ⟨_, .compare (.openRead _) rfl _ (.inr (.inr (.inr rfl))), rfl⟩
          | ok _ => exact ⟨_, .compare (.openRead _) rfl _ (.inl rfl), fileHashLoop_follows reads 0 .new⟩

private theorem handleControlConnection_follows :
    (Control.handleControlConnection config).Follows (HandleTurn config) (Closes config)
      .starting := by
  intro answer
  cases answer with
  | error error => exact ⟨_, .hear (.error error) (.inr ⟨error, rfl⟩), _, rfl⟩
  | ok data =>
      change ∃ phase, _ ∧ Prog.Follows _ _ (ite _ _ _) phase
      split
      · rename_i nothing
        exact ⟨_, .hear (.ok data) (.inl (congrArg Except.ok (List.isEmpty_iff.mp nothing))), _, rfl⟩
      · cases parsed : parseHandshake data with
        | error error =>
            exact ⟨_, .misunderstand data error parsed, answer_follows _ .starting trivial⟩
        | ok handshake =>
            refine ⟨_, .accept data handshake parsed, ?_⟩
            refine (checkExistingFile_follows config.reads).recover (fun _ _ there => ⟨_, there⟩) ?_
            intro found phase there
            cases found with
            | true =>
                rw [show phase = _ from there]
                exact answer_follows _ (.accepted handshake) trivial
            | false =>
                rw [show phase = _ from there]
                exact receiveFile_follows

private theorem closing_follows (state : ControlState) {phase : HandlePhase}
    (ended : Closes config state phase) :
    (Control.closing state).Follows (HandleTurn config) ControlState.Handles phase := by
  cases state with
  | waiting transfer => exact ended
  | returned result =>
      obtain ⟨inner, there⟩ := ended
      rw [there]
      exact fun _ => ⟨_, .close, inner, rfl⟩
  | panicked =>
      obtain ⟨inner, panicked⟩ := ended
      exact fun _ => ⟨_, panicked, inner, rfl⟩

theorem task_follows :
    (Control.task config).Follows (HandleTurn config) ControlState.Handles .starting :=
  handleControlConnection_follows.bind fun state _ ended => closing_follows state ended

theorem again_follows {state : ControlState} {rest : ControlProg ControlState}
    (again : Control.again config state = some rest) {phase : HandlePhase}
    (ended : state.Handles phase) :
    rest.Follows (HandleTurn config) ControlState.Handles phase := by
  cases state with
  | waiting transfer =>
      cases again
      rw [show phase = _ from ended]
      exact (waitForCompletion_follows config.reads transfer).bind
        fun state _ ended => closing_follows state ended
  | returned result => cases again
  | panicked => cases again

end HandlePhase

end Turns

end BeeSync.Server
