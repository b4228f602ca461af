import BeeSync.EndToEnd.MainAccounts

/-!
# What the control handler tells the client

The handler answers one handshake, and with as many ports as the announced chunks and its
own limit allow. It tells of a complete transfer only when every chunk is marked.
-/

set_option autoImplicit false

namespace BeeSync.EndToEnd

open Arithmetic Encoding Interaction Server

/-- The control connection: one handshake goes up, and an answer to it comes down. -/
structure Greeted [Blake3] (scene : Scene) (marked : Nat → Prop) (control : Link) : Prop where
  greets : ∀ message ∈ control.up.written, scene.Greets message
  once : control.up.written.length ≤ 1
  responds : ∀ data, control.down.written[0]? = some data → Responds scene marked data

/-- The handshake has been heard and not answered. -/
structure Unanswered (control : Link) : Prop where
  heard : 1 ≤ control.up.read
  silent : control.down.written = []

structure Responded (control : Link) : Prop where
  heard : 1 ≤ control.up.read
  spoken : control.down.written ≠ []

/-- Where the handler stands with its peer. -/
def HandleAt [Blake3] (scene : Scene) (marked : Nat → Prop) (control : Link) : HandlePhase → Prop
  | .starting => control.down.written = []
  | .accepted handshake | .comparing handshake | .preparing handshake _ | .entering handshake
  | .created handshake _ | .resuming handshake _ _ _ | .reserving handshake _
  | .exhausted handshake _ _ => scene.Announces handshake ∧ Unanswered control
  | .confirming handshake _ => scene.Announces handshake ∧ Unanswered control ∧
      ∀ idx < scene.numChunks, marked idx
  | .binding handshake _ turns _ _ sockets => scene.Announces handshake ∧ Unanswered control ∧
        sockets.length + (turns + 1) ≤ min handshake.numChunks scene.server.maxParallel
  | .registering transfer | .offering transfer => Unanswered control ∧
      transfer.ports.length = min scene.numChunks scene.server.maxParallel
  | .answering status _ => control.down.written = [] ∧ status ≠ Handshake.respOk ∧
      status ≠ Handshake.respComplete
  | .spawning .. | .waiting _ | .looking .. | .polling _ | .concluding _ | .weighing .. | .judging ..
  | .judged .. | .abandoning .. | .gathering _ | .assembling .. | .reporting .. => Responded control
  | .withdrawing _ | .removing .. | .releasing _ | .ending _ | .ended _ => True

section Rules

variable [Blake3] {scene : Scene} {marked marked' : Nat → Prop} {control control' : Link}

theorem HandleAt.mono {phase : HandlePhase} (stands : HandleAt scene marked control phase)
    (more : ∀ idx, marked idx → marked' idx) (written : control'.down.written = control.down.written)
    (read : control'.up.read = control.up.read) : HandleAt scene marked' control' phase := by
  have unanswered : Unanswered control → Unanswered control' := fun unanswered =>
    ⟨read ▸ unanswered.heard, written.trans unanswered.silent⟩
  have responded : Responded control → Responded control' := fun responded =>
    ⟨read ▸ responded.heard, written ▸ responded.spoken⟩
  cases phase with
  | starting => exact written.trans stands
  | accepted | comparing | preparing | entering | created | resuming | reserving | exhausted =>
      exact ⟨stands.1, unanswered stands.2⟩
  | confirming =>
      exact ⟨stands.1, unanswered stands.2.1, fun idx inRange => more idx (stands.2.2 idx inRange)⟩
  | binding => exact ⟨stands.1, unanswered stands.2.1, stands.2.2⟩
  | registering | offering => exact ⟨unanswered stands.1, stands.2⟩
  | answering => exact ⟨written.trans stands.1, stands.2⟩
  | spawning | waiting | looking | polling | concluding | weighing | judging | judged | abandoning
  | gathering | assembling | reporting => exact responded stands
  | withdrawing | removing | releasing | ending | ended => trivial

theorem HandleAt.bound {handshake : HandshakeData} {receiver : ReceiverId} {sockets : List UInt16}
    (announced : scene.Announces handshake) (unanswered : Unanswered control)
    (few : sockets.length ≤ min handshake.numChunks scene.server.maxParallel) :
    HandleAt scene marked control (.bound scene.server handshake receiver sockets) := by
  rw [HandlePhase.bound]
  split
  · exact ⟨announced, unanswered⟩
  · rename_i enough
    refine ⟨unanswered, ?_⟩
    rw [← announced.numChunks]
    exact le_antisymm few (not_lt.mp enough)

/-- The search for ports ends with as many as are needed, or it fails. -/
theorem HandleAt.bind {handshake : HandshakeData} {receiver : ReceiverId} {turns : Nat}
    {untried sockets : List UInt16} (announced : scene.Announces handshake)
    (unanswered : Unanswered control)
    (few : sockets.length + turns ≤ min handshake.numChunks scene.server.maxParallel) :
    HandleAt scene marked control (.bind scene.server handshake receiver turns untried sockets) := by
  have least : sockets.length ≤ min handshake.numChunks scene.server.maxParallel := by omega
  cases turns with
  | zero => exact .bound announced unanswered least
  | succ turns =>
      cases untried with
      | nil => exact .bound announced unanswered least
      | cons port untried => exact ⟨announced, unanswered, few⟩

theorem HandleAt.spawn {transfer : Transfer} {ports : List UInt16} (responded : Responded control) :
    HandleAt scene marked control (.spawn transfer ports) := by
  cases ports <;> exact responded

theorem HandleAt.remove {ports : List UInt16} {count : Nat} :
    HandleAt scene marked control (.remove count ports) := by
  cases ports with
  | cons => trivial
  | nil =>
      rw [HandlePhase.remove]
      split <;> trivial

theorem HandleAt.judge {transfer : Transfer} {complete failed : Bool} (responded : Responded control) :
    HandleAt scene marked control (.judge transfer complete failed) := by
  cases failed <;> cases complete <;> exact responded

/-- Nothing more is announced. -/
theorem Greeted.nothing (greeted : Greeted scene marked control) (heard : 1 ≤ control.up.read) :
    control.up.next = none :=
  Lane.next_eq_none_iff.mpr (greeted.once.trans heard)

theorem Greeted.mono (greeted : Greeted scene marked control)
    (more : ∀ idx, marked idx → marked' idx) (up : control'.up.written = control.up.written)
    (down : control'.down.written = control.down.written) : Greeted scene marked' control' := by
  obtain ⟨greets, once, responds⟩ := greeted
  exact ⟨up ▸ greets, up ▸ once, fun data found => (responds data (down ▸ found)).mono more⟩

end Rules

/-- What a step of the handler leaves alone. -/
structure Minds (net net' : Net) : Prop where
  up : net'.control.up.written = net.control.up.written
  down : net'.control.down.read = net.control.down.read
  serves : net'.serves = net.serves
  exchange : ∀ worker, (net'.links worker).exchange = (net.links worker).exchange

namespace Minds

variable {net net' : Net}

theorem of_eq (control : net'.control = net.control) (links : net'.links = net.links)
    (serves : net'.serves = net.serves) : Minds net net' :=
  ⟨by rw [control], by rw [control], serves, fun _ => by rw [links]⟩

theorem close (net : Net) (ports : List UInt16) : Minds net (net.close ports) := by
  refine ⟨rfl, rfl, rfl, fun worker => ?_⟩
  rw [Net.close]
  dsimp only
  split <;> rfl

end Minds

/-- Requests that the peer or its connection takes part in. -/
def Addresses : ControlOp → Prop
  | .recvFrame | .sendFrame _ | .pollStream | .closeStream => True
  | _ => False

theorem controlSem_quiet {scene : Scene} {faults : Prop} {net net' : Net} {op : ControlOp}
    {answer : op.Res} (moved : Net.controlSem scene faults op net answer net')
    (quiet : ¬ Addresses op) : net'.control = net.control ∧ Minds net net' := by
  cases op with
  | recvFrame | sendFrame | pollStream | closeStream => exact absurd trivial quiet
  | createDirAll =>
      obtain ⟨_, same⟩ := moved
      subst same
      exact ⟨rfl, .of_eq rfl rfl rfl⟩
  | spawnDataServer =>
      obtain ⟨_, _, same⟩ := moved
      subst same
      exact ⟨rfl, .of_eq rfl rfl rfl⟩
  | tryReservePorts =>
      obtain ⟨_, _, same⟩ | ⟨_, _, same⟩ := moved <;> subst same <;> exact ⟨rfl, .of_eq rfl rfl rfl⟩
  | bind =>
      obtain ⟨_, _, _, same⟩ | ⟨_, _, same⟩ := moved <;> subst same <;> exact ⟨rfl, .of_eq rfl rfl rfl⟩
  | dropSockets | dropDataSocks =>
      cases moved
      exact ⟨rfl, .close _ _⟩
  | _ =>
      cases moved
      exact ⟨rfl, .of_eq rfl rfl rfl⟩

section Steps

variable [Blake3] {scene : Scene} {marked : Nat → Prop} {faults : Prop} {phase phase' : HandlePhase}
  {net net' : Net}

/-- How the handler stands after a step, and what its peer may notice. -/
def Answers (scene : Scene) (marked : Nat → Prop) (phase' : HandlePhase) (net net' : Net) : Prop :=
  HandleAt scene marked net'.control phase' ∧ Minds net net' ∧ Greeted scene marked net'.control

namespace Answers

theorem quiet {op : ControlOp} {answer : op.Res}
    (moved : Net.controlSem scene faults op net answer net') (quiet : ¬ Addresses op)
    (greeted : Greeted scene marked net.control)
    (stands : HandleAt scene marked net.control phase') : Answers scene marked phase' net net' := by
  obtain ⟨same, minds⟩ := controlSem_quiet moved quiet
  rw [Answers, same]
  exact ⟨stands, minds, greeted⟩

theorem unchanged (greeted : Greeted scene marked net.control)
    (stands : HandleAt scene marked net.control phase') : Answers scene marked phase' net net :=
  ⟨stands, .of_eq rfl rfl rfl, greeted⟩

/-- The connection is closed. -/
theorem close (greeted : Greeted scene marked net.control)
    (moved : net' = net.setControl { net.control with dropped := true })
    (stands : ∀ control, HandleAt scene marked control phase') :
    Answers scene marked phase' net net' := by
  subst moved
  exact ⟨stands _, ⟨rfl, rfl, rfl, fun _ => rfl⟩, greeted.mono (fun _ => id) rfl rfl⟩

/-- The first thing that is said is an answer to the handshake. -/
theorem respond {payload : Bytes} {answer : Except IoError Unit}
    (moved : Net.controlSem scene faults (.sendFrame payload) net answer net')
    (greeted : Greeted scene marked net.control) (silent : net.control.down.written = [])
    (responds : Responds scene marked payload)
    (said : answer = .ok () → ∀ control : Link, control.down.written = [payload] →
      control.up.read = net.control.up.read → HandleAt scene marked control phase')
    (unsaid : ∀ error, answer = .error error → ∀ control, HandleAt scene marked control phase') :
    Answers scene marked phase' net net' := by
  obtain ⟨lane, sent, same⟩ := moved
  subst same
  obtain ⟨ok, same⟩ | ⟨_, ⟨error, failed⟩, same⟩ := sent
  · subst same
    have written : (net.control.down.write payload).written = [payload] :=
      congrArg (· ++ [payload]) silent
    refine ⟨said ok _ written rfl, ⟨rfl, rfl, rfl, fun _ => rfl⟩, greeted.greets, greeted.once, ?_⟩
    intro data found
    dsimp only [Net.setControl] at found
    rw [written] at found
    cases found
    exact responds
  · subst same
    exact ⟨unsaid error failed _, ⟨rfl, rfl, rfl, fun _ => rfl⟩, greeted⟩

/-- What is said after it does not change what has been answered. -/
theorem conclude {payload : Bytes} {answer : Except IoError Unit}
    (moved : Net.controlSem scene faults (.sendFrame payload) net answer net')
    (greeted : Greeted scene marked net.control) (responded : Responded net.control)
    (stands : ∀ control, HandleAt scene marked control phase') :
    Answers scene marked phase' net net' := by
  obtain ⟨lane, sent, same⟩ := moved
  subst same
  refine ⟨stands _, ⟨rfl, ?_, rfl, fun _ => rfl⟩, greeted.greets, greeted.once, fun data found => ?_⟩
  · obtain ⟨_, same⟩ | ⟨_, _, same⟩ := sent <;> subst same <;> rfl
  · refine greeted.responds data ?_
    have some_ : 0 < net.control.down.written.length := List.length_pos_iff.mpr responded.spoken
    obtain ⟨_, same⟩ | ⟨_, _, same⟩ := sent
    · subst same
      obtain earlier | ⟨first, _⟩ := Lane.getElem?_write found
      · exact earlier
      · omega
    · subst same
      exact found

theorem receive {answer : Except IoError Bytes}
    (moved : Net.controlSem scene faults .recvFrame net answer net')
    (greeted : Greeted scene marked net.control)
    (heard : ∀ message, answer = .ok message → scene.Greets message → ∀ control : Link,
      control.down.written = net.control.down.written → 1 ≤ control.up.read →
        HandleAt scene marked control phase')
    (missed : ∀ error, answer = .error error → ∀ control, HandleAt scene marked control phase') :
    Answers scene marked phase' net net' := by
  obtain ⟨lane, received, same⟩ := moved
  subst same
  obtain ⟨message, next, _, ok, same⟩ | ⟨_, ⟨error, failed⟩, same⟩ := received
  · subst same
    have announced : message ∈ net.control.up.written := List.mem_of_getElem? next
    refine ⟨heard message ok (greeted.greets message announced) _ rfl (Nat.le_add_left 1 _),
      ⟨rfl, rfl, rfl, fun _ => rfl⟩, greeted.mono (fun _ => id) rfl rfl⟩
  · subst same
    exact ⟨missed error failed _, ⟨rfl, rfl, rfl, fun _ => rfl⟩, greeted⟩

end Answers

theorem HandleAt.turn [KeyOrder] {op : ControlOp} {answer : op.Res}
    (turned : HandleTurn scene.server phase op answer phase')
    (moved : Net.controlSem scene faults op net answer net')
    (greeted : Greeted scene marked net.control)
    (whole : ∀ handshake receiver, phase' = .confirming handshake receiver →
      ∀ idx < scene.numChunks, marked idx)
    (stands : HandleAt scene marked net.control phase) : Answers scene marked phase' net net' := by
  cases turned with
  | hear => exact .receive moved greeted (fun _ _ _ _ _ _ => trivial) fun _ _ _ => trivial
  | misunderstand data error parsed =>
      refine .receive moved greeted (fun message _ _ control silent _ => ?_) nofun
      exact ⟨silent.trans stands, by decide, by decide⟩
  | accept data handshake parsed =>
      refine .receive moved greeted (fun message same greets control silent heard => ?_) nofun
      cases same
      exact ⟨⟨_, greets, parsed⟩, heard, silent.trans stands⟩
  | absent | present | create | resume | recover | unresumed | resumed | prepare | prepared
  | preparedBoth => exact .quiet moved id greeted stands
  | unknown => exact .quiet moved id greeted trivial
  | compare op looks answer next =>
      refine .quiet moved id greeted ?_
      obtain same | same | same | same := next
      · subst same
        exact stands
      · subst same
        exact stands
      · subst same
        exact ⟨stands.2.silent, by decide, by decide⟩
      · subst same
        trivial
  | unprepared | unreserved | exhaust =>
      exact .quiet moved id greeted ⟨stands.2.silent, by decide, by decide⟩
  | completed => exact .quiet moved id greeted ⟨stands.1, stands.2, whole _ _ rfl⟩
  | panic => exact .close greeted moved fun _ => trivial
  | confirm =>
      obtain ⟨_, unanswered, complete⟩ := stands
      refine .respond moved greeted unanswered.silent ⟨_, _, rfl, nofun, fun _ => complete⟩ ?_ nofun
      exact fun _ control spoken heard => ⟨heard ▸ unanswered.heard, by rw [spoken]; nofun⟩
  | unconfirmed =>
      obtain ⟨_, unanswered, complete⟩ := stands
      refine .respond moved greeted unanswered.silent ⟨_, _, rfl, nofun, fun _ => complete⟩ nofun ?_
      exact fun _ _ _ => trivial
  | reserve =>
      refine .quiet moved id greeted (.bind stands.1 stands.2 ?_)
      rw [List.length_nil, Nat.zero_add]
  | @bind handshake receiver turns port untried sockets =>
      refine .quiet moved id greeted (.bind stands.1 stands.2.1 ?_)
      rw [List.length_append, List.length_singleton]
      have few := stands.2.2
      omega
  | unbound => exact .quiet moved id greeted (.bind stands.1 stands.2.1 stands.2.2)
  | register => exact .quiet moved id greeted stands
  | @offer transfer =>
      obtain ⟨unanswered, counted⟩ := stands
      refine .respond moved greeted unanswered.silent ⟨_, _, rfl, fun _ => counted, nofun⟩ ?_ nofun
      exact fun _ control spoken heard => .spawn ⟨heard ▸ unanswered.heard, by rw [spoken]; nofun⟩
  | unoffered =>
      obtain ⟨unanswered, counted⟩ := stands
      refine .respond moved greeted unanswered.silent ⟨_, _, rfl, fun _ => counted, nofun⟩ nofun ?_
      exact fun _ _ _ => trivial
  | withdraw | release => exact .quiet moved id greeted trivial
  | spawn => exact .quiet moved id greeted (.spawn stands)
  | look | wait | stop | weigh | weighed | judge | gather | build | built =>
      exact .quiet moved id greeted stands
  | idle poll connected =>
      cases poll with
      | idle =>
          cases moved
          exact .unchanged greeted stands
      | data => exact absurd (greeted.nothing stands.heard) moved.1
      | disconnected => exact absurd rfl connected
  | disconnect =>
      obtain ⟨_, same⟩ := moved
      subst same
      exact .unchanged greeted stands
  | judged => exact .quiet moved id greeted (.judge stands)
  | abandon | report => exact .conclude moved greeted stands fun _ => .remove
  | remove => exact .quiet moved id greeted .remove
  | answer answers sent =>
      obtain ⟨silent, notOk, notComplete⟩ := stands
      refine .respond moved greeted silent ⟨_, _, rfl, fun same => absurd same notOk,
        fun same => absurd same notComplete⟩ ?_ ?_
      · exact fun _ _ _ _ => trivial
      · exact fun _ _ _ => trivial
  | close => exact .close greeted moved fun _ => trivial

/-- The handler creates the receiver that its handshake asks for. -/
theorem created_announced [KeyOrder] {config : Control.Config} {state : FileReceiver}
    {receiver : ReceiverId} (turned : HandleTurn config phase (.newReceiver state) receiver phase') :
    ∃ handshake, phase = .entering handshake ∧
      state = handshake.receiver config.outputDir config.tempDir := by
  cases turned with
  | create => exact ⟨_, rfl, rfl⟩

/-- A transfer is complete only when the resume section has marked every chunk. -/
theorem confirming_marked [KeyOrder] {config : Control.Config} {op : ControlOp}
    {answer : op.Res} {handshake : HandshakeData} {receiver : ReceiverId}
    (turned : HandleTurn config phase op answer phase')
    (confirming : phase' = .confirming handshake receiver) :
    ∃ state resume marked metadata, phase = .resuming handshake receiver state resume ∧
      op = .unlock receiver (FileReceiver.setMetadata marked metadata) ∧
        marked.params = state.params ∧ marked.receivedChunks.count true = marked.numChunks := by
  cases turned with
  | completed ended all whole =>
      cases confirming
      exact ⟨_, _, _, _, rfl, rfl, FileReceiver.params_markAll all, whole⟩
  | compare op looks answer next =>
      subst confirming
      obtain same | same | same | same := next <;> cases same
  | reserve | bind | unbound | spawn | offer | remove | abandon | report =>
      have inner := congrArg HandlePhase.inner confirming
      rw [show (HandlePhase.confirming handshake receiver).inner = .serving handshake receiver true
        from rfl] at inner
      simp at inner
  | @judged transfer complete state =>
      rw [HandlePhase.judge] at confirming
      split at confirming
      · cases confirming
      · split at confirming <;> cases confirming
  | _ => cases confirming

end Steps

end BeeSync.EndToEnd
