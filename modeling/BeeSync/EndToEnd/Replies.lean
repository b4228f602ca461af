import BeeSync.EndToEnd.Wiring

/-!
# What the replies say is true

A data server task replies to the request it has taken, on the connection it serves. It
acknowledges a chunk only if the chunk is marked, and it tells of marked chunks only. Marks
stay, so the replies that are on their way stay true.
-/

set_option autoImplicit false

namespace BeeSync.EndToEnd

open Arithmetic Encoding Interaction Server

/-- What a reply says of the chunks. -/
structure Answered (marked : Nat → Prop) (request reply : Bytes) : Prop where
  acknowledged : ∀ header, parseChunkHeader request = some header →
    reply.head? = some Chunk.ackOk → marked header.chunkIndex
  told : request = [Chunk.queryMagic] → ∃ flags, flags.length < 2 ^ 32 ∧
    reply = queryResponse flags ∧ ∀ idx, flags[idx]? = some true → marked idx

theorem Answered.mono {marked marked' : Nat → Prop} (more : ∀ idx, marked idx → marked' idx)
    {request reply : Bytes} (answered : Answered marked request reply) :
    Answered marked' request reply := by
  refine ⟨fun header parsed ack => more _ (answered.acknowledged header parsed ack), fun query => ?_⟩
  obtain ⟨flags, few, same, kept⟩ := answered.told query
  exact ⟨flags, few, same, fun idx found => more idx (kept idx found)⟩

/-- The frame announces the chunk. -/
def Brings (frame : Bytes) (chunk : ChunkInHand) : Prop :=
  ∃ header, parseChunkHeader frame = some header ∧ header.chunkIndex = chunk.idx

/-- The request that a task has taken and not answered yet. -/
def owes : ServePhase → Option Bytes
  | .asked _ | .counting _ _ | .telling _ _ => some [Chunk.queryMagic]
  | .received _ frame _ | .sizing _ frame _ _ | .accepted _ frame _ | .placing _ frame _ _
  | .storing _ frame _ _ _ | .failing _ frame _ | .recording _ frame _ _ _ | .recorded _ frame _
  | .refused _ frame => some frame
  | _ => none

/-- What a task is about to say is true. -/
def Truthful (marked : Nat → Prop) (numChunks : Nat) : ServePhase → Prop
  | .telling _ flags => flags.length < 2 ^ 32 ∧ ∀ idx, flags[idx]? = some true → marked idx
  | .accepted _ frame chunk | .placing _ frame chunk _ | .storing _ frame chunk _ _
  | .recording _ frame chunk _ _ => Brings frame chunk ∧ chunk.idx < numChunks
  | .recorded _ frame chunk => Brings frame chunk ∧ marked chunk.idx
  | .received _ frame _ | .sizing _ frame _ _ | .failing _ frame _ | .refused _ frame =>
      frame ≠ [Chunk.queryMagic]
  | _ => True

theorem Truthful.mono {marked marked' : Nat → Prop} (more : ∀ idx, marked idx → marked' idx)
    {numChunks : Nat} {phase : ServePhase} (truthful : Truthful marked numChunks phase) :
    Truthful marked' numChunks phase := by
  cases phase with
  | telling receiver flags => exact ⟨truthful.1, fun idx found => more idx (truthful.2 idx found)⟩
  | recorded receiver frame chunk => exact ⟨truthful.1, more _ truthful.2⟩
  | _ => exact truthful

/-- The asking side goes on by itself. -/
def Speaks (exchange exchange' : Exchange Bytes Bytes) : Prop :=
  exchange' = exchange ∨ (exchange.Settled ∧ ∃ request, exchange' = exchange.ask request) ∨
    ∃ reply, exchange.down.next = some reply ∧ exchange' = exchange.hear

/-- The tasks reply to the requests that they have taken, in step with their peers. -/
structure Replying (answers : Bytes → Bytes → Prop) (data : Nat → ServePhase) (net : Net) :
    Prop where
  inStep : ∀ worker, (net.links worker).exchange.InStep answers
  indebted : ∀ task frame, owes (data task) = some frame → ∃ worker,
    net.serves task = some worker ∧ (net.links worker).exchange.Owes frame

namespace Replying

variable {answers answers' : Bytes → Bytes → Prop} {data : Nat → ServePhase} {net net' : Net}

theorem initial : Replying answers (fun _ => .away) .initial where
  inStep _ := .empty
  indebted _ _ owed := by cases owed

/-- Nothing changes but what counts as an answer. -/
theorem mono (replying : Replying answers data net)
    (weaker : ∀ request reply, answers request reply → answers' request reply)
    (links : ∀ worker, (net'.links worker).exchange = (net.links worker).exchange)
    (serves : net'.serves = net.serves) : Replying answers' data net' := by
  constructor
  · intro worker
    rw [links]
    exact (replying.inStep worker).mono weaker
  · intro task frame owed
    obtain ⟨worker, found, owing⟩ := replying.indebted task frame owed
    exact ⟨worker, serves ▸ found, by rw [links]; exact owing⟩

/-- A worker speaks on its connection. -/
theorem speak (replying : Replying answers data net) {worker : Nat}
    (others : ∀ other, other ≠ worker → net'.links other = net.links other)
    (serves : net'.serves = net.serves)
    (speaks : Speaks (net.links worker).exchange (net'.links worker).exchange) :
    Replying answers data net' := by
  constructor
  · intro other
    by_cases same : other = worker
    · subst same
      obtain unchanged | ⟨settled, request, asked⟩ | ⟨reply, next, heard⟩ := speaks
      · rw [unchanged]
        exact replying.inStep other
      · rw [asked]
        exact ((replying.inStep other).ask settled request).1
      · rw [heard]
        exact (replying.inStep other).hear next
    · rw [others other same]
      exact replying.inStep other
  · intro task frame owed
    obtain ⟨other, found, owing⟩ := replying.indebted task frame owed
    refine ⟨other, serves ▸ found, ?_⟩
    by_cases same : other = worker
    · subst same
      obtain unchanged | ⟨_, request, asked⟩ | ⟨reply, _, heard⟩ := speaks
      · rw [unchanged]
        exact owing
      · rw [asked]
        exact owing.ask request
      · rw [heard]
        exact owing
    · rw [others other same]
      exact owing

/-- A worker that nobody serves gets a connection. -/
theorem connect (replying : Replying answers data net) {worker : Nat}
    (unserved : ∀ task, net.serves task ≠ some worker) (port : UInt16) :
    Replying answers data (net.connect worker port) := by
  have other_link : ∀ other, other ≠ worker → (net.connect worker port).links other =
      net.links other := fun other different => Function.update_of_ne different _ _
  constructor
  · intro other
    by_cases same : other = worker
    · subst same
      have fresh : (net.connect other port).links other = .fresh := Function.update_self ..
      rw [fresh]
      exact .empty
    · rw [other_link other same]
      exact replying.inStep other
  · intro task frame owed
    obtain ⟨other, found, owing⟩ := replying.indebted task frame owed
    refine ⟨other, found, ?_⟩
    rw [other_link other fun same => unserved task (same ▸ found)]
    exact owing

end Replying

/-- What a step of a data server task leaves alone. -/
structure Heeds (net net' : Net) : Prop where
  control : net'.control = net.control
  asked : ∀ worker, (net'.links worker).up.written = (net.links worker).up.written
  heard : ∀ worker, (net'.links worker).down.read = (net.links worker).down.read

namespace Heeds

variable {net net' : Net}

theorem of_eq (control : net'.control = net.control) (links : net'.links = net.links) :
    Heeds net net' :=
  ⟨control, fun _ => by rw [links], fun _ => by rw [links]⟩

theorem update {worker : Nat} {link : Link}
    (asked : link.up.written = (net.links worker).up.written)
    (heard : link.down.read = (net.links worker).down.read) :
    Heeds net (net.setLink worker link) := by
  constructor
  · rfl
  · intro other
    by_cases same : other = worker
    · subst same
      rw [show (net.setLink other link).links other = link from Function.update_self ..]
      exact asked
    · rw [show (net.setLink worker link).links other = net.links other from
        Function.update_of_ne same _ _]
  · intro other
    by_cases same : other = worker
    · subst same
      rw [show (net.setLink other link).links other = link from Function.update_self ..]
      exact heard
    · rw [show (net.setLink worker link).links other = net.links other from
        Function.update_of_ne same _ _]

theorem close (net : Net) (ports : List UInt16) : Heeds net (net.close ports) := by
  refine ⟨rfl, fun worker => ?_, fun worker => ?_⟩
  · rw [Net.close]
    dsimp only
    split <;> rfl
  · rw [Net.close]
    dsimp only
    split <;> rfl

theorem data {faults : Prop} {task : Nat} {op : DataOp} {answer : op.Res}
    (moved : Net.dataSem faults task op net answer net') : Heeds net net' := by
  cases op with
  | start =>
      obtain ⟨_, same⟩ := moved
      subst same
      exact .of_eq rfl rfl
  | accept =>
      obtain ⟨_, _, _, _, _, _, same⟩ | ⟨_, _, same⟩ := moved <;> subst same <;> exact .of_eq rfl rfl
  | recvFrame =>
      obtain ⟨worker, lane, _, received, same⟩ := moved
      subst same
      refine .update ?_ rfl
      obtain ⟨_, _, _, _, same⟩ | ⟨_, _, same⟩ := received <;> rw [same]
      rfl
  | sendFrame =>
      obtain ⟨worker, lane, _, sent, same⟩ := moved
      subst same
      refine .update rfl ?_
      obtain ⟨_, same⟩ | ⟨_, _, same⟩ := sent <;> rw [same]
      rfl
  | closeStream =>
      obtain ⟨worker, _, same⟩ := moved
      have hung : Heeds net (net.setLink worker { net.links worker with dropped := true }) :=
        .update rfl rfl
      subst same
      exact ⟨rfl, hung.asked, hung.heard⟩
  | dropListener port =>
      cases moved
      exact .close net [port]
  | getReceiver | fs | lock | unlock =>
      cases moved
      exact .of_eq rfl rfl

end Heeds

section Tasks

variable [Blake3] {port : UInt16} {phase phase' : ServePhase}

/-- Tasks talk to their peers by these. -/
def Talks : DataOp → Prop
  | .recvFrame | .sendFrame _ => True
  | _ => False

theorem owes_quiet {op : DataOp} {answer : op.Res} (turned : ServeTurn port phase op answer phase')
    (quiet : ¬ Talks op) {frame : Bytes} (owed : owes phase' = some frame) :
    owes phase = some frame := by
  cases turned with
  | deaf | dismissed | query | crash | overlook | receive | tell | untold | acknowledge | reject =>
      exact absurd trivial quiet
  | start | greet | unaccepted | find | missing | glance | goOn | giveUp | ignore | leave | unwind
  | drop => cases owed
  | _ => exact owed

theorem owes_elsewhere {op : DataOp} {answer : op.Res} (turned : ServeTurn port phase op answer phase')
    (moves : op = .accept ∨ op = .closeStream) : owes phase' = none := by
  obtain rfl | rfl := moves <;> cases turned <;> rfl

theorem owes_received {answer : Except IoError Bytes}
    (turned : ServeTurn port phase .recvFrame answer phase') {frame : Bytes}
    (owed : owes phase' = some frame) : answer = .ok frame := by
  cases turned with
  | query | receive =>
      cases owed
      rfl
  | deaf | dismissed | crash | overlook => cases owed

omit [Blake3] in
theorem Brings.ne_query {frame : Bytes} {chunk : ChunkInHand} (brings : Brings frame chunk) :
    frame ≠ [Chunk.queryMagic] := by
  rintro rfl
  obtain ⟨header, parsed, _⟩ := brings
  cases parsed

theorem owes_sent {payload : Bytes} {answer : Except IoError Unit}
    (turned : ServeTurn port phase (.sendFrame payload) answer phase') :
    owes phase' = none ∧ ∃ frame, owes phase = some frame := by
  cases turned with
  | tell | untold | acknowledge | reject => exact ⟨rfl, _, rfl⟩

/-- A task answers the request that it has taken. -/
theorem Truthful.answered {marked : Nat → Prop} {numChunks : Nat} {payload frame : Bytes}
    {answer : Except IoError Unit} (turned : ServeTurn port phase (.sendFrame payload) answer phase')
    (truthful : Truthful marked numChunks phase) (owed : owes phase = some frame) :
    Answered marked frame payload := by
  cases turned with
  | tell | untold =>
      cases owed
      obtain ⟨few, kept⟩ := truthful
      exact ⟨nofun, fun _ => ⟨_, few, rfl, kept⟩⟩
  | acknowledge =>
      cases owed
      obtain ⟨brings, marked⟩ := truthful
      refine ⟨fun header parsed _ => ?_, fun query => absurd query brings.ne_query⟩
      obtain ⟨header', parsed', index⟩ := brings
      cases parsed.symm.trans parsed'
      rw [index]
      exact marked
  | reject =>
      cases owed
      exact ⟨fun _ _ ack => absurd ack (by decide), fun query => absurd query truthful⟩

variable {store store' : Store (Role Unit)} {faults : Prop} {task numChunks : Nat}

/-- What a task says stays true as long as its receiver is the one that was announced. -/
theorem Truthful.turn {op : DataOp} {answer : op.Res} (turned : ServeTurn port phase op answer phase')
    (acted : Store.dataSem faults (Role.data task) op store answer store')
    (held : ∀ receiver state, phase.inner.holding = some (receiver, state) →
      store.receivers receiver = some state)
    (sized : ∀ receiver state, store.receivers receiver = some state → state.numChunks = numChunks)
    (few : numChunks < 2 ^ 32) (truthful : Truthful store.Marked numChunks phase)
    (more : ∀ idx, store.Marked idx → store'.Marked idx) :
    Truthful store'.Marked numChunks phase' := by
  cases turned with
  | @counted receiver state =>
      have found := held receiver state rfl
      refine ⟨?_, fun idx received => more idx ⟨receiver, state, found, received⟩⟩
      rw [state.sized, sized receiver state found]
      exact few
  | receive frame header parsed noQuery => exact noQuery
  | size | refuse | failed => exact truthful
  | @accept receiver frame header state chunk carries =>
      obtain ⟨header', parsed, index, _⟩ := carries.header
      exact ⟨⟨header', parsed, index⟩, sized receiver state (held receiver state rfl) ▸ carries.inRange⟩
  | place | placed | store | record | save => exact truthful
  | fail => exact truthful.1.ne_query
  | @recorded receiver frame chunk state =>
      cases acted
      have inRange : chunk.idx < state.numChunks := by
        rw [sized receiver state (held receiver state rfl)]
        exact truthful.2
      exact ⟨truthful.1, receiver, _, Function.update_self .., FileReceiver.received_mark_self inRange⟩
  | unsaved => exact truthful.1.ne_query
  | _ => trivial

namespace Replying

variable {answers : Bytes → Bytes → Prop} {data data' : Nat → ServePhase} {net net' : Net}

omit [Blake3] in
/-- A task does not talk. -/
theorem quiet (replying : Replying answers data net)
    (others : ∀ other, other ≠ task → data' other = data other)
    (links : ∀ worker, (net'.links worker).exchange = (net.links worker).exchange)
    (serves : ∀ other, other ≠ task → net'.serves other = net.serves other)
    (owed : ∀ frame, owes (data' task) = some frame →
      owes (data task) = some frame ∧ net'.serves task = net.serves task) :
    Replying answers data' net' := by
  constructor
  · intro worker
    rw [links]
    exact replying.inStep worker
  · intro other frame owing
    by_cases same : other = task
    · subst same
      obtain ⟨before, still⟩ := owed frame owing
      obtain ⟨worker, found, indebted⟩ := replying.indebted other frame before
      exact ⟨worker, still.trans found, by rw [links]; exact indebted⟩
    · rw [others other same] at owing
      obtain ⟨worker, found, indebted⟩ := replying.indebted other frame owing
      exact ⟨worker, (serves other same).trans found, by rw [links]; exact indebted⟩

omit [Blake3] in
/-- A task takes a request or answers the one it has taken. -/
theorem talk (replying : Replying answers data net) {worker : Nat} {link : Link}
    (served : net.serves task = some worker)
    (sole : ∀ other, net.serves other = some worker → other = task)
    (others : ∀ other, other ≠ task → data' other = data other)
    (inStep : link.exchange.InStep answers)
    (owed : ∀ frame, owes (data' task) = some frame → link.exchange.Owes frame) :
    Replying answers data' (net.setLink worker link) := by
  have other_link : ∀ other, other ≠ worker → (net.setLink worker link).links other =
      net.links other := fun other different => Function.update_of_ne different _ _
  have this_link : (net.setLink worker link).links worker = link := Function.update_self ..
  constructor
  · intro other
    by_cases same : other = worker
    · subst same
      rw [this_link]
      exact inStep
    · rw [other_link other same]
      exact replying.inStep other
  · intro other frame owing
    by_cases same : other = task
    · subst same
      refine ⟨worker, served, ?_⟩
      rw [this_link]
      exact owed frame owing
    · rw [others other same] at owing
      obtain ⟨worker', found, indebted⟩ := replying.indebted other frame owing
      refine ⟨worker', found, ?_⟩
      rw [other_link worker' fun here => same (sole other (here ▸ found))]
      exact indebted

theorem data_step {dialled : Nat → Prop} (replying : Replying answers data net)
    (wired : Wired dialled net) {op : DataOp} {answer : op.Res}
    (turned : ServeTurn port (data task) op answer phase')
    (moved : Net.dataSem faults task op net answer net')
    (answered : ∀ payload frame, op = .sendFrame payload → owes (data task) = some frame →
      answers frame payload) :
    Replying answers (Function.update data task phase') net' := by
  have others : ∀ other, other ≠ task → Function.update data task phase' other = data other :=
    fun other different => Function.update_of_ne different _ _
  have here : Function.update data task phase' task = phase' := Function.update_self ..
  have unserving : ¬ Talks op → net'.serves = net.serves →
      (∀ worker, (net'.links worker).exchange = (net.links worker).exchange) →
        Replying answers (Function.update data task phase') net' := by
    intro quiet serves links
    refine replying.quiet others links (fun _ _ => congrFun serves _) fun frame owed => ?_
    rw [here] at owed
    exact ⟨owes_quiet turned quiet owed, congrFun serves _⟩
  cases op with
  | start =>
      obtain ⟨_, same⟩ := moved
      subst same
      exact unserving id rfl fun _ => rfl
  | accept =>
      obtain ⟨_, port, worker, waiting, _, _, same⟩ | ⟨_, _, same⟩ := moved
      · subst same
        refine replying.quiet others (fun _ => rfl)
          (fun other different => Function.update_of_ne different _ _) fun frame owed => ?_
        rw [here, owes_elsewhere turned (.inl rfl)] at owed
        cases owed
      · subst same
        exact unserving id rfl fun _ => rfl
  | getReceiver | fs | lock | unlock =>
      cases moved
      exact unserving id rfl fun _ => rfl
  | recvFrame =>
      obtain ⟨worker, lane, served, received, same⟩ := moved
      subst same
      have sole := fun other found => wired.sole other task worker found served
      obtain ⟨frame, next, _, rfl, rfl⟩ | ⟨_, ⟨error, rfl⟩, rfl⟩ := received
      · obtain ⟨inStep, owing⟩ := (replying.inStep worker).take next
        refine replying.talk served sole others inStep fun frame' owed => ?_
        rw [here] at owed
        cases owes_received turned owed
        exact owing
      · refine replying.talk served sole others (replying.inStep worker) fun frame' owed => ?_
        rw [here] at owed
        cases owes_received turned owed
  | sendFrame payload =>
      obtain ⟨worker, lane, served, sent, same⟩ := moved
      subst same
      have sole := fun other found => wired.sole other task worker found served
      obtain ⟨settled, frame, owed⟩ := owes_sent turned
      obtain ⟨worker', served', owing⟩ := replying.indebted task frame owed
      cases served.symm.trans served'
      have nothing : ∀ {link : Link} (frame' : Bytes),
          owes (Function.update data task phase' task) = some frame' → link.exchange.Owes frame' := by
        intro link frame' owed'
        rw [here, settled] at owed'
        cases owed'
      obtain ⟨_, rfl⟩ | ⟨_, _, rfl⟩ := sent
      · exact replying.talk served sole others
          ((replying.inStep worker).answer owing (answered payload frame rfl owed)) nothing
      · exact replying.talk served sole others (replying.inStep worker) nothing
  | closeStream =>
      obtain ⟨worker, served, same⟩ := moved
      subst same
      refine replying.quiet others (fun other => ?_)
        (fun other different => Function.update_of_ne different _ _) fun frame owed => ?_
      · by_cases same : other = worker
        · subst same
          simp [Net.hangUp, Net.setLink, Link.exchange]
        · simp [Net.hangUp, Net.setLink, same]
      · rw [here, owes_elsewhere turned (.inr rfl)] at owed
        cases owed
  | dropListener port =>
      cases moved
      refine unserving id rfl fun worker => ?_
      rw [Net.close]
      dsimp only
      split <;> rfl

end Replying

end Tasks

end BeeSync.EndToEnd
