import BeeSync.ChunkMessage
import BeeSync.EndToEnd.Replies

/-!
# What a worker knows of its chunks

As long as nobody gives up, a worker accounts for every chunk it was given: the chunk is still
to come, it is reported as failed, or the server has it. The worker speaks only when it has
heard the reply to what it has said before.
-/

set_option autoImplicit false

namespace BeeSync.EndToEnd

open Arithmetic Encoding Interaction Server

/-- Chunks that are still to come, and those that are done with. -/
structure Left (done : Nat → Prop) (config : Client.WorkerConfig) (already rest failed : List Nat) :
    Prop where
  known : ∀ idx ∈ already, done idx
  all : ∀ idx ∈ config.chunkIndices, idx ∈ rest ∨ idx ∈ failed ∨ done idx

namespace Left

variable {done done' : Nat → Prop} {config : Client.WorkerConfig} {already rest failed : List Nat}
  {idx : Nat}

theorem mono (left : Left done config already rest failed) (more : ∀ idx, done idx → done' idx) :
    Left done' config already rest failed :=
  ⟨fun idx member => more idx (left.known idx member), fun idx member =>
    (left.all idx member).imp_right (Or.imp_right (more idx))⟩

theorem deliver (left : Left done config already (idx :: rest) failed) (here : done idx) :
    Left done config already rest failed := by
  refine ⟨left.known, fun other member => ?_⟩
  obtain listed | later := left.all other member
  · obtain rfl | listed := List.mem_cons.mp listed
    · exact .inr (.inr here)
    · exact .inl listed
  · exact .inr later

theorem fail (left : Left done config already (idx :: rest) failed) :
    Left done config already rest (failed ++ [idx]) := by
  refine ⟨left.known, fun other member => ?_⟩
  obtain listed | failed | done := left.all other member
  · obtain rfl | listed := List.mem_cons.mp listed
    · exact .inr (.inl (List.mem_append_right _ List.mem_cons_self))
    · exact .inl listed
  · exact .inr (.inl (List.mem_append_left _ failed))
  · exact .inr (.inr done)

end Left

/-- Every chunk has failed or is done with. -/
def Reports (done : Nat → Prop) (config : Client.WorkerConfig) (outcome : Option Client.WorkerResult) :
    Prop :=
  ∃ result, outcome = some result ∧ ∀ idx ∈ config.chunkIndices, idx ∈ result.failList ∨ done idx

theorem Reports.mono {done done' : Nat → Prop} (more : ∀ idx, done idx → done' idx)
    {config : Client.WorkerConfig} {outcome : Option Client.WorkerResult}
    (reports : Reports done config outcome) : Reports done' config outcome := by
  obtain ⟨result, same, all⟩ := reports
  exact ⟨result, same, fun idx member => (all idx member).imp_right (more idx)⟩

section Accounts

variable [Blake3]

/-- The parts of the frame for a chunk. -/
def Chunked (idx : Nat) (parts : List Bytes) : Prop :=
  ∃ offset data, parts = Client.chunkMessage idx offset data

/-- The account of a worker, unless somebody has given up. -/
def Accounts (done : Nat → Prop) (quiet : Prop) (exchange : Exchange Bytes Bytes)
    (config : Client.WorkerConfig) : Client.WorkerPhase → Prop
  | .waiting | .finished => True
  | .begun config' | .connecting config' => config' = config
  | .asking config' => config' = config ∧ exchange.Settled
  | .asked config' => config' = config ∧ exchange.Awaits [Chunk.queryMagic]
  | .between config' already rest result => config' = config ∧
      (quiet → exchange.Settled ∧ Left done config already rest result.failList)
  | .opening round _ _ | .reading round _ _ => round.config = config ∧ exchange.Settled ∧
      Left done config round.already (round.idx :: round.rest) round.result.failList
  | .attempting round parts _ => round.config = config ∧ exchange.Settled ∧
      Left done config round.already (round.idx :: round.rest) round.result.failList ∧
        Chunked round.idx parts
  | .sent round parts _ | .awaiting round parts _ => round.config = config ∧
      exchange.Awaits parts.flatten ∧
        Left done config round.already (round.idx :: round.rest) round.result.failList ∧
          Chunked round.idx parts
  | .failing round => round.config = config
  | .closing outcome | .finishing outcome => quiet → Reports done config outcome

variable {done done' marked : Nat → Prop} {quiet quiet' : Prop}
  {exchange exchange' : Exchange Bytes Bytes} {config : Client.WorkerConfig}
  {phase phase' : Client.WorkerPhase}

theorem Accounts.mono (accounts : Accounts done quiet exchange config phase)
    (more : ∀ idx, done idx → done' idx) (still : quiet' → quiet)
    (asked : exchange'.up.written = exchange.up.written)
    (heard : exchange'.down.read = exchange.down.read) :
    Accounts done' quiet' exchange' config phase := by
  have settled : exchange.Settled → exchange'.Settled := by
    rw [Exchange.Settled, Exchange.Settled, asked, heard]
    exact id
  have awaits : ∀ request, exchange.Awaits request → exchange'.Awaits request := by
    intro request
    rw [Exchange.Awaits, Exchange.Awaits, asked, heard]
    exact id
  cases phase with
  | waiting | finished | begun | connecting | failing => exact accounts
  | asking config' => exact ⟨accounts.1, settled accounts.2⟩
  | asked config' => exact ⟨accounts.1, awaits _ accounts.2⟩
  | between config' already rest result =>
      refine ⟨accounts.1, fun silent => ?_⟩
      obtain ⟨before, left⟩ := accounts.2 (still silent)
      exact ⟨settled before, left.mono more⟩
  | opening round | reading round =>
      obtain ⟨same, before, left⟩ := accounts
      exact ⟨same, settled before, left.mono more⟩
  | attempting round parts =>
      obtain ⟨same, before, left, chunked⟩ := accounts
      exact ⟨same, settled before, left.mono more, chunked⟩
  | sent round parts | awaiting round parts =>
      obtain ⟨same, before, left, chunked⟩ := accounts
      exact ⟨same, awaits _ before, left.mono more, chunked⟩
  | closing outcome | finishing outcome => exact fun silent => (accounts (still silent)).mono more

theorem Accounts.attempts {round : Client.Round} {parts : List Bytes} {remaining : Nat}
    (accounts : Accounts done quiet exchange config (.attempting round parts remaining)) :
    Accounts done quiet exchange config (round.attempts parts remaining) := by
  cases remaining with
  | zero => exact accounts.1
  | succ remaining => exact accounts

theorem Accounts.hopeless : Accounts done quiet exchange config config.hopeless :=
  fun _ => ⟨_, rfl, fun _ member => .inl member⟩

/-- The server has the chunk that it has acknowledged. -/
theorem Answered.delivered {numChunks : Nat} (few : numChunks < 2 ^ 32) {idx : Nat}
    {parts : List Bytes} (chunked : Chunked idx parts) {rest : Bytes}
    (answered : Answered marked parts.flatten (Chunk.ackOk :: rest)) (inRange : idx < numChunks) :
    marked idx := by
  obtain ⟨offset, data, same⟩ := chunked
  subst same
  have mark := answered.acknowledged _ (parseChunkHeader_chunkMessage idx offset data) rfl
  rw [asU32_of_lt (inRange.trans few)] at mark
  exact mark

omit [Blake3] in
/-- The server has the chunks that it has told of. -/
theorem Answered.known {reply : Bytes} (answered : Answered marked [Chunk.queryMagic] reply) :
    ∃ already, Client.parseReceived reply = some already ∧ ∀ idx ∈ already, marked idx := by
  obtain ⟨flags, few, same, kept⟩ := answered.told rfl
  subst same
  exact ⟨_, parseReceived_queryResponse few, fun idx member => kept idx (mem_markedIndices.mp member)⟩

end Accounts

/-- The chunks of the transfer are marked. -/
abbrev Done (numChunks : Nat) (marked : Nat → Prop) (idx : Nat) : Prop := idx < numChunks → marked idx

/-- A worker says something on its connection, or hears something. -/
structure Tells (worker : Nat) (net net' : Net) : Prop where
  others : ∀ other, other ≠ worker → net'.links other = net.links other
  narrows : net.Narrows net'
  serves : net'.serves = net.serves
  control : net'.control = net.control
  speaks : Speaks (net.links worker).exchange (net'.links worker).exchange

namespace Tells

variable {worker : Nat} {net : Net} {link : Link}

theorem refl (worker : Nat) (net : Net) : Tells worker net net :=
  ⟨fun _ _ => rfl, .of_eq rfl rfl, rfl, rfl, .inl rfl⟩

theorem update (speaks : Speaks (net.links worker).exchange link.exchange) :
    Tells worker net (net.setLink worker link) := by
  refine ⟨fun other different => Function.update_of_ne different _ _, .of_eq rfl rfl, rfl, rfl, ?_⟩
  rw [show (net.setLink worker link).links worker = link from Function.update_self ..]
  exact speaks

end Tells

section Steps

variable [Blake3] {done marked : Nat → Prop} {quiet quiet' faults : Prop} {numChunks worker : Nat}
  {config : Client.WorkerConfig} {phase phase' : Client.WorkerPhase} {net net' : Net}

/-- How a worker accounts for its chunks and what it says after a step. -/
def Goes (done : Nat → Prop) (quiet : Prop) (config : Client.WorkerConfig) (worker : Nat)
    (phase phase' : Client.WorkerPhase) (net net' : Net) : Prop :=
  Accounts done quiet (net'.links worker).exchange config phase' ∧
    (Tells worker net net' ∨
      ∃ port, ¬ Dialled phase ∧ Dialled phase' ∧ net' = net.connect worker port)

namespace Goes

/-- The connection is left alone. -/
theorem silent (accounts : Accounts done quiet (net.links worker).exchange config phase') :
    Goes done quiet config worker phase phase' net net :=
  ⟨accounts, .inl (.refl worker net)⟩

theorem send {payload : Bytes} {answer : Except IoError Unit} {lane : Lane Bytes}
    (inStep : (net.links worker).exchange.InStep (Answered marked))
    (settled : (net.links worker).exchange.Settled)
    (sent : Sends faults (net.links worker).dropped (net.links worker).up payload answer lane)
    (moved : net' = net.setLink worker { net.links worker with up := lane })
    (said : answer = .ok () → ∀ exchange : Exchange Bytes Bytes, exchange.Awaits payload →
      Accounts done quiet exchange config phase')
    (unsaid : ∀ error, answer = .error error → ∀ exchange, Accounts done quiet exchange config phase') :
    Goes done quiet config worker phase phase' net net' := by
  subst moved
  have here : (net.setLink worker { net.links worker with up := lane }).links worker =
      { net.links worker with up := lane } := Function.update_self ..
  rw [Goes, here]
  obtain ⟨ok, same⟩ | ⟨_, ⟨error, failed⟩, same⟩ := sent
  · subst same
    have asked := inStep.ask settled payload
    exact ⟨said ok _ asked.2, .inl (.update (.inr (.inl ⟨settled, payload, rfl⟩)))⟩
  · subst same
    exact ⟨unsaid error failed _, .inl (.update (.inl rfl))⟩

theorem receive {request : Bytes} {answer : Except IoError Bytes} {lane : Lane Bytes}
    (inStep : (net.links worker).exchange.InStep (Answered marked))
    (awaits : (net.links worker).exchange.Awaits request)
    (received : Receives faults (net.links worker).dropped (net.links worker).down answer lane)
    (moved : net' = net.setLink worker { net.links worker with down := lane })
    (heard : ∀ reply, answer = .ok reply → Answered marked request reply →
      ∀ exchange : Exchange Bytes Bytes, exchange.Settled → Accounts done quiet exchange config phase')
    (missed : ∀ error, answer = .error error → ∀ exchange, Accounts done quiet exchange config phase') :
    Goes done quiet config worker phase phase' net net' := by
  subst moved
  have here : (net.setLink worker { net.links worker with down := lane }).links worker =
      { net.links worker with down := lane } := Function.update_self ..
  rw [Goes, here]
  obtain ⟨reply, next, _, ok, same⟩ | ⟨_, ⟨error, failed⟩, same⟩ := received
  · subst same
    obtain ⟨answered, settled⟩ := inStep.heard_matches awaits next
    exact ⟨heard reply ok answered _ settled, .inl (.update (.inr (.inr ⟨reply, next, rfl⟩)))⟩
  · subst same
    exact ⟨missed error failed _, .inl (.update (.inl rfl))⟩

end Goes

/-- A worker keeps its account. -/
theorem Accounts.turn {scene : Scene} {session session' : Client.Session} {op : Client.WorkerOp}
    {answer : op.Res} (turned : Client.WorkerTurn phase op answer phase')
    (acted : Client.Session.workerSem worker op session answer session')
    (moved : Net.workerSem scene faults worker op net answer net')
    (spawned : session.spawned worker = some config)
    (inStep : (net.links worker).exchange.InStep (Answered marked)) (few : numChunks < 2 ^ 32)
    (accounts : Accounts (Done numChunks marked) (session.shutdown = false)
      (net.links worker).exchange config phase) :
    Goes (Done numChunks marked) (session'.shutdown = false) config worker phase phase' net net' := by
  have stopped : ∀ {goal : Prop}, true = session.shutdown → session.shutdown = false → goal := by
    intro goal stopped quiet
    rw [quiet] at stopped
    cases stopped
  cases turned with
  | start config' =>
      obtain ⟨found, same⟩ := acted
      subst moved
      cases spawned.symm.trans found
      exact .silent rfl
  | dismissed =>
      obtain ⟨set, same⟩ := acted
      subst same moved
      exact .silent (stopped set)
  | begin_ =>
      obtain ⟨_, same⟩ := acted
      subst same moved
      exact .silent accounts
  | connect =>
      cases acted
      obtain ⟨_, _, same⟩ | ⟨_, ⟨_, failed⟩, _⟩ := moved
      · subst same
        refine ⟨⟨accounts, ?_⟩, .inr ⟨_, id, trivial, rfl⟩⟩
        rw [show (net.connect worker _).links worker = .fresh from Function.update_self ..]
        exact rfl
      · cases failed
  | unreachable error =>
      cases acted
      obtain ⟨failed, _⟩ | ⟨_, _, same⟩ := moved
      · cases failed
      · subst same
        cases accounts
        exact .silent .hopeless
  | ask =>
      cases acted
      obtain ⟨lane, sent, same⟩ := moved
      exact .send inStep accounts.2 sent same (fun _ _ awaits => ⟨accounts.1, awaits⟩) nofun
  | mute error =>
      cases acted
      obtain ⟨lane, sent, same⟩ := moved
      obtain ⟨rfl, settled⟩ := accounts
      exact .send inStep settled sent same nofun fun _ _ _ => .hopeless
  | told resp already parsed =>
      cases acted
      obtain ⟨lane, received, same⟩ := moved
      obtain ⟨rfl, awaits⟩ := accounts
      refine .receive inStep awaits received same ?_ nofun
      intro reply here answered exchange settled
      cases here
      obtain ⟨already', parsed', known⟩ := answered.known
      cases parsed.symm.trans parsed'
      exact ⟨rfl, fun _ => ⟨settled, fun idx member _ => known idx member, fun _ => .inl⟩⟩
  | panic resp parsed =>
      cases acted
      obtain ⟨lane, received, same⟩ := moved
      refine .receive inStep accounts.2 received same ?_ nofun
      intro reply here answered
      cases here
      obtain ⟨already, parsed', _⟩ := answered.known
      cases parsed.symm.trans parsed'
  | deaf error =>
      cases acted
      obtain ⟨lane, received, same⟩ := moved
      obtain ⟨rfl, awaits⟩ := accounts
      exact .receive inStep awaits received same nofun fun _ _ _ => .hopeless
  | stop =>
      obtain ⟨set, same⟩ := acted
      subst same moved
      exact .silent (stopped set)
  | skip known =>
      obtain ⟨_, same⟩ := acted
      subst same moved
      refine .silent ⟨accounts.1, fun quiet => ?_⟩
      obtain ⟨settled, left⟩ := accounts.2 quiet
      exact ⟨settled, left.deliver (left.known _ known)⟩
  | outside =>
      obtain ⟨_, same⟩ := acted
      subst same moved
      exact .silent ⟨accounts.1, fun quiet => (accounts.2 quiet).imp_right Left.fail⟩
  | take unknown ranged =>
      obtain ⟨unset, same⟩ := acted
      subst same moved
      exact .silent ⟨accounts.1, accounts.2 unset.symm⟩
  | open_ =>
      obtain ⟨_, same⟩ := moved
      cases acted
      subst same
      exact .silent accounts
  | unopened =>
      obtain ⟨_, same⟩ := moved
      cases acted
      subst same
      exact .silent accounts.1
  | @read round offset size data =>
      obtain ⟨_, same⟩ := moved
      cases acted
      subst same
      obtain ⟨same, settled, left⟩ := accounts
      exact .silent (.attempts ⟨same, settled, left, offset, data, rfl⟩)
  | unread =>
      obtain ⟨_, same⟩ := moved
      cases acted
      subst same
      exact .silent accounts.1
  | send =>
      cases acted
      obtain ⟨lane, sent, same⟩ := moved
      obtain ⟨config', settled, left, chunked⟩ := accounts
      exact .send inStep settled sent same (fun _ _ awaits => ⟨config', awaits, left, chunked⟩) nofun
  | unsent =>
      cases acted
      obtain ⟨lane, sent, same⟩ := moved
      exact .send inStep accounts.2.1 sent same nofun fun _ _ _ => accounts.1
  | interrupted =>
      obtain ⟨set, same⟩ := acted
      subst same moved
      exact .silent ⟨accounts.1, stopped set⟩
  | wait =>
      obtain ⟨_, same⟩ := acted
      subst same moved
      exact .silent accounts
  | acked rest =>
      cases acted
      obtain ⟨lane, received, same⟩ := moved
      obtain ⟨config', awaits, left, chunked⟩ := accounts
      refine .receive inStep awaits received same ?_ nofun
      intro reply here answered exchange settled
      cases here
      exact ⟨config', fun _ => ⟨settled, left.deliver (answered.delivered few chunked)⟩⟩
  | refused ack other =>
      cases acted
      obtain ⟨lane, received, same⟩ := moved
      obtain ⟨config', awaits, left, chunked⟩ := accounts
      refine .receive inStep awaits received same ?_ nofun
      exact fun _ _ _ _ settled => .attempts ⟨config', settled, left, chunked⟩
  | unacked =>
      cases acted
      obtain ⟨lane, received, same⟩ := moved
      exact .receive inStep accounts.2.1 received same nofun fun _ _ _ => accounts.1
  | fail =>
      cases acted
      subst moved
      exact .silent ⟨accounts, nofun⟩
  | done =>
      cases acted
      subst moved
      refine ⟨fun quiet => ⟨_, rfl, fun idx member => ?_⟩, .inl (.update (.inl rfl))⟩
      exact ((accounts.2 quiet).2.all idx member).resolve_left nofun
  | close =>
      cases acted
      subst moved
      exact ⟨accounts, .inl (.update (.inl rfl))⟩
  | finish =>
      cases acted
      subst moved
      exact .silent trivial

end Steps

end BeeSync.EndToEnd
