import BeeSync.EndToEnd.HandlerAccounts
import BeeSync.EndToEnd.MainLines
import BeeSync.Server.ConfirmedOutput
import BeeSync.Server.PortSearch
import BeeSync.Server.SharedRecord

/-!
# What the control handler says when nothing fails

The handler finds nothing to resume, binds as many ports as it needs, waits until every
chunk is there, and tells the client of a complete file.
-/

set_option autoImplicit false

namespace BeeSync.EndToEnd

open Arithmetic Encoding Interaction Server

/-- No port is bound yet. -/
structure Vacant (net : Net) : Prop where
  closed : ∀ port, net.listening port = false
  permits : net.permits = totalDataPorts

/-- Some ports are bound, and enough of the others are free for so many turns. -/
structure Binds (scene : Scene) (turns : Nat) (untried sockets : List UInt16) (net : Net) : Prop where
  open_ : ∀ port, net.listening port = true ↔ port ∈ sockets
  fresh : (sockets ++ untried).Nodup
  counted : sockets.length + turns = min scene.numChunks scene.server.maxParallel
  few : sockets.length + turns ≤ totalDataPorts
  spare : ∃ spare : List UInt16, spare.Sublist untried ∧ (∀ port ∈ spare, scene.free port) ∧
    turns ≤ spare.length

namespace Binds

variable {scene : Scene} {turns : Nat} {port : UInt16} {untried sockets : List UInt16} {net : Net}

/-- The next port is bound. -/
theorem next (binds : Binds scene (turns + 1) (port :: untried) sockets net) :
    Binds scene turns untried (sockets ++ [port])
      { net with listening := Function.update net.listening port true } := by
  obtain ⟨open_, fresh, counted, few, spare, within, free, enough⟩ := binds
  constructor
  · intro other
    by_cases same : other = port
    · simp [same]
    · simp [same, open_]
  · simpa using fresh
  · rw [List.length_append, List.length_singleton]
    omega
  · rw [List.length_append, List.length_singleton]
    omega
  · cases within with
    | cons _ within => exact ⟨spare, within, free, by omega⟩
    | cons_cons _ within =>
        exact ⟨_, within, fun other member => free other (List.mem_cons_of_mem _ member),
          Nat.le_of_succ_le_succ enough⟩

/-- Only a port that is not free is passed over. -/
theorem skip (binds : Binds scene (turns + 1) (port :: untried) sockets net)
    (taken : ¬ scene.free port ∨ net.listening port = true) :
    Binds scene (turns + 1) untried sockets net := by
  obtain ⟨open_, fresh, counted, few, spare, within, free, enough⟩ := binds
  have unbound : port ∉ sockets := fun member =>
    (List.nodup_append.mp fresh).2.2 port member port List.mem_cons_self rfl
  refine ⟨open_, ?_, counted, few, spare, ?_, free, enough⟩
  · exact fresh.sublist ((List.Sublist.refl _).append (List.sublist_cons_self ..))
  · cases within with
    | cons _ within => exact within
    | cons_cons =>
        rcases taken with occupied | bound
        · exact absurd (free port List.mem_cons_self) occupied
        · exact absurd ((open_ port).mp bound) unbound

theorem offers (binds : Binds scene 0 untried sockets net) : Offers scene sockets net :=
  ⟨binds.counted, binds.few, fun port member => (binds.open_ port).mpr member⟩

end Binds

section Hosting

variable [Blake3]

/-- How the handler gets on. -/
def HostAt (scene : Scene) (job : Job) (registry : UInt16 → Option ReceiverId) (marked : Set Nat)
    (begun : Prop) (net : Net) : HandlePhase → Prop
  | .starting => Vacant net
  | .accepted _ | .preparing .. | .entering _ | .created .. | .reserving .. =>
      net.control.up.written ≠ [] ∧ Vacant net
  | .resuming _ _ _ resume => net.control.up.written ≠ [] ∧ Vacant net ∧
      (resume = .looking ∨ resume = .missing)
  | .binding _ _ turns port untried sockets => net.control.up.written ≠ [] ∧
      Binds scene (turns + 1) (port :: untried) sockets net
  | .registering transfer => net.control.up.written ≠ [] ∧ Offers scene transfer.ports net
  | .offering transfer => net.control.up.written ≠ [] ∧ Offers scene transfer.ports net ∧
      ∀ port ∈ transfer.ports, registry port ≠ none
  | .spawning _ port rest => net.control.down.written.length = 1 ∧
      ∀ other ∈ port :: rest, registry other ≠ none
  | .waiting _ | .looking .. | .polling _ | .gathering _ | .assembling .. =>
      net.control.down.written.length = 1
  | .concluding _ | .weighing .. => net.control.down.written.length = 1 ∧ job.Whole marked
  | .judging _ complete | .judged _ complete _ => net.control.down.written.length = 1 ∧ complete = true
  | .reporting .. => net.control.down.written.length = 1 ∧ begun
  | .removing .. | .releasing _ => net.control.down.written.length = 2 ∧ begun
  | .ending inner | .ended inner => net.control.down.written.length = 2 ∧ begun ∧ inner = .finished
  | .comparing _ | .confirming .. | .exhausted .. | .withdrawing _ | .abandoning .. | .answering .. =>
      False

variable {scene : Scene} {job : Job} {files : Fs FilePath} {registry : UInt16 → Option ReceiverId}
  {marked marked' : Set Nat} {begun begun' : Prop} {phase phase' : HandlePhase} {net net' : Net}

theorem HostAt.mono (stands : HostAt scene job registry marked begun net phase)
    (asked : net.control.up.written ≠ [] → net'.control.up.written ≠ [])
    (down : net'.control.down.written = net.control.down.written)
    (listening : net'.listening = net.listening) (permits : net'.permits = net.permits)
    (more : marked ⊆ marked') (further : begun → begun') :
    HostAt scene job registry marked' begun' net' phase := by
  have vacant : Vacant net → Vacant net' := fun vacant =>
    ⟨by rw [listening]; exact vacant.closed, permits.trans vacant.permits⟩
  have offers : ∀ {ports}, Offers scene ports net → Offers scene ports net' := fun offers =>
    offers.mono fun port => by rw [listening]; exact id
  cases phase with
  | starting => exact vacant stands
  | accepted | preparing | entering | created | reserving => exact ⟨asked stands.1, vacant stands.2⟩
  | resuming => exact ⟨asked stands.1, vacant stands.2.1, stands.2.2⟩
  | binding =>
      obtain ⟨some_, binds⟩ := stands
      refine ⟨asked some_, ?_, binds.fresh, binds.counted, binds.few, binds.spare⟩
      rw [listening]
      exact binds.open_
  | registering => exact ⟨asked stands.1, offers stands.2⟩
  | offering => exact ⟨asked stands.1, offers stands.2.1, stands.2.2⟩
  | spawning | waiting | looking | polling | gathering | assembling | judging | judged =>
      rw [HostAt, down]
      exact stands
  | concluding | weighing =>
      rw [HostAt, down]
      exact stands.imp_right fun whole idx inRange => more (whole idx inRange)
  | reporting | removing | releasing =>
      rw [HostAt, down]
      exact stands.imp_right further
  | ending | ended =>
      rw [HostAt, down]
      exact stands.imp_right (And.imp_left further)
  | comparing | confirming | exhausted | withdrawing | abandoning | answering => exact stands.elim

theorem HostAt.bind {handshake : HandshakeData} {receiver : ReceiverId} {turns : Nat}
    {untried sockets : List UInt16} (asked : net.control.up.written ≠ [])
    (announced : handshake.numChunks = scene.numChunks)
    (binds : Binds scene turns untried sockets net) :
    HostAt scene job registry marked begun net
      (.bind scene.server handshake receiver turns untried sockets) := by
  cases turns with
  | zero =>
      have enough := binds.offers.counted
      change HostAt scene job registry marked begun net (.bound scene.server handshake receiver sockets)
      rw [HandlePhase.bound, announced, if_neg (by omega)]
      exact ⟨asked, binds.offers⟩
  | succ turns =>
      cases untried with
      | nil =>
          obtain ⟨spare, within, _, enough⟩ := binds.spare
          cases within
          cases enough
      | cons port untried => exact ⟨asked, binds⟩

theorem HostAt.spawn {transfer : Transfer} {ports : List UInt16}
    (spoken : net.control.down.written.length = 1) (registered : ∀ port ∈ ports, registry port ≠ none) :
    HostAt scene job registry marked begun net (.spawn transfer ports) := by
  cases ports with
  | nil => exact spoken
  | cons port rest => exact ⟨spoken, registered⟩

theorem HostAt.remove {ports : List UInt16} {count : Nat} (spoken : net.control.down.written.length = 2)
    (begins : begun) : HostAt scene job registry marked begun net (.remove count ports) := by
  cases ports with
  | cons port rest => exact ⟨spoken, begins⟩
  | nil =>
      rw [HandlePhase.remove]
      split
      · exact ⟨spoken, begins⟩
      · exact ⟨spoken, begins, rfl⟩

end Hosting

/-- What the handler leaves alone. -/
structure Tends (registry : UInt16 → Option ReceiverId) (net net' : Net) : Prop where
  links : net'.links = net.links
  backlog : net'.backlog = net.backlog
  serves : net'.serves = net.serves
  listening : ∀ port, net.listening port = true → net'.listening port = true
  /-- A task is spawned for a registered port. -/
  tasks : ∀ task port, net'.tasks task = some port → net.tasks task = some port ∨ registry port ≠ none
  kept : ∀ task port, net.tasks task = some port → net'.tasks task = some port
  written : net'.control.up.written = net.control.up.written
  heard : net'.control.down.read = net.control.down.read
  hungUp : net'.control.hungUp = net.control.hungUp

theorem Tends.refl (registry : UInt16 → Option ReceiverId) (net : Net) : Tends registry net net :=
  ⟨rfl, rfl, rfl, fun _ => id, fun _ _ => .inl, fun _ _ => id, rfl, rfl, rfl⟩

section Steps

variable [Blake3] {scene : Scene} {job : Job} {files : Fs FilePath} {store store' : Store (Role Unit)}
  {marked : Set Nat} {begun : Prop} {phase phase' : HandlePhase} {net net' : Net}

/-- How the handler and its peer get on. -/
structure Hosts (scene : Scene) (job : Job) (store store' : Store (Role Unit)) (marked : Set Nat)
    (begun : Prop) (phase' : HandlePhase) (net net' : Net) : Prop where
  stands : HostAt scene job store'.registry marked begun net' phase'
  reception : Reception scene net' (phase'.inner = .finished ∧ begun)
  tends : Tends store.registry net net'

/-- A step of the handler goes well. -/
theorem HostAt.turn [KeyOrder] {op : ControlOp} {answer : op.Res} (clear : scene.Clear job files)
    (turned : HandleTurn scene.server phase op answer phase')
    (acted : Store.controlSem False (Role.control ()) op store answer store')
    (moved : Net.controlSem scene False op net answer net')
    (good : ∀ receiver state, phase.inner.holding = some (receiver, state) →
      state.params = job.receiver.params ∧ state.failed = false ∧
        (state.isComplete = true ↔ job.Whole marked))
    (clean : phase.inner.Unserved → job.Untouched store.fs)
    (attends : phase.inner.Attends job store.fs marked begun) (heralds : Heralds job net.control)
    (here : net.control.hungUp = true → phase.inner = .finished)
    (handles : HandleAt scene marked net.control phase) (greeted : Greeted scene marked net.control)
    (reception : Reception scene net (phase.inner = .finished ∧ begun))
    (stands : HostAt scene job store.registry marked begun net phase) :
    Hosts scene job store store' marked begun phase' net net' := by
  have inner : ControlTurn scene.server phase.inner op answer phase'.inner := turned.inner
  have further : phase.inner = .finished ∧ begun → phase'.inner = .finished ∧ begun :=
    And.imp_left inner.finished
  have still : HostAt scene job store'.registry marked begun net phase' →
      Hosts scene job store store' marked begun phase' net net := fun stands =>
    ⟨stands, reception.mono rfl (fun _ => id) rfl id further, .refl _ _⟩
  have joined : phase.inner ≠ .finished → net.control.hungUp = false := fun early =>
    Bool.eq_false_iff.mpr fun left => early (here left)
  have hears : ∀ {answer : Except IoError Bytes}, phase.inner ≠ .finished →
      Net.controlSem scene False .recvFrame net answer net' →
        ∃ message, answer = .ok message ∧ parseHandshake message = .ok job.handshake ∧
          net.control.up.written ≠ [] ∧
            net' = net.setControl { net.control with up := net.control.up.advance } := by
    intro answer early moved
    obtain ⟨lane, received, same⟩ := moved
    have announced : ∀ message, net.control.up.next = some message → message ∈ net.control.up.written :=
      fun message next => List.mem_of_getElem? next
    obtain ⟨message, next, answered, read⟩ := received.fine
      (fun message next => (heralds message (announced message next)).1)
      fun left => by cases (joined early).symm.trans left
    subst same read
    exact ⟨message, answered, (heralds message (announced message next)).2,
      List.ne_nil_of_mem (announced message next), rfl⟩
  have sends : ∀ {payload : Bytes} {answer : Except IoError Unit}, phase.inner ≠ .finished →
      Net.controlSem scene False (.sendFrame payload) net answer net' → answer = .ok () ∧
        net' = net.setControl { net.control with down := net.control.down.write payload } := by
    intro payload answer early moved
    obtain ⟨lane, sent, same⟩ := moved
    obtain ⟨answered, written⟩ := sent.fine (joined early)
    subst same written
    exact ⟨answered, rfl⟩
  cases turned with
  | hear answer nothing =>
      obtain ⟨message, answered, parsed, _⟩ := hears (fun same => by cases same) moved
      rcases nothing with empty | ⟨error, failed⟩
      · cases answered.symm.trans empty
        cases parsed
      · cases answered.symm.trans failed
  | misunderstand data error garbled =>
      obtain ⟨message, answered, parsed, _⟩ := hears (fun same => by cases same) moved
      cases answered
      cases garbled.symm.trans parsed
  | accept data handshake =>
      obtain ⟨message, _, _, asked, same⟩ := hears (fun same => by cases same) moved
      subst same
      exact ⟨⟨asked, ⟨stands.closed, stands.permits⟩⟩,
        reception.mono rfl (fun _ => id) rfl id further,
        ⟨rfl, rfl, rfl, fun _ => id, fun _ _ => .inl, fun _ _ => id, rfl, rfl, rfl⟩⟩
  | absent =>
      subst moved
      obtain ⟨fs, called, same⟩ := acted
      subst same
      exact still stands
  | present =>
      obtain ⟨fs, ⟨_, found | ⟨fails, _⟩⟩, _⟩ := acted
      · obtain ⟨rfl, _⟩ := attends
        have nothing := (clean trivial).output
        rw [Job.outputPath, clear.server] at nothing
        rw [nothing] at found
        cases found
      · exact fails.elim
  | unknown =>
      obtain ⟨fs, ⟨_, found | ⟨fails, _⟩⟩, _⟩ := acted
      · cases found
      · exact fails.elim
  | compare => exact stands.elim
  | prepare | prepared | preparedBoth =>
      obtain ⟨_, same⟩ := moved
      subst same
      exact still stands
  | unprepared =>
      obtain ⟨succeeded | ⟨fails, _⟩, _⟩ := moved
      · cases succeeded
      · exact fails.elim
  | create =>
      subst moved
      exact still stands
  | resume =>
      subst moved
      exact still ⟨stands.1, stands.2, .inl rfl⟩
  | @recover handshake receiver state resume resume' op answer recovers =>
      obtain ⟨fs, called, _⟩ := acted
      subst moved
      obtain ⟨asked, vacant, rfl | rfl⟩ := stands
      · cases recovers with
        | found =>
            have nothing : store.fs state.metaPath = none := by
              rw [FileReceiver.metaPath_of_params (good receiver state rfl).1]
              exact (clean trivial).record
            obtain ⟨_, found | ⟨fails, _⟩⟩ := called
            · rw [nothing] at found
              cases found
            · exact fails.elim
        | absent => exact still ⟨asked, vacant, .inr rfl⟩
      · cases recovers
  | unresumed =>
      subst moved
      exact still ⟨stands.1, stands.2.1⟩
  | resumed ended | completed ended | panic ended =>
      obtain ⟨_, _, rfl | rfl⟩ := stands
      · rcases ended with loaded | ⟨_, saving, _⟩
        · cases loaded
        · cases saving
      · rcases ended with loaded | ⟨_, saving, _⟩
        · cases loaded
        · cases saving
  | confirm | unconfirmed => exact stands.elim
  | reserve =>
      obtain ⟨asked, vacant⟩ := stands
      obtain ⟨spare, within, free, enough⟩ := clear.room
      have most := within.length_le
      rw [Control.dataPorts_length] at most
      rcases moved with ⟨_, _, same⟩ | ⟨refused, _⟩
      · subst same
        refine ⟨.bind asked handles.1.numChunks ?_, ?_,
          rfl, rfl, rfl, fun _ => id, fun _ _ => .inl, fun _ _ => id, rfl, rfl, rfl⟩
        · rw [handles.1.numChunks]
          have distinct : dataPorts.Nodup := Control.dataPorts_increasing.imp UInt16.ne_of_lt
          refine ⟨fun port => ?_, ?_, Nat.zero_add _, ?_, spare, within, free, enough⟩
          · simp [vacant.closed]
          · rw [List.nil_append]
            exact distinct
          · rw [List.length_nil]
            omega
        · exact reception.mono rfl (fun _ => id) rfl id further
      · cases refused
  | unreserved =>
      obtain ⟨spare, within, _, enough⟩ := clear.room
      have most := within.length_le
      rw [Control.dataPorts_length] at most
      rcases moved with ⟨granted, _⟩ | ⟨_, scarce, _⟩
      · cases granted
      · rw [stands.2.permits, handles.1.numChunks] at scarce
        omega
  | bind =>
      obtain ⟨asked, binds⟩ := stands
      rcases moved with ⟨_, _, _, same⟩ | ⟨_, ⟨_, failed⟩, _⟩
      · subst same
        have opens : ∀ {port other : UInt16}, net.listening other = true →
            Function.update net.listening port true other = true := by
          intro port other open_
          by_cases same : other = port
          · simp [same]
          · simpa [same] using open_
        exact ⟨.bind asked handles.1.numChunks binds.next,
          reception.mono rfl (fun _ => opens) rfl id further, rfl, rfl, rfl,
          fun _ => opens, fun _ _ => .inl, fun _ _ => id, rfl, rfl, rfl⟩
      · cases failed
  | unbound =>
      obtain ⟨asked, binds⟩ := stands
      rcases moved with ⟨succeeded, _⟩ | ⟨fails | taken, _, same⟩
      · cases succeeded
      · exact fails.elim
      · subst same
        exact still (.bind asked handles.1.numChunks (binds.skip taken))
  | exhaust => exact stands.elim
  | register =>
      cases moved
      cases acted
      refine still ⟨stands.1, stands.2, fun port member => ?_⟩
      simp [member]
  | @offer transfer =>
      obtain ⟨asked, offers, registered⟩ := stands
      obtain ⟨_, same⟩ := sends (fun same => by cases same) moved
      cases acted
      have silent : net.control.down.written = [] := handles.1.silent
      have written : (net.control.down.write (handshakeResponse Handshake.respOk transfer.ports)).written =
          [handshakeResponse Handshake.respOk transfer.ports] := by
        simp [Lane.write, silent]
      subst same
      refine ⟨.spawn (congrArg List.length written) registered, ⟨?_, ?_, ?_, ?_⟩,
        rfl, rfl, rfl, fun _ => id, fun _ _ => .inl, fun _ _ => id, rfl, rfl, rfl⟩
      · intro data first
        dsimp only [Net.setControl] at first
        rw [written] at first
        cases first
        exact ⟨transfer.ports, rfl, offers.mono fun _ => id⟩
      · intro data second
        dsimp only [Net.setControl] at second
        rw [written] at second
        cases second
      · intro gone
        have two := reception.gone gone
        rw [silent] at two
        cases two
      · exact fun _ => asked
  | unoffered =>
      cases (sends (fun same => by cases same) moved).1
  | withdraw => exact stands.elim
  | @spawn transfer port =>
      obtain ⟨spoken, registered⟩ := stands
      obtain ⟨task, new, same⟩ := moved
      cases acted
      subst same
      refine ⟨.spawn spoken fun other member => registered other (List.mem_cons_of_mem _ member),
        reception.mono rfl (fun _ => id) rfl id further, rfl, rfl, rfl, fun _ => id,
          fun other bound found => ?_, fun other bound found => ?_, rfl, rfl, rfl⟩
      · by_cases here : other = task
        · subst here
          cases (Function.update_self ..).symm.trans found
          exact .inr (registered _ List.mem_cons_self)
        · exact .inl ((Function.update_of_ne here _ _).symm.trans found)
      · have different : other ≠ task := by
          rintro rfl
          cases new.symm.trans found
        exact (Function.update_of_ne different _ _).trans found
  | look | wait | gather | build =>
      cases moved
      exact still stands
  | @stop transfer state finished =>
      cases moved
      obtain ⟨_, unfailed, complete⟩ := good transfer.receiver state rfl
      rw [unfailed, Bool.or_false] at finished
      exact still ⟨stands, complete.mp finished⟩
  | idle poll connected =>
      cases poll with
      | idle =>
          cases moved
          cases acted
          exact still stands
      | data => exact absurd (greeted.nothing handles.heard) moved.1
      | disconnected => exact absurd rfl connected
  | disconnect =>
      obtain ⟨fails | ⟨left, _⟩, _⟩ := moved
      · exact fails.elim
      · cases here left
  | weigh =>
      cases moved
      exact still stands
  | @weighed transfer state =>
      cases moved
      exact still ⟨stands.1, (good transfer.receiver state rfl).2.2.mpr stands.2⟩
  | judge =>
      cases moved
      exact still stands
  | @judged transfer complete state =>
      cases moved
      obtain ⟨spoken, rfl⟩ := stands
      refine still ?_
      rw [HandlePhase.judge, (good transfer.receiver state rfl).2.1]
      exact spoken
  | abandon => exact stands.elim
  | built =>
      cases moved
      obtain ⟨_, begins, _⟩ := attends
      exact still ⟨stands, begins.mpr fun same => by cases same⟩
  | @report transfer success =>
      obtain ⟨spoken, begins⟩ := stands
      obtain ⟨_, rfl, _⟩ := attends
      obtain ⟨_, same⟩ := sends (fun same => by cases same) moved
      cases acted
      have finished : (HandlePhase.remove transfer.ports.length transfer.ports).inner = .finished :=
        HandlePhase.inner_remove ..
      have two : (net.control.down.write [Control.finalStatus true]).written.length = 2 := by
        rw [Lane.length_write, spoken]
      subst same
      refine ⟨.remove two begins, ⟨?_, ?_, fun _ => two.ge, ?_⟩, rfl, rfl, rfl, fun _ => id,
        fun _ _ => .inl, fun _ _ => id, rfl, rfl, rfl⟩
      · intro data first
        rcases Lane.getElem?_write first with earlier | ⟨last, _⟩
        · obtain ⟨ports, same, offers⟩ := reception.offer data earlier
          exact ⟨ports, same, offers.mono fun _ => id⟩
        · omega
      · intro data second
        rcases Lane.getElem?_write second with earlier | ⟨_, same⟩
        · have inside := (List.getElem?_eq_some_iff.mp earlier).1
          omega
        · exact ⟨same, finished, begins⟩
      · refine fun _ => reception.asked fun silent => ?_
        rw [silent] at spoken
        cases spoken
  | remove =>
      cases moved
      exact still (.remove stands.1 stands.2)
  | release =>
      cases moved
      cases acted
      exact ⟨⟨stands.1, stands.2, rfl⟩, reception.mono rfl (fun _ => id) rfl id further,
        rfl, rfl, rfl, fun _ => id, fun _ _ => .inl, fun _ _ => id, rfl, rfl, rfl⟩
  | answer => exact stands.elim
  | close =>
      cases moved
      cases acted
      refine ⟨stands, ⟨?_, ?_, fun _ => stands.1.ge, reception.asked⟩, rfl, rfl, rfl, fun _ => id,
        fun _ _ => .inl, fun _ _ => id, rfl, rfl, rfl⟩
      · intro data first
        obtain ⟨ports, same, offers⟩ := reception.offer data first
        exact ⟨ports, same, offers.mono fun _ => id⟩
      · exact fun data second => (reception.status data second).imp_right further

/-- The handler leaves the receiver as it has found it. -/
theorem HostAt.unlocks [KeyOrder] {receiver : ReceiverId} {state : FileReceiver}
    (turned : HandleTurn scene.server phase (.unlock receiver state) () phase')
    (stands : HostAt scene job store.registry marked begun net phase) :
    phase.inner.holding = some (receiver, state) := by
  cases turned with
  | resumed ended | completed ended =>
      obtain ⟨_, _, rfl | rfl⟩ := stands
      · rcases ended with loaded | ⟨_, saving, _⟩
        · cases loaded
        · cases saving
      · rcases ended with loaded | ⟨_, saving, _⟩
        · cases loaded
        · cases saving
  | unresumed | wait | stop | weighed | judged | built => rfl

theorem HostAt.removes [KeyOrder] {port : UInt16} {answer : Unit}
    (turned : HandleTurn scene.server phase (.removeReceiver port) answer phase')
    (stands : HostAt scene job store.registry marked begun net phase) :
    phase.inner = .finished ∧ begun := by
  cases turned with
  | remove => exact ⟨rfl, stands.2⟩

/-- The handler does not touch a file before the resume section has been left. -/
theorem HostAt.reads [KeyOrder] {op : FsOp FilePath} {answer : op.Res}
    (turned : HandleTurn scene.server phase (.fs op) answer phase')
    (acted : Store.controlSem False (Role.control ()) (.fs op) store answer store')
    (unserved : phase.inner.Unserved)
    (stands : HostAt scene job store.registry marked begun net phase) : store'.fs = store.fs := by
  obtain ⟨fs, called, same⟩ := acted
  subst same
  cases turned with
  | absent | present | unknown => exact called.1
  | compare => exact stands.elim
  | recover recovers =>
      obtain ⟨_, _, rfl | rfl⟩ := stands
      · cases recovers with
        | found | absent => exact called.1
      · cases recovers
  | build => exact unserved.elim

end Steps

end BeeSync.EndToEnd
