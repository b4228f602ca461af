import BeeSync.EndToEnd.WorkerLines

/-!
# What the client's main task says when nothing fails

The main task announces the file as it is, spawns workers for all its chunks, and ends with
the exit code 0.
-/

set_option autoImplicit false

namespace BeeSync.EndToEnd

open Arithmetic Encoding Interaction Server

/-- Enough ports are open, and they can be told to the client. -/
structure Offers (scene : Scene) (ports : List UInt16) (net : Net) : Prop where
  counted : ports.length = min scene.numChunks scene.server.maxParallel
  few : ports.length ≤ totalDataPorts
  open_ : ∀ port ∈ ports, net.listening port = true

theorem Offers.mono {scene : Scene} {ports : List UInt16} {net net' : Net} (offers : Offers scene ports net)
    (listening : ∀ port, net.listening port = true → net'.listening port = true) :
    Offers scene ports net' :=
  ⟨offers.counted, offers.few, fun port member => listening port (offers.open_ port member)⟩

/-- What the handler has told the client so far. -/
structure Reception (scene : Scene) (net : Net) (finished : Prop) : Prop where
  offer : ∀ data, net.control.down.written[0]? = some data → ∃ ports,
    data = handshakeResponse Handshake.respOk ports ∧ Offers scene ports net
  status : ∀ data, net.control.down.written[1]? = some data → data = [Handshake.respOk] ∧ finished
  gone : net.control.dropped = true → 2 ≤ net.control.down.written.length
  asked : net.control.down.written ≠ [] → net.control.up.written ≠ []

theorem Reception.mono {scene : Scene} {net net' : Net} {finished finished' : Prop}
    (reception : Reception scene net finished) (written : net'.control.down.written = net.control.down.written)
    (listening : ∀ port, net.listening port = true → net'.listening port = true)
    (dropped : net'.control.dropped = net.control.dropped)
    (asked : net.control.up.written ≠ [] → net'.control.up.written ≠ [])
    (further : finished → finished') : Reception scene net' finished' := by
  constructor
  · intro data first
    rw [written] at first
    obtain ⟨ports, same, offers⟩ := reception.offer data first
    exact ⟨ports, same, offers.mono listening⟩
  · intro data second
    rw [written] at second
    exact (reception.status data second).imp_right further
  · rw [written, dropped]
    exact reception.gone
  · rw [written]
    exact fun spoken => asked (reception.asked spoken)

/-- The workers that have been spawned, and the ports that they are given. -/
structure Staff (scene : Scene) (dataPorts : List UInt16) (session : Client.Session) (net : Net) : Prop where
  hired : ∀ worker config, session.spawned worker = some config → Hired scene dataPorts worker config
  open_ : ∀ port ∈ dataPorts, net.listening port = true
  quiet : session.shutdown = false
  /-- Whoever has finished has delivered all its chunks. -/
  outcomes : ∀ worker outcome, session.finished worker = some outcome → ∃ done, outcome = some ⟨done, []⟩

theorem Staff.mono {scene : Scene} {dataPorts : List UInt16} {session : Client.Session} {net net' : Net}
    (staff : Staff scene dataPorts session net)
    (listening : ∀ port, net.listening port = true → net'.listening port = true) :
    Staff scene dataPorts session net' :=
  ⟨staff.hired, fun port member => listening port (staff.open_ port member), staff.quiet, staff.outcomes⟩

section Main

variable [Blake3]

theorem Staff.worker {scene : Scene} {job : Job} {dataPorts : List UInt16}
    {session session' : Client.Session} {net net' : Net} {link : Link} {index : Nat}
    {config : Client.WorkerConfig} {phase phase' : Client.WorkerPhase} {op : Client.WorkerOp}
    {answer : op.Res} (staff : Staff scene dataPorts session net)
    (turned : Client.WorkerTurn phase op answer phase')
    (acted : Client.Session.workerSem index op session answer session')
    (stands : WorkAt job config link phase) (listening : net'.listening = net.listening) :
    Staff scene dataPorts session' net' ∧ session'.spawned = session.spawned := by
  have open_ : ∀ port ∈ dataPorts, net'.listening port = true := by
    rw [listening]
    exact staff.open_
  cases op with
  | storeShutdown =>
      cases turned with
      | fail => exact stands.elim
  | finish outcome =>
      cases acted
      cases turned with
      | finish =>
          refine ⟨⟨staff.hired, open_, staff.quiet, fun worker outcome' finished => ?_⟩, rfl⟩
          by_cases here : worker = index
          · subst here
            cases (Function.update_self ..).symm.trans finished
            exact stands.2
          · exact staff.outcomes worker outcome' ((Function.update_of_ne here _ _).symm.trans finished)
  | start | loadShutdown =>
      obtain ⟨_, same⟩ := acted
      subst same
      exact ⟨⟨staff.hired, open_, staff.quiet, staff.outcomes⟩, rfl⟩
  | _ =>
      cases acted
      exact ⟨⟨staff.hired, open_, staff.quiet, staff.outcomes⟩, rfl⟩

/-- How the main task gets on. -/
def MainFine (scene : Scene) (dataPorts : List UInt16) (control : Link) (finished : Prop) :
    Client.MainPhase → Prop
  | .spawning fileSize ports chunks worker rest _ => fileSize = scene.source.length ∧ ports = dataPorts ∧
      dataPorts ≠ [] ∧ chunks ≠ [] ∧ control.down.read = 1 ∧
        ∀ entry ∈ (chunks, worker) :: rest, (scene.shares dataPorts)[entry.2]? = some entry.1
  | .joining _ _ failed | .deciding failed => failed = [] ∧ control.down.read = 1
  | .confirming => control.down.read = 1
  | .ending exitCode | .ended exitCode => exitCode = 0 ∧ finished
  | _ => True

variable {scene : Scene} {job : Job} {files : Fs FilePath} {dataPorts : List UInt16}
  {control control' : Link} {finished finished' : Prop} {phase phase' : Client.MainPhase}

omit [Blake3] in
theorem MainFine.mono (fine : MainFine scene dataPorts control finished phase)
    (read : control'.down.read = control.down.read) (further : finished → finished') :
    MainFine scene dataPorts control' finished' phase := by
  cases phase with
  | spawning =>
      obtain ⟨size, ports, some_, given, heard, shares⟩ := fine
      exact ⟨size, ports, some_, given, read.trans heard, shares⟩
  | joining | deciding => exact fine.imp_right read.trans
  | confirming => exact read.trans fine
  | ending | ended => exact fine.imp_right further
  | _ => exact fine

omit [Blake3] in
theorem MainFine.join {failed : List Nat} (none_ : failed = []) (heard : control.down.read = 1)
    (handles : List Nat) : MainFine scene dataPorts control finished (.join failed handles) := by
  cases handles <;> exact ⟨none_, heard⟩

omit [Blake3] in
theorem MainFine.spawn {assigned : List (List Nat × Nat)} {fileSize : Nat}
    (size : fileSize = scene.source.length) (some_ : dataPorts ≠ []) (heard : control.down.read = 1)
    (shares : ∀ entry ∈ assigned, (scene.shares dataPorts)[entry.2]? = some entry.1) (handles : List Nat) :
    MainFine scene dataPorts control finished (.spawn fileSize dataPorts handles assigned) := by
  induction assigned with
  | nil => exact .join rfl heard handles
  | cons entry rest ih =>
      obtain ⟨chunks, worker⟩ := entry
      cases chunks with
      | nil => exact ih fun entry member => shares entry (List.mem_cons_of_mem _ member)
      | cons idx chunks => exact ⟨size, rfl, some_, nofun, heard, shares⟩

/-- The announcement that the server is waiting for. -/
def Heralds (job : Job) (control : Link) : Prop :=
  ∀ message ∈ control.up.written, message.length ≤ Frame.maxPayload ∧
    parseHandshake message = .ok job.handshake

/-- What the main task does to the control connection. -/
structure Calls (job : Job) (phase' : Client.MainPhase) (net net' : Net) : Prop where
  same : ∃ link, net' = net.setControl link
  down : net'.control.down.written = net.control.down.written
  dropped : net'.control.dropped = net.control.dropped
  read : net'.control.up.read = net.control.up.read
  heralds : Heralds job net.control → Heralds job net'.control
  asked : net.control.up.written ≠ [] → net'.control.up.written ≠ []
  stays : net'.control.hungUp = true → net.control.hungUp = true ∨ ∃ exitCode, phase' = .ended exitCode

theorem Calls.refl (job : Job) (phase' : Client.MainPhase) (net : Net) : Calls job phase' net net :=
  ⟨⟨net.control, rfl⟩, rfl, rfl, rfl, id, id, .inl⟩

/-- What the main task hears on the control connection is as it should be. -/
theorem Reception.heard {net net' : Net} {answer : Except IoError Bytes} {lane : Lane Bytes}
    (reception : Reception scene net finished)
    (received : Receives False net.control.dropped net.control.down answer lane)
    (moved : net' = net.setControl { net.control with down := lane })
    (early : net.control.down.read ≤ 1) (job : Job) (phase' : Client.MainPhase) :
    Calls job phase' net net' ∧ ∃ data, answer = .ok data ∧ net.control.down.next = some data ∧
      net'.control.down.read = net.control.down.read + 1 := by
  have short : ∀ frame, net.control.down.next = some frame → frame.length ≤ Frame.maxPayload := by
    intro frame next
    rw [Lane.next] at next
    have first_or_second : net.control.down.read = 0 ∨ net.control.down.read = 1 := by omega
    rcases first_or_second with first | second
    · rw [first] at next
      obtain ⟨ports, rfl, offers⟩ := reception.offer frame next
      have few := offers.few
      have length : (handshakeResponse Handshake.respOk ports).length = 2 + ports.length * 2 := by
        rw [handshakeResponse, List.length_cons, List.length_cons, flatMap_length fun _ => toBigEndian_length _ _]
        omega
      rw [totalDataPorts, dataPortEnd, dataPortStart] at few
      rw [length, Frame.maxPayload]
      omega
    · rw [second] at next
      rw [(reception.status frame next).1]
      decide
  obtain ⟨data, next, answered, same⟩ := received.fine short fun dropped nothing => by
    have both := reception.gone dropped
    have all := Lane.next_eq_none_iff.mp nothing
    omega
  subst moved same
  exact ⟨⟨⟨_, rfl⟩, rfl, rfl, rfl, id, id, .inl⟩, data, answered, next, rfl⟩

theorem hail_length {name : Bytes} (named : fileName scene.client.filepath = some name) :
    (scene.hail name).length ≤ Frame.maxPayload := by
  have fits := scene.nameFits name named
  rw [Scene.hail, encodeHandshake_length, Handshake.prefixSize, Handshake.suffixSize, Frame.maxPayload]
  omega

/-- A step of the main task goes well. -/
theorem MainFine.turn {marked : Nat → Prop} {session session' : Client.Session} {net net' : Net}
    {op : Client.MainOp} {answer : op.Res} (clear : scene.Clear job files)
    (turned : Client.MainTurn scene.client phase op answer phase')
    (acted : Client.Session.mainSem op session answer session')
    (moved : Net.mainSem scene False op net answer net')
    (stands : MainAt scene marked session net.control phase)
    (reception : Reception scene net finished) (staff : Staff scene dataPorts session net)
    (fine : MainFine scene dataPorts net.control finished phase) :
    ∃ dataPorts, MainFine scene dataPorts net'.control finished phase' ∧
      Staff scene dataPorts session' net' ∧ Calls job phase' net net' := by
  have here := scene.found
  obtain ⟨name, named, parsed⟩ := clear.announced
  cases turned with
  | find =>
      obtain ⟨_, same⟩ := moved
      cases acted
      subst same
      exact ⟨dataPorts, trivial, staff, .refl ..⟩
  | missing =>
      rcases moved with ⟨found | ⟨fails, _⟩, _⟩
      · rw [here] at found
        cases found
      · exact fails.elim
  | measure =>
      obtain ⟨_, same⟩ := moved
      cases acted
      subst same
      exact ⟨dataPorts, trivial, staff, .refl ..⟩
  | connect =>
      obtain ⟨_, same⟩ := moved
      cases acted
      subst same
      refine ⟨dataPorts, ?_, staff, .refl ..⟩
      rw [Client.MainPhase.named, named]
      trivial
  | unreachable =>
      rcases moved with ⟨succeeded | ⟨fails, _⟩, _⟩
      · cases succeeded
      · exact fails.elim
  | announce =>
      obtain ⟨_, same⟩ := moved
      cases acted
      subst same
      exact ⟨dataPorts, trivial, staff, .refl ..⟩
  | unmeasured =>
      rcases moved with ⟨⟨_, _, succeeded⟩ | ⟨fails | missing, _⟩, _⟩
      · cases succeeded
      · exact fails.elim
      · cases here.symm.trans missing
  | open_ =>
      obtain ⟨_, same⟩ := moved
      cases acted
      subst same
      exact ⟨dataPorts, trivial, staff, .refl ..⟩
  | unopened =>
      obtain ⟨⟨⟨_, opened⟩, _⟩, _⟩ := moved
      rcases opened with ⟨_, succeeded⟩ | ⟨missing | fails, _⟩
      · cases succeeded
      · cases here.symm.trans missing
      · exact fails.elim
  | absorb | absorbed =>
      obtain ⟨_, same⟩ := moved
      cases acted
      subst same
      exact ⟨dataPorts, trivial, staff, .refl ..⟩
  | unread =>
      obtain ⟨⟨⟨_, read⟩, _⟩, _⟩ := moved
      rcases read with ⟨_, succeeded, _⟩ | ⟨fails, _⟩
      · cases succeeded
      · exact fails.elim
  | @greet fileSize message =>
      obtain ⟨lane, sent, same⟩ := moved
      cases acted
      obtain ⟨_, _, name', named', announces⟩ := stands
      cases named.symm.trans named'
      rcases sent with ⟨_, written⟩ | ⟨_, ⟨_, failed⟩, _⟩
      · subst same written announces
        refine ⟨dataPorts, trivial, staff.mono fun _ => id, ⟨_, rfl⟩, rfl, rfl, rfl,
          fun heralds other member => ?_, fun _ => List.concat_ne_nil _ _, .inl⟩
        rcases List.mem_append.mp member with earlier | last
        · exact heralds other earlier
        · cases List.mem_singleton.mp last
          exact ⟨hail_length named, parsed⟩
      · cases failed
  | mute =>
      obtain ⟨lane, sent, _⟩ := moved
      have open_ : net.control.dropped = false := by
        by_contra gone
        have two := reception.gone (by simpa using gone)
        refine reception.asked (fun silent => ?_) stands.2.1.unsent
        rw [silent] at two
        cases two
      cases (sent.fine open_).1
  | answered data status ports parsed' =>
      obtain ⟨lane, received, same⟩ := moved
      cases acted
      obtain ⟨measured, unspawned, unheard⟩ := stands
      have hears := fun phase' => reception.heard received same (by omega) job phase'
      obtain ⟨calls, data', answered, next, heard⟩ := hears (.answered scene.client _ status ports)
      cases answered
      rw [Lane.next, unheard] at next
      rw [unheard] at heard
      obtain ⟨offered, rfl, counted, _, open_⟩ := reception.offer data next
      rw [parseResponse_handshakeResponse] at parsed'
      cases parsed'
      have some_ : offered.take (offered.length % 2 ^ 8) ≠ [] := by
        have least : offered.length % 2 ^ 8 ≤ offered.length := Nat.mod_le _ _
        intro nothing
        have length := congrArg List.length nothing
        rw [List.length_take, List.length_nil] at length
        have ports := clear.served.ports
        rw [← counted] at ports
        omega
      have workers : 0 < Client.Main.numWorkers scene.client (offered.take (offered.length % 2 ^ 8)) :=
        (Client.Main.numWorkers_pos some_).mpr clear.served.parallel
      subst same
      refine ⟨offered.take (offered.length % 2 ^ 8), ?_, ⟨fun worker config found => ?_, fun port member => ?_,
        staff.quiet, staff.outcomes⟩, calls⟩
      · rw [Client.MainPhase.answered, if_pos rfl, if_neg (by simpa using some_)]
        refine .spawn measured some_ heard (fun entry member => ?_) []
        rw [Client.workerAssignments_eq workers, measured, clear.count] at member
        exact List.mem_zipIdx_iff_getElem?.mp member
      · cases (unspawned worker).symm.trans found
      · exact open_ port (List.mem_of_mem_take member)
  | garbled data error parsed' =>
      obtain ⟨lane, received, same⟩ := moved
      obtain ⟨_, _, unheard⟩ := stands
      obtain ⟨_, data', answered, next, _⟩ := reception.heard received same (by omega) job (.ending 1)
      cases answered
      rw [Lane.next, unheard] at next
      obtain ⟨offered, rfl, _⟩ := reception.offer data next
      rw [parseResponse_handshakeResponse] at parsed'
      cases parsed'
  | deaf error =>
      obtain ⟨lane, received, same⟩ := moved
      obtain ⟨_, _, unheard⟩ := stands
      obtain ⟨_, data', answered, _⟩ := reception.heard received same (by omega) job (.ending 1)
      cases answered
  | @spawn fileSize worker ports chunks handles rest =>
      cases acted
      cases moved
      obtain ⟨measured, rfl, some_, given, heard, shares⟩ := fine
      refine ⟨ports, .spawn measured some_ heard (fun entry member =>
        shares entry (List.mem_cons_of_mem _ member)) _, ⟨fun other config found => ?_, staff.open_,
          staff.quiet, staff.outcomes⟩, .refl ..⟩
      by_cases same : other = worker
      · subst same
        cases (Function.update_self ..).symm.trans found
        rw [measured]
        exact hired_workerConfig (shares _ List.mem_cons_self) given some_
      · exact staff.hired other config ((Function.update_of_ne same _ _).symm.trans found)
  | join outcome =>
      obtain ⟨finished, same⟩ := acted
      subst same
      cases moved
      obtain ⟨done, rfl⟩ := staff.outcomes _ _ finished
      refine ⟨dataPorts, .join ?_ fine.2 _, ⟨staff.hired, staff.open_, staff.quiet, staff.outcomes⟩,
        .refl ..⟩
      simp [fine.1, Client.Session.reported]
  | interrupted => cases acted.1.trans staff.quiet
  | @decide failed =>
      obtain ⟨_, same⟩ := acted
      subst same
      cases moved
      obtain ⟨rfl, heard⟩ := fine
      exact ⟨dataPorts, heard, staff, .refl ..⟩
  | confirm data =>
      obtain ⟨lane, received, same⟩ := moved
      cases acted
      obtain ⟨calls, data', answered, next, _⟩ :=
        reception.heard received same (le_of_eq fine) job (.ending (Client.finalCode data))
      cases answered
      rw [Lane.next, show net.control.down.read = 1 from fine] at next
      obtain ⟨rfl, finished⟩ := reception.status data next
      subst same
      exact ⟨dataPorts, ⟨rfl, finished⟩, ⟨staff.hired, staff.open_, staff.quiet, staff.outcomes⟩, calls⟩
  | unconfirmed error =>
      obtain ⟨lane, received, same⟩ := moved
      obtain ⟨_, data', answered, _⟩ := reception.heard received same (le_of_eq fine) job (.ending 1)
      cases answered
  | close =>
      cases acted
      cases moved
      exact ⟨dataPorts, fine, staff.mono fun _ => id, ⟨_, rfl⟩, rfl, rfl, rfl, id, id, fun _ => .inr ⟨_, rfl⟩⟩

end Main

end BeeSync.EndToEnd
