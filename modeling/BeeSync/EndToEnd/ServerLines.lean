import BeeSync.EndToEnd.WorkerLines

/-!
# What a data server task says when nothing fails

A task accepts every chunk that it is sent, and acknowledges it. It closes a connection only
when the worker has left.
-/

set_option autoImplicit false

namespace BeeSync.EndToEnd

open Arithmetic Encoding Interaction Server

/-- What a task leaves alone on the connections. -/
structure Gentle (task : Nat) (net net' : Net) : Prop where
  control : net'.control = net.control
  listening : net'.listening = net.listening
  tasks : net'.tasks = net.tasks
  permits : net'.permits = net.permits
  backlog : ∀ port, (net'.backlog port).Sublist (net.backlog port)
  serves : ∀ other, other ≠ task → net'.serves other = net.serves other
  others : ∀ worker, net.serves task ≠ some worker → net'.links worker = net.links worker
  written : ∀ worker, (net'.links worker).up.written = (net.links worker).up.written
  read : ∀ worker, (net.links worker).up.read ≤ (net'.links worker).up.read
  hungUp : ∀ worker, (net'.links worker).hungUp = (net.links worker).hungUp
  /-- Only a worker that has left is left. -/
  dropped : ∀ worker, (net.links worker).hungUp = false →
    (net'.links worker).dropped = (net.links worker).dropped

namespace Gentle

variable {task worker : Nat} {net : Net}

theorem refl (task : Nat) (net : Net) : Gentle task net net :=
  ⟨rfl, rfl, rfl, rfl, fun _ => .refl _, fun _ _ => rfl, fun _ _ => rfl, fun _ => rfl,
    fun _ => le_refl _, fun _ => rfl, fun _ _ => rfl⟩

theorem accept {port : UInt16} {others : List Nat} (waiting : net.backlog port = worker :: others) :
    Gentle task net (net.accept task port worker others) := by
  refine ⟨rfl, rfl, rfl, rfl, fun other => ?_, fun _ different => Function.update_of_ne different _ _,
    fun _ _ => rfl, fun _ => rfl, fun _ => le_refl _, fun _ => rfl, fun _ _ => rfl⟩
  by_cases same : other = port
  · subst same
    rw [waiting, show (net.accept task other worker others).backlog other = others from
      Function.update_self ..]
    exact List.sublist_cons_self ..
  · rw [show (net.accept task port worker others).backlog other = net.backlog other from
      Function.update_of_ne same _ _]

theorem setLink {link : Link} (served : net.serves task = some worker)
    (written : link.up.written = (net.links worker).up.written)
    (read : (net.links worker).up.read ≤ link.up.read)
    (hungUp : link.hungUp = (net.links worker).hungUp)
    (dropped : (net.links worker).hungUp = false → link.dropped = (net.links worker).dropped) :
    Gentle task net (net.setLink worker link) := by
  have elsewhere : ∀ other, other ≠ worker → (net.setLink worker link).links other = net.links other :=
    fun other different => Function.update_of_ne different _ _
  have here : (net.setLink worker link).links worker = link := Function.update_self ..
  have each : ∀ {property : Nat → Prop}, property worker →
      (∀ other, (net.setLink worker link).links other = net.links other → property other) →
        ∀ other, property other := by
    intro property mine theirs other
    by_cases same : other = worker
    · exact same ▸ mine
    · exact theirs other (elsewhere other same)
  refine ⟨rfl, rfl, rfl, rfl, fun _ => .refl _, fun _ _ => rfl,
    fun other different => elsewhere other ?_, ?_, ?_, ?_, ?_⟩
  · rintro rfl
    exact different served
  · exact each (by rw [here, written]) fun other same => by rw [same]
  · exact each (by rw [here]; exact read) fun other same => by rw [same]
  · exact each (by rw [here, hungUp]) fun other same => by rw [same]
  · exact each (by rw [here]; exact dropped) fun other same _ => by rw [same]

theorem hangUp (served : net.serves task = some worker) (left : (net.links worker).hungUp = true) :
    Gentle task net (net.hangUp task worker) := by
  have dropped : Gentle task net (net.setLink worker { net.links worker with dropped := true }) :=
    .setLink served rfl (le_refl _) rfl fun open_ => by cases open_.symm.trans left
  exact ⟨rfl, rfl, rfl, rfl, fun _ => .refl _, fun _ different => Function.update_of_ne different _ _,
    dropped.others, dropped.written, dropped.read, dropped.hungUp, dropped.dropped⟩

end Gentle

section Serving

variable [Blake3] (job : Job)

/-- Where a task stands with its worker. -/
def ServeAt (task : Nat) (net : Net) : ServePhase → Prop
  | .greeted => ∃ worker, net.serves task = some worker ∧ (net.links worker).up.read = 0
  | .telling _ flags => flags.length ≤ maxChunks
  | .received _ frame header | .sizing _ frame header _ => parseChunkHeader frame = some header ∧
      ∃ idx < job.handshake.numChunks, frame = job.frame idx
  | .leaving _ => ∃ worker, net.serves task = some worker ∧ (net.links worker).hungUp = true
  | .failing .. | .refused .. | .doomed _ | .dropping | .ended => False
  | _ => True

variable {job} {task : Nat} {net net' : Net} {port : UInt16} {phase phase' : ServePhase}

theorem ServeAt.mono (stands : ServeAt job task net phase) (serves : net'.serves task = net.serves task)
    (read : ∀ worker, net.serves task = some worker →
      (net'.links worker).up.read = (net.links worker).up.read)
    (left : ∀ worker, net.serves task = some worker → (net.links worker).hungUp = true →
      (net'.links worker).hungUp = true) :
    ServeAt job task net' phase := by
  cases phase with
  | greeted =>
      obtain ⟨worker, served, unread⟩ := stands
      exact ⟨worker, serves.trans served, (read worker served).trans unread⟩
  | leaving =>
      obtain ⟨worker, served, gone⟩ := stands
      exact ⟨worker, serves.trans served, left worker served gone⟩
  | _ => exact stands

/-- What a worker may say is short, and it is not nothing. -/
theorem frame_cases {scene : Scene} {files : Fs FilePath} (clear : scene.Clear job files) {frame : Bytes}
    (honest : frame = [Chunk.queryMagic] ∨ ∃ idx < job.handshake.numChunks, frame = job.frame idx) :
    frame.length ≤ Frame.maxPayload ∧ frame ≠ [] := by
  rcases honest with rfl | ⟨idx, _, rfl⟩
  · exact ⟨by decide, nofun⟩
  · refine ⟨clear.frame_short idx, fun nothing => ?_⟩
    have length := congrArg List.length nothing
    rw [Job.frame_length, List.length_nil, Chunk.headerSize] at length
    omega

theorem ServeAt.turn {scene : Scene} {files : Fs FilePath} {store store' : Store (Role Unit)}
    {op : DataOp} {answer : op.Res} {served : Option Nat} {marked : Set Nat}
    (clear : scene.Clear job files) (turned : ServeTurn port phase op answer phase')
    (acted : Store.dataSem False (Role.data task) op store answer store')
    (moved : Net.dataSem False task op net answer net')
    (registered : phase = .greeted → store.registry port ≠ none)
    (good : ∀ receiver state, phase.inner.holding = some (receiver, state) →
      state.params = job.receiver.params ∧ state.failed = false)
    (attends : phase.inner.Attends job served marked store.fs)
    (honest : ∀ worker, net.serves task = some worker → ∀ frame ∈ (net.links worker).up.written,
      frame = [Chunk.queryMagic] ∨ ∃ idx < job.handshake.numChunks, frame = job.frame idx)
    (unread : ∀ port worker, worker ∈ net.backlog port → (net.links worker).up.read = 0)
    (stands : ServeAt job task net phase) : ServeAt job task net' phase' ∧ Gentle task net net' := by
  have sends : ∀ {payload : Bytes} {answer : Except IoError Unit},
      Net.dataSem False task (.sendFrame payload) net answer net' →
        Gentle task net net' ∧ ((∃ error, answer = .error error) → ∃ worker,
          net'.serves task = some worker ∧ (net'.links worker).hungUp = true) := by
    rintro payload answer ⟨worker, lane, serving, sent, rfl⟩
    refine ⟨.setLink serving rfl (le_refl _) rfl fun _ => rfl, fun failed => ⟨worker, serving, ?_⟩⟩
    rw [show (net.setLink worker _).links worker = _ from Function.update_self ..]
    rcases sent with ⟨rfl, _⟩ | ⟨fails | left, _⟩
    · obtain ⟨error, failed⟩ := failed
      cases failed
    · exact fails.elim
    · exact left
  have hears : ∀ {answer : Except IoError Bytes}, Net.dataSem False task .recvFrame net answer net' →
      Gentle task net net' ∧
        ((∃ frame, answer = .ok frame ∧ (frame = [Chunk.queryMagic] ∨
          ∃ idx < job.handshake.numChunks, frame = job.frame idx)) ∨
        (∃ error, answer = .error error) ∧ ∃ worker,
          net'.serves task = some worker ∧ (net'.links worker).hungUp = true) := by
    rintro answer ⟨worker, lane, serving, received, rfl⟩
    have there : (net.setLink worker { net.links worker with up := lane }).links worker =
        { net.links worker with up := lane } := Function.update_self ..
    rcases received with ⟨frame, next, _, answered, rfl⟩ | ⟨fails | ⟨frame, next, long⟩ | ⟨left, _⟩, failed, rfl⟩
    · exact ⟨.setLink serving rfl (Nat.le_succ _) rfl fun _ => rfl, .inl ⟨frame, answered,
        honest worker serving frame (List.mem_of_getElem? next)⟩⟩
    · exact fails.elim
    · have short := (frame_cases clear (honest worker serving frame (List.mem_of_getElem? next))).1
      exact absurd short (not_le.mpr long)
    · refine ⟨.setLink serving rfl (le_refl _) rfl fun _ => rfl, .inr ⟨failed, worker, serving, ?_⟩⟩
      rw [there]
      exact left
  cases turned with
  | start =>
      obtain ⟨_, same⟩ := moved
      subst same
      exact ⟨trivial, .refl ..⟩
  | greet =>
      rcases moved with ⟨_, port, worker, others, _, waiting, same⟩ | ⟨fails, _⟩
      · subst same
        have listed : worker ∈ net.backlog port := by simp [waiting]
        exact ⟨⟨worker, Function.update_self .., unread port worker listed⟩, .accept waiting⟩
      · exact fails.elim
  | unaccepted =>
      rcases moved with ⟨succeeded, _⟩ | ⟨fails, _⟩
      · cases succeeded
      · exact fails.elim
  | find =>
      subst moved
      exact ⟨trivial, .refl ..⟩
  | missing => exact absurd acted.1.symm (registered rfl)
  | glance | goOn | count | place | placed | store | record | save | recorded =>
      subst moved
      exact ⟨trivial, .refl ..⟩
  | @giveUp receiver state broken =>
      cases (good receiver state rfl).2.symm.trans broken
  | deaf error =>
      obtain ⟨gentle, ⟨_, answered, _⟩ | ⟨_, left⟩⟩ := hears moved
      · cases answered
      · exact ⟨left, gentle⟩
  | dismissed =>
      obtain ⟨_, ⟨frame, answered, said⟩ | ⟨⟨_, failed⟩, _⟩⟩ := hears moved
      · cases answered
        exact absurd rfl (frame_cases clear said).2
      · cases failed
  | query => exact ⟨trivial, (hears moved).1⟩
  | crash frame headless noQuery =>
      obtain ⟨_, ⟨frame, answered, said⟩ | ⟨⟨_, failed⟩, _⟩⟩ := hears moved
      · cases answered
        obtain ⟨idx, _, same⟩ := said.resolve_left noQuery
        rw [same, Job.frame, parseChunkHeader_chunkMessage] at headless
        cases headless
      · cases failed
  | overlook frame header parsed short =>
      obtain ⟨_, ⟨frame, answered, query | ⟨idx, inRange, same⟩⟩ | ⟨⟨_, failed⟩, _⟩⟩ := hears moved
      · cases answered
        subst query
        cases parsed
      · cases answered
        subst same
        have params : job.receiver.params = job.receiver.params := rfl
        exact absurd (Job.frame_fits inRange params parsed).2.2 (not_le.mpr short)
      · cases failed
  | receive frame header parsed noQuery =>
      obtain ⟨gentle, ⟨frame, answered, said⟩ | ⟨⟨_, failed⟩, _⟩⟩ := hears moved
      · cases answered
        exact ⟨⟨parsed, said.resolve_left noQuery⟩, gentle⟩
      · cases failed
  | @counted receiver state =>
      subst moved
      refine ⟨?_, .refl ..⟩
      have numChunks : state.numChunks = job.handshake.numChunks :=
        congrArg FileReceiver.Params.numChunks (good receiver state rfl).1
      rw [ServeAt, state.sized, numChunks]
      exact job.handshake.numChunks_le
  | tell => exact ⟨trivial, (sends moved).1⟩
  | untold error =>
      obtain ⟨gentle, left⟩ := sends moved
      exact ⟨left ⟨error, rfl⟩, gentle⟩
  | size =>
      subst moved
      exact ⟨stands, .refl ..⟩
  | @ignore receiver frame header state misfit =>
      obtain ⟨parsed, idx, inRange, same⟩ := stands
      subst same
      exact absurd (Job.frame_fits inRange (good receiver state rfl).1 parsed).1 misfit
  | @refuse receiver frame header state corrupt =>
      obtain ⟨parsed, idx, inRange, same⟩ := stands
      subst same
      exact absurd (Job.frame_fits inRange (good receiver state rfl).1 parsed).2.1 corrupt
  | accept =>
      subst moved
      exact ⟨trivial, .refl ..⟩
  | fail => exact attends.2.2.elim
  | failed => exact stands.elim
  | unsaved ended => exact (attends.2.2.fine ended).elim
  | acknowledge => exact ⟨trivial, (sends moved).1⟩
  | reject => exact stands.elim
  | leave =>
      obtain ⟨worker, serving, left⟩ := stands
      obtain ⟨worker', serving', same⟩ := moved
      cases serving.symm.trans serving'
      subst same
      exact ⟨trivial, .hangUp serving left⟩
  | unwind => exact stands.elim
  | drop => exact stands.elim

/-- A task leaves the receiver in order. -/
theorem ServeAt.unfailed {receiver : ReceiverId} {state : FileReceiver}
    (turned : ServeTurn port phase (.unlock receiver state) () phase')
    (good : ∀ receiver state, phase.inner.holding = some (receiver, state) → state.failed = false)
    {served : Option Nat} {marked : Set Nat} {fs : Fs FilePath}
    (attends : phase.inner.Attends job served marked fs) (stands : ServeAt job task net phase) :
    state.failed = false := by
  cases turned with
  | goOn | giveUp | counted | ignore | refuse | accept | placed => exact good _ _ rfl
  | failed => exact stands.elim
  | @recorded receiver frame chunk state => exact good receiver state rfl
  | unsaved ended => exact (attends.2.2.fine ended).elim

/-- Whatever a task says is what its peer waits for. -/
theorem ServeAt.grants {payload frame : Bytes} {answer : Except IoError Unit}
    (stands : ServeAt job task net phase) (turned : ServeTurn port phase (.sendFrame payload) answer phase')
    (owed : owes phase = some frame) : Grants frame payload := by
  cases turned with
  | tell | untold =>
      cases owed
      refine ⟨?_, fun other => absurd rfl other⟩
      have few := markedIndices_length_le.trans (stands : _ ≤ maxChunks)
      rw [maxChunks] at few
      rw [queryResponse_length, Frame.maxPayload]
      omega
  | acknowledge => exact ⟨by decide, fun _ => rfl⟩
  | reject => exact stands.elim

end Serving

end BeeSync.EndToEnd
