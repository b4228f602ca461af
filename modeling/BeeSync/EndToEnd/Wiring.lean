import BeeSync.EndToEnd.Standing

/-!
# Who is connected to whom

The connection of a worker waits at one port at most, and at most one data server task
serves it. A worker that has not dialled yet is nowhere.
-/

set_option autoImplicit false

namespace BeeSync.EndToEnd

open Encoding Interaction Server

/-- The worker has tried to connect. -/
def Dialled : Client.WorkerPhase → Prop
  | .waiting | .begun _ | .connecting _ => False
  | _ => True

theorem Dialled.turn [Blake3] {phase phase' : Client.WorkerPhase} {op : Client.WorkerOp}
    {answer : op.Res} (turned : Client.WorkerTurn phase op answer phase') (dialled : Dialled phase) :
    Dialled phase' := by
  cases turned with
  | start | dismissed | begin_ | connect | unreachable => cases dialled
  | @read round offset size data =>
      cases round.config.retries <;> trivial
  | @refused round parts remaining =>
      cases remaining <;> trivial
  | _ => trivial

structure Wired (dialled : Nat → Prop) (net : Net) : Prop where
  waits : ∀ port worker, worker ∈ net.backlog port → dialled worker
  served : ∀ task worker, net.serves task = some worker → dialled worker
  once : ∀ port, (net.backlog port).Nodup
  apart : ∀ port other worker, worker ∈ net.backlog port → worker ∈ net.backlog other → port = other
  unserved : ∀ port task worker, worker ∈ net.backlog port → net.serves task ≠ some worker
  sole : ∀ task other worker, net.serves task = some worker → net.serves other = some worker →
    task = other

/-- Nobody is connected who was not. -/
structure Net.Narrows (net net' : Net) : Prop where
  backlog : ∀ port, (net'.backlog port).Sublist (net.backlog port)
  serves : ∀ task worker, net'.serves task = some worker → net.serves task = some worker

namespace Net.Narrows

variable {net net' : Net}

theorem of_eq (backlog : net'.backlog = net.backlog) (serves : net'.serves = net.serves) :
    net.Narrows net' :=
  ⟨fun _ => backlog ▸ .refl _, fun _ _ found => serves ▸ found⟩

theorem close (net : Net) (ports : List UInt16) : net.Narrows (net.close ports) := by
  refine ⟨fun port => ?_, fun _ _ found => found⟩
  rw [Net.close]
  dsimp only
  split
  · exact List.nil_sublist _
  · exact .refl _

variable {scene : Scene} {faults : Prop}

theorem main {op : Client.MainOp} {answer : op.Res}
    (acted : Net.mainSem scene faults op net answer net') : net.Narrows net' := by
  cases op with
  | isFile | metadataLen | fs | connect =>
      obtain ⟨_, same⟩ := acted
      rw [same]
      exact .of_eq rfl rfl
  | sendFrame | recvFrame | recvFinal =>
      obtain ⟨_, _, same⟩ := acted
      rw [same]
      exact .of_eq rfl rfl
  | _ =>
      cases acted
      exact .of_eq rfl rfl

theorem control {op : ControlOp} {answer : op.Res}
    (acted : Net.controlSem scene faults op net answer net') : net.Narrows net' := by
  cases op with
  | createDirAll =>
      obtain ⟨_, same⟩ := acted
      rw [same]
      exact .of_eq rfl rfl
  | recvFrame | sendFrame | spawnDataServer =>
      obtain ⟨_, _, same⟩ := acted
      rw [same]
      exact .of_eq rfl rfl
  | pollStream =>
      cases answer with
      | idle =>
          cases acted
          exact .of_eq rfl rfl
      | data =>
          obtain ⟨_, _, same⟩ := acted
          rw [same]
          exact .of_eq rfl rfl
      | disconnected =>
          obtain ⟨_, same⟩ := acted
          rw [same]
          exact .of_eq rfl rfl
  | tryReservePorts | bind =>
      obtain ⟨_, _, same⟩ | ⟨_, _, same⟩ := acted
      · first
          | rw [same]; exact .of_eq rfl rfl
          | rw [same.2]; exact .of_eq rfl rfl
      · rw [same]
        exact .of_eq rfl rfl
  | dropSockets ports | dropDataSocks ports =>
      cases acted
      exact .close net ports
  | _ =>
      cases acted
      exact .of_eq rfl rfl

end Net.Narrows

namespace Wired

variable {dialled dialled' : Nat → Prop} {net net' : Net}

theorem initial : Wired dialled .initial where
  waits _ _ listed := by cases listed
  served _ _ found := by cases found
  once _ := .nil
  apart _ _ _ listed := by cases listed
  unserved _ _ _ listed := by cases listed
  sole _ _ _ found := by cases found

theorem narrow (wired : Wired dialled net) (narrows : net.Narrows net')
    (more : ∀ worker, dialled worker → dialled' worker) : Wired dialled' net' := by
  obtain ⟨backlog, serves⟩ := narrows
  constructor
  · exact fun port worker listed => more worker (wired.waits port worker ((backlog port).mem listed))
  · exact fun task worker found => more worker (wired.served task worker (serves task worker found))
  · exact fun port => (wired.once port).sublist (backlog port)
  · exact fun port other worker listed listed' =>
      wired.apart port other worker ((backlog port).mem listed) ((backlog other).mem listed')
  · exact fun port task worker listed found =>
      wired.unserved port task worker ((backlog port).mem listed) (serves task worker found)
  · exact fun task other worker found found' =>
      wired.sole task other worker (serves task worker found) (serves other worker found')

theorem connect (wired : Wired dialled net) {worker : Nat} (new : ¬ dialled worker)
    (more : ∀ other, dialled other → dialled' other) (dials : dialled' worker) (port : UInt16) :
    Wired dialled' (net.connect worker port) := by
  have listed_iff : ∀ {other : UInt16} {worker' : Nat},
      worker' ∈ (net.connect worker port).backlog other ↔
        worker' ∈ net.backlog other ∨ other = port ∧ worker' = worker := by
    intro other worker'
    by_cases same : other = port
    · subst same
      simp [Net.connect]
    · simp [Net.connect, same]
  have nowhere : ∀ other, worker ∉ net.backlog other :=
    fun other listed => new (wired.waits other worker listed)
  constructor
  · intro other worker' listed
    obtain earlier | ⟨_, rfl⟩ := listed_iff.mp listed
    · exact more worker' (wired.waits other worker' earlier)
    · exact dials
  · exact fun task worker' found => more worker' (wired.served task worker' found)
  · intro other
    by_cases same : other = port
    · subst same
      simp only [Net.connect, Function.update_self]
      refine List.nodup_append.mpr ⟨wired.once other, List.nodup_singleton _, ?_⟩
      intro worker' listed _ last same
      cases List.mem_singleton.mp last
      exact nowhere other (same ▸ listed)
    · simp only [Net.connect, Function.update_of_ne same]
      exact wired.once other
  · intro other other' worker' listed listed'
    obtain earlier | ⟨here, rfl⟩ := listed_iff.mp listed
    · obtain earlier' | ⟨_, rfl⟩ := listed_iff.mp listed'
      · exact wired.apart other other' worker' earlier earlier'
      · exact absurd earlier (nowhere other)
    · obtain earlier' | ⟨here', _⟩ := listed_iff.mp listed'
      · exact absurd earlier' (nowhere other')
      · exact here.trans here'.symm
  · intro other task worker' listed found
    obtain earlier | ⟨_, rfl⟩ := listed_iff.mp listed
    · exact wired.unserved other task worker' earlier found
    · exact new (wired.served task worker' found)
  · exact wired.sole

theorem accept (wired : Wired dialled net) {port : UInt16} {worker : Nat} {others : List Nat}
    (waiting : net.backlog port = worker :: others) (task : Nat) :
    Wired dialled (net.accept task port worker others) := by
  have listed : worker ∈ net.backlog port := waiting ▸ List.mem_cons_self
  have fewer : ∀ {other : UInt16} {worker' : Nat},
      worker' ∈ (net.accept task port worker others).backlog other →
        worker' ∈ net.backlog other ∧ worker' ≠ worker := by
    intro other worker' listed'
    by_cases same : other = port
    · subst same
      simp only [Net.accept, Function.update_self] at listed'
      have distinct := wired.once other
      rw [waiting] at distinct ⊢
      refine ⟨List.mem_cons_of_mem _ listed', ?_⟩
      rintro rfl
      exact (List.nodup_cons.mp distinct).1 listed'
    · simp only [Net.accept, Function.update_of_ne same] at listed'
      refine ⟨listed', ?_⟩
      rintro rfl
      exact same (wired.apart other port worker' listed' listed)
  have serves : ∀ {other worker' : Nat},
      (net.accept task port worker others).serves other = some worker' →
        other = task ∧ worker' = worker ∨ net.serves other = some worker' := by
    intro other worker' found
    by_cases same : other = task
    · subst same
      simp only [Net.accept, Function.update_self, Option.some.injEq] at found
      exact .inl ⟨rfl, found.symm⟩
    · simp only [Net.accept, Function.update_of_ne same] at found
      exact .inr found
  constructor
  · exact fun other worker' listed' => wired.waits other worker' (fewer listed').1
  · intro other worker' found
    obtain ⟨_, rfl⟩ | earlier := serves found
    · exact wired.waits port worker' listed
    · exact wired.served other worker' earlier
  · intro other
    by_cases same : other = port
    · subst same
      have distinct := wired.once other
      rw [waiting] at distinct
      simp only [Net.accept, Function.update_self]
      exact (List.nodup_cons.mp distinct).2
    · simp only [Net.accept, Function.update_of_ne same]
      exact wired.once other
  · exact fun other other' worker' listed' listed'' =>
      wired.apart other other' worker' (fewer listed').1 (fewer listed'').1
  · intro other task' worker' listed' found
    obtain ⟨earlier, different⟩ := fewer listed'
    obtain ⟨_, here⟩ | before := serves found
    · exact different here
    · exact wired.unserved other task' worker' earlier before
  · intro task' other' worker' found found'
    obtain ⟨here, rfl⟩ | earlier := serves found
    · obtain ⟨here', _⟩ | earlier' := serves found'
      · exact here.trans here'.symm
      · exact absurd earlier' (wired.unserved port other' worker' listed)
    · obtain ⟨_, rfl⟩ | earlier' := serves found'
      · exact absurd earlier (wired.unserved port task' worker' listed)
      · exact wired.sole task' other' worker' earlier earlier'

theorem data (wired : Wired dialled net) {faults : Prop} {task : Nat} {op : DataOp} {answer : op.Res}
    (moved : Net.dataSem faults task op net answer net') : Wired dialled net' := by
  have unchanged : ∀ {link : Link} {worker : Nat}, Wired dialled (net.setLink worker link) :=
    wired.narrow (.of_eq rfl rfl) fun _ => id
  cases op with
  | start =>
      obtain ⟨_, same⟩ := moved
      subst same
      exact wired
  | accept =>
      obtain ⟨_, port, worker, others, _, waiting, same⟩ | ⟨_, _, same⟩ := moved
      · subst same
        exact wired.accept waiting task
      · subst same
        exact wired
  | recvFrame | sendFrame =>
      obtain ⟨worker, lane, _, _, same⟩ := moved
      subst same
      exact unchanged
  | closeStream =>
      obtain ⟨worker, served, same⟩ := moved
      subst same
      refine wired.narrow ⟨fun _ => .refl _, fun other worker' found => ?_⟩ fun _ => id
      by_cases same : other = task
      · subst same
        cases (Function.update_self ..).symm.trans found
      · exact (Function.update_of_ne same _ _).symm.trans found
  | dropListener port =>
      cases moved
      exact wired.narrow (.close net [port]) fun _ => id
  | getReceiver | fs | lock | unlock =>
      cases moved
      exact wired

end Wired

end BeeSync.EndToEnd
