import BeeSync.Interaction.ThreadPool

/-!
# What each thread has done

The requests of every thread are written down with their answers. The log of a thread that
never restarts is a path through its program, so what is known about the program by itself
holds of the thread in every interleaving.
-/

set_option autoImplicit false

namespace Interaction

variable {Tid : Type} {S : Tid → Sig} {Ctl : Tid → Type} {World : Type}

/-- A world, and what each thread has requested so far. -/
structure Logged (S : Tid → Sig) (World : Type) where
  world : World
  log : (tid : Tid) → List (Event (S tid))

variable [DecidableEq Tid]

namespace Logged

variable (before : Logged S World) (tid : Tid) (event : Event (S tid)) (world : World)

def note : Logged S World :=
  ⟨world, Function.update before.log tid (before.log tid ++ [event])⟩

@[simp] theorem note_world : (before.note tid event world).world = world := rfl

@[simp] theorem note_log_self :
    (before.note tid event world).log tid = before.log tid ++ [event] :=
  Function.update_self ..

variable {tid} in
theorem note_log_other {other : Tid} (different : other ≠ tid) :
    (before.note tid event world).log other = before.log other :=
  Function.update_of_ne different ..

variable {before} in
theorem mem_note {other : Tid} {earlier : Event (S other)} (member : earlier ∈ before.log other) :
    earlier ∈ (before.note tid event world).log other := by
  by_cases same : other = tid
  · subst same
    rw [note_log_self]
    exact List.mem_append_left _ member
  · rwa [note_log_other _ _ _ same]

/-- Several requests of one thread. -/
def notes (events : List (Event (S tid))) : Logged S World :=
  ⟨world, Function.update before.log tid (before.log tid ++ events)⟩

theorem notes_nil : before.notes tid before.world [] = before := by
  rw [notes, List.append_nil, Function.update_eq_self]

@[simp] theorem notes_log_self (events : List (Event (S tid))) :
    (before.notes tid world events).log tid = before.log tid ++ events :=
  Function.update_self ..

variable {tid} in
theorem notes_log_other (events : List (Event (S tid))) {other : Tid} (different : other ≠ tid) :
    (before.notes tid world events).log other = before.log other :=
  Function.update_of_ne different ..

theorem note_notes (events : List (Event (S tid))) (world' : World) :
    (before.notes tid world' events).note tid event world =
      before.notes tid world (events ++ [event]) := by
  rw [note, notes_log_self, notes, notes, Function.update_idem, List.append_assoc]

end Logged

/-- The same threads, whose requests are written down. -/
def System.logged (sys : System Tid S Ctl World) : System Tid S Ctl (Logged S World) where
  sem tid op before answer after := ∃ world,
    sys.sem tid op before.world answer world ∧ after = before.note tid ⟨op, answer⟩ world
  again := sys.again

/-- One more request of a thread that runs by itself. -/
theorem Runs.notes {sys : System Tid S Ctl World} {before after : Logged S World} {tid : Tid}
    {op : (S tid).Op} {next : (S tid).Res op → Prog (S tid) (Ctl tid)}
    {rest : Prog (S tid) (Ctl tid)} {world middle : World} {events : List (Event (S tid))}
    (answer : (S tid).Res op) (acted : sys.sem tid op world answer middle)
    (ran : Runs (sys.logged.sem tid) (next answer)
      (before.notes tid middle (events ++ [⟨op, answer⟩])) rest after) :
    Runs (sys.logged.sem tid) (.vis op next) (before.notes tid world events) rest after := by
  refine .vis answer ⟨middle, acted, rfl⟩ ?_
  rw [Logged.note_notes]
  exact ran

/-- What a thread has done leads from where it began to where it stands. -/
theorem Reaches.path {sys : System Tid S Ctl World} {allowed : Label S → Prop}
    {start pool : Pool S Ctl (Logged S World)} (reached : Reaches sys.logged allowed start pool)
    (once : ∀ tid value, sys.again tid value = none) (fresh : ∀ tid, start.world.log tid = [])
    (tid : Tid) : Prog.Path (start.prog tid) (pool.world.log tid) (pool.prog tid) := by
  induction reached with
  | refl =>
      rw [fresh]
      exact .nil
  | step _ step _ ih =>
      cases step with
      | restart _ again => cases (once _ _).symm.trans again
      | @act acting op next answer world current acted =>
          obtain ⟨world, _, rfl⟩ := acted
          by_cases same : tid = acting
          · subst same
            rw [current] at ih
            rw [Pool.resume_prog_self, Pool.resume_world, Logged.note_log_self]
            exact ih.snoc answer
          · rw [Pool.resume_prog_other _ same, Pool.resume_world, Logged.note_log_other _ _ _ same]
            exact ih

end Interaction
