import BeeSync.Interaction.ThreadPool

/-!
# Programs by phases

A phase says where a thread stands; turns say what it may request there and where each
answer leads. A program that follows the turns can be forgotten: what a pool of such
programs does to the world, the phases do as well.
-/

set_option autoImplicit false

namespace Interaction

/-- Where an answered request leads from a phase. -/
abbrev Turns (S : Sig) (Phase : Type) := Phase → (op : S.Op) → S.Res op → Phase → Prop

variable {S T : Sig} {Phase α β ε : Type}

/-- Every request of the program is a turn from the phase it has come to, whatever the
answer, and every return is in a phase it may end in. -/
def Prog.Follows (turn : Turns S Phase) (final : α → Phase → Prop) : Prog S α → Phase → Prop
  | .ret value, phase => final value phase
  | .vis op next, phase => ∀ answer, ∃ phase', turn phase op answer phase' ∧
      (next answer).Follows turn final phase'

namespace Prog.Follows

variable {turn : Turns S Phase} {final : α → Phase → Prop}

theorem mono {program : Prog S α} {final' : α → Phase → Prop} {phase : Phase}
    (follows : program.Follows turn final phase)
    (weaker : ∀ value phase, final value phase → final' value phase) :
    program.Follows turn final' phase := by
  induction program generalizing phase with
  | ret value => exact weaker value phase follows
  | vis op next ih =>
      intro answer
      obtain ⟨phase', turned, later⟩ := follows answer
      exact ⟨phase', turned, ih answer later⟩

theorem bind {program : Prog S α} {rest : α → Prog S β} {final' : β → Phase → Prop} {phase : Phase}
    (follows : program.Follows turn final phase)
    (later : ∀ value phase, final value phase → (rest value).Follows turn final' phase) :
    (program.bind rest).Follows turn final' phase := by
  induction program generalizing phase with
  | ret value => exact later value phase follows
  | vis op next ih =>
      intro answer
      obtain ⟨phase', turned, further⟩ := follows answer
      exact ⟨phase', turned, ih answer further⟩

theorem attempt {program : Prog S (Except ε α)} {rest : α → Prog S (Except ε β)}
    {middle : Except ε α → Phase → Prop} {final' : Except ε β → Phase → Prop} {phase : Phase}
    (follows : program.Follows turn middle phase)
    (stopped : ∀ error phase, middle (.error error) phase → final' (.error error) phase)
    (later : ∀ value phase, middle (.ok value) phase → (rest value).Follows turn final' phase) :
    (program.attempt rest).Follows turn final' phase := by
  refine follows.bind fun result phase' reached => ?_
  cases result with
  | ok value => exact later value phase' reached
  | error error => exact stopped error phase' reached

theorem recover {program : Prog S (Except ε α)} {failed : ε → Prog S β} {rest : α → Prog S β}
    {middle : Except ε α → Phase → Prop} {final' : β → Phase → Prop} {phase : Phase}
    (follows : program.Follows turn middle phase)
    (stopped : ∀ error phase, middle (.error error) phase →
      (failed error).Follows turn final' phase)
    (later : ∀ value phase, middle (.ok value) phase → (rest value).Follows turn final' phase) :
    (program.recover failed rest).Follows turn final' phase := by
  refine follows.bind fun result phase' reached => ?_
  cases result with
  | ok value => exact later value phase' reached
  | error error => exact stopped error phase' reached

theorem uniform {allowed : S.Op → Prop} {program : Prog S α} {phase : Phase}
    (all : program.All allowed)
    (stays : ∀ op, allowed op → ∀ answer, turn phase op answer phase)
    (ends : ∀ value, final value phase) : program.Follows turn final phase := by
  induction program with
  | ret value => exact ends value
  | vis op next ih => exact fun answer => ⟨phase, stays op all.1 answer, ih answer (all.2 answer)⟩

theorem lift {Phase' : Type} {turn' : Turns S Phase'} (whole : Phase → Phase')
    (turns : ∀ phase op answer phase', turn phase op answer phase' →
      turn' (whole phase) op answer (whole phase'))
    {program : Prog S α} {phase : Phase} (follows : program.Follows turn final phase) :
    program.Follows turn' (fun value reached => ∃ phase', reached = whole phase' ∧
      final value phase') (whole phase) := by
  induction program generalizing phase with
  | ret value => exact ⟨phase, rfl, follows⟩
  | vis op next ih =>
      intro answer
      obtain ⟨phase', turned, later⟩ := follows answer
      exact ⟨whole phase', turns phase op answer phase' turned, ih answer later⟩

/-- The same program over a larger interface, by the phases of a larger whole. -/
theorem embed {Phase' : Type} {turn' : Turns T Phase'} (whole : Phase → Phase')
    {op : S.Op → T.Op} {answer : (o : S.Op) → T.Res (op o) → S.Res o}
    (turns : ∀ phase o given phase', turn phase o (answer o given) phase' →
      turn' (whole phase) (op o) given (whole phase'))
    {program : Prog S α} {phase : Phase} (follows : program.Follows turn final phase) :
    (program.embed op answer).Follows turn' (fun value reached => ∃ phase',
      reached = whole phase' ∧ final value phase') (whole phase) := by
  induction program generalizing phase with
  | ret value => exact ⟨phase, rfl, follows⟩
  | vis o next ih =>
      intro given
      obtain ⟨phase', turned, later⟩ := follows (answer o given)
      exact ⟨whole phase', turns phase o given phase' turned, ih _ later⟩

end Prog.Follows

section Follow

variable {Part World : Type} {turn : Turns S Phase} {final : α → Phase → Prop}
  {sem : (op : S.Op) → Part → S.Res op → Part → Prop} {within : Phase → Prop}
  {program rest : Prog S α} {phase : Phase} {after : Part}

theorem Runs.follows_kept {before : Part} {kept : Phase → Prop}
    (stays : ∀ phase op answer phase', turn phase op answer phase' → kept phase → kept phase')
    (follows : program.Follows turn final phase) (initial : kept phase)
    (ran : Runs sem program before rest after) :
    ∃ phase', kept phase' ∧ rest.Follows turn final phase' := by
  induction ran generalizing phase with
  | refl => exact ⟨phase, initial, follows⟩
  | vis answer _ _ ih =>
      obtain ⟨middle, turned, later⟩ := follows answer
      exact ih later (stays _ _ _ _ turned initial)

/-- A program that runs over a part of a world runs over the whole of it, if the turns it may
take can be followed there. It never leaves the phases that it ends within. -/
theorem Runs.follow {sem' : (op : S.Op) → World → S.Res op → World → Prop} (part : World → Part)
    (kept : Phase → World → Prop)
    (leaves : ∀ phase op answer phase', turn phase op answer phase' → ¬ within phase → ¬ within phase')
    (ends : ∀ phase, rest.Follows turn final phase → within phase)
    (acts : ∀ phase op answer phase' world after, kept phase world → turn phase op answer phase' →
      within phase' → sem op (part world) answer after →
        ∃ world', sem' op world answer world' ∧ part world' = after ∧ kept phase' world')
    {world : World} (follows : program.Follows turn final phase) (initial : kept phase world)
    (ran : Runs sem program (part world) rest after) :
    ∃ world' phase', Runs sem' program world rest world' ∧ part world' = after ∧
      kept phase' world' ∧ rest.Follows turn final phase' := by
  generalize here : part world = before at ran
  induction ran generalizing world phase with
  | refl => exact ⟨world, phase, .refl, here, initial, follows⟩
  | @vis op next rest before middle after answer acted ran ih =>
      subst here
      obtain ⟨phase₁, turned, later⟩ := follows answer
      have inside : within phase₁ := by
        by_contra outside
        obtain ⟨last, left, further⟩ := ran.follows_kept leaves later outside
        exact left (ends last further)
      obtain ⟨world', acted', here', kept'⟩ := acts _ _ _ _ _ _ initial turned inside acted
      obtain ⟨last, phase', ran, there, kept'', further⟩ := ih ends later kept' here'
      exact ⟨last, phase', .vis answer acted' ran, there, kept'', further⟩

end Follow

section Pools

variable {Tid : Type} [DecidableEq Tid] {S : Tid → Sig} {Ctl : Tid → Type} {World : Type}
  {Phase : Tid → Type}

/-- The phases of all threads and the shared world. -/
structure Stance (Phase : Tid → Type) (World : Type) where
  phase : (tid : Tid) → Phase tid
  world : World

/-- One thread takes a turn. -/
inductive Move (sys : System Tid S Ctl World) (allowed : Label S → Prop)
    (turn : (tid : Tid) → Turns (S tid) (Phase tid)) :
    Stance Phase World → Stance Phase World → Prop where
  | act {stance : Stance Phase World} {tid : Tid} {op : (S tid).Op} {answer : (S tid).Res op}
      {phase : Phase tid} {world : World} :
      turn tid (stance.phase tid) op answer phase → sys.sem tid op stance.world answer world →
      allowed ⟨tid, op, answer⟩ →
      Move sys allowed turn stance ⟨Function.update stance.phase tid phase, world⟩

/-- Any number of turns. -/
def Moves (sys : System Tid S Ctl World) (allowed : Label S → Prop)
    (turn : (tid : Tid) → Turns (S tid) (Phase tid)) :
    Stance Phase World → Stance Phase World → Prop :=
  Relation.ReflTransGen (Move sys allowed turn)

variable {sys : System Tid S Ctl World} {allowed : Label S → Prop}
  {turn : (tid : Tid) → Turns (S tid) (Phase tid)}

theorem Moves.invariant {start stance : Stance Phase World}
    (moved : Moves sys allowed turn start stance) (kept : Stance Phase World → Prop)
    (initial : kept start)
    (step : ∀ before after, kept before → Move sys allowed turn before after → kept after) :
    kept stance := by
  induction moved with
  | refl => exact initial
  | tail _ last ih => exact step _ _ ih last

/-- A pool of programs that follow their turns moves through phases. -/
theorem Reaches.moves {final : (tid : Tid) → Ctl tid → Phase tid → Prop}
    {start pool : Pool S Ctl World} {phase : (tid : Tid) → Phase tid}
    (reached : Reaches sys allowed start pool)
    (begins : ∀ tid, (start.prog tid).Follows (turn tid) (final tid) (phase tid))
    (loops : ∀ tid value rest, sys.again tid value = some rest → ∀ phase, final tid value phase →
      rest.Follows (turn tid) (final tid) phase) :
    ∃ phase', Moves sys allowed turn ⟨phase, start.world⟩ ⟨phase', pool.world⟩ ∧
      ∀ tid, (pool.prog tid).Follows (turn tid) (final tid) (phase' tid) := by
  induction reached with
  | refl => exact ⟨phase, .refl, begins⟩
  | step _ stepped permitted ih =>
      obtain ⟨phase', moved, follows⟩ := ih
      cases stepped with
      | @act tid op next answer world current acted =>
          have mine := follows tid
          rw [current] at mine
          obtain ⟨later, turned, further⟩ := mine answer
          refine ⟨Function.update phase' tid later,
            moved.tail (.act turned acted (permitted _ rfl)), fun other => ?_⟩
          by_cases same : other = tid
          · subst same
            rw [Pool.resume_prog_self, Function.update_self]
            exact further
          · rw [Pool.resume_prog_other _ same, Function.update_of_ne same]
            exact follows other
      | @restart tid value rest current again =>
          refine ⟨phase', moved, fun other => ?_⟩
          by_cases same : other = tid
          · subst same
            have mine := follows other
            rw [current] at mine
            rw [Pool.resume_prog_self]
            exact loops other value rest again _ mine
          · rw [Pool.resume_prog_other _ same]
            exact follows other

end Pools

end Interaction
