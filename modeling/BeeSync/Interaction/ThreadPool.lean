import BeeSync.Interaction.Interference
import Mathlib.Logic.Function.Basic

/-!
# Pools of interacting threads

Threads share one world and are interleaved operation by operation. A thread may
restart itself when its program returns, which is how an endless service loop is
expressed over finite programs. The main result is adequacy: threads that each
meet their protocol keep the invariant and their obligations in every state that
any interleaving reaches.
-/

set_option autoImplicit false

namespace Interaction

universe u

variable {Tid : Type} {S : Tid → Sig} {Ctl : Tid → Type} {World : Type}

/-- How the threads act on the world, and which returns restart a thread. -/
structure System (Tid : Type) (S : Tid → Sig) (Ctl : Tid → Type) (World : Type) where
  sem : (tid : Tid) → (op : (S tid).Op) → World → (S tid).Res op → World → Prop
  again : (tid : Tid) → Ctl tid → Option (Prog (S tid) (Ctl tid))

/-- The runs whose operations all meet a condition on the world they begin in and on what
they are answered. -/
def System.guarded (sys : System Tid S Ctl World)
    (guard : (tid : Tid) → (op : (S tid).Op) → World → (S tid).Res op → Prop) :
    System Tid S Ctl World where
  sem tid op before answer after := guard tid op before answer ∧ sys.sem tid op before answer after
  again := sys.again

/-- The runs that meet a condition if it is asked for. -/
def System.guardedIf (sys : System Tid S Ctl World) (asked : Prop)
    (guard : (tid : Tid) → (op : (S tid).Op) → World → (S tid).Res op → Prop) :
    System Tid S Ctl World :=
  sys.guarded fun tid op before answer => asked → guard tid op before answer

theorem System.guardedIf_of_asked {sys : System Tid S Ctl World} {asked : Prop} (holds : asked)
    (guard : (tid : Tid) → (op : (S tid).Op) → World → (S tid).Res op → Prop) :
    sys.guardedIf asked guard = sys.guarded guard := by
  have same : (fun tid op before answer => asked → guard tid op before answer) = guard := by
    funext tid op before answer
    exact propext (forall_prop_of_true holds)
  rw [System.guardedIf, same]

/-- What every thread has left to do, and the shared world. -/
structure Pool (S : Tid → Sig) (Ctl : Tid → Type) (World : Type) where
  prog : (tid : Tid) → Prog (S tid) (Ctl tid)
  world : World

/-- An observable step: who acted, with which operation, and what it answered. -/
structure Label (S : Tid → Sig) where
  tid : Tid
  op : (S tid).Op
  answer : (S tid).Res op

variable [DecidableEq Tid]

/-- Replace what one thread has left to do. -/
def Pool.resume (pool : Pool S Ctl World) (tid : Tid) (rest : Prog (S tid) (Ctl tid))
    (world : World) : Pool S Ctl World :=
  ⟨Function.update pool.prog tid rest, world⟩

@[simp] theorem Pool.resume_world (pool : Pool S Ctl World) (tid : Tid)
    (rest : Prog (S tid) (Ctl tid)) (world : World) :
    (pool.resume tid rest world).world = world := rfl

@[simp] theorem Pool.resume_prog_self (pool : Pool S Ctl World) (tid : Tid)
    (rest : Prog (S tid) (Ctl tid)) (world : World) :
    (pool.resume tid rest world).prog tid = rest := by
  simp only [Pool.resume, Function.update_self]

theorem Pool.resume_prog_other (pool : Pool S Ctl World) {tid other : Tid}
    (different : other ≠ tid) (rest : Prog (S tid) (Ctl tid)) (world : World) :
    (pool.resume tid rest world).prog other = pool.prog other := by
  simp only [Pool.resume, Function.update_of_ne different]

/-- One scheduling decision: a thread acts, or restarts after returning. -/
inductive Step (sys : System Tid S Ctl World) :
    Pool S Ctl World → Option (Label S) → Pool S Ctl World → Prop where
  | act {pool : Pool S Ctl World} {tid : Tid} {op : (S tid).Op}
      {next : (S tid).Res op → Prog (S tid) (Ctl tid)} {answer : (S tid).Res op}
      {world : World} :
      pool.prog tid = .vis op next → sys.sem tid op pool.world answer world →
      Step sys pool (some ⟨tid, op, answer⟩) (pool.resume tid (next answer) world)
  | restart {pool : Pool S Ctl World} {tid : Tid} {value : Ctl tid}
      {rest : Prog (S tid) (Ctl tid)} :
      pool.prog tid = .ret value → sys.again tid value = some rest →
      Step sys pool none (pool.resume tid rest pool.world)

/-- States reached from a start by steps whose labels are all allowed. -/
inductive Reaches (sys : System Tid S Ctl World) (allowed : Label S → Prop)
    (start : Pool S Ctl World) : Pool S Ctl World → Prop where
  | refl : Reaches sys allowed start start
  | step {pool pool' : Pool S Ctl World} {label : Option (Label S)} :
      Reaches sys allowed start pool → Step sys pool label pool' →
      (∀ shown, label = some shown → allowed shown) → Reaches sys allowed start pool'

theorem Reaches.mono {sys : System Tid S Ctl World} {allowed allowed' : Label S → Prop}
    {start pool : Pool S Ctl World} (reached : Reaches sys allowed start pool)
    (weaker : ∀ label, allowed label → allowed' label) : Reaches sys allowed' start pool := by
  induction reached with
  | refl => exact .refl
  | step _ step permitted ih => exact .step ih step fun shown same => weaker _ (permitted shown same)

theorem Reaches.unguarded {sys : System Tid S Ctl World} {allowed : Label S → Prop}
    {guard : (tid : Tid) → (op : (S tid).Op) → World → (S tid).Res op → Prop}
    {start pool : Pool S Ctl World} (reached : Reaches (sys.guarded guard) allowed start pool) :
    Reaches sys allowed start pool := by
  induction reached with
  | refl => exact .refl
  | step _ step permitted ih =>
      refine .step ih ?_ permitted
      cases step with
      | act current acted => exact .act current acted.2
      | restart current again => exact .restart current again

/-- What every action on the world preserves holds wherever a run leads. -/
theorem Reaches.invariant {sys : System Tid S Ctl World} {allowed : Label S → Prop}
    {start pool : Pool S Ctl World} (reached : Reaches sys allowed start pool)
    {inv : World → Prop} (initial : inv start.world)
    (preserved : ∀ tid op before answer after, inv before → sys.sem tid op before answer after →
      allowed ⟨tid, op, answer⟩ → inv after) : inv pool.world := by
  induction reached with
  | refl => exact initial
  | step _ step permitted ih =>
      cases step with
      | act _ acted => exact preserved _ _ _ _ _ ih acted (permitted _ rfl)
      | restart => exact ih

/-- What a thread can still come to request after answers that are all admitted. -/
theorem Reaches.allWhen {sys : System Tid S Ctl World} {allowed : Label S → Prop}
    {start pool : Pool S Ctl World} (reached : Reaches sys allowed start pool) (tid : Tid)
    {admits : (op : (S tid).Op) → (S tid).Res op → Prop} {good : (S tid).Op → Prop}
    (initial : (start.prog tid).AllWhen admits good)
    (loops : ∀ value rest, sys.again tid value = some rest → rest.AllWhen admits good)
    (answers : ∀ pool op next answer world, Reaches sys allowed start pool →
      pool.prog tid = .vis op next → sys.sem tid op pool.world answer world → admits op answer) :
    (pool.prog tid).AllWhen admits good := by
  induction reached with
  | refl => exact initial
  | step earlier step _ ih =>
      cases step with
      | @act acting op next answer world current acted =>
          by_cases same : tid = acting
          · subst same
            rw [current] at ih
            rw [Pool.resume_prog_self]
            exact ih.2 answer (answers _ op next answer world earlier current acted)
          · rw [Pool.resume_prog_other _ same]
            exact ih
      | @restart acting value rest current again =>
          by_cases same : tid = acting
          · subst same
            rw [Pool.resume_prog_self]
            exact loops value rest again
          · rw [Pool.resume_prog_other _ same]
            exact ih

/-- What the threads of a pool owe each other and what each ends with. -/
structure Contract (S : Tid → Sig) (Ctl : Tid → Type) (World : Type) where
  inv : World → Prop
  guar : Tid → World → World → Prop
  ob : (tid : Tid) → (S tid).Op → World → Prop
  post : (tid : Tid) → Ctl tid → World → Prop

/-- The protocol of one thread: the others act by their guarantees, and only
allowed steps are taken. -/
def Contract.protocol (contract : Contract S Ctl World) (sys : System Tid S Ctl World)
    (allowed : Label S → Prop) (tid : Tid) : Protocol (S tid) World where
  sem op before answer after := sys.sem tid op before answer after ∧ allowed ⟨tid, op, answer⟩
  inv := contract.inv
  interf before after := ∃ other, other ≠ tid ∧ contract.guar other before after
  guar := contract.guar tid
  ob := contract.ob tid

/-- A pool all of whose threads meet their protocol from the current world on. -/
structure Contract.Holds (contract : Contract S Ctl World) (sys : System Tid S Ctl World)
    (allowed : Label S → Prop) (pool : Pool S Ctl World) : Prop where
  inv : contract.inv pool.world
  threads : ∀ tid, wp (contract.protocol sys allowed tid) (pool.prog tid) (contract.post tid)
    pool.world

variable {contract : Contract S Ctl World} {sys : System Tid S Ctl World}
  {allowed : Label S → Prop}

theorem Contract.Holds.step
    (loops : ∀ tid value rest, sys.again tid value = some rest →
      Triple (contract.protocol sys allowed tid) (contract.post tid value) rest
        (contract.post tid))
    {pool pool' : Pool S Ctl World} {label : Option (Label S)}
    (holds : contract.Holds sys allowed pool) (step : Step sys pool label pool')
    (permitted : ∀ shown, label = some shown → allowed shown) :
    contract.Holds sys allowed pool' := by
  cases step with
  | @act tid op next answer world current acted =>
      have mine := holds.threads tid
      rw [current] at mine
      obtain ⟨_, steps⟩ := mine pool.world (Protocol.Env.refl _)
      obtain ⟨guar, inv, rest⟩ := steps answer world ⟨acted, permitted _ rfl⟩
      refine ⟨inv, fun other => ?_⟩
      by_cases same : other = tid
      · subst same
        rw [Pool.resume_prog_self]
        exact rest
      · rw [Pool.resume_prog_other _ same]
        exact wp_env (holds.threads other) (.single ⟨⟨tid, Ne.symm same, guar⟩, inv⟩)
  | @restart tid value rest current again =>
      refine ⟨holds.inv, fun other => ?_⟩
      by_cases same : other = tid
      · subst same
        have mine := holds.threads other
        rw [current] at mine
        rw [Pool.resume_prog_self]
        exact loops other value rest again _ holds.inv (mine pool.world (Protocol.Env.refl _))
      · rw [Pool.resume_prog_other _ same]
        exact holds.threads other

/-- Adequacy: threads that meet their protocols at the start meet them in every
state reached by allowed steps, whatever the interleaving. -/
theorem Contract.Holds.reaches
    (loops : ∀ tid value rest, sys.again tid value = some rest →
      Triple (contract.protocol sys allowed tid) (contract.post tid value) rest
        (contract.post tid))
    {start pool : Pool S Ctl World} (holds : contract.Holds sys allowed start)
    (reached : Reaches sys allowed start pool) : contract.Holds sys allowed pool := by
  induction reached with
  | refl => exact holds
  | step _ step permitted ih => exact ih.step loops step permitted

omit [DecidableEq Tid] in
/-- A thread about to act is in a world where the obligation of its operation holds. -/
theorem Contract.Holds.obligation {pool : Pool S Ctl World}
    (holds : contract.Holds sys allowed pool) {tid : Tid} {op : (S tid).Op}
    {next : (S tid).Res op → Prog (S tid) (Ctl tid)} (current : pool.prog tid = .vis op next) :
    contract.ob tid op pool.world := by
  have mine := holds.threads tid
  rw [current] at mine
  exact (mine pool.world (Protocol.Env.refl _)).1

omit [DecidableEq Tid] in
/-- A thread that has returned left a world where its postcondition holds. -/
theorem Contract.Holds.returned {pool : Pool S Ctl World}
    (holds : contract.Holds sys allowed pool) {tid : Tid} {value : Ctl tid}
    (current : pool.prog tid = .ret value) : contract.post tid value pool.world := by
  have mine := holds.threads tid
  rw [current] at mine
  exact mine pool.world (Protocol.Env.refl _)

/-- A program runs by itself from a world, up to a rest of it and another world. -/
inductive Runs {S : Sig} {World α : Type}
    (sem : (op : S.Op) → World → S.Res op → World → Prop) :
    Prog S α → World → Prog S α → World → Prop where
  | refl {program : Prog S α} {world : World} : Runs sem program world program world
  | vis {op : S.Op} {next : S.Res op → Prog S α} {rest : Prog S α} {before middle after : World}
      (answer : S.Res op) :
      sem op before answer middle → Runs sem (next answer) middle rest after →
      Runs sem (.vis op next) before rest after

theorem Runs.trans {S : Sig} {World α : Type}
    {sem : (op : S.Op) → World → S.Res op → World → Prop} {program middle rest : Prog S α}
    {before between after : World} (first : Runs sem program before middle between)
    (second : Runs sem middle between rest after) : Runs sem program before rest after := by
  induction first with
  | refl => exact second
  | vis answer acted _ ih => exact .vis answer acted (ih second)

theorem Runs.mono {S : Sig} {World α : Type}
    {sem sem' : (op : S.Op) → World → S.Res op → World → Prop} {program rest : Prog S α}
    {before after : World} (ran : Runs sem program before rest after)
    (wider : ∀ op world answer world', sem op world answer world' → sem' op world answer world') :
    Runs sem' program before rest after := by
  induction ran with
  | refl => exact .refl
  | vis answer acted _ ih => exact .vis answer (wider _ _ _ _ acted) ih

/-- A first program that runs to its return is followed by what comes after it. -/
theorem Runs.bind {S : Sig} {World α β : Type}
    {sem : (op : S.Op) → World → S.Res op → World → Prop} {program : Prog S α}
    {next : α → Prog S β} {rest : Prog S β} {before middle after : World} {value : α}
    (first : Runs sem program before (.ret value) middle)
    (second : Runs sem (next value) middle rest after) :
    Runs sem (program.bind next) before rest after := by
  generalize returned : (Prog.ret value : Prog S α) = last at first
  induction first with
  | refl =>
      subst returned
      exact second
  | vis answer acted _ ih => exact .vis answer acted (ih second returned)

theorem Runs.within {S : Sig} {World α β : Type}
    {sem : (op : S.Op) → World → S.Res op → World → Prop} {program rest : Prog S α}
    {next : α → Prog S β} {before after : World} (ran : Runs sem program before rest after) :
    Runs sem (program.bind next) before (rest.bind next) after := by
  induction ran with
  | refl => exact .refl
  | vis answer acted _ ih => exact .vis answer acted ih

theorem Runs.guarded {S : Sig} {World α : Type}
    {sem : (op : S.Op) → World → S.Res op → World → Prop}
    {guard : (op : S.Op) → World → S.Res op → Prop} {program rest : Prog S α}
    {before after : World} (ran : Runs sem program before rest after)
    (kept : World → Prop) (initial : kept before)
    (step : ∀ op before answer after, kept before → sem op before answer after → kept after)
    (within : ∀ op world answer, kept world → guard op world answer) :
    Runs (fun op before answer after => guard op before answer ∧ sem op before answer after)
      program before rest after := by
  induction ran with
  | refl => exact .refl
  | vis answer acted _ ih =>
      exact .vis answer ⟨within _ _ _ initial, acted⟩ (ih (step _ _ _ _ initial acted))

/-- A run of a program is a run of it over a larger interface. -/
theorem Runs.embed {S T : Sig} {World α : Type}
    {sem : (op : S.Op) → World → S.Res op → World → Prop}
    {sem' : (op : T.Op) → World → T.Res op → World → Prop} {op : S.Op → T.Op}
    {answer : (o : S.Op) → T.Res (op o) → S.Res o}
    (acts : ∀ o before result after, sem o before result after →
      ∃ given, answer o given = result ∧ sem' (op o) before given after)
    {program rest : Prog S α} {before after : World} (ran : Runs sem program before rest after) :
    Runs sem' (program.embed op answer) before (rest.embed op answer) after := by
  induction ran with
  | refl => exact .refl
  | vis result acted _ ih =>
      obtain ⟨given, rfl, acted'⟩ := acts _ _ _ _ acted
      exact .vis given acted' ih

/-- A run is followed step by step in a related world. -/
theorem Runs.simulate {S : Sig} {Part World α : Type}
    {sem : (op : S.Op) → Part → S.Res op → Part → Prop}
    {sem' : (op : S.Op) → World → S.Res op → World → Prop} (related : Part → World → Prop)
    (acts : ∀ op before world answer after, related before world → sem op before answer after →
      ∃ world', sem' op world answer world' ∧ related after world')
    {program rest : Prog S α} {before after : Part} {world : World}
    (initial : related before world) (ran : Runs sem program before rest after) :
    ∃ world', Runs sem' program world rest world' ∧ related after world' := by
  induction ran generalizing world with
  | refl => exact ⟨world, .refl, initial⟩
  | vis answer acted _ ih =>
      obtain ⟨world', acted', related'⟩ := acts _ _ _ _ _ initial acted
      obtain ⟨last, ran, related''⟩ := ih related'
      exact ⟨last, .vis answer acted' ran, related''⟩

theorem Runs.lift {S : Sig} {Part World α : Type}
    {sem : (op : S.Op) → Part → S.Res op → Part → Prop}
    {sem' : (op : S.Op) → World → S.Res op → World → Prop} (part : World → Part)
    (kept : World → Prop)
    (acts : ∀ op world answer after, kept world → sem op (part world) answer after →
      ∃ world', sem' op world answer world' ∧ part world' = after ∧ kept world')
    {program rest : Prog S α} {world : World} {after : Part} (initial : kept world)
    (ran : Runs sem program (part world) rest after) :
    ∃ world', Runs sem' program world rest world' ∧ part world' = after ∧ kept world' := by
  refine Runs.simulate (fun before world => part world = before ∧ kept world) ?_ ⟨rfl, initial⟩ ran
  intro op before world answer after related acted
  obtain ⟨here, holds⟩ := related
  subst here
  exact acts op world answer after holds acted

/-- A program that is verified meets its obligations wherever it runs to. -/
theorem wp_runs {S : Sig} {World α : Type} {P : Protocol S World} {program : Prog S α}
    {post : α → World → Prop} {world world' : World} {op : S.Op} {next : S.Res op → Prog S α}
    (holds : wp P program post world) (ran : Runs P.sem program world (.vis op next) world') :
    P.ob op world' := by
  generalize same : (Prog.vis op next : Prog S α) = rest at ran
  induction ran with
  | refl =>
      subst same
      exact (holds _ (Protocol.Env.refl _)).1
  | vis answer acted _ ih =>
      obtain ⟨_, steps⟩ := holds _ (Protocol.Env.refl _)
      exact ih (steps answer _ acted).2.2 same

/-- A thread that runs alone moves the pool, provided its steps are allowed. -/
theorem Reaches.runs {start pool : Pool S Ctl World} {tid : Tid}
    {program rest : Prog (S tid) (Ctl tid)} {world : World}
    (reached : Reaches sys allowed start pool) (current : pool.prog tid = program)
    (ran : Runs (fun op before answer after =>
      sys.sem tid op before answer after ∧ allowed ⟨tid, op, answer⟩)
      program pool.world rest world) :
    Reaches sys allowed start (pool.resume tid rest world) := by
  generalize initial : pool.world = before at ran
  induction ran generalizing pool with
  | refl =>
      have same : pool.resume tid (pool.prog tid) pool.world = pool := by
        simp only [Pool.resume, Function.update_eq_self]
      rw [← current, ← initial, same]
      exact reached
  | @vis op next rest before middle after answer acted _ ih =>
      subst initial
      have moved : Reaches sys allowed start (pool.resume tid (next answer) middle) :=
        .step reached (.act current acted.1) (by
          rintro shown ⟨⟩
          exact acted.2)
      have final := ih moved (Pool.resume_prog_self _ _ _ _) rfl
      simpa only [Pool.resume, Function.update_idem] using final

theorem Reaches.restart {start pool : Pool S Ctl World} {tid : Tid} {value : Ctl tid}
    {rest : Prog (S tid) (Ctl tid)} (reached : Reaches sys allowed start pool)
    (returned : pool.prog tid = .ret value) (again : sys.again tid value = some rest) :
    Reaches sys allowed start (pool.resume tid rest pool.world) :=
  .step reached (.restart returned again) fun _ impossible => by cases impossible

/-- The pool in which one thread has run on. -/
structure Pool.Advances (pool : Pool S Ctl World) (tid : Tid) (rest : Prog (S tid) (Ctl tid))
    (world : World) (pool' : Pool S Ctl World) : Prop where
  prog : pool'.prog tid = rest
  others : ∀ other, other ≠ tid → pool'.prog other = pool.prog other
  world : pool'.world = world

theorem Reaches.aloneAllowed {start pool : Pool S Ctl World} (reached : Reaches sys allowed start pool)
    (tid : Tid) {program rest : Prog (S tid) (Ctl tid)} {before after : World}
    (current : pool.prog tid = program) (here : pool.world = before)
    (ran : Runs (fun op before answer after =>
      sys.sem tid op before answer after ∧ allowed ⟨tid, op, answer⟩) program before rest after) :
    ∃ pool', Reaches sys allowed start pool' ∧ pool.Advances tid rest after pool' := by
  subst here
  exact ⟨pool.resume tid rest after, reached.runs current ran, Pool.resume_prog_self _ _ _ _,
    fun _ different => Pool.resume_prog_other _ different _ _, rfl⟩

theorem Reaches.aloneAgainAllowed {start pool : Pool S Ctl World}
    (reached : Reaches sys allowed start pool) (tid : Tid) {value : Ctl tid}
    {program rest : Prog (S tid) (Ctl tid)} {before after : World}
    (returned : pool.prog tid = .ret value) (here : pool.world = before)
    (again : sys.again tid value = some program)
    (ran : Runs (fun op before answer after =>
      sys.sem tid op before answer after ∧ allowed ⟨tid, op, answer⟩) program before rest after) :
    ∃ pool', Reaches sys allowed start pool' ∧ pool.Advances tid rest after pool' := by
  obtain ⟨pool', reached', advances⟩ := (reached.restart returned again).aloneAllowed tid
    (Pool.resume_prog_self _ _ _ _) here ran
  refine ⟨pool', reached', advances.prog, fun other different => ?_, advances.world⟩
  rw [advances.others other different, Pool.resume_prog_other _ different]

theorem Reaches.alone {start pool : Pool S Ctl World}
    (reached : Reaches sys (fun _ => True) start pool) (tid : Tid)
    {program rest : Prog (S tid) (Ctl tid)} {before after : World}
    (current : pool.prog tid = program) (here : pool.world = before)
    (ran : Runs (sys.sem tid) program before rest after) :
    ∃ pool', Reaches sys (fun _ => True) start pool' ∧ pool.Advances tid rest after pool' :=
  reached.aloneAllowed tid current here (by simpa only [and_true] using ran)

theorem Reaches.aloneAgain {start pool : Pool S Ctl World}
    (reached : Reaches sys (fun _ => True) start pool) (tid : Tid) {value : Ctl tid}
    {program rest : Prog (S tid) (Ctl tid)} {before after : World}
    (returned : pool.prog tid = .ret value) (here : pool.world = before)
    (again : sys.again tid value = some program)
    (ran : Runs (sys.sem tid) program before rest after) :
    ∃ pool', Reaches sys (fun _ => True) start pool' ∧ pool.Advances tid rest after pool' :=
  reached.aloneAgainAllowed tid returned here again (by simpa only [and_true] using ran)

/-- A program that runs by itself can come to a rest with a certain property. -/
def Leads {S : Sig} {World α : Type} (sem : (op : S.Op) → World → S.Res op → World → Prop)
    (goal : Prog S α → Prop) (program : Prog S α) (world : World) : Prop :=
  ∃ rest after, Runs sem program world rest after ∧ goal rest

theorem Leads.here {S : Sig} {World α : Type}
    {sem : (op : S.Op) → World → S.Res op → World → Prop} {goal : Prog S α → Prop}
    {program : Prog S α} {world : World} (arrived : goal program) :
    Leads sem goal program world :=
  ⟨program, world, .refl, arrived⟩

theorem Leads.vis {S : Sig} {World α : Type}
    {sem : (op : S.Op) → World → S.Res op → World → Prop} {goal : Prog S α → Prop} {op : S.Op}
    {next : S.Res op → Prog S α} {before middle : World} (answer : S.Res op)
    (acted : sem op before answer middle) (later : Leads sem goal (next answer) middle) :
    Leads sem goal (.vis op next) before := by
  obtain ⟨rest, after, ran, arrived⟩ := later
  exact ⟨rest, after, .vis answer acted ran, arrived⟩

theorem Reaches.leads {start pool : Pool S Ctl World} {tid : Tid}
    {goal : Prog (S tid) (Ctl tid) → Prop} (reached : Reaches sys allowed start pool)
    (led : Leads (fun op before answer after =>
      sys.sem tid op before answer after ∧ allowed ⟨tid, op, answer⟩)
      goal (pool.prog tid) pool.world) :
    ∃ pool', Reaches sys allowed start pool' ∧ goal (pool'.prog tid) := by
  obtain ⟨rest, after, ran, arrived⟩ := led
  refine ⟨_, reached.runs rfl ran, ?_⟩
  rw [Pool.resume_prog_self]
  exact arrived

/-- A program that runs by itself can come to a rest in a world of a certain kind. -/
def Comes {S : Sig} {World α : Type} (sem : (op : S.Op) → World → S.Res op → World → Prop)
    (goal : Prog S α → World → Prop) (program : Prog S α) (world : World) : Prop :=
  ∃ rest after, Runs sem program world rest after ∧ goal rest after

theorem Comes.here {S : Sig} {World α : Type}
    {sem : (op : S.Op) → World → S.Res op → World → Prop} {goal : Prog S α → World → Prop}
    {program : Prog S α} {world : World} (arrived : goal program world) :
    Comes sem goal program world :=
  ⟨program, world, .refl, arrived⟩

theorem Comes.vis {S : Sig} {World α : Type}
    {sem : (op : S.Op) → World → S.Res op → World → Prop} {goal : Prog S α → World → Prop}
    {op : S.Op} {next : S.Res op → Prog S α} {before middle : World} (answer : S.Res op)
    (acted : sem op before answer middle) (comes : Comes sem goal (next answer) middle) :
    Comes sem goal (.vis op next) before := by
  obtain ⟨rest, after, ran, arrived⟩ := comes
  exact ⟨rest, after, .vis answer acted ran, arrived⟩

end Interaction
