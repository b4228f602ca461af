import BeeSync.Interaction.Program

/-!
# Weakest preconditions under interference

A protocol says how the operations of one thread act on a shared world, what the
other threads may do between two of them, and what the thread owes in return.
The weakest precondition of a program is then a fold over its tree: before each
request the world may have moved by interference, and after each answer the
guarantee and the shared invariant must hold again.
-/

set_option autoImplicit false

namespace Interaction

variable {S T : Sig} {World α β ε : Type}

/-- What one thread may rely on and what it owes, for one interface and world. -/
structure Protocol (S : Sig) (World : Type) where
  /-- How an operation acts: world before, answer, world after. -/
  sem : (op : S.Op) → World → S.Res op → World → Prop
  /-- The invariant every thread keeps. -/
  inv : World → Prop
  /-- One step of the other threads. -/
  interf : World → World → Prop
  /-- What each step of this thread promises to the others. -/
  guar : World → World → Prop
  /-- What holds whenever this thread is about to request an operation. -/
  ob : S.Op → World → Prop

namespace Protocol

variable (P : Protocol S World)

/-- Any number of steps of the other threads, each keeping the invariant. -/
def Env : World → World → Prop :=
  Relation.ReflTransGen fun before after => P.interf before after ∧ P.inv after

/-- An assertion the other threads cannot invalidate. -/
def Stable (A : World → Prop) : Prop :=
  ∀ before after, P.inv before → A before → P.interf before after → P.inv after → A after

/-- One operation leads from one assertion to another, whatever it answers. -/
def Step (pre : World → Prop) (op : S.Op) (mid : S.Res op → World → Prop) : Prop :=
  ∀ world, P.inv world → pre world → P.ob op world ∧
    ∀ answer world', P.sem op world answer world' →
      P.guar world world' ∧ P.inv world' ∧ mid answer world'

variable {P}

theorem Step.conseq {pre pre' : World → Prop} {op : S.Op} {mid mid' : S.Res op → World → Prop}
    (step : P.Step pre op mid) (stronger : ∀ world, P.inv world → pre' world → pre world)
    (weaker : ∀ answer world, P.inv world → mid answer world → mid' answer world) :
    P.Step pre' op mid' := by
  intro world inv holds
  obtain ⟨ob, acts⟩ := step world inv (stronger world inv holds)
  refine ⟨ob, fun answer world' acted => ?_⟩
  obtain ⟨guar, inv', reached⟩ := acts answer world' acted
  exact ⟨guar, inv', weaker answer world' inv' reached⟩

theorem Env.refl (world : World) : P.Env world world :=
  Relation.ReflTransGen.refl

theorem Env.trans {first second third : World} (left : P.Env first second)
    (right : P.Env second third) : P.Env first third :=
  Relation.ReflTransGen.trans left right

theorem Env.inv {before after : World} (moved : P.Env before after) (holds : P.inv before) :
    P.inv after := by
  induction moved with
  | refl => exact holds
  | tail _ step _ => exact step.2

theorem Stable.env {A : World → Prop} (stable : P.Stable A) {before after : World}
    (moved : P.Env before after) (inv : P.inv before) (holds : A before) : A after := by
  induction moved with
  | refl => exact holds
  | tail path step ih => exact stable _ _ (Env.inv path inv) ih step.1 step.2

theorem Stable.and {A B : World → Prop} (left : P.Stable A) (right : P.Stable B) :
    P.Stable fun world => A world ∧ B world :=
  fun before after inv holds step inv' =>
    ⟨left before after inv holds.1 step inv', right before after inv holds.2 step inv'⟩

theorem Stable.const (fact : Prop) : P.Stable fun _ => fact :=
  fun _ _ _ holds _ _ => holds

end Protocol

/-- The program meets its postcondition, keeps the invariant and the guarantee,
and meets the obligation of each operation, however the other threads move. -/
def wp (P : Protocol S World) : Prog S α → (α → World → Prop) → World → Prop
  | .ret value, post, world => ∀ world', P.Env world world' → post value world'
  | .vis op next, post, world => ∀ world', P.Env world world' →
      P.ob op world' ∧ ∀ answer world'', P.sem op world' answer world'' →
        P.guar world' world'' ∧ P.inv world'' ∧ wp P (next answer) post world''

/-- A precondition under which the program meets the postcondition. -/
def Triple (P : Protocol S World) (pre : World → Prop) (program : Prog S α)
    (post : α → World → Prop) : Prop :=
  ∀ world, P.inv world → pre world → wp P program post world

section Rules

variable {P : Protocol S World}

theorem wp_env {program : Prog S α} {post : α → World → Prop} {before after : World}
    (holds : wp P program post before) (moved : P.Env before after) :
    wp P program post after := by
  cases program with
  | ret value => exact fun world' later => holds world' (moved.trans later)
  | vis op next => exact fun world' later => holds world' (moved.trans later)

theorem wp_mono {program : Prog S α} {post post' : α → World → Prop} {world : World}
    (inv : P.inv world) (holds : wp P program post world)
    (weaker : ∀ value world, P.inv world → post value world → post' value world) :
    wp P program post' world := by
  induction program generalizing world with
  | ret value => exact fun world' moved => weaker _ _ (moved.inv inv) (holds world' moved)
  | vis op next ih =>
      intro world' moved
      obtain ⟨ob, steps⟩ := holds world' moved
      refine ⟨ob, fun answer world'' step => ?_⟩
      obtain ⟨guar, inv', rest⟩ := steps answer world'' step
      exact ⟨guar, inv', ih answer inv' rest⟩

/-- Sequential composition: the rest is verified from the first postcondition. -/
theorem wp_bind {program : Prog S α} {rest : α → Prog S β} {post : β → World → Prop}
    {world : World} (holds : wp P program (fun value => wp P (rest value) post) world) :
    wp P (program.bind rest) post world := by
  induction program generalizing world with
  | ret value => exact holds world (Protocol.Env.refl world)
  | vis op next ih =>
      intro world' moved
      obtain ⟨ob, steps⟩ := holds world' moved
      refine ⟨ob, fun answer world'' step => ?_⟩
      obtain ⟨guar, inv, following⟩ := steps answer world'' step
      exact ⟨guar, inv, ih answer following⟩

theorem Triple.conseq {pre pre' : World → Prop} {program : Prog S α}
    {post post' : α → World → Prop} (triple : Triple P pre program post)
    (stronger : ∀ world, P.inv world → pre' world → pre world)
    (weaker : ∀ value world, P.inv world → post value world → post' value world) :
    Triple P pre' program post' :=
  fun world inv holds => wp_mono inv (triple world inv (stronger world inv holds)) weaker

theorem Triple.ret {pre : World → Prop} {value : α} {post : α → World → Prop}
    (stable : P.Stable pre) (holds : ∀ world, P.inv world → pre world → post value world) :
    Triple P pre (.ret value) post :=
  fun _ inv given _ moved => holds _ (moved.inv inv) (stable.env moved inv given)

/-- One operation: its precondition must be stable; its answer leads to the
intermediate assertion from which the rest is verified. -/
theorem Triple.vis {pre : World → Prop} {op : S.Op} {next : S.Res op → Prog S α}
    {post : α → World → Prop} (mid : S.Res op → World → Prop) (stable : P.Stable pre)
    (step : P.Step pre op mid)
    (rest : ∀ answer, Triple P (mid answer) (next answer) post) :
    Triple P pre (.vis op next) post := by
  intro world inv given world' moved
  obtain ⟨ob, steps⟩ := step world' (moved.inv inv) (stable.env moved inv given)
  refine ⟨ob, fun answer world'' acted => ?_⟩
  obtain ⟨guar, inv', reached⟩ := steps answer world'' acted
  exact ⟨guar, inv', rest answer world'' inv' reached⟩

theorem Triple.bind {pre : World → Prop} {program : Prog S α} {rest : α → Prog S β}
    {post : β → World → Prop} (mid : α → World → Prop) (first : Triple P pre program mid)
    (second : ∀ value, Triple P (mid value) (rest value) post) :
    Triple P pre (program.bind rest) post :=
  fun world inv given =>
    wp_bind (wp_mono inv (first world inv given) fun value world' inv' reached =>
      second value world' inv' reached)

/-- A requested operation followed by the rest of the program. -/
theorem Triple.step {pre : World → Prop} {op : S.Op} {next : S.Res op → Prog S α}
    {post : α → World → Prop} (mid : S.Res op → World → Prop) (stable : P.Stable pre)
    (step : P.Step pre op mid) (rest : ∀ answer, Triple P (mid answer) (next answer) post) :
    Triple P pre ((Prog.call op).bind next) post :=
  .vis mid stable step rest

theorem Triple.recover {pre : World → Prop} {program : Prog S (Except ε α)}
    {failed : ε → Prog S β} {rest : α → Prog S β} {post : β → World → Prop}
    (mid : Except ε α → World → Prop) (first : Triple P pre program mid)
    (stopped : ∀ error, Triple P (mid (.error error)) (failed error) post)
    (second : ∀ value, Triple P (mid (.ok value)) (rest value) post) :
    Triple P pre (program.recover failed rest) post :=
  .bind mid first fun
    | .ok value => second value
    | .error error => stopped error

theorem Triple.attempt {pre : World → Prop} {program : Prog S (Except ε α)}
    {rest : α → Prog S (Except ε β)} {post : Except ε β → World → Prop}
    (mid : Except ε α → World → Prop) (first : Triple P pre program mid)
    (stopped : ∀ error, Triple P (mid (.error error)) (.ret (.error error)) post)
    (second : ∀ value, Triple P (mid (.ok value)) (rest value) post) :
    Triple P pre (program.attempt rest) post :=
  .bind mid first fun
    | .ok value => second value
    | .error error => stopped error

/-- An assertion that every operation of a program keeps holds throughout it. -/
theorem Triple.uniform {kept : World → Prop} {allowed : S.Op → Prop} {program : Prog S α}
    (stable : P.Stable kept) (all : program.All allowed)
    (step : ∀ op, allowed op → P.Step kept op fun _ => kept) :
    Triple P kept program fun _ => kept := by
  induction program with
  | ret value => exact .ret stable fun _ _ holds => holds
  | vis op next ih =>
      exact .vis (fun _ => kept) stable (step op all.1) fun answer => ih answer (all.2 answer)

/-- What a program returns in any case can be added to its postcondition. -/
theorem Triple.yields {pre : World → Prop} {program : Prog S α} {post : α → World → Prop}
    {good : α → Prop} (triple : Triple P pre program post) (yields : program.Yields good) :
    Triple P pre program fun value world => post value world ∧ good value := by
  intro world inv holds
  have met := triple world inv holds
  clear holds triple
  induction program generalizing world with
  | ret value => exact fun world' moved => ⟨met world' moved, yields⟩
  | vis op next ih =>
      intro world' moved
      obtain ⟨ob, steps⟩ := met world' moved
      refine ⟨ob, fun answer world'' acted => ?_⟩
      obtain ⟨guar, inv', rest⟩ := steps answer world'' acted
      exact ⟨guar, inv', ih answer (yields answer) world'' inv' rest⟩

theorem Triple.frame {pre fact : World → Prop} {program : Prog S α} {post : α → World → Prop}
    (triple : Triple P pre program post) (stable : P.Stable fact)
    (keeps : ∀ op world answer world', P.sem op world answer world' → fact world → fact world') :
    Triple P (fun world => pre world ∧ fact world) program
      fun value world => post value world ∧ fact world := by
  intro world inv holds
  obtain ⟨given, known⟩ := holds
  have met := triple world inv given
  clear given triple
  induction program generalizing world with
  | ret value => exact fun world' moved => ⟨met world' moved, stable.env moved inv known⟩
  | vis op next ih =>
      intro world' moved
      obtain ⟨ob, steps⟩ := met world' moved
      refine ⟨ob, fun answer world'' acted => ?_⟩
      obtain ⟨guar, inv', rest⟩ := steps answer world'' acted
      have kept := keeps op world' answer world'' acted (stable.env moved inv known)
      exact ⟨guar, inv', ih answer world'' inv' kept rest⟩

end Rules

/-- What a program over a smaller interface has to do with the protocol. -/
def Protocol.comap (P : Protocol T World) (op : S.Op → T.Op)
    (answer : (o : S.Op) → T.Res (op o) → S.Res o) : Protocol S World where
  sem o before result after := ∃ given, answer o given = result ∧ P.sem (op o) before given after
  inv := P.inv
  interf := P.interf
  guar := P.guar
  ob o := P.ob (op o)

section Embedding

variable {P : Protocol T World} {op : S.Op → T.Op} {answer : (o : S.Op) → T.Res (op o) → S.Res o}

theorem wp_embed {program : Prog S α} {post : α → World → Prop} {world : World}
    (holds : wp (P.comap op answer) program post world) :
    wp P (program.embed op answer) post world := by
  induction program generalizing world with
  | ret value => exact holds
  | vis o next ih =>
      intro world' moved
      obtain ⟨ob, steps⟩ := holds world' moved
      refine ⟨ob, fun given world'' acted => ?_⟩
      obtain ⟨guar, inv, rest⟩ := steps (answer o given) world'' ⟨given, rfl, acted⟩
      exact ⟨guar, inv, ih _ rest⟩

theorem Triple.embed {pre : World → Prop} {program : Prog S α} {post : α → World → Prop}
    (triple : Triple (P.comap op answer) pre program post) :
    Triple P pre (program.embed op answer) post :=
  fun world inv holds => wp_embed (triple world inv holds)

end Embedding

end Interaction
