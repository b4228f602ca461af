import Mathlib.Logic.Relation

/-!
# Interactive programs

A program is a finite tree of requests to its surroundings. It fixes no meaning
for a request: an interpretation supplies one, so the same program text can be
run against a file store, a set of ports, or a peer that answers at will.
-/

set_option autoImplicit false

namespace Interaction

/-- An interface: the operations a program may request and what each answers. -/
structure Sig where
  Op : Type
  Res : Op → Type

/-- A request and its answer. -/
structure Event (S : Sig) where
  op : S.Op
  answer : S.Res op

/-- A program over an interface, returning a value when it needs nothing more. -/
inductive Prog (S : Sig) (α : Type) : Type where
  | ret (value : α) : Prog S α
  | vis (op : S.Op) (next : S.Res op → Prog S α) : Prog S α

namespace Prog

variable {S : Sig} {α β γ ε : Type}

/-- Sequential composition replaces every return by the rest of the program. -/
def bind : Prog S α → (α → Prog S β) → Prog S β
  | .ret value, rest => rest value
  | .vis op next, rest => .vis op fun answer => (next answer).bind rest

/-- A program that requests one operation and returns its answer. -/
@[reducible] def call (op : S.Op) : Prog S (S.Res op) :=
  .vis op .ret

@[simp] theorem ret_bind (value : α) (rest : α → Prog S β) :
    (Prog.ret value : Prog S α).bind rest = rest value := rfl

theorem bind_assoc (program : Prog S α) (rest : α → Prog S β) (last : β → Prog S γ) :
    (program.bind rest).bind last = program.bind fun value => (rest value).bind last := by
  induction program with
  | ret value => rfl
  | vis op next ih => exact congrArg (Prog.vis op) (funext fun answer => ih answer)

/-- Continue with the value of a fallible program, or stop at its error. -/
def attempt (program : Prog S (Except ε α)) (rest : α → Prog S (Except ε β)) :
    Prog S (Except ε β) :=
  program.bind fun
    | .ok value => rest value
    | .error error => .ret (.error error)

/-- Continue with the value of a fallible program, or with a recovery from its error. -/
def recover (program : Prog S (Except ε α)) (failed : ε → Prog S β) (rest : α → Prog S β) :
    Prog S β :=
  program.bind fun
    | .ok value => rest value
    | .error error => failed error

/-- The same program over a larger interface. -/
def embed {T : Sig} (op : S.Op → T.Op) (answer : (o : S.Op) → T.Res (op o) → S.Res o) :
    Prog S α → Prog T α
  | .ret value => .ret value
  | .vis o next => .vis (op o) fun result => (next (answer o result)).embed op answer

/-- Every operation that the program can come to request satisfies a predicate. -/
def All (allowed : S.Op → Prop) : Prog S α → Prop
  | .ret _ => True
  | .vis op next => allowed op ∧ ∀ answer, (next answer).All allowed

theorem All.bind {allowed : S.Op → Prop} {program : Prog S α} {rest : α → Prog S β}
    (first : program.All allowed) (second : ∀ value, (rest value).All allowed) :
    (program.bind rest).All allowed := by
  induction program with
  | ret value => exact second value
  | vis op next ih => exact ⟨first.1, fun answer => ih answer (first.2 answer)⟩

theorem All.of_forall {allowed : S.Op → Prop} (holds : ∀ op, allowed op) (program : Prog S α) :
    program.All allowed := by
  induction program with
  | ret value => trivial
  | vis op next ih => exact ⟨holds op, ih⟩

theorem All.call {allowed : S.Op → Prop} {op : S.Op} (holds : allowed op) :
    (Prog.call op).All allowed :=
  ⟨holds, fun _ => trivial⟩

theorem All.recover {allowed : S.Op → Prop} {program : Prog S (Except ε α)}
    {failed : ε → Prog S β} {rest : α → Prog S β} (first : program.All allowed)
    (stopped : ∀ error, (failed error).All allowed)
    (second : ∀ value, (rest value).All allowed) :
    (program.recover failed rest).All allowed :=
  first.bind fun
    | .ok value => second value
    | .error error => stopped error

theorem All.attempt {allowed : S.Op → Prop} {program : Prog S (Except ε α)}
    {rest : α → Prog S (Except ε β)} (first : program.All allowed)
    (second : ∀ value, (rest value).All allowed) : (program.attempt rest).All allowed :=
  first.bind fun
    | .ok value => second value
    | .error _ => trivial

theorem All.mono {allowed allowed' : S.Op → Prop} {program : Prog S α}
    (holds : program.All allowed) (weaker : ∀ op, allowed op → allowed' op) :
    program.All allowed' := by
  induction program with
  | ret value => trivial
  | vis op next ih => exact ⟨weaker op holds.1, fun answer => ih answer (holds.2 answer)⟩

theorem All.embed {T : Sig} {op : S.Op → T.Op} {answer : (o : S.Op) → T.Res (op o) → S.Res o}
    {allowed : T.Op → Prop} {program : Prog S α}
    (holds : program.All fun o => allowed (op o)) :
    (program.embed op answer).All allowed := by
  induction program with
  | ret value => trivial
  | vis o next ih => exact ⟨holds.1, fun result => ih _ (holds.2 _)⟩

/-- Every value that the program can come to return satisfies a predicate. -/
def Yields (good : α → Prop) : Prog S α → Prop
  | .ret value => good value
  | .vis _ next => ∀ answer, (next answer).Yields good

theorem Yields.bind {good : β → Prop} (program : Prog S α) {rest : α → Prog S β}
    (last : ∀ value, (rest value).Yields good) : (program.bind rest).Yields good := by
  induction program with
  | ret value => exact last value
  | vis op next ih => exact fun answer => ih answer

theorem Yields.mono {good good' : α → Prop} {program : Prog S α} (holds : program.Yields good)
    (weaker : ∀ value, good value → good' value) : program.Yields good' := by
  induction program with
  | ret value => exact weaker value holds
  | vis op next ih => exact fun answer => ih answer (holds answer)

theorem Yields.embed {T : Sig} {op : S.Op → T.Op} {answer : (o : S.Op) → T.Res (op o) → S.Res o}
    {good : α → Prop} {program : Prog S α} (holds : program.Yields good) :
    (program.embed op answer).Yields good := by
  induction program with
  | ret value => exact holds
  | vis o next ih => exact fun result => ih _ (holds _)

section Admitted

variable (admits : (op : S.Op) → S.Res op → Prop)

/-- Every value that the program can come to return on admitted answers satisfies a
predicate. -/
def YieldsWhen (good : α → Prop) : Prog S α → Prop
  | .ret value => good value
  | .vis op next => ∀ answer, admits op answer → (next answer).YieldsWhen good

/-- Every operation that the program can come to request on admitted answers satisfies a
predicate. -/
def AllWhen (allowed : S.Op → Prop) : Prog S α → Prop
  | .ret _ => True
  | .vis op next => allowed op ∧ ∀ answer, admits op answer → (next answer).AllWhen allowed

/-- Programs that make the same requests and return the same on admitted answers. -/
inductive AgreesWhen : Prog S α → Prog S α → Prop where
  | ret (value : α) : AgreesWhen (.ret value) (.ret value)
  | vis (op : S.Op) {next next' : S.Res op → Prog S α} :
      (∀ answer, admits op answer → AgreesWhen (next answer) (next' answer)) →
      AgreesWhen (.vis op next) (.vis op next')

variable {admits}

theorem AgreesWhen.refl (program : Prog S α) : AgreesWhen admits program program := by
  induction program with
  | ret value => exact .ret value
  | vis op next ih => exact .vis op fun answer _ => ih answer

theorem AgreesWhen.bind {program program' : Prog S α} {rest rest' : α → Prog S β}
    (first : AgreesWhen admits program program')
    (second : ∀ value, AgreesWhen admits (rest value) (rest' value)) :
    AgreesWhen admits (program.bind rest) (program'.bind rest') := by
  induction first with
  | ret value => exact second value
  | vis op _ ih => exact .vis op ih

theorem AgreesWhen.yields {program program' : Prog S α} {good : α → Prop}
    (agrees : AgreesWhen admits program program') :
    program.YieldsWhen admits good ↔ program'.YieldsWhen admits good := by
  induction agrees with
  | ret value => exact Iff.rfl
  | vis op _ ih => exact forall_congr' fun answer => forall_congr' (ih answer)

theorem YieldsWhen.bind {good : β → Prop} (program : Prog S α) {rest : α → Prog S β}
    (last : ∀ value, (rest value).YieldsWhen admits good) :
    (program.bind rest).YieldsWhen admits good := by
  induction program with
  | ret value => exact last value
  | vis op next ih => exact fun answer _ => ih answer

theorem All.when {allowed : S.Op → Prop} {program : Prog S α} (holds : program.All allowed) :
    program.AllWhen admits allowed := by
  induction program with
  | ret value => trivial
  | vis op next ih => exact ⟨holds.1, fun answer _ => ih answer (holds.2 answer)⟩

theorem AllWhen.bind {allowed : S.Op → Prop} {program : Prog S α} {rest : α → Prog S β}
    (first : program.AllWhen admits allowed)
    (second : ∀ value, (rest value).AllWhen admits allowed) :
    (program.bind rest).AllWhen admits allowed := by
  induction program with
  | ret value => exact second value
  | vis op next ih =>
      exact ⟨first.1, fun answer admitted => ih answer (first.2 answer admitted)⟩

theorem AllWhen.recover {allowed : S.Op → Prop} {program : Prog S (Except ε α)}
    {failed : ε → Prog S β} {rest : α → Prog S β} (first : program.AllWhen admits allowed)
    (stopped : ∀ error, (failed error).AllWhen admits allowed)
    (second : ∀ value, (rest value).AllWhen admits allowed) :
    (program.recover failed rest).AllWhen admits allowed := by
  refine first.bind fun result => ?_
  cases result with
  | ok value => exact second value
  | error error => exact stopped error

theorem AllWhen.attempt {allowed : S.Op → Prop} {program : Prog S (Except ε α)}
    {rest : α → Prog S (Except ε β)} (first : program.AllWhen admits allowed)
    (second : ∀ value, (rest value).AllWhen admits allowed) :
    (program.attempt rest).AllWhen admits allowed := by
  refine first.bind fun result => ?_
  cases result with
  | ok value => exact second value
  | error error => trivial

theorem AllWhen.embed {T : Sig} {op : S.Op → T.Op} {answer : (o : S.Op) → T.Res (op o) → S.Res o}
    {admits : (op : T.Op) → T.Res op → Prop} {allowed : T.Op → Prop} {program : Prog S α}
    {admits' : (op : S.Op) → S.Res op → Prop}
    (fewer : ∀ o result, admits (op o) result → admits' o (answer o result))
    (holds : program.AllWhen admits' fun o => allowed (op o)) :
    (program.embed op answer).AllWhen admits allowed := by
  induction program with
  | ret value => trivial
  | vis o next ih =>
      exact ⟨holds.1, fun result admitted => ih _ (holds.2 _ (fewer o result admitted))⟩

end Admitted

/-- The requests of a program and their answers, up to a rest of it. -/
inductive Path : Prog S α → List (Event S) → Prog S α → Prop where
  | nil {program : Prog S α} : Path program [] program
  | cons {op : S.Op} {next : S.Res op → Prog S α} {answer : S.Res op} {events : List (Event S)}
      {rest : Prog S α} :
      Path (next answer) events rest → Path (.vis op next) (⟨op, answer⟩ :: events) rest

theorem Path.all {allowed : S.Op → Prop} {program rest : Prog S α} {events : List (Event S)}
    (path : Path program events rest) (holds : program.All allowed) :
    ∀ event ∈ events, allowed event.op := by
  induction path with
  | nil => exact fun _ member => by cases member
  | cons _ ih =>
      intro event member
      cases member with
      | head => exact holds.1
      | tail _ later => exact ih (holds.2 _) event later

theorem Path.yields {good : α → Prop} {program : Prog S α} {events : List (Event S)} {value : α}
    (path : Path program events (.ret value)) (holds : program.Yields good) : good value := by
  generalize returned : (Prog.ret value : Prog S α) = rest at path
  induction path with
  | nil =>
      subst returned
      exact holds
  | cons _ ih => exact ih (holds _) returned

theorem Path.ret {value : α} {events : List (Event S)} {rest : Prog S α}
    (path : Path (.ret value) events rest) : events = [] ∧ rest = .ret value := by
  cases path with
  | nil => exact ⟨rfl, rfl⟩

/-- A path up to a returned value starts with the request that the program makes. -/
theorem Path.vis {op : S.Op} {next : S.Res op → Prog S α} {events : List (Event S)} {value : α}
    (path : Path (.vis op next) events (.ret value)) :
    ∃ answer later, events = ⟨op, answer⟩ :: later ∧ Path (next answer) later (.ret value) := by
  cases path with
  | cons later => exact ⟨_, _, rfl, later⟩

/-- A path of a sequential composition passes through a value of the first part. -/
theorem Path.bind {program : Prog S α} {rest : α → Prog S β} {events : List (Event S)} {value : β}
    (path : Path (program.bind rest) events (.ret value)) :
    ∃ middle first later, events = first ++ later ∧ Path program first (.ret middle) ∧
      Path (rest middle) later (.ret value) := by
  induction program generalizing events with
  | ret middle => exact ⟨middle, [], events, rfl, .nil, path⟩
  | vis op next ih =>
      obtain ⟨answer, events, rfl, continued⟩ := path.vis
      obtain ⟨middle, first, later, rfl, reached, last⟩ := ih answer continued
      exact ⟨middle, _, later, rfl, .cons reached, last⟩

theorem Path.snoc {program : Prog S α} {events : List (Event S)} {op : S.Op}
    {next : S.Res op → Prog S α} (path : Path program events (.vis op next)) (answer : S.Res op) :
    Path program (events ++ [⟨op, answer⟩]) (next answer) := by
  generalize current : (Prog.vis op next : Prog S α) = rest at path
  induction path with
  | nil =>
      subst current
      exact .cons .nil
  | cons _ ih => exact .cons (ih current)

/-- A path of a sequential composition stays in the first part or passes through a value of it. -/
theorem Path.within {program : Prog S α} {rest : α → Prog S β} {events : List (Event S)}
    {last : Prog S β} (path : Path (program.bind rest) events last) :
    (∃ left, Path program events left) ∨
      ∃ middle first later, events = first ++ later ∧ Path program first (.ret middle) ∧
        Path (rest middle) later last := by
  induction program generalizing events with
  | ret middle => exact .inr ⟨middle, [], events, rfl, .nil, path⟩
  | vis op next ih =>
      cases path with
      | nil => exact .inl ⟨.vis op next, .nil⟩
      | @cons _ _ answer _ _ later =>
          obtain ⟨left, path⟩ | ⟨middle, first, behind, rfl, path, last⟩ := ih answer later
          · exact .inl ⟨left, .cons path⟩
          · exact .inr ⟨middle, _, behind, rfl, .cons path, last⟩

/-- A program that only makes requests with an admitted answer can be run up to its end. -/
theorem All.path {allowed : S.Op → Prop} {admits : (op : S.Op) → S.Res op → Prop}
    {program : Prog S α} (holds : program.All allowed)
    (answers : ∀ op, allowed op → ∃ answer, admits op answer) :
    ∃ events value, Path program events (.ret value) ∧
      ∀ event ∈ events, admits event.op event.answer := by
  induction program with
  | ret value => exact ⟨[], value, .nil, nofun⟩
  | vis op next ih =>
      obtain ⟨answer, admitted⟩ := answers op holds.1
      obtain ⟨events, value, path, rest⟩ := ih answer (holds.2 answer)
      refine ⟨⟨op, answer⟩ :: events, value, .cons path, fun event member => ?_⟩
      rcases List.mem_cons.mp member with rfl | later
      · exact admitted
      · exact rest event later

end Prog

end Interaction
