import BeeSync.Interaction.FileRules
import Mathlib.Data.Set.Insert

/-!
# Programs that run alone

Total correctness of a program that nobody interferes with: none of its requests stays
without an answer, and whatever it is answered, it returns with its postcondition.
-/

set_option autoImplicit false

namespace Interaction

open Encoding

section Rules

variable {S T : Sig} {World World' α β ε : Type}
  {sem : (op : S.Op) → World → S.Res op → World → Prop}

/-- Every run of the program ends, and in the postcondition. -/
def Ensures (sem : (op : S.Op) → World → S.Res op → World → Prop) :
    Prog S α → (α → World → Prop) → World → Prop
  | .ret value, post, world => post value world
  | .vis op next, post, world => (∃ answer world', sem op world answer world') ∧
      ∀ answer world', sem op world answer world' → Ensures sem (next answer) post world'

@[simp] theorem ensures_ret (value : α) (post : α → World → Prop) (world : World) :
    Ensures sem (.ret value) post world ↔ post value world := Iff.rfl

theorem Ensures.mono {program : Prog S α} {post post' : α → World → Prop} {world : World}
    (holds : Ensures sem program post world)
    (weaker : ∀ value world, post value world → post' value world) :
    Ensures sem program post' world := by
  induction program generalizing world with
  | ret value => exact weaker value world holds
  | vis op next ih =>
      obtain ⟨answered, steps⟩ := holds
      exact ⟨answered, fun answer world' acted => ih answer (steps answer world' acted)⟩

theorem Ensures.and {program : Prog S α} {post post' : α → World → Prop} {world : World}
    (left : Ensures sem program post world) (right : Ensures sem program post' world) :
    Ensures sem program (fun value world => post value world ∧ post' value world) world := by
  induction program generalizing world with
  | ret value => exact ⟨left, right⟩
  | vis op next ih =>
      obtain ⟨answered, steps⟩ := left
      refine ⟨answered, fun answer world' acted => ?_⟩
      exact ih answer (steps answer world' acted) (right.2 answer world' acted)

theorem ensures_bind {program : Prog S α} {rest : α → Prog S β} {post : β → World → Prop}
    {world : World} : Ensures sem (program.bind rest) post world ↔
      Ensures sem program (fun value => Ensures sem (rest value) post) world := by
  induction program generalizing world with
  | ret value => exact Iff.rfl
  | vis op next ih =>
      constructor
      · intro holds
        exact ⟨holds.1, fun answer world' acted => ih answer |>.mp (holds.2 answer world' acted)⟩
      · intro holds
        exact ⟨holds.1, fun answer world' acted => ih answer |>.mpr (holds.2 answer world' acted)⟩

/-- The rest of a program is verified from what the first part ensures. -/
theorem Ensures.bind {program : Prog S α} {rest : α → Prog S β} {mid : α → World → Prop}
    {post : β → World → Prop} {world : World} (first : Ensures sem program mid world)
    (second : ∀ value world, mid value world → Ensures sem (rest value) post world) :
    Ensures sem (program.bind rest) post world :=
  ensures_bind.mpr (first.mono second)

theorem Ensures.attempt {program : Prog S (Except ε α)} {rest : α → Prog S (Except ε β)}
    {mid : Except ε α → World → Prop} {post : Except ε β → World → Prop} {world : World}
    (first : Ensures sem program mid world)
    (stopped : ∀ error world, mid (.error error) world → post (.error error) world)
    (second : ∀ value world, mid (.ok value) world → Ensures sem (rest value) post world) :
    Ensures sem (program.attempt rest) post world := by
  refine first.bind fun result world reached => ?_
  cases result with
  | error error => exact stopped error world reached
  | ok value => exact second value world reached

/-- What a program can come to return at all is what it returns. -/
theorem Ensures.yields {program : Prog S α} {post : α → World → Prop} {good : α → Prop}
    {world : World} (holds : Ensures sem program post world) (yields : program.Yields good) :
    Ensures sem program (fun value world => post value world ∧ good value) world := by
  induction program generalizing world with
  | ret value => exact ⟨holds, yields⟩
  | vis op next ih =>
      obtain ⟨answered, steps⟩ := holds
      refine ⟨answered, fun answer world' acted => ?_⟩
      exact ih answer (steps answer world' acted) (yields answer)

/-- What a program ensures holds wherever one of its runs returns. -/
theorem Ensures.post {program : Prog S α} {post : α → World → Prop} {world world' : World}
    {value : α} (holds : Ensures sem program post world)
    (ran : Runs sem program world (.ret value) world') : post value world' := by
  generalize returned : (Prog.ret value : Prog S α) = last at ran
  induction ran with
  | refl =>
      subst returned
      exact holds
  | vis answer acted _ ih => exact ih (holds.2 answer _ acted) returned

theorem Ensures.returns {program : Prog S α} {post : α → World → Prop} {world : World}
    (holds : Ensures sem program post world) :
    ∃ value world', Runs sem program world (.ret value) world' ∧ post value world' := by
  induction program generalizing world with
  | ret value => exact ⟨value, world, .refl, holds⟩
  | vis op next ih =>
      obtain ⟨⟨answer, middle, acted⟩, steps⟩ := holds
      obtain ⟨value, world', ran, reached⟩ := ih answer (steps answer middle acted)
      exact ⟨value, world', .vis answer acted ran, reached⟩

/-- A program over a larger interface and within a larger world. -/
theorem Ensures.embed {sem' : (op : T.Op) → World' → T.Res op → World' → Prop}
    {op : S.Op → T.Op} {answer : (o : S.Op) → T.Res (op o) → S.Res o} {program : Prog S α}
    {post : α → World → Prop} (put : World → World')
    (some_ : ∀ o world result world', sem o world result world' →
      ∃ result' after, sem' (op o) (put world) result' after)
    (only : ∀ o world result after, sem' (op o) (put world) result after →
      ∃ world', sem o world (answer o result) world' ∧ after = put world')
    {world : World} (holds : Ensures sem program post world) :
    Ensures sem' (program.embed op answer)
      (fun value after => ∃ world', post value world' ∧ after = put world') (put world) := by
  induction program generalizing world with
  | ret value => exact ⟨world, holds, rfl⟩
  | vis o next ih =>
      obtain ⟨⟨result, middle, acted⟩, steps⟩ := holds
      refine ⟨some_ o world result middle acted, fun result after acted => ?_⟩
      obtain ⟨world', acted', same⟩ := only o world result after acted
      rw [same]
      exact ih _ (steps _ world' acted')

end Rules

section Files

variable {Path α : Type}

/-- The store without some of its files. -/
noncomputable def Fs.without (fs : Fs Path) (gone : Set Path) : Fs Path :=
  open Classical in fun path => if path ∈ gone then none else fs path

namespace Fs

variable {fs : Fs Path} {gone : Set Path} {path : Path}

theorem without_of_mem (member : path ∈ gone) : fs.without gone path = none :=
  if_pos member

theorem without_of_notMem (outside : path ∉ gone) : fs.without gone path = fs path :=
  if_neg outside

theorem without_without (gone' : Set Path) :
    (fs.without gone).without gone' = fs.without (gone ∪ gone') := by
  funext path
  by_cases second : path ∈ gone'
  · rw [without_of_mem second, without_of_mem (Set.mem_union_right _ second)]
  · by_cases first : path ∈ gone
    · rw [without_of_notMem second, without_of_mem first, without_of_mem (Set.mem_union_left _ first)]
    · rw [without_of_notMem second, without_of_notMem first,
        without_of_notMem (fun either => either.elim first second)]

theorem without_eq_self (absent : ∀ path ∈ gone, fs path = none) : fs.without gone = fs := by
  funext path
  by_cases member : path ∈ gone
  · rw [without_of_mem member, absent path member]
  · exact without_of_notMem member

@[simp] theorem without_empty : fs.without ∅ = fs := without_eq_self nofun

theorem update_none [DecidableEq Path] (fs : Fs Path) (path : Path) :
    Function.update fs path none = fs.without {path} := by
  funext other
  by_cases same : other = path
  · rw [same, Function.update_self, without_of_mem (Set.mem_singleton path)]
  · rw [Function.update_of_ne same, without_of_notMem (Set.mem_singleton_iff.not.mpr same)]

end Fs

variable [DecidableEq Path] {post : α → Fs Path → Prop} {fs : Fs Path} {path : Path}
  {faults : Prop}

/-- Every call is answered, except the one that stands for a loop that never ends. -/
theorem FsOp.Sem.answers {op : FsOp Path} (bounded : op.Bounded) (fs : Fs Path) :
    ∃ answer fs', op.Sem faults fs answer fs' := by
  cases op with
  | exists_ path => exact ⟨_, fs, rfl, .inl rfl⟩
  | readFile path =>
      cases found : fs path with
      | none => exact ⟨.error ⟨""⟩, fs, rfl, .inr ⟨.inl found, _, rfl⟩⟩
      | some content => exact ⟨.ok content, fs, rfl, .inl ⟨content, found, rfl⟩⟩
  | create path => exact ⟨.ok (), _, .inl ⟨rfl, rfl⟩⟩
  | writeAt path offset byte => exact ⟨.ok (), _, .inl ⟨rfl, rfl⟩⟩
  | openRead path =>
      cases found : fs path with
      | none => exact ⟨.error ⟨""⟩, fs, rfl, .inr ⟨.inl found, _, rfl⟩⟩
      | some content => exact ⟨.ok (), fs, rfl, .inl ⟨by rw [found]; rfl, rfl⟩⟩
  | readAt path offset limit =>
      refine ⟨.ok ((((fs path).getD []).drop offset).take limit), fs, rfl, .inl ⟨_, rfl, ?_⟩⟩
      refine ⟨List.take_prefix .., List.length_take_le .., fun empty => ?_⟩
      obtain none_ | atEnd := List.take_eq_nil_iff.mp empty
      · exact .inr none_
      · exact .inl (List.drop_eq_nil_iff.mp atEnd)
  | rename source target =>
      cases found : fs source with
      | none => exact ⟨.error ⟨""⟩, fs, .inr ⟨.inl found, rfl, _, rfl⟩⟩
      | some content => exact ⟨.ok (), _, .inl ⟨content, found, rfl, rfl⟩⟩
  | remove path =>
      cases found : fs path with
      | none => exact ⟨.error ⟨""⟩, fs, .inr ⟨.inl found, rfl, _, rfl⟩⟩
      | some content => exact ⟨.ok (), _, .inl ⟨by rw [found]; rfl, rfl, rfl⟩⟩
  | stuck => exact bounded.elim

/-- A program without an endless loop returns. -/
theorem Ensures.returned {program : FsProg Path α} (bounded : program.All FsOp.Bounded) :
    Ensures (FsOp.Sem faults) program (fun _ _ => True) fs := by
  induction program generalizing fs with
  | ret value => trivial
  | vis op next ih =>
      exact ⟨FsOp.Sem.answers bounded.1 fs, fun answer _ _ => ih answer (bounded.2 answer)⟩

theorem Ensures.call {op : FsOp Path} {next : op.Res → FsProg Path α} (bounded : op.Bounded)
    (rest : ∀ answer fs', op.Sem faults fs answer fs' →
      Ensures (FsOp.Sem faults) (next answer) post fs') :
    Ensures (FsOp.Sem faults) (op.call.bind next) post fs :=
  ⟨FsOp.Sem.answers bounded fs, rest⟩

/-- Without faults a removal fails only because there is nothing to remove. -/
theorem FsOp.Sem.removed {answer : Except IoError Unit} {fs' : Fs Path}
    (acted : (FsOp.remove path).Sem False fs answer fs') : fs' = fs.without {path} := by
  obtain ⟨_, _, same⟩ | ⟨absent, same, _⟩ := acted
  · rw [same, Fs.update_none]
  · rw [same]
    refine (Fs.without_eq_self fun other here => ?_).symm
    rw [Set.mem_singleton_iff.mp here]
    exact absent.resolve_right id

theorem Ensures.remove {next : Except IoError Unit → FsProg Path α}
    (rest : ∀ answer, Ensures (FsOp.Sem False) (next answer) post (fs.without {path})) :
    Ensures (FsOp.Sem False) ((FsOp.remove path).call.bind next) post fs := by
  have bounded : (FsOp.remove path).Bounded := trivial
  apply Ensures.call bounded
  intro answer fs' acted
  rw [acted.removed]
  exact rest answer

theorem Ensures.exists_ {next : Except IoError Bool → FsProg Path α}
    (rest : Ensures (FsOp.Sem False) (next (.ok (fs path).isSome)) post fs) :
    Ensures (FsOp.Sem False) ((FsOp.exists_ path).call.bind next) post fs := by
  refine ⟨⟨_, fs, rfl, .inl rfl⟩, fun answer fs' acted => ?_⟩
  obtain ⟨same, answered | ⟨fault, _⟩⟩ := acted
  · rw [answered, same]
    exact rest
  · exact fault.elim

/-- A file that is there is read whole, and another one is not read. -/
theorem Ensures.readFile {next : Except IoError Bytes → FsProg Path α}
    (absent : fs path = none → ∀ error, Ensures (FsOp.Sem False) (next (.error error)) post fs)
    (rest : ∀ content, fs path = some content →
      Ensures (FsOp.Sem False) (next (.ok content)) post fs) :
    Ensures (FsOp.Sem False) ((FsOp.readFile path).call.bind next) post fs := by
  constructor
  · cases found : fs path with
    | none => exact ⟨.error ⟨""⟩, fs, rfl, .inr ⟨.inl found, _, rfl⟩⟩
    | some content => exact ⟨.ok content, fs, rfl, .inl ⟨content, found, rfl⟩⟩
  · intro answer fs' acted
    obtain ⟨same, ⟨content, found, answered⟩ | ⟨missing, error, answered⟩⟩ := acted
    · rw [answered, same]
      exact rest content found
    · rw [answered, same]
      exact absent (missing.resolve_right id) error

theorem Ensures.rename {source target : Path} {content : Bytes}
    {next : Except IoError Unit → FsProg Path α} (found : fs source = some content)
    (rest : Ensures (FsOp.Sem False) (next (.ok ())) post
      (Function.update (Function.update fs source none) target (some content))) :
    Ensures (FsOp.Sem False) ((FsOp.rename source target).call.bind next) post fs := by
  refine ⟨⟨.ok (), _, .inl ⟨content, found, rfl, rfl⟩⟩, fun answer fs' acted => ?_⟩
  obtain ⟨moved, found', answered, same⟩ | ⟨missing, _⟩ := acted
  · rw [found] at found'
    cases found'
    rw [answered, same]
    exact rest
  · rw [found] at missing
    exact nomatch missing.resolve_right id

theorem Ensures.writeAll {post : Except IoError Unit → Fs Path → Prop} (content data : Bytes)
    (holds : post (.ok ()) (Function.update fs path (some (content ++ data)))) :
    Ensures (FsOp.Sem False) (writeAll path content.length data) post
      (Function.update fs path (some content)) := by
  induction data generalizing content with
  | nil =>
      rw [List.append_nil] at holds
      exact holds
  | cons byte rest ih =>
      refine ⟨⟨.ok (), _, .inl ⟨rfl, rfl⟩⟩, fun answer fs' acted => ?_⟩
      obtain ⟨answered, same⟩ | ⟨fault, _⟩ := acted
      · rw [Function.update_self, Function.update_idem, Option.map_some, putByte_end] at same
        rw [answered, same]
        have later := ih (content ++ [byte])
        rw [List.length_append, List.length_singleton, List.append_assoc,
          List.singleton_append] at later
        exact later holds
      · exact fault.elim

theorem Ensures.writeFile {post : Except IoError Unit → Fs Path → Prop} (data : Bytes)
    (holds : post (.ok ()) (Function.update fs path (some data))) :
    Ensures (FsOp.Sem False) (writeFile path data) post fs := by
  refine ⟨⟨.ok (), _, .inl ⟨rfl, rfl⟩⟩, fun answer fs' acted => ?_⟩
  obtain ⟨answered, same⟩ | ⟨fault, _⟩ := acted
  · rw [answered, same]
    exact Ensures.writeAll [] data holds
  · exact fault.elim

end Files

end Interaction
