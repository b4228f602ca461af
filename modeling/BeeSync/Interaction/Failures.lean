import BeeSync.Interaction.Sequential

/-!
# The call that fails

Any call on a store may fail for reasons of its own. The first one that does is written
down, so that the outcome of a program can be told from the point where it was interrupted.
-/

set_option autoImplicit false

namespace Interaction

open Encoding

variable {Path α : Type}

/-- A store, and the first call that failed on it. -/
structure Watched (Path : Type) where
  files : Fs Path
  failed : Option (FsOp Path)

def FsOp.Errs : (op : FsOp Path) → op.Res → Prop
  | .exists_ _, answer => ∃ error, answer = .error error
  | .readFile _, answer => ∃ error, answer = .error error
  | .create _, answer => ∃ error, answer = .error error
  | .writeAt _ _ _, answer => ∃ error, answer = .error error
  | .openRead _, answer => ∃ error, answer = .error error
  | .readAt _ _ _, answer => ∃ error, answer = .error error
  | .rename _ _, answer => ∃ error, answer = .error error
  | .remove _, answer => ∃ error, answer = .error error
  | .stuck, answer => nomatch answer

variable [DecidableEq Path] {post : α → Watched Path → Prop} {files : Fs Path}
  {failed : Option (FsOp Path)} {path : Path}

/-- A call does what it should, or it fails and leaves the store as it was. -/
def FsOp.Watch (op : FsOp Path) (world : Watched Path) (answer : op.Res)
    (world' : Watched Path) : Prop :=
  (op.Sem False world.files answer world'.files ∧ world'.failed = world.failed) ∨
    (op.Errs answer ∧ world' = ⟨world.files, world.failed.or (some op)⟩)

theorem FsOp.Watch.answers {op : FsOp Path} (bounded : op.Bounded) (world : Watched Path) :
    ∃ answer world', op.Watch world answer world' := by
  obtain ⟨answer, files, acted⟩ : ∃ answer files, op.Sem False world.files answer files :=
    FsOp.Sem.answers bounded world.files
  exact ⟨answer, ⟨files, world.failed⟩, .inl ⟨acted, rfl⟩⟩

theorem Ensures.watched {op : FsOp Path} {next : op.Res → FsProg Path α} (bounded : op.Bounded)
    (fine : ∀ answer files', op.Sem False files answer files' →
      Ensures FsOp.Watch (next answer) post ⟨files', failed⟩)
    (faulty : ∀ answer, op.Errs answer →
      Ensures FsOp.Watch (next answer) post ⟨files, failed.or (some op)⟩) :
    Ensures FsOp.Watch (op.call.bind next) post ⟨files, failed⟩ := by
  refine ⟨FsOp.Watch.answers bounded _, fun answer world' acted => ?_⟩
  obtain ⟨acted, same⟩ | ⟨errs, same⟩ := acted
  · cases world'
    cases same
    exact fine answer _ acted
  · rw [same]
    exact faulty answer errs

theorem Ensures.unwatched {program : FsProg Path α}
    (holds : Ensures FsOp.Watch program post ⟨files, failed⟩) :
    Ensures (FsOp.Sem False) program (fun value files' => post value ⟨files', failed⟩) files := by
  induction program generalizing files with
  | ret value => exact holds
  | vis op next ih =>
      obtain ⟨⟨answer, world', acted⟩, steps⟩ := holds
      refine ⟨FsOp.Sem.answers (FsOp.bounded_of_res answer) files, fun answer files' acted => ?_⟩
      exact ih answer (steps answer ⟨files', failed⟩ (.inl ⟨acted, rfl⟩))

/-- How far appending to a file comes. -/
def Appended (path : Path) (files : Fs Path) (failed : Option (FsOp Path)) (content data : Bytes) :
    Except IoError Unit → Watched Path → Prop
  | .ok _, world => world = ⟨Function.update files path (some (content ++ data)), failed⟩
  | .error _, world => ∃ count byte, count < data.length ∧
      world = ⟨Function.update files path (some (content ++ data.take count)),
        failed.or (some (.writeAt path (content.length + count) byte))⟩

theorem Ensures.appended (content data : Bytes) :
    Ensures FsOp.Watch (Interaction.writeAll path content.length data)
      (Appended path files failed content data)
      ⟨Function.update files path (some content), failed⟩ := by
  induction data generalizing content with
  | nil =>
      rw [Interaction.writeAll, ensures_ret, Appended, List.append_nil]
  | cons byte rest ih =>
      have bounded : (FsOp.writeAt path content.length byte).Bounded := trivial
      apply Ensures.watched bounded
      · intro answer files' acted
        obtain ⟨answered, same⟩ | ⟨fault, _⟩ := acted
        · rw [Function.update_self, Function.update_idem, Option.map_some, putByte_end] at same
          rw [answered, same]
          have later := ih (content ++ [byte])
          rw [List.length_append, List.length_singleton] at later
          refine later.mono fun result world reached => ?_
          cases result with
          | ok _ =>
              rw [Appended, List.append_assoc, List.singleton_append] at reached
              exact reached
          | error error =>
              obtain ⟨count, last, bound, same⟩ := reached
              refine ⟨count + 1, last, Nat.succ_lt_succ bound, ?_⟩
              rw [List.append_assoc, List.singleton_append] at same
              rw [same, List.take_succ_cons, List.length_append, List.length_singleton,
                Nat.add_assoc, Nat.add_comm 1]
        · exact fault.elim
      · intro answer errs
        obtain ⟨error, rfl⟩ := errs
        refine ⟨0, byte, Nat.succ_pos _, ?_⟩
        rw [List.take_zero, List.append_nil, Nat.add_zero]

/-- How the writing of a whole file ends. -/
def Written (path : Path) (files : Fs Path) (failed : Option (FsOp Path)) (data : Bytes) :
    Except IoError Unit → Watched Path → Prop
  | .ok _, world => world = ⟨Function.update files path (some data), failed⟩
  | .error _, world => ∃ call : FsOp Path, (∀ changed, call.writes changed ↔ changed = path) ∧
      world.failed = failed.or (some call)

theorem Ensures.written (data : Bytes) :
    Ensures FsOp.Watch (Interaction.writeFile path data) (Written path files failed data)
      ⟨files, failed⟩ := by
  have bounded : (FsOp.create path).Bounded := trivial
  apply Ensures.watched bounded
  · intro answer files' acted
    obtain ⟨answered, same⟩ | ⟨fault, _⟩ := acted
    · rw [answered, same]
      refine (Ensures.appended [] data).mono fun result world reached => ?_
      cases result with
      | ok _ => exact reached
      | error error =>
          obtain ⟨count, byte, _, same⟩ := reached
          rw [same]
          exact ⟨_, fun _ => Iff.rfl, rfl⟩
    · exact fault.elim
  · intro answer errs
    obtain ⟨error, rfl⟩ := errs
    exact ⟨_, fun _ => Iff.rfl, rfl⟩

end Interaction
