import BeeSync.Interaction.FileRules

/-!
# Writers that replace one record

Each writer writes its own version of a record to one temporary file and renames it over the
record. As long as they do so one after the other, and each begins with a version that lists
what has been entered so far, no entry of the record is lost.
-/

set_option autoImplicit false

namespace Interaction

open Encoding

/-- A record of entries, its temporary file, and its versions on disk. -/
structure Register (Path Version Entry : Type) where
  temporary : Path
  target : Path
  encode : Version → Bytes
  lists : Version → Set Entry
  shows : Bytes → Set Entry
  apart : target ≠ temporary

namespace Register

variable {Path Version Entry Writer : Type} (register : Register Path Version Entry)

/-- Whoever is writing is the only one, its version lists all entries, and the record on disk
shows them. -/
structure Kept (fs : Fs Path) (work : Writer → Option (Version × Nat)) (saver : Option Writer)
    (entries : Set Entry) : Prop where
  alone : ∀ writer, work writer ≠ none → saver = some writer
  underway : ∀ writer, saver = some writer → ∃ version written,
    work writer = some (version, written) ∧ entries ⊆ register.lists version ∧
      (fs register.temporary = none ∨
        fs register.temporary = some ((register.encode version).take written))
  shown : ∀ entry ∈ entries, ∃ content, fs register.target = some content ∧
    entry ∈ register.shows content

namespace Kept

variable {register} {fs fs' : Fs Path} {work : Writer → Option (Version × Nat)}
  {saver : Option Writer} {entries : Set Entry} {writer : Writer} {version : Version}
  {written : Nat}

theorem start (fs : Fs Path) (idle : ∀ writer, work writer = none) :
    register.Kept fs work none (∅ : Set Entry) where
  alone writer working := absurd (idle writer) working
  underway _ saving := by cases saving
  shown _ entered := entered.elim

theorem still (kept : register.Kept fs work saver entries)
    (temporary : fs' register.temporary = fs register.temporary)
    (target : fs' register.target = fs register.target) : register.Kept fs' work saver entries := by
  refine ⟨kept.alone, fun writer saving => ?_, fun entry entered => ?_⟩
  · rw [temporary]
    exact kept.underway writer saving
  · rw [target]
    exact kept.shown entry entered

/-- The temporary file is gone. -/
theorem discard (kept : register.Kept fs work saver entries)
    (temporary : fs' register.temporary = none) (target : fs' register.target = fs register.target) :
    register.Kept fs' work saver entries := by
  refine ⟨kept.alone, fun writer saving => ?_, fun entry entered => ?_⟩
  · obtain ⟨version, written, working, covers, _⟩ := kept.underway writer saving
    exact ⟨version, written, working, covers, .inl temporary⟩
  · rw [target]
    exact kept.shown entry entered

/-- A record without entries may be removed. -/
theorem erase (kept : register.Kept fs work saver entries) (none_ : entries = ∅)
    (temporary : fs' register.temporary = fs register.temporary) :
    register.Kept fs' work saver entries := by
  refine ⟨kept.alone, fun writer saving => ?_, fun entry entered => ?_⟩
  · rw [temporary]
    exact kept.underway writer saving
  · rw [none_] at entered
    exact entered.elim

variable [DecidableEq Writer]

theorem begin (kept : register.Kept fs work none entries) (covers : entries ⊆ register.lists version)
    (temporary : fs' register.temporary = some []) (target : fs' register.target = fs register.target) :
    register.Kept fs' (Function.update work writer (some (version, 0))) (some writer) entries := by
  constructor
  · intro other working
    by_cases here : other = writer
    · rw [here]
    · rw [Function.update_of_ne here] at working
      cases kept.alone other working
  · intro other saving
    cases saving
    refine ⟨version, 0, Function.update_self _ _ _, covers, .inr ?_⟩
    rw [temporary, List.take_zero]
  · intro entry entered
    rw [target]
    exact kept.shown entry entered

theorem write [DecidableEq Path] (kept : register.Kept fs work saver entries)
    (mine : work writer = some (version, written))
    (more : written < (register.encode version).length)
    (put : fs' = Function.update fs register.temporary ((fs register.temporary).map fun content =>
      putByte content written (register.encode version)[written])) :
    register.Kept fs' (Function.update work writer (some (version, written + 1))) saver entries := by
  have saving := kept.alone writer (by rw [mine]; nofun)
  constructor
  · intro other working
    by_cases here : other = writer
    · rw [here, saving]
    · rw [Function.update_of_ne here] at working
      exact kept.alone other working
  · intro other saves
    cases saving.symm.trans saves
    obtain ⟨_, _, working, covers, content⟩ := kept.underway writer saves
    cases mine.symm.trans working
    refine ⟨version, written + 1, Function.update_self _ _ _, covers, ?_⟩
    rw [put, Function.update_self]
    obtain gone | there := content
    · exact .inl (by rw [gone]; rfl)
    · exact .inr (by rw [there, Option.map_some, putByte_take more])
  · intro entry entered
    rw [put, Function.update_of_ne register.apart]
    exact kept.shown entry entered

/-- A writer gives up. -/
theorem abandon (kept : register.Kept fs work saver entries) (mine : work writer ≠ none)
    (target : fs' register.target = fs register.target) :
    register.Kept fs' (Function.update work writer none) none entries := by
  constructor
  · intro other working
    by_cases here : other = writer
    · subst here
      rw [Function.update_self] at working
      exact absurd rfl working
    · rw [Function.update_of_ne here] at working
      cases (kept.alone other working).symm.trans (kept.alone writer mine)
      exact absurd rfl here
  · intro other saving
    cases saving
  · intro entry entered
    rw [target]
    exact kept.shown entry entered

/-- A writer that is done replaces the record. -/
theorem replace [DecidableEq Path] (kept : register.Kept fs work saver entries)
    (mine : work writer = some (version, (register.encode version).length)) {content : Bytes}
    (there : fs register.temporary = some content)
    (renamed : fs' = Function.update (Function.update fs register.temporary none) register.target
      (some content)) {new : Set Entry} (covers : new ⊆ register.lists version)
    (shows : register.lists version ⊆ register.shows (register.encode version)) :
    register.Kept fs' (Function.update work writer none) none (entries ∪ new) := by
  have saving := kept.alone writer (by rw [mine]; nofun)
  obtain ⟨_, _, working, lists, whole⟩ := kept.underway writer saving
  cases mine.symm.trans working
  have whole : content = register.encode version := by
    obtain gone | whole := whole
    · cases gone.symm.trans there
    · rw [there, List.take_length] at whole
      exact Option.some.inj whole
  constructor
  · intro other working
    by_cases here : other = writer
    · subst here
      rw [Function.update_self] at working
      exact absurd rfl working
    · rw [Function.update_of_ne here] at working
      cases (kept.alone other working).symm.trans saving
      exact absurd rfl here
  · intro other saves
    cases saves
  · intro entry entered
    refine ⟨content, ?_, ?_⟩
    · rw [renamed, Function.update_self]
    · rw [whole]
      exact shows (Set.union_subset lists covers entered)

end Kept

end Register

end Interaction
