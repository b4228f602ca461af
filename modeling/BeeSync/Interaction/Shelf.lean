import BeeSync.Interaction.FileRules

/-!
# Slots with several writers

Writers fill slots byte by byte and mark a slot when they are done, each at its own pace.
As long as those who work on one slot at the same time write the same bytes, a slot that
nobody works on holds what its mark says.
-/

set_option autoImplicit false

namespace Interaction

open Encoding

/-- What a writer puts into a slot, and how much of it while it is still writing. -/
structure Shelf.Work (Slot : Type) where
  slot : Slot
  data : Bytes
  written : Option Nat

@[ext] structure Shelf (Writer Slot Mark : Type) where
  content : Slot → Option Bytes
  work : Writer → Option (Shelf.Work Slot)
  mark : Slot → Option Mark
  /-- Slots that have been emptied and not begun again. -/
  emptied : Set Slot

namespace Shelf

variable {Writer Slot Mark : Type}

/-- Whoever works on a slot writes these bytes. -/
def Agreed (shelf : Shelf Writer Slot Mark) (slot : Slot) (data : Bytes) : Prop :=
  ∀ writer work, shelf.work writer = some work → work.slot = slot → work.data = data

section Steps

variable [DecidableEq Writer] [DecidableEq Slot] (markOf : Bytes → Mark)

inductive Step : Shelf Writer Slot Mark → Shelf Writer Slot Mark → Prop where
  | begin {shelf : Shelf Writer Slot Mark} (writer : Writer) (slot : Slot) (data : Bytes)
      (idle : shelf.work writer = none) (agreed : shelf.Agreed slot data) : Step shelf { shelf with
        content := Function.update shelf.content slot (some [])
        work := Function.update shelf.work writer (some ⟨slot, data, some 0⟩)
        emptied := shelf.emptied \ {slot} }
  | write {shelf : Shelf Writer Slot Mark} {writer : Writer} {slot : Slot} {data : Bytes}
      {written : Nat} (working : shelf.work writer = some ⟨slot, data, some written⟩)
      (more : written < data.length) : Step shelf { shelf with
        content := Function.update shelf.content slot
          ((shelf.content slot).map fun content => putByte content written data[written])
        work := Function.update shelf.work writer (some ⟨slot, data, some (written + 1)⟩) }
  | close {shelf : Shelf Writer Slot Mark} {writer : Writer} {slot : Slot} {data : Bytes}
      (working : shelf.work writer = some ⟨slot, data, some data.length⟩) : Step shelf { shelf with
        work := Function.update shelf.work writer (some ⟨slot, data, none⟩) }
  | record {shelf : Shelf Writer Slot Mark} {writer : Writer} {slot : Slot} {data : Bytes}
      (working : shelf.work writer = some ⟨slot, data, none⟩) : Step shelf { shelf with
        work := Function.update shelf.work writer none
        mark := Function.update shelf.mark slot (some (markOf data)) }
  | empty {shelf : Shelf Writer Slot Mark} (slot : Slot) : Step shelf { shelf with
        content := Function.update shelf.content slot none
        emptied := insert slot shelf.emptied }

end Steps

/-- Somebody is still writing these bytes into a slot, and has come as far as the slot is
certain to agree with them. -/
def Underway (shelf : Shelf Writer Slot Mark) (slot : Slot) (data : Bytes) : Prop :=
  ∃ writer written content, shelf.work writer = some ⟨slot, data, some written⟩ ∧
    shelf.content slot = some content ∧ Agrees data written content

/-- A mark says what the slot holds. -/
def Matches (markOf : Bytes → Mark) (shelf : Shelf Writer Slot Mark) (slot : Slot) (mark : Mark) :
    Prop :=
  ∃ content, shelf.content slot = some content ∧ mark = markOf content

structure Sound (markOf : Bytes → Mark) (shelf : Shelf Writer Slot Mark) : Prop where
  agreed : ∀ writer work, shelf.work writer = some work → shelf.Agreed work.slot work.data
  solid : ∀ writer work, shelf.work writer = some work → work.slot ∉ shelf.emptied →
    shelf.content work.slot = some work.data ∨ shelf.Underway work.slot work.data
  marked : ∀ slot mark, shelf.mark slot = some mark → slot ∉ shelf.emptied →
    shelf.Matches markOf slot mark ∨ ∃ writer work, shelf.work writer = some work ∧ work.slot = slot

variable {markOf : Bytes → Mark} {shelf shelf' : Shelf Writer Slot Mark}

theorem Sound.of_idle (idle : ∀ writer, shelf.work writer = none)
    (same : ∀ slot mark, shelf.mark slot = some mark → shelf.Matches markOf slot mark) :
    shelf.Sound markOf where
  agreed writer work working := by
    rw [idle writer] at working
    cases working
  solid writer work working := by
    rw [idle writer] at working
    cases working
  marked slot mark marked _ := .inl (same slot mark marked)

theorem Sound.matches (sound : shelf.Sound markOf) {slot : Slot} {mark : Mark}
    (marked : shelf.mark slot = some mark) (kept : slot ∉ shelf.emptied)
    (quiet : ∀ writer, shelf.work writer = none) : shelf.Matches markOf slot mark := by
  obtain same | ⟨writer, work, working, _⟩ := sound.marked slot mark marked kept
  · exact same
  · rw [quiet writer] at working
    cases working

private theorem update_some {α β : Type} [DecidableEq α] {f : α → Option β} {place other : α}
    {value : Option β} {found : β} (same : Function.update f place value other = some found) :
    (other = place ∧ value = some found) ∨ (other ≠ place ∧ f other = some found) := by
  by_cases here : other = place
  · subst here
    rw [Function.update_self] at same
    exact .inl ⟨rfl, same⟩
  · rw [Function.update_of_ne here] at same
    exact .inr ⟨here, same⟩

variable [DecidableEq Writer]

/-- A writer goes on with its work. -/
private structure Continues (shelf shelf' : Shelf Writer Slot Mark) (writer : Writer) (slot : Slot)
    (data : Bytes) (written written' : Option Nat) : Prop where
  before : shelf.work writer = some ⟨slot, data, written⟩
  after : shelf'.work = Function.update shelf.work writer (some ⟨slot, data, written'⟩)

namespace Continues

variable {writer : Writer} {slot : Slot} {data : Bytes} {written written' : Option Nat}

theorem earlier (continues : Continues shelf shelf' writer slot data written written')
    {other : Writer} {work' : Work Slot} (working : shelf'.work other = some work') :
    ∃ work, shelf.work other = some work ∧ work.slot = work'.slot ∧ work.data = work'.data := by
  rw [continues.after] at working
  obtain ⟨here, same⟩ | ⟨_, working⟩ := update_some working
  · subst here
    cases same
    exact ⟨_, continues.before, rfl, rfl⟩
  · exact ⟨work', working, rfl, rfl⟩

theorem later (continues : Continues shelf shelf' writer slot data written written')
    {other : Writer} {work : Work Slot} (working : shelf.work other = some work) :
    ∃ work', shelf'.work other = some work' ∧ work'.slot = work.slot := by
  rw [continues.after]
  by_cases here : other = writer
  · subst here
    cases continues.before.symm.trans working
    exact ⟨_, Function.update_self _ _ _, rfl⟩
  · exact ⟨work, (Function.update_of_ne here _ _).trans working, rfl⟩

theorem agreed (continues : Continues shelf shelf' writer slot data written written')
    (sound : shelf.Sound markOf) (other : Writer) (work' : Work Slot)
    (working : shelf'.work other = some work') : shelf'.Agreed work'.slot work'.data := by
  intro other₂ work₂' working₂ same
  obtain ⟨work, working, slots, datas⟩ := continues.earlier working
  obtain ⟨work₂, working₂, slots₂, datas₂⟩ := continues.earlier working₂
  rw [← datas, ← datas₂]
  exact sound.agreed other work working other₂ work₂ working₂ ((slots₂.trans same).trans slots.symm)

end Continues

variable [DecidableEq Slot]

private theorem Sound.begin (sound : shelf.Sound markOf) {writer : Writer} {slot : Slot}
    {data : Bytes} (idle : shelf.work writer = none) (agreed : shelf.Agreed slot data) :
    Sound markOf { shelf with
      content := Function.update shelf.content slot (some [])
      work := Function.update shelf.work writer (some ⟨slot, data, some 0⟩)
      emptied := shelf.emptied \ {slot} } := by
  have apart : ∀ other work, shelf.work other = some work → other ≠ writer := by
    intro other work working same
    subst same
    rw [idle] at working
    cases working
  constructor
  · intro other work working other₂ work₂ working₂ same
    obtain ⟨_, here⟩ | ⟨_, working⟩ := update_some working
    · cases here
      obtain ⟨_, here₂⟩ | ⟨_, working₂⟩ := update_some working₂
      · cases here₂
        rfl
      · exact agreed other₂ work₂ working₂ same
    · obtain ⟨_, here₂⟩ | ⟨_, working₂⟩ := update_some working₂
      · cases here₂
        exact (agreed other work working same.symm).symm
      · exact sound.agreed other work working other₂ work₂ working₂ same
  · intro other work working kept
    by_cases here : work.slot = slot
    · have same : work.data = data := by
        obtain ⟨_, new⟩ | ⟨_, working⟩ := update_some working
        · cases new
          rfl
        · exact agreed other work working here
      rw [here, same]
      exact .inr ⟨writer, 0, [], Function.update_self _ _ _, Function.update_self _ _ _, .nil data⟩
    · obtain ⟨_, new⟩ | ⟨_, working⟩ := update_some working
      · cases new
        exact absurd rfl here
      · have kept' : work.slot ∉ shelf.emptied := fun emptied => kept ⟨emptied, here⟩
        obtain whole | ⟨other₂, written, content, working₂, found, agrees⟩ :=
          sound.solid other work working kept'
        · exact .inl ((Function.update_of_ne here _ _).trans whole)
        · have different := apart other₂ _ working₂
          exact .inr ⟨other₂, written, content, (Function.update_of_ne different _ _).trans working₂,
            (Function.update_of_ne here _ _).trans found, agrees⟩
  · intro slot₂ mark marked kept
    by_cases here : slot₂ = slot
    · subst here
      exact .inr ⟨writer, _, Function.update_self _ _ _, rfl⟩
    · have kept' : slot₂ ∉ shelf.emptied := fun emptied => kept ⟨emptied, here⟩
      obtain ⟨content, found, same⟩ | ⟨other, work, working, there⟩ :=
        sound.marked slot₂ mark marked kept'
      · exact .inl ⟨content, (Function.update_of_ne here _ _).trans found, same⟩
      · have different := apart other _ working
        exact .inr ⟨other, work, (Function.update_of_ne different _ _).trans working, there⟩

private theorem Sound.write (sound : shelf.Sound markOf) {writer : Writer} {slot : Slot}
    {data : Bytes} {written : Nat} (working : shelf.work writer = some ⟨slot, data, some written⟩)
    (more : written < data.length) : Sound markOf { shelf with
      content := Function.update shelf.content slot
        ((shelf.content slot).map fun content => putByte content written data[written])
      work := Function.update shelf.work writer (some ⟨slot, data, some (written + 1)⟩) } := by
  have continues : Continues shelf { shelf with
      content := Function.update shelf.content slot
        ((shelf.content slot).map fun content => putByte content written data[written])
      work := Function.update shelf.work writer (some ⟨slot, data, some (written + 1)⟩) }
      writer slot data (some written) (some (written + 1)) := ⟨working, rfl⟩
  have mine : ∀ {content}, shelf.content slot = some content →
      Function.update shelf.content slot
        ((shelf.content slot).map fun content => putByte content written data[written]) slot =
          some (putByte content written data[written]) := by
    intro content found
    rw [Function.update_self, found]
    rfl
  refine ⟨continues.agreed sound, ?_, ?_⟩
  · intro other work' working' kept
    obtain ⟨work, before, slots, datas⟩ := continues.earlier working'
    rw [← slots] at kept ⊢
    rw [← datas]
    by_cases here : work.slot = slot
    · have same : work.data = data := sound.agreed writer _ working other work before here
      rw [here, same]
      obtain whole | ⟨other₂, written₂, content, working₂, found, agrees⟩ :=
        sound.solid other work before kept
      · rw [here, same] at whole
        exact .inl ((mine whole).trans (congrArg some (putByte_same more)))
      · rw [here, same] at working₂
        rw [here] at found
        rw [same] at agrees
        by_cases self : other₂ = writer
        · subst self
          cases working.symm.trans working₂
          exact .inr ⟨other₂, written + 1, _, Function.update_self _ _ _, mine found,
            agrees.advance more⟩
        · exact .inr ⟨other₂, written₂, _, (Function.update_of_ne self _ _).trans working₂,
            mine found, agrees.write written more⟩
    · obtain whole | ⟨other₂, written₂, content, working₂, found, agrees⟩ :=
        sound.solid other work before kept
      · exact .inl ((Function.update_of_ne here _ _).trans whole)
      · have different : other₂ ≠ writer := by
          intro self
          subst self
          cases working.symm.trans working₂
          exact here rfl
        exact .inr ⟨other₂, written₂, content, (Function.update_of_ne different _ _).trans working₂,
          (Function.update_of_ne here _ _).trans found, agrees⟩
  · intro slot₂ mark marked kept
    obtain ⟨content, found, same⟩ | ⟨other, work, before, there⟩ := sound.marked slot₂ mark marked kept
    · by_cases here : slot₂ = slot
      · subst here
        exact .inr ⟨writer, _, Function.update_self _ _ _, rfl⟩
      · exact .inl ⟨content, (Function.update_of_ne here _ _).trans found, same⟩
    · obtain ⟨work', after, slots⟩ := continues.later before
      exact .inr ⟨other, work', after, slots.trans there⟩

omit [DecidableEq Slot] in
private theorem Sound.close (sound : shelf.Sound markOf) {writer : Writer} {slot : Slot}
    {data : Bytes} (working : shelf.work writer = some ⟨slot, data, some data.length⟩) :
    Sound markOf { shelf with
      work := Function.update shelf.work writer (some ⟨slot, data, none⟩) } := by
  have continues : Continues shelf { shelf with
      work := Function.update shelf.work writer (some ⟨slot, data, none⟩) }
      writer slot data (some data.length) none := ⟨working, rfl⟩
  refine ⟨continues.agreed sound, ?_, ?_⟩
  · intro other work' working' kept
    obtain ⟨work, before, slots, datas⟩ := continues.earlier working'
    rw [← slots] at kept ⊢
    rw [← datas]
    obtain whole | ⟨other₂, written, content, working₂, found, agrees⟩ :=
      sound.solid other work before kept
    · exact .inl whole
    · by_cases self : other₂ = writer
      · subst self
        cases working.symm.trans working₂
        rw [agrees.whole] at found
        exact .inl found
      · exact .inr ⟨other₂, written, content, (Function.update_of_ne self _ _).trans working₂, found,
          agrees⟩
  · intro slot₂ mark marked kept
    obtain same | ⟨other, work, before, there⟩ := sound.marked slot₂ mark marked kept
    · exact .inl same
    · obtain ⟨work', after, slots⟩ := continues.later before
      exact .inr ⟨other, work', after, slots.trans there⟩

private theorem Sound.record (sound : shelf.Sound markOf) {writer : Writer} {slot : Slot}
    {data : Bytes} (working : shelf.work writer = some ⟨slot, data, none⟩) :
    Sound markOf { shelf with
      work := Function.update shelf.work writer none
      mark := Function.update shelf.mark slot (some (markOf data)) } := by
  have others : ∀ {other work}, Function.update shelf.work writer none other = some work →
      shelf.work other = some work := by
    intro other work working
    obtain ⟨_, nothing⟩ | ⟨_, working⟩ := update_some working
    · cases nothing
    · exact working
  have underway : ∀ {slot₂ data₂}, shelf.Underway slot₂ data₂ → Underway { shelf with
      work := Function.update shelf.work writer none
      mark := Function.update shelf.mark slot (some (markOf data)) } slot₂ data₂ := by
    intro slot₂ data₂ going
    obtain ⟨other, written, content, working₂, found, agrees⟩ := going
    have different : other ≠ writer := by
      intro self
      subst self
      cases working.symm.trans working₂
    exact ⟨other, written, content, (Function.update_of_ne different _ _).trans working₂, found, agrees⟩
  constructor
  · intro other work working' other₂ work₂ working₂ same
    exact sound.agreed other work (others working') other₂ work₂ (others working₂) same
  · intro other work working' kept
    exact (sound.solid other work (others working') kept).imp_right underway
  · intro slot₂ mark marked kept
    obtain ⟨here, new⟩ | ⟨elsewhere, marked⟩ := update_some marked
    · subst here
      cases new
      obtain whole | going := sound.solid writer _ working kept
      · exact .inl ⟨data, whole, rfl⟩
      · obtain ⟨other, written, _, working₂, _⟩ := underway going
        exact .inr ⟨other, _, working₂, rfl⟩
    · obtain same | ⟨other, work, before, there⟩ := sound.marked slot₂ mark marked kept
      · exact .inl same
      · have different : other ≠ writer := by
          intro self
          subst self
          cases working.symm.trans before
          exact elsewhere there.symm
        exact .inr ⟨other, work, (Function.update_of_ne different _ _).trans before, there⟩

omit [DecidableEq Writer] in
private theorem Sound.empty (sound : shelf.Sound markOf) (slot : Slot) : Sound markOf { shelf with
    content := Function.update shelf.content slot none
    emptied := insert slot shelf.emptied } := by
  have elsewhere : ∀ {slot₂}, slot₂ ∉ insert slot shelf.emptied →
      slot₂ ≠ slot ∧ slot₂ ∉ shelf.emptied := by
    intro slot₂ kept
    simpa only [Set.mem_insert_iff, not_or] using kept
  constructor
  · exact sound.agreed
  · intro writer work working kept
    obtain ⟨different, kept⟩ := elsewhere kept
    obtain whole | ⟨other, written, content, working₂, found, agrees⟩ :=
      sound.solid writer work working kept
    · exact .inl ((Function.update_of_ne different _ _).trans whole)
    · exact .inr ⟨other, written, content, working₂, (Function.update_of_ne different _ _).trans found,
        agrees⟩
  · intro slot₂ mark marked kept
    obtain ⟨different, kept⟩ := elsewhere kept
    obtain ⟨content, found, same⟩ | working := sound.marked slot₂ mark marked kept
    · exact .inl ⟨content, (Function.update_of_ne different _ _).trans found, same⟩
    · exact .inr working

theorem Sound.step (sound : shelf.Sound markOf) (step : Step markOf shelf shelf') :
    shelf'.Sound markOf := by
  cases step with
  | begin writer slot data idle agreed => exact sound.begin idle agreed
  | write working more => exact sound.write working more
  | close working => exact sound.close working
  | record working => exact sound.record working
  | empty slot => exact sound.empty slot

end Shelf

end Interaction
