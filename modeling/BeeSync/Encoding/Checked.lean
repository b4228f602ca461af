import BeeSync.Encoding.BigEndian

/-!
# Checked reads of byte strings

Indexing and slicing as a language with bounds checks does them: nothing stands for the
panic of an index that is out of range. A parser written with these reads is safe when it
always gives something.
-/

set_option autoImplicit false

namespace Encoding

variable {data : Bytes} {offset width : Nat}

/-- `[data[offset], data[offset + 1], ..]`: every index is checked on its own. -/
def indexed (data : Bytes) (offset : Nat) : Nat → Option Bytes
  | 0 => some []
  | width + 1 => do
    let byte ← data[offset]?
    let rest ← indexed data (offset + 1) width
    return byte :: rest

/-- The number in the bytes at consecutive indices. -/
def numberAt (data : Bytes) (offset width : Nat) : Option Nat :=
  (indexed data offset width).map ofBigEndian

/-- `data[start..stop]`. -/
def sliced (data : Bytes) (start stop : Nat) : Option Bytes :=
  if start ≤ stop ∧ stop ≤ data.length then some (field data start (stop - start)) else none

theorem indexed_of_le (inside : offset + width ≤ data.length) :
    indexed data offset width = some (field data offset width) := by
  induction width generalizing offset with
  | zero => simp [indexed, field]
  | succ width ih =>
      have here : offset < data.length := by omega
      have later := @ih (offset + 1) (by omega)
      rw [indexed, List.getElem?_eq_getElem here, later, field, field,
        List.drop_eq_getElem_cons here, List.take_succ_cons]
      rfl

theorem indexed_of_lt (outside : data.length < offset + width) (some_ : 0 < width) :
    indexed data offset width = none := by
  induction width generalizing offset with
  | zero => exact absurd some_ (lt_irrefl 0)
  | succ width ih =>
      by_cases here : offset < data.length
      · have later := @ih (offset + 1) (by omega) (by omega)
        simp [indexed, later]
      · simp [indexed, List.getElem?_eq_none (not_lt.mp here)]

theorem numberAt_of_le (inside : offset + width ≤ data.length) :
    numberAt data offset width = some (readBigEndian data offset width) := by
  rw [numberAt, indexed_of_le inside]
  rfl

theorem numberAt_of_lt (outside : data.length < offset + width) (some_ : 0 < width) :
    numberAt data offset width = none := by
  rw [numberAt, indexed_of_lt outside some_]
  rfl

theorem sliced_of_le {start stop : Nat} (ordered : start ≤ stop) (inside : stop ≤ data.length) :
    sliced data start stop = some (field data start (stop - start)) :=
  if_pos ⟨ordered, inside⟩

theorem foldlM_eq_some {α β : Type} {step : β → α → Option β} {next : β → α → β} (items : List α)
    (safe : ∀ state, ∀ item ∈ items, step state item = some (next state item)) (state : β) :
    items.foldlM step state = some (items.foldl next state) := by
  induction items generalizing state with
  | nil => rfl
  | cons head rest ih =>
      rw [List.foldlM_cons, safe state head List.mem_cons_self]
      refine ih (fun state item member => ?_) (next state head)
      exact safe state item (List.mem_cons_of_mem head member)

theorem foldlM_eq_none {α β : Type} {step : β → α → Option β} {items : List α} {item : α}
    (member : item ∈ items) (fails : ∀ state, step state item = none) (state : β) :
    items.foldlM step state = none := by
  induction items generalizing state with
  | nil => cases member
  | cons head rest ih =>
      rw [List.foldlM_cons]
      cases member with
      | head => rw [fails]; rfl
      | tail _ later =>
          cases step state head with
          | none => rfl
          | some next => exact ih later next

end Encoding
