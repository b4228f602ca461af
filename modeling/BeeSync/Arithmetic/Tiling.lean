import Mathlib.Data.List.Flatten
import Mathlib.Tactic.Ring

/-!
# Machine words and tilings

Arithmetic on 64-bit words as a release build performs it, ceiling division, and
the cutting of an interval into consecutive pieces of one width.
-/

set_option autoImplicit false

namespace Arithmetic

/-- The value of an `as u32` cast. -/
def asU32 (value : Nat) : Nat := value % 2 ^ 32

/-- The value of an `as u16` cast. -/
def asU16 (value : Nat) : Nat := value % 2 ^ 16

/-- Multiplication of 64-bit words without an overflow check. -/
def wrappingMul (left right : Nat) : Nat := left * right % 2 ^ 64

/-- Subtraction of 64-bit words without an overflow check. -/
def wrappingSub (left right : Nat) : Nat := (left + 2 ^ 64 - right % 2 ^ 64) % 2 ^ 64

/-- `u64::checked_mul`. -/
def checkedMul (left right : Nat) : Option Nat :=
  if left * right < 2 ^ 64 then some (left * right) else none

theorem asU32_of_lt {value : Nat} (fits : value < 2 ^ 32) : asU32 value = value :=
  Nat.mod_eq_of_lt fits

theorem asU32_lt (value : Nat) : asU32 value < 2 ^ 32 :=
  Nat.mod_lt _ (by decide)

theorem wrappingMul_of_lt {left right : Nat} (fits : left * right < 2 ^ 64) :
    wrappingMul left right = left * right :=
  Nat.mod_eq_of_lt fits

theorem wrappingSub_of_le {left right : Nat} (ordered : right ≤ left) (fits : left < 2 ^ 64) :
    wrappingSub left right = left - right := by
  unfold wrappingSub
  omega

/-- `usize::div_ceil`. -/
def divCeil (total width : Nat) : Nat :=
  if total % width > 0 then total / width + 1 else total / width

section Ceiling

variable {total width : Nat}

/-- Ceiling division counts the multiples of the width below the total. -/
theorem lt_divCeil_iff (positive : 0 < width) (index : Nat) :
    index < divCeil total width ↔ index * width < total := by
  have split := Nat.div_add_mod' total width
  have small := Nat.mod_lt total positive
  rw [← not_le, ← not_le, not_iff_not]
  unfold divCeil
  split
  case isTrue tail =>
    rw [Nat.succ_le_iff, Nat.div_lt_iff_lt_mul positive]
    refine ⟨le_of_lt, fun bound => lt_of_le_of_ne bound ?_⟩
    rintro rfl
    rw [Nat.mul_mod_left] at tail
    exact absurd tail (lt_irrefl 0)
  case isFalse exact =>
    have whole : total / width * width = total := by omega
    constructor
    · intro bound
      rw [← whole]
      exact Nat.mul_le_mul_right _ bound
    · intro bound
      rw [← whole] at bound
      exact Nat.le_of_mul_le_mul_right bound positive

theorem le_divCeil_mul (positive : 0 < width) : total ≤ divCeil total width * width :=
  not_lt.mp fun beyond => lt_irrefl _ ((lt_divCeil_iff positive _).mpr beyond)

theorem divCeil_pos (positive : 0 < width) (nonempty : 0 < total) : 0 < divCeil total width :=
  (lt_divCeil_iff positive 0).mpr (by omega)

end Ceiling

/-- Pieces, each an offset and a length, cover an interval consecutively. -/
inductive Tiles : Nat → List (Nat × Nat) → Nat → Prop where
  | nil (finish : Nat) : Tiles finish [] finish
  | cons {length finish : Nat} {rest : List (Nat × Nat)} (start : Nat) :
      Tiles (start + length) rest finish → Tiles start ((start, length) :: rest) finish

theorem Tiles.append {start middle finish : Nat} {left right : List (Nat × Nat)}
    (first : Tiles start left middle) (second : Tiles middle right finish) :
    Tiles start (left ++ right) finish := by
  induction first with
  | nil => exact second
  | cons start _ ih => exact .cons start (ih second)

/-- Pieces of one width, the last one cut off at the end, tile the interval. -/
theorem tiles_range {total width count : Nat} (inside : ∀ index < count, index * width ≤ total) :
    Tiles 0 ((List.range count).map fun index => (index * width, min width (total - index * width)))
      (min (count * width) total) := by
  induction count with
  | zero =>
      simp only [Nat.zero_mul, Nat.zero_min]
      exact .nil 0
  | succ count ih =>
      have before := ih fun index bound => inside index (bound.trans (Nat.lt_succ_self _))
      have here := inside count (Nat.lt_succ_self _)
      rw [List.range_succ, List.map_append, List.map_singleton]
      refine before.append ?_
      rw [min_eq_left here]
      have finish : min ((count + 1) * width) total =
          count * width + min width (total - count * width) := by
        rw [Nat.succ_mul]
        omega
      rw [finish]
      exact .cons _ (.nil _)

section Slices

variable {α : Type} (data : List α) (width : Nat)

/-- The piece of one width at an index, cut off at the end of the data. -/
def slice (index : Nat) : List α := (data.drop (index * width)).take width

theorem slice_length (index : Nat) :
    (slice data width index).length = min width (data.length - index * width) := by
  simp [slice]

theorem flatten_slices (count : Nat) :
    ((List.range count).map (slice data width)).flatten = data.take (count * width) := by
  induction count with
  | zero => simp
  | succ count ih =>
      rw [List.range_succ, List.map_append, List.flatten_append, ih, Nat.succ_mul, List.take_add]
      simp [slice]

theorem flatten_slices_divCeil (positive : 0 < width) :
    ((List.range (divCeil data.length width)).map (slice data width)).flatten = data := by
  rw [flatten_slices, List.take_of_length_le (le_divCeil_mul positive)]

end Slices

end Arithmetic
