import Mathlib.Data.List.Induction
import Mathlib.Tactic.Ring

/-!
# Big-endian fields of byte strings

Fixed-width unsigned integers as byte strings, most significant byte first, and
the reading of such a field at an offset of a longer string.
-/

set_option autoImplicit false

namespace Encoding

abbrev Bytes := List UInt8

/-- The lowest `width` bytes of a number, most significant first. -/
def toBigEndian : Nat → Nat → Bytes
  | 0, _ => []
  | width + 1, value => toBigEndian width (value / 256) ++ [UInt8.ofNat value]

/-- The number a byte string denotes, most significant byte first. -/
def ofBigEndian (bytes : Bytes) : Nat :=
  bytes.foldl (fun value byte => value * 256 + byte.toNat) 0

/-- The field of `width` bytes that starts at `offset`. -/
def field (data : Bytes) (offset width : Nat) : Bytes :=
  (data.drop offset).take width

/-- The number in the field of `width` bytes that starts at `offset`. -/
def readBigEndian (data : Bytes) (offset width : Nat) : Nat :=
  ofBigEndian (field data offset width)

@[simp] theorem toBigEndian_length (width value : Nat) :
    (toBigEndian width value).length = width := by
  induction width generalizing value with
  | zero => rfl
  | succ width ih => simp [toBigEndian, ih]

theorem ofBigEndian_append_singleton (bytes : Bytes) (byte : UInt8) :
    ofBigEndian (bytes ++ [byte]) = ofBigEndian bytes * 256 + byte.toNat := by
  simp [ofBigEndian]

/-- Reading a written field gives the number modulo the field's range. -/
theorem ofBigEndian_toBigEndian (width value : Nat) :
    ofBigEndian (toBigEndian width value) = value % 256 ^ width := by
  induction width generalizing value with
  | zero => simp [toBigEndian, ofBigEndian, Nat.mod_one]
  | succ width ih =>
      rw [toBigEndian, ofBigEndian_append_singleton, ih, UInt8.toNat_ofNat', pow_succ' 256 width,
        Nat.mod_mul]
      omega

theorem ofBigEndian_toBigEndian_of_lt {width value : Nat} (fits : value < 256 ^ width) :
    ofBigEndian (toBigEndian width value) = value := by
  rw [ofBigEndian_toBigEndian, Nat.mod_eq_of_lt fits]

theorem ofBigEndian_lt (bytes : Bytes) : ofBigEndian bytes < 256 ^ bytes.length := by
  induction bytes using List.reverseRecOn with
  | nil => simp [ofBigEndian]
  | append_singleton bytes byte ih =>
      rw [ofBigEndian_append_singleton, List.length_append, List.length_singleton, Nat.pow_succ]
      have small : byte.toNat < 256 := byte.toNat_lt
      omega

theorem readBigEndian_lt (data : Bytes) (offset width : Nat) :
    readBigEndian data offset width < 256 ^ width := by
  refine lt_of_lt_of_le (ofBigEndian_lt _) (Nat.pow_le_pow_right (by decide) ?_)
  exact List.length_take_le _ _

section Fields

variable {before middle after data : Bytes} {offset width value : Nat}

theorem field_append (positioned : before.length = offset) (sized : middle.length = width) :
    field (before ++ (middle ++ after)) offset width = middle := by
  subst positioned sized
  simp [field]

theorem field_append_right (skipped : before.length ≤ offset) :
    field (before ++ after) offset width = field after (offset - before.length) width := by
  simp only [field, List.drop_append, List.drop_eq_nil_of_le skipped, List.nil_append]

theorem readBigEndian_append_right (skipped : before.length ≤ offset) :
    readBigEndian (before ++ after) offset width =
      readBigEndian after (offset - before.length) width := by
  rw [readBigEndian, readBigEndian, field_append_right skipped]

theorem field_zero_append (sized : middle.length = width) :
    field (middle ++ after) 0 width = middle := by
  subst sized
  simp [field]

theorem readBigEndian_zero_append :
    readBigEndian (toBigEndian width value ++ after) 0 width = value % 256 ^ width := by
  rw [readBigEndian, field_zero_append (toBigEndian_length width value), ofBigEndian_toBigEndian]

theorem field_append_left (inside : offset + width ≤ before.length) :
    field (before ++ after) offset width = field before offset width := by
  rw [field, field, List.drop_append_of_le_length (by omega),
    List.take_append_of_le_length (by rw [List.length_drop]; omega)]

theorem field_length (inside : offset + width ≤ data.length) :
    (field data offset width).length = width := by
  simp [field]
  omega

theorem field_field {inner size : Nat} (inside : inner + size ≤ width) :
    field (field data offset width) inner size = field data (offset + inner) size := by
  simp only [field, List.drop_take, List.take_take, List.drop_drop]
  rw [min_eq_left (by omega)]

theorem field_append_end (positioned : before.length = offset) (sized : middle.length = width) :
    field (before ++ middle) offset width = middle := by
  subst positioned sized
  simp [field]

end Fields

section Records

variable {α : Type} {encode : α → Bytes} {width : Nat}

theorem flatMap_length (fixed : ∀ item, (encode item).length = width) (items : List α) :
    (items.flatMap encode).length = items.length * width := by
  induction items with
  | nil => simp
  | cons head rest ih =>
      rw [List.flatMap_cons, List.length_append, fixed, ih, List.length_cons]
      ring

theorem field_flatMap (fixed : ∀ item, (encode item).length = width) (items : List α)
    (after : Bytes) {index : Nat} (inside : index < items.length) :
    field (items.flatMap encode ++ after) (index * width) width = encode items[index] := by
  have position : ((items.take index).flatMap encode).length = index * width := by
    rw [flatMap_length fixed, List.length_take_of_le (le_of_lt inside)]
  have split : items.flatMap encode =
      (items.take index).flatMap encode ++
        (encode items[index] ++ (items.drop (index + 1)).flatMap encode) := by
    rw [← List.flatMap_cons, List.getElem_cons_drop, ← List.flatMap_append,
      List.take_append_drop]
  rw [split, List.append_assoc, List.append_assoc]
  exact field_append position (fixed _)

end Records

end Encoding
