import BeeSync.Encoding.Utf8
import Mathlib.Data.List.Basic
import Mathlib.Data.Nat.Digits.Lemmas

/-!
# Unix path names as byte strings

Paths are split at slashes; empty and `.` components carry no name. Numbers
appear in derived names in decimal.
-/

set_option autoImplicit false

namespace Encoding

/-- The bytes of an ASCII literal. -/
def ascii (text : String) : Bytes := text.toList.map fun c => UInt8.ofNat c.toNat

def slash : UInt8 := 0x2F

def dot : UInt8 := 0x2E

/-- `Path::file_name`: the last component that is a name, unless `..` follows it. -/
def fileName (path : Bytes) : Option Bytes :=
  match ((path.splitOn slash).filter fun part => part ≠ [] ∧ part ≠ [dot]).getLast? with
  | none => none
  | some part => if part = [dot, dot] then none else some part

/-- A single path component that names an entry of a directory. -/
structure IsComponent (name : Bytes) : Prop where
  nonempty : name ≠ []
  noSlash : slash ∉ name
  notDot : name ≠ [dot]
  notDotDot : name ≠ [dot, dot]

instance (name : Bytes) : Decidable (IsComponent name) :=
  decidable_of_iff (name ≠ [] ∧ slash ∉ name ∧ name ≠ [dot] ∧ name ≠ [dot, dot])
    ⟨fun ⟨nonempty, noSlash, notDot, notDotDot⟩ => ⟨nonempty, noSlash, notDot, notDotDot⟩,
      fun component => ⟨component.nonempty, component.noSlash, component.notDot,
        component.notDotDot⟩⟩

private theorem mem_splitOn_length_le {path part : Bytes} (member : part ∈ path.splitOn slash) :
    part.length ≤ path.length := by
  have whole : [slash].intercalate (path.splitOn slash) = path := List.intercalate_splitOn slash
  have joined : ∀ parts : List Bytes, part ∈ parts →
      part.length ≤ ([slash].intercalate parts).length := by
    intro parts
    induction parts with
    | nil => intro impossible; cases impossible
    | cons head rest ih =>
        intro member
        cases rest with
        | nil =>
            have same : part = head := by simpa using member
            simp [same]
        | cons second rest =>
            rw [List.intercalate_cons_cons]
            rcases List.mem_cons.mp member with rfl | member
            · simp
            · have := ih member
              simp only [List.length_append]
              omega
  have bound := joined _ member
  rwa [whole] at bound

theorem fileName_length_le {path name : Bytes} (found : fileName path = some name) :
    name.length ≤ path.length := by
  unfold fileName at found
  split at found
  · cases found
  · rename_i part last
    split at found
    · cases found
    · cases found
      exact mem_splitOn_length_le (List.mem_of_mem_filter (List.mem_of_getLast? last))

private theorem slash_not_mem_splitOn {path part : Bytes} (member : part ∈ path.splitOn slash) :
    slash ∉ part := by
  rw [List.splitOn_eq_splitOnP] at member
  induction path generalizing part with
  | nil =>
      have same : part = [] := by simpa using member
      rw [same]
      exact List.not_mem_nil
  | cons byte rest ih =>
      rw [List.splitOnP_cons_eq_if_modifyHead] at member
      split at member
      case isTrue =>
        rcases List.mem_cons.mp member with rfl | member
        · exact List.not_mem_nil
        · exact ih member
      case isFalse other =>
        cases parts : rest.splitOnP (fun byte => byte == slash) with
        | nil => exact absurd parts (List.splitOnP_ne_nil _ _)
        | cons head tail =>
            rw [parts] at member ih
            rcases List.mem_cons.mp member with rfl | member
            · have clean := ih List.mem_cons_self
              intro inside
              rcases List.mem_cons.mp inside with same | inside
              · exact other (by simp [same])
              · exact clean inside
            · exact ih (List.mem_cons_of_mem head member)

/-- A file name is a single component: it cannot lead out of a directory. -/
theorem fileName_isComponent {path name : Bytes} (found : fileName path = some name) :
    IsComponent name := by
  unfold fileName at found
  split at found
  · cases found
  · rename_i part last
    split at found
    case isTrue => cases found
    case isFalse notDotDot =>
      cases found
      have member := List.mem_of_getLast? last
      have named := of_decide_eq_true (List.mem_filter.mp member).2
      exact ⟨named.1, slash_not_mem_splitOn (List.mem_of_mem_filter member), named.2, notDotDot⟩

theorem IsComponent.fileName_eq {name : Bytes} (component : IsComponent name) :
    fileName name = some name := by
  have single : name.splitOn slash = [name] := by
    refine List.splitOn_eq_singleton ?_
    exact component.noSlash
  simp [fileName, single, component.nonempty, component.notDot, component.notDotDot]

/-- A component is one as the text that it decodes to. -/
theorem IsComponent.decoded {name : Bytes} (component : IsComponent name) :
    IsComponent (fromUtf8Lossy name) where
  nonempty decoded := component.nonempty (eq_of_fromUtf8Lossy decoded nofun)
  noSlash member := component.noSlash (mem_fromUtf8Lossy (by decide) member)
  notDot decoded := component.notDot (eq_of_fromUtf8Lossy decoded (by simp [dot]))
  notDotDot decoded := component.notDotDot (eq_of_fromUtf8Lossy decoded (by simp [dot]))

theorem IsComponent.append {name suffix : Bytes} (component : IsComponent name)
    (clean : slash ∉ suffix) (long : 2 ≤ suffix.length) : IsComponent (name ++ suffix) := by
  have sized : 2 < (name ++ suffix).length := by
    have some_ := List.length_pos_of_ne_nil component.nonempty
    rw [List.length_append]
    omega
  constructor
  · intro empty
    rw [empty] at sized
    cases sized
  · intro member
    exact (List.mem_append.mp member).elim component.noSlash clean
  · intro same
    rw [same] at sized
    contradiction
  · intro same
    rw [same] at sized
    contradiction

/-- The digits of a formatted number, least significant first. -/
def decimalDigits (value : Nat) : List Nat :=
  if value = 0 then [0] else Nat.digits 10 value

/-- A number as it appears in a formatted name. -/
def decimal (value : Nat) : Bytes :=
  ((decimalDigits value).map fun digit => UInt8.ofNat (48 + digit)).reverse

private theorem ofDigits_decimalDigits (value : Nat) :
    Nat.ofDigits 10 (decimalDigits value) = value := by
  unfold decimalDigits
  split
  case isTrue zero => simp [zero]
  case isFalse => exact Nat.ofDigits_digits 10 value

private theorem decimalDigits_lt {value digit : Nat} (member : digit ∈ decimalDigits value) :
    digit < 10 := by
  unfold decimalDigits at member
  split at member
  case isTrue => simp_all
  case isFalse => exact Nat.digits_lt_base (by decide) member

private theorem decimal_digits (value : Nat) :
    (decimal value).reverse.map (fun byte => byte.toNat - 48) = decimalDigits value := by
  rw [decimal, List.reverse_reverse, List.map_map]
  have same : ∀ digit ∈ decimalDigits value,
      ((fun byte : UInt8 => byte.toNat - 48) ∘ fun digit => UInt8.ofNat (48 + digit)) digit =
        id digit := by
    intro digit member
    have small := decimalDigits_lt member
    simp only [Function.comp, UInt8.toNat_ofNat', id]
    omega
  rw [List.map_congr_left same, List.map_id]

theorem decimal_injective : Function.Injective decimal := by
  intro left right same
  have digits : decimalDigits left = decimalDigits right := by
    rw [← decimal_digits, ← decimal_digits, same]
  rw [← ofDigits_decimalDigits left, digits, ofDigits_decimalDigits]

theorem decimal_ne_nil (value : Nat) : decimal value ≠ [] := by
  intro nothing
  have digits := decimal_digits value
  have number := ofDigits_decimalDigits value
  rw [nothing, List.reverse_nil, List.map_nil] at digits
  rw [← digits] at number
  subst number
  cases digits

/-- A digit as a byte. -/
def IsDigit (byte : UInt8) : Prop := 48 ≤ byte.toNat ∧ byte.toNat < 58

instance : DecidablePred IsDigit := fun byte =>
  inferInstanceAs (Decidable (48 ≤ byte.toNat ∧ byte.toNat < 58))

theorem decimal_isDigit {value : Nat} {byte : UInt8} (member : byte ∈ decimal value) :
    IsDigit byte := by
  rw [decimal, List.mem_reverse] at member
  obtain ⟨digit, listed, rfl⟩ := List.mem_map.mp member
  have small := decimalDigits_lt listed
  rw [IsDigit, UInt8.toNat_ofNat']
  omega

/-- A number at the end of a name, behind a byte that is no digit, is what the name ends
with. -/
theorem decimal_append_cancel {left right : Bytes} {byte byte' : UInt8} {value value' : Nat}
    (letter : ¬ IsDigit byte) (letter' : ¬ IsDigit byte')
    (same : left ++ [byte] ++ decimal value = right ++ [byte'] ++ decimal value') :
    left ++ [byte] = right ++ [byte'] := by
  have ends : ∀ (start : Bytes) (byte : UInt8) (value : Nat), ¬ IsDigit byte →
      (start ++ [byte] ++ decimal value).reverse.takeWhile (fun byte => IsDigit byte) =
        (decimal value).reverse := by
    intro start byte value letter
    have digits : ∀ digit ∈ (decimal value).reverse, decide (IsDigit digit) = true :=
      fun digit member => decide_eq_true (decimal_isDigit (List.mem_reverse.mp member))
    rw [List.reverse_append, List.takeWhile_append_of_pos digits, List.reverse_append,
      List.reverse_singleton, List.singleton_append, List.takeWhile_cons, if_neg (by simpa),
      List.append_nil]
  have digits := ends left byte value letter
  rw [same, ends right byte' value' letter'] at digits
  rw [List.reverse_inj.mp digits] at same
  exact List.append_cancel_right same

end Encoding
