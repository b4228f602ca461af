import BeeSync.Encoding.BigEndian
import Mathlib.Data.Char

/-!
# Lossy UTF-8 decoding at the byte level

Text is kept as its UTF-8 bytes. Lossy decoding copies every well-formed
sequence and replaces each maximal ill-formed part by the encoding of the
replacement character U+FFFD, so it is the identity on encoded text.
-/

set_option autoImplicit false

namespace Encoding

/-- The UTF-8 bytes of a text. -/
def utf8 (text : String) : Bytes :=
  text.toList.flatMap String.utf8EncodeChar

/-- The encoding of U+FFFD, which stands for an ill-formed part. -/
def replacement : Bytes := [0xEF, 0xBF, 0xBD]

/-- A byte lies in an inclusive range. -/
def inRange (low : Nat) (byte : UInt8) (high : Nat) : Bool :=
  decide (low ≤ byte.toNat) && decide (byte.toNat ≤ high)

/-- A byte that may continue a multi-byte sequence. -/
def isContinuation (byte : UInt8) : Bool := inRange 0x80 byte 0xBF

/-- The second byte of a three-byte sequence: overlong forms and surrogates are excluded. -/
def secondOfThree (first second : UInt8) : Bool :=
  if first.toNat = 0xE0 then inRange 0xA0 second 0xBF
  else if first.toNat = 0xED then inRange 0x80 second 0x9F
  else isContinuation second

/-- The second byte of a four-byte sequence: overlong forms and values above U+10FFFF
are excluded. -/
def secondOfFour (first second : UInt8) : Bool :=
  if first.toNat = 0xF0 then inRange 0x90 second 0xBF
  else if first.toNat = 0xF4 then inRange 0x80 second 0x8F
  else isContinuation second

/-- `String::from_utf8_lossy`: each maximal ill-formed part becomes U+FFFD. -/
def fromUtf8Lossy : Bytes → Bytes
  | [] => []
  | b :: rest =>
    if b.toNat < 0x80 then b :: fromUtf8Lossy rest
    else if inRange 0xC2 b 0xDF then
      match rest with
      | [] => replacement
      | c :: tail =>
        if isContinuation c then b :: c :: fromUtf8Lossy tail
        else replacement ++ fromUtf8Lossy (c :: tail)
    else if inRange 0xE0 b 0xEF then
      match rest with
      | [] => replacement
      | c :: tail =>
        if secondOfThree b c then
          match tail with
          | [] => replacement
          | d :: tail =>
            if isContinuation d then b :: c :: d :: fromUtf8Lossy tail
            else replacement ++ fromUtf8Lossy (d :: tail)
        else replacement ++ fromUtf8Lossy (c :: tail)
    else if inRange 0xF0 b 0xF4 then
      match rest with
      | [] => replacement
      | c :: tail =>
        if secondOfFour b c then
          match tail with
          | [] => replacement
          | d :: tail =>
            if isContinuation d then
              match tail with
              | [] => replacement
              | e :: tail =>
                if isContinuation e then b :: c :: d :: e :: fromUtf8Lossy tail
                else replacement ++ fromUtf8Lossy (e :: tail)
            else replacement ++ fromUtf8Lossy (d :: tail)
        else replacement ++ fromUtf8Lossy (c :: tail)
    else replacement ++ fromUtf8Lossy rest

section Sequences

variable {b c d e : UInt8} {rest : Bytes}

theorem fromUtf8Lossy_one (ascii : b.toNat < 0x80) :
    fromUtf8Lossy (b :: rest) = b :: fromUtf8Lossy rest := by
  rw [fromUtf8Lossy.eq_def]
  simp only [ascii, if_true]

theorem fromUtf8Lossy_two (lead : inRange 0xC2 b 0xDF = true) (second : isContinuation c = true) :
    fromUtf8Lossy (b :: c :: rest) = b :: c :: fromUtf8Lossy rest := by
  have high : ¬ b.toNat < 0x80 := by
    simp only [inRange, Bool.and_eq_true, decide_eq_true_eq] at lead
    omega
  rw [fromUtf8Lossy.eq_def]
  simp only [high, lead, second, if_true, if_false]

theorem fromUtf8Lossy_three (lead : inRange 0xE0 b 0xEF = true)
    (second : secondOfThree b c = true) (third : isContinuation d = true) :
    fromUtf8Lossy (b :: c :: d :: rest) = b :: c :: d :: fromUtf8Lossy rest := by
  have bounds := lead
  simp only [inRange, Bool.and_eq_true, decide_eq_true_eq] at bounds
  have high : ¬ b.toNat < 0x80 := by omega
  have notTwo : ¬ inRange 0xC2 b 0xDF = true := by
    simp only [inRange, Bool.and_eq_true, decide_eq_true_eq]
    omega
  rw [fromUtf8Lossy.eq_def]
  simp only [high, notTwo, lead, second, third, if_true, if_false, Bool.false_eq_true]

theorem fromUtf8Lossy_four (lead : inRange 0xF0 b 0xF4 = true)
    (second : secondOfFour b c = true) (third : isContinuation d = true)
    (fourth : isContinuation e = true) :
    fromUtf8Lossy (b :: c :: d :: e :: rest) = b :: c :: d :: e :: fromUtf8Lossy rest := by
  have bounds := lead
  simp only [inRange, Bool.and_eq_true, decide_eq_true_eq] at bounds
  have high : ¬ b.toNat < 0x80 := by omega
  have notTwo : ¬ inRange 0xC2 b 0xDF = true := by
    simp only [inRange, Bool.and_eq_true, decide_eq_true_eq]
    omega
  have notThree : ¬ inRange 0xE0 b 0xEF = true := by
    simp only [inRange, Bool.and_eq_true, decide_eq_true_eq]
    omega
  rw [fromUtf8Lossy.eq_def]
  simp only [high, notTwo, notThree, lead, second, third, fourth, if_true, if_false,
    Bool.false_eq_true]

end Sequences

private theorem inRange_ofNat {low value high : Nat} (above : low ≤ value) (below : value ≤ high)
    (byte : high < 256) : inRange low (UInt8.ofNat value) high = true := by
  simp only [inRange, UInt8.toNat_ofNat', Bool.and_eq_true, decide_eq_true_eq]
  omega

private theorem isContinuation_ofNat (value : Nat) :
    isContinuation (UInt8.ofNat (value % 0x40 + 0x80)) = true :=
  inRange_ofNat (by omega) (by omega) (by decide)

/-- Decoding consumes exactly the bytes of an encoded character. The cases are
the four lengths of an encoding; a scalar value is never a surrogate. -/
theorem fromUtf8Lossy_utf8EncodeChar (c : Char) (rest : Bytes) :
    fromUtf8Lossy (String.utf8EncodeChar c ++ rest) =
      String.utf8EncodeChar c ++ fromUtf8Lossy rest := by
  have scalar : c.val.toNat < 0xD800 ∨ (0xDFFF < c.val.toNat ∧ c.val.toNat < 0x110000) := c.valid
  unfold String.utf8EncodeChar
  generalize c.val.toNat = v at scalar
  dsimp only
  by_cases one : v ≤ 0x7f
  · simp only [if_pos one, List.cons_append, List.nil_append]
    refine fromUtf8Lossy_one ?_
    rw [UInt8.toNat_ofNat']
    omega
  by_cases two : v ≤ 0x7ff
  · simp only [if_neg one, if_pos two, List.cons_append, List.nil_append]
    exact fromUtf8Lossy_two (inRange_ofNat (by omega) (by omega) (by decide))
      (isContinuation_ofNat v)
  by_cases three : v ≤ 0xffff
  · simp only [if_neg one, if_neg two, if_pos three, List.cons_append, List.nil_append]
    refine fromUtf8Lossy_three (inRange_ofNat (by omega) (by omega) (by decide)) ?_
      (isContinuation_ofNat v)
    simp only [secondOfThree, UInt8.toNat_ofNat']
    split
    · exact inRange_ofNat (by omega) (by omega) (by decide)
    · split
      · exact inRange_ofNat (by omega) (by omega) (by decide)
      · exact isContinuation_ofNat (v / 64)
  · simp only [if_neg one, if_neg two, if_neg three, List.cons_append, List.nil_append]
    refine fromUtf8Lossy_four (inRange_ofNat (by omega) (by omega) (by decide)) ?_
      (isContinuation_ofNat (v / 64)) (isContinuation_ofNat v)
    simp only [secondOfFour, UInt8.toNat_ofNat']
    split
    · exact inRange_ofNat (by omega) (by omega) (by decide)
    · split
      · exact inRange_ofNat (by omega) (by omega) (by decide)
      · exact isContinuation_ofNat (v / 4096)

theorem fromUtf8Lossy_utf8 (text : String) : fromUtf8Lossy (utf8 text) = utf8 text := by
  unfold utf8
  induction text.toList with
  | nil => rfl
  | cons c rest ih => rw [List.flatMap_cons, fromUtf8Lossy_utf8EncodeChar, ih]

/-- Each byte contributes at most one copy of itself or one replacement. -/
theorem fromUtf8Lossy_length_le (bytes : Bytes) :
    (fromUtf8Lossy bytes).length ≤ 3 * bytes.length := by
  fun_induction fromUtf8Lossy bytes <;>
    simp only [List.length_cons, List.length_append, List.length_nil, replacement] at * <;> omega

theorem fromUtf8Lossy_replacement (rest : Bytes) :
    fromUtf8Lossy (replacement ++ rest) = replacement ++ fromUtf8Lossy rest :=
  fromUtf8Lossy_three (by decide) (by decide) (by decide)

theorem replacement_high {byte : UInt8} (member : byte ∈ replacement) : ¬ byte.toNat < 0x80 := by
  revert member
  simp only [replacement, List.mem_cons, List.not_mem_nil, or_false]
  intro same
  rcases same with same | same | same <;> subst same <;> decide

/-- What has been decoded is well formed. -/
theorem fromUtf8Lossy_fromUtf8Lossy (bytes : Bytes) :
    fromUtf8Lossy (fromUtf8Lossy bytes) = fromUtf8Lossy bytes := by
  have ended : fromUtf8Lossy replacement = replacement := fromUtf8Lossy_replacement []
  fun_induction fromUtf8Lossy bytes with
  | case1 => rfl
  | case2 b rest ascii ih => rw [fromUtf8Lossy_one ascii, ih]
  | case4 b _ lead c tail second ih => rw [fromUtf8Lossy_two lead second, ih]
  | case8 b _ _ lead c second d tail third ih => rw [fromUtf8Lossy_three lead second third, ih]
  | case14 b _ _ _ lead c second d third e tail fourth ih =>
      rw [fromUtf8Lossy_four lead second third fourth, ih]
  | case3 | case6 | case7 | case11 | case12 | case13 => exact ended
  | _ => rw [fromUtf8Lossy_replacement]; simp_all

theorem mem_fromUtf8Lossy {bytes : Bytes} {byte : UInt8} (ascii : byte.toNat < 0x80)
    (member : byte ∈ fromUtf8Lossy bytes) : byte ∈ bytes := by
  have other : byte ∉ replacement := fun member => replacement_high member ascii
  fun_induction fromUtf8Lossy bytes
  all_goals simp_all
  all_goals grind

/-- Nothing ill-formed decodes to ASCII. -/
theorem eq_of_fromUtf8Lossy {bytes text : Bytes} (decoded : fromUtf8Lossy bytes = text)
    (ascii : ∀ byte ∈ text, byte.toNat < 0x80) : bytes = text := by
  subst decoded
  have marked : ∀ rest, ¬ ∀ byte ∈ replacement ++ rest, byte.toNat < 0x80 := fun rest all =>
    absurd (all 0xEF List.mem_cons_self) (by decide)
  fun_induction fromUtf8Lossy bytes with
  | case1 => rfl
  | case2 b rest _ ih => exact congrArg (b :: ·) (ih fun byte member => ascii byte (.tail _ member))
  | case4 b high | case8 b high | case14 b high => exact absurd (ascii b List.mem_cons_self) high
  | case3 | case6 | case7 | case11 | case12 | case13 => exact absurd ascii (marked [])
  | _ => exact absurd ascii (marked _)

end Encoding
