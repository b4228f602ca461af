import BeeSync.Arithmetic.Binary64

/-!
# Numbers as text

The grammar that the standard library parses integers and floating-point numbers by. A
floating-point literal denotes a decimal fraction exactly; its value is the nearest binary64
number.
-/

set_option autoImplicit false

namespace Encoding

open Arithmetic

/-- `char::is_whitespace`, the characters with the property White_Space. -/
def isWhitespace (c : Char) : Bool :=
  let code := c.toNat
  (0x09 ≤ code && code ≤ 0x0D) || code = 0x20 || code = 0x85 || code = 0xA0 || code = 0x1680 ||
    (0x2000 ≤ code && code ≤ 0x200A) || code = 0x2028 || code = 0x2029 || code = 0x202F ||
    code = 0x205F || code = 0x3000

/-- `str::trim`. -/
def trim (text : List Char) : List Char :=
  ((text.dropWhile isWhitespace).reverse.dropWhile isWhitespace).reverse

/-- The number that a run of decimal digits denotes. -/
def digitsValue (digits : List Char) : ℕ :=
  digits.foldl (fun value digit => value * 10 + (digit.toNat - 48)) 0

/-- `usize::from_str`: digits behind an optional plus, up to the largest 64-bit number. -/
def parseWord (text : List Char) : Option ℕ :=
  let digits := match text with
    | '+' :: rest => rest
    | _ => text
  if digits = [] then none
  else if digits.all Char.isDigit then
    if digitsValue digits < 2 ^ 64 then some (digitsValue digits) else none
  else none

/-- What a floating-point literal says. -/
inductive FloatLiteral where
  | nan
  | infinity (negative : Bool)
  | number (negative : Bool) (magnitude : ℚ)

namespace FloatLiteral

def splitSign : List Char → Bool × List Char
  | '-' :: rest => (true, rest)
  | '+' :: rest => (false, rest)
  | text => (false, text)

/-- The exponent behind the digits, which may be missing. -/
def parseExponent : List Char → Option ℤ
  | [] => some 0
  | c :: rest =>
    if c = 'e' ∨ c = 'E' then
      let (negative, digits) := splitSign rest
      if digits ≠ [] ∧ digits.all Char.isDigit then
        some (if negative then -(digitsValue digits : ℤ) else digitsValue digits)
      else none
    else none

/-- Digits around an optional point, with an optional exponent. -/
def parseNumber (text : List Char) : Option ℚ :=
  let whole := text.takeWhile Char.isDigit
  let (fraction, rest) := match text.dropWhile Char.isDigit with
    | '.' :: behind => (behind.takeWhile Char.isDigit, behind.dropWhile Char.isDigit)
    | rest => ([], rest)
  if whole ++ fraction = [] then none
  else (parseExponent rest).map fun (exponent : ℤ) =>
    (digitsValue (whole ++ fraction) : ℚ) * 10 ^ (exponent - (fraction.length : ℤ))

/-- The grammar of `f64::from_str`. -/
def parse (text : List Char) : Option FloatLiteral :=
  let (negative, rest) := splitSign text
  let name := rest.map Char.toLower
  if name = ['n', 'a', 'n'] then some .nan
  else if name = ['i', 'n', 'f'] ∨ name = ['i', 'n', 'f', 'i', 'n', 'i', 't', 'y'] then
    some (.infinity negative)
  else (parseNumber rest).map (.number negative)

/-- The value of a literal: decimal fractions are rounded. -/
def toBinary64 : FloatLiteral → Binary64
  | .nan => .nan
  | .infinity negative => .infinite negative
  | .number negative magnitude => .ofMagnitude negative magnitude

end FloatLiteral

/-- `f64::from_str`. -/
def parseFloat (text : List Char) : Option Binary64 :=
  (FloatLiteral.parse text).map FloatLiteral.toBinary64

theorem digitsValue_eq_zero {digits : List Char} (digital : digits.all Char.isDigit = true) :
    digitsValue digits = 0 ↔ ∀ digit ∈ digits, digit = '0' := by
  induction digits using List.reverseRecOn with
  | nil => simp [digitsValue]
  | append_singleton digits last ih =>
      rw [List.all_append, Bool.and_eq_true] at digital
      have here : digitsValue (digits ++ [last]) = digitsValue digits * 10 + (last.toNat - 48) := by
        simp [digitsValue]
      have single : last.isDigit = true := by simpa using digital.2
      have zero : last.toNat - 48 = 0 ↔ last = '0' := by
        constructor
        · intro none_
          simp only [Char.isDigit, Bool.and_eq_true, decide_eq_true_eq, ge_iff_le] at single
          have low : 48 ≤ last.toNat := single.1
          exact Char.toNat_inj.mp (show last.toNat = 48 by omega)
        · rintro rfl
          rfl
      rw [here]
      constructor
      · intro none_ digit member
        rcases List.mem_append.mp member with before | final
        · exact (ih digital.1).mp (by omega) digit before
        · rw [List.mem_singleton.mp final]
          exact zero.mp (by omega)
      · intro zeros
        have before := (ih digital.1).mpr fun digit member =>
          zeros digit (List.mem_append_left _ member)
        have final := zero.mpr (zeros last (List.mem_append_right _ (List.mem_singleton_self _)))
        omega

end Encoding
