import Mathlib.Data.Int.Log
import Mathlib.Data.Rat.Floor
import Mathlib.Tactic.Linarith
import Mathlib.Tactic.Positivity

/-!
# Floating-point numbers of 64 bits

A finite number is a sign and a magnitude, and a magnitude is a multiple of a power of two.
Results are rounded to the nearest magnitude, ties to the even one. What is looked at is
where rounding reaches a power of two.
-/

set_option autoImplicit false

namespace Arithmetic

/-- The nearest natural number, the even one of two. -/
def roundEven (x : ℚ) : ℕ :=
  let below := ⌊x⌋₊
  if x - below < 1 / 2 then below
  else if 1 / 2 < x - below then below + 1
  else if below % 2 = 0 then below
  else below + 1

section Nearest

variable {x : ℚ} {n : ℕ}

theorem floor_le_roundEven (x : ℚ) : ⌊x⌋₊ ≤ roundEven x := by
  unfold roundEven
  dsimp only
  split_ifs
  · exact le_refl _
  · exact Nat.le_succ _
  · exact le_refl _
  · exact Nat.le_succ _

theorem le_roundEven (bound : (n : ℚ) ≤ x) : n ≤ roundEven x :=
  (Nat.le_floor bound).trans (floor_le_roundEven x)

/-- An odd number is passed from the middle to its successor on. -/
theorem lt_roundEven_iff_of_odd (odd : n % 2 = 1) : n < roundEven x ↔ (n : ℚ) + 1 / 2 ≤ x := by
  constructor
  · intro passed
    by_contra short
    rw [not_le] at short
    by_cases floor : ⌊x⌋₊ = n
    · rw [roundEven, floor, if_pos (by linarith)] at passed
      exact lt_irrefl n passed
    · have below : ⌊x⌋₊ < n := by
        have bound : ⌊x⌋₊ < n + 1 := (Nat.floor_lt' (Nat.succ_ne_zero n)).mpr (by
          push_cast
          linarith)
        omega
      have step : roundEven x ≤ ⌊x⌋₊ + 1 := by
        unfold roundEven
        dsimp only
        split_ifs
        all_goals omega
      omega
  · intro reached
    by_cases beyond : (n + 1 : ℚ) ≤ x
    · exact Nat.lt_of_succ_le (le_roundEven (by push_cast; exact beyond))
    · have nonneg : (0 : ℚ) ≤ n := Nat.cast_nonneg n
      have floor : ⌊x⌋₊ = n :=
        (Nat.floor_eq_iff (by linarith)).mpr ⟨by linarith, not_le.mp beyond⟩
      rw [roundEven, floor, if_neg (by linarith)]
      split
      · exact Nat.lt_succ_self n
      · rw [if_neg (by omega)]
        exact Nat.lt_succ_self n

theorem roundEven_le (bound : x ≤ n) : roundEven x ≤ n := by
  have floor : ⌊x⌋₊ ≤ n := Nat.floor_le_of_le bound
  rcases floor.lt_or_eq with inside | edge
  · unfold roundEven
    dsimp only
    split_ifs
    all_goals omega
  · have exact_ : x - (n : ℚ) < 1 / 2 := by linarith
    rw [roundEven, edge, if_pos exact_]

end Nearest

/-- The exponent of the last binary place of a number of this magnitude. -/
def lastPlace (x : ℚ) : ℤ :=
  max (Int.log 2 x - 52) (-1074)

/-- The nearest magnitude, before the range is looked at. -/
def roundMagnitude (x : ℚ) : ℚ :=
  roundEven (x / 2 ^ lastPlace x) * 2 ^ lastPlace x

/-- A number with at most 53 significant binary places. -/
def Representable (x : ℚ) : Prop :=
  ∃ (n : ℕ) (e : ℤ), n ≤ 2 ^ 53 ∧ x = n * 2 ^ e

section Magnitudes

variable {x : ℚ} {k : ℤ}

private theorem two_zpow_pos (e : ℤ) : (0 : ℚ) < 2 ^ e := zpow_pos (by norm_num) e

private theorem places (m : ℕ) (e : ℤ) : ((2 ^ m : ℕ) : ℚ) * 2 ^ e = 2 ^ (m + e) := by
  rw [Nat.cast_pow, Nat.cast_two, ← zpow_natCast, ← zpow_add₀ (by norm_num)]

theorem lt_two_zpow_log (x : ℚ) : x < 2 ^ (Int.log 2 x + 1) := by
  exact_mod_cast Int.lt_zpow_succ_log_self (by decide : 1 < 2) x

private theorem scaled_le (x : ℚ) : x / 2 ^ lastPlace x ≤ (2 ^ 53 : ℕ) := by
  have wide : Int.log 2 x + 1 ≤ 53 + lastPlace x := by
    have := le_max_left (Int.log 2 x - 52) (-1074)
    rw [lastPlace]
    omega
  have bound : x ≤ 2 ^ (53 + lastPlace x) :=
    (lt_two_zpow_log x).le.trans (zpow_le_zpow_right₀ (by norm_num) wide)
  rw [div_le_iff₀ (two_zpow_pos _), places]
  exact_mod_cast bound

theorem representable_roundMagnitude (x : ℚ) : Representable (roundMagnitude x) :=
  ⟨_, _, roundEven_le (scaled_le x), rfl⟩

/-- Below a power of two the representable numbers keep a distance from it. -/
theorem Representable.le_of_lt (shown : Representable x) (below : x < 2 ^ k) :
    x ≤ 2 ^ k * (1 - 2 ^ (-53 : ℤ)) := by
  obtain ⟨n, e, fits, rfl⟩ := shown
  have unit : (2 : ℚ) ^ k = (2 ^ 53 : ℕ) * 2 ^ (k - 53) := by
    rw [places]
    congr 1
    push_cast
    ring
  have distance : (2 : ℚ) ^ k * (1 - 2 ^ (-53 : ℤ)) = ((2 ^ 53 : ℕ) - 1) * 2 ^ (k - 53) := by
    rw [mul_sub, mul_one, ← zpow_add₀ (by norm_num), sub_mul, one_mul, ← unit]
    rfl
  rw [distance]
  by_cases fine_ : e + 53 < k
  · -- the number is below the next smaller power of two
    have bound : (n : ℚ) * 2 ^ e ≤ (2 ^ 53 : ℕ) * 2 ^ e :=
      mul_le_mul_of_nonneg_right (by exact_mod_cast fits) (two_zpow_pos e).le
    have step : (2 : ℚ) ^ e ≤ 2 ^ (k - 53 - 1) := zpow_le_zpow_right₀ (by norm_num) (by omega)
    have half : (2 : ℚ) ^ (k - 53) = 2 * 2 ^ (k - 53 - 1) := by
      rw [zpow_sub_one₀ (by norm_num)]
      ring
    have pos := two_zpow_pos (k - 53 - 1)
    rw [half]
    push_cast at bound ⊢
    linarith
  · -- it is a multiple of the distance
    obtain ⟨shift, same⟩ : ∃ shift : ℕ, e = k - 53 + shift := ⟨(e - (k - 53)).toNat, by omega⟩
    have multiple : (n : ℚ) * 2 ^ e = (n * 2 ^ shift : ℕ) * 2 ^ (k - 53) := by
      rw [same, zpow_add₀ (by norm_num), zpow_natCast]
      push_cast
      ring
    rw [multiple, unit] at below
    have small : n * 2 ^ shift < 2 ^ 53 := by
      exact_mod_cast lt_of_mul_lt_mul_right below (two_zpow_pos _).le
    rw [multiple]
    refine mul_le_mul_of_nonneg_right ?_ (two_zpow_pos _).le
    have count : ((n * 2 ^ shift : ℕ) : ℚ) + 1 ≤ (2 ^ 53 : ℕ) := by exact_mod_cast small
    push_cast at count ⊢
    linarith

private theorem roundMagnitude_ge (normal : -1000 ≤ k) (reached : 2 ^ k ≤ x) :
    2 ^ k ≤ roundMagnitude x := by
  have positive : 0 < x := (two_zpow_pos k).trans_le reached
  have above : k ≤ Int.log 2 x :=
    (Int.zpow_le_iff_le_log (by decide) positive).mp (by exact_mod_cast reached)
  have place : lastPlace x = Int.log 2 x - 52 := by
    rw [lastPlace]
    omega
  have log_le : (2 : ℚ) ^ Int.log 2 x ≤ x := by
    exact_mod_cast Int.zpow_log_le_self (by decide : 1 < 2) positive
  have split : (2 : ℚ) ^ Int.log 2 x = (2 ^ 52 : ℕ) * 2 ^ lastPlace x := by
    rw [place, places]
    congr 1
    push_cast
    ring
  have digits : 2 ^ 52 ≤ roundEven (x / 2 ^ lastPlace x) :=
    le_roundEven (by rw [le_div_iff₀ (two_zpow_pos _), ← split]; exact log_le)
  calc (2 : ℚ) ^ k ≤ 2 ^ Int.log 2 x := zpow_le_zpow_right₀ (by norm_num) above
    _ = (2 ^ 52 : ℕ) * 2 ^ lastPlace x := split
    _ ≤ roundMagnitude x :=
      mul_le_mul_of_nonneg_right (by exact_mod_cast digits) (two_zpow_pos _).le

theorem roundMagnitude_lt (normal : -1000 ≤ k) (below : x < 2 ^ (k - 1)) :
    roundMagnitude x < 2 ^ k := by
  by_cases positive : 0 < x
  · have small : Int.log 2 x < k - 1 :=
      (Int.lt_zpow_iff_log_lt (by decide) positive).mp (by exact_mod_cast below)
    have place : lastPlace x ≤ k - 54 := by
      rw [lastPlace]
      omega
    calc roundMagnitude x ≤ (2 ^ 53 : ℕ) * 2 ^ lastPlace x :=
          mul_le_mul_of_nonneg_right (by exact_mod_cast roundEven_le (scaled_le x))
            (two_zpow_pos _).le
      _ ≤ (2 ^ 53 : ℕ) * 2 ^ (k - 54) :=
          mul_le_mul_of_nonneg_left (zpow_le_zpow_right₀ (by norm_num) place) (by positivity)
      _ = 2 ^ (k - 1) := by
          rw [places]
          congr 1
          push_cast
          ring
      _ < 2 ^ k := zpow_lt_zpow_right₀ (by norm_num) (by omega)
  · have none_ : x / 2 ^ lastPlace x ≤ (0 : ℕ) := by
      rw [Nat.cast_zero]
      exact div_nonpos_of_nonpos_of_nonneg (not_lt.mp positive) (two_zpow_pos _).le
    have zero : roundEven (x / 2 ^ lastPlace x) = 0 := Nat.le_zero.mp (roundEven_le none_)
    rw [roundMagnitude, zero, Nat.cast_zero, zero_mul]
    exact two_zpow_pos k

/-- Rounding reaches a power of two half a last place before it. -/
theorem two_zpow_le_roundMagnitude_iff (normal : -1000 ≤ k) :
    2 ^ k ≤ roundMagnitude x ↔ 2 ^ k * (1 - 2 ^ (-54 : ℤ)) ≤ x := by
  have pos := two_zpow_pos k
  have half : (2 : ℚ) ^ (k - 1) = 2 ^ k / 2 := by
    rw [zpow_sub_one₀ (by norm_num)]
    ring
  have slack : (0 : ℚ) < 2 ^ (-54 : ℤ) ∧ (2 : ℚ) ^ (-54 : ℤ) < 1 / 2 := by norm_num
  by_cases reached : 2 ^ k ≤ x
  · exact iff_of_true (roundMagnitude_ge normal reached) (by nlinarith)
  by_cases near : 2 ^ (k - 1) ≤ x
  · -- one binary place less, so that the last of its 53 places decides
    have positive : 0 < x := (two_zpow_pos _).trans_le near
    have log : Int.log 2 x = k - 1 := by
      refine le_antisymm (Int.lt_add_one_iff.mp ?_) ?_
      · rw [sub_add_cancel]
        exact (Int.lt_zpow_iff_log_lt (by decide) positive).mp
          (by exact_mod_cast not_le.mp reached)
      · exact (Int.zpow_le_iff_le_log (by decide) positive).mp (by exact_mod_cast near)
    have place : lastPlace x = k - 53 := by
      rw [lastPlace, log]
      omega
    have unit : (2 : ℚ) ^ k = (2 ^ 53 : ℕ) * 2 ^ (k - 53) := by
      rw [places]
      congr 1
      push_cast
      ring
    have carried : 2 ^ k ≤ roundMagnitude x ↔ 2 ^ 53 - 1 < roundEven (x / 2 ^ (k - 53)) := by
      rw [roundMagnitude, place, unit, mul_le_mul_iff_left₀ (two_zpow_pos _), Nat.cast_le]
      omega
    have middle : (2 : ℚ) ^ k * (1 - 2 ^ (-54 : ℤ)) =
        (((2 ^ 53 - 1 : ℕ) : ℚ) + 1 / 2) * 2 ^ (k - 53) := by
      rw [unit]
      norm_num
      ring
    rw [carried, lt_roundEven_iff_of_odd (by decide), le_div_iff₀ (two_zpow_pos _), middle]
  · rw [not_le] at near
    refine iff_of_false (not_le.mpr (roundMagnitude_lt normal near)) (not_le.mpr ?_)
    calc x < 2 ^ k * (1 / 2) := by rwa [half, div_eq_mul_one_div] at near
      _ ≤ 2 ^ k * (1 - 2 ^ (-54 : ℤ)) := mul_le_mul_of_nonneg_left (by linarith) pos.le

end Magnitudes

/-- A binary64 value. -/
inductive Binary64 where
  | nan
  | infinite (negative : Bool)
  | finite (negative : Bool) (magnitude : ℚ) (shown : Representable magnitude)

namespace Binary64

/-- The value next to a number that is given by its sign and its magnitude. -/
def ofMagnitude (negative : Bool) (x : ℚ) : Binary64 :=
  if roundMagnitude x < 2 ^ 1024 then
    .finite negative (roundMagnitude x) (representable_roundMagnitude x)
  else .infinite negative

def ofNat (n : ℕ) : Binary64 := ofMagnitude false n

def mul : Binary64 → Binary64 → Binary64
  | .nan, _ => .nan
  | _, .nan => .nan
  | .infinite s, .infinite s' => .infinite (s != s')
  | .infinite s, .finite s' y _ => if y = 0 then .nan else .infinite (s != s')
  | .finite s x _, .infinite s' => if x = 0 then .nan else .infinite (s != s')
  | .finite s x _, .finite s' y _ => ofMagnitude (s != s') (x * y)

def signed (negative : Bool) (x : ℚ) : ℚ := if negative then -x else x

/-- `a > b`: false when one of them is not a number. -/
def gt : Binary64 → Binary64 → Bool
  | .nan, _ => false
  | _, .nan => false
  | .infinite s, .infinite s' => !s && s'
  | .infinite s, .finite _ _ _ => !s
  | .finite _ _ _, .infinite s' => s'
  | .finite s x _, .finite s' y _ => decide (signed s' y < signed s x)

/-- The cast to a 64-bit unsigned integer: it truncates, and stops at the ends of the range. -/
def toWord : Binary64 → ℕ
  | .nan => 0
  | .infinite negative => if negative then 0 else 2 ^ 64 - 1
  | .finite negative x _ => if negative then 0 else min ⌊x⌋₊ (2 ^ 64 - 1)

section Products

variable {x : ℚ} {exponent : ℕ}

theorem roundMagnitude_two_pow (exponent : ℕ) :
    roundMagnitude (2 ^ exponent) = 2 ^ exponent := by
  have log : Int.log 2 ((2 : ℚ) ^ exponent) = exponent := by
    rw [← zpow_natCast]
    exact_mod_cast Int.log_zpow (R := ℚ) (by decide : 1 < 2) exponent
  have place : lastPlace (2 ^ exponent) = exponent - 52 := by
    rw [lastPlace, log]
    omega
  have digits : (2 : ℚ) ^ exponent / 2 ^ ((exponent : ℤ) - 52) = (2 ^ 52 : ℕ) := by
    rw [div_eq_iff (two_zpow_pos _).ne', places, ← zpow_natCast]
    congr 1
    push_cast
    ring
  have exact_ : roundEven ((2 ^ 52 : ℕ) : ℚ) = 2 ^ 52 :=
    le_antisymm (roundEven_le (le_refl _)) (le_roundEven (le_refl _))
  rw [roundMagnitude, place, digits, exact_, places, ← zpow_natCast]
  congr 1
  push_cast
  ring

theorem ofNat_two_pow (small : exponent < 1024) :
    ∃ shown, ofNat (2 ^ exponent) = .finite false (2 ^ exponent) shown := by
  have inside : roundMagnitude ((2 ^ exponent : ℕ) : ℚ) = 2 ^ exponent := by
    rw [Nat.cast_pow, Nat.cast_two, roundMagnitude_two_pow]
  have bounded : (2 : ℚ) ^ exponent < 2 ^ 1024 := pow_lt_pow_right₀ (by norm_num) small
  refine ⟨inside ▸ representable_roundMagnitude _, ?_⟩
  simp only [ofNat, ofMagnitude, inside, if_pos bounded]

theorem ofNat_finite {n : ℕ} (small : n < 2 ^ 64) :
    ∃ magnitude shown, ofNat n = .finite false magnitude shown := by
  have bound : (n : ℚ) < 2 ^ ((65 : ℤ) - 1) := by
    have cast : (n : ℚ) < (2 ^ 64 : ℕ) := by exact_mod_cast small
    norm_num at cast ⊢
    exact cast
  have inside : roundMagnitude (n : ℚ) < 2 ^ 1024 := by
    refine (roundMagnitude_lt (by decide) bound).trans ?_
    rw [← zpow_natCast]
    exact zpow_lt_zpow_right₀ (by norm_num) (by norm_num)
  exact ⟨_, representable_roundMagnitude n, if_pos inside⟩

theorem toWord_ofMagnitude_pos_iff : 0 < (ofMagnitude false x).toWord ↔ 1 ≤ roundMagnitude x := by
  rw [ofMagnitude]
  split
  · rw [toWord, if_neg Bool.false_ne_true, lt_min_iff, Nat.floor_pos]
    exact and_iff_left (by decide)
  · rename_i large
    refine iff_of_true (by decide) (le_trans ?_ (not_lt.mp large))
    exact one_le_pow₀ (by norm_num)

theorem toWord_ofMagnitude_negative : (ofMagnitude true x).toWord = 0 := by
  rw [ofMagnitude]
  split
  · rfl
  · rfl

/-- A number times a power of two is cast to zero exactly when it rounds to less than one. -/
theorem toWord_mul_pos_iff (small : exponent ≤ 1000) :
    0 < ((ofMagnitude false x).mul (ofNat (2 ^ exponent))).toWord ↔
      1 - 2 ^ (-54 : ℤ) ≤ x * 2 ^ exponent := by
  obtain ⟨shown, power⟩ := ofNat_two_pow (show exponent < 1024 by omega)
  have scale : (0 : ℚ) < 2 ^ exponent := pow_pos (by norm_num) exponent
  have inverse : (2 : ℚ) ^ (-(exponent : ℤ)) * 2 ^ exponent = 1 := by
    rw [zpow_neg, zpow_natCast, inv_mul_cancel₀ scale.ne']
  have slack : (0 : ℚ) < 2 ^ (-54 : ℤ) ∧ (2 : ℚ) ^ (-54 : ℤ) < 2 ^ (-53 : ℤ) := by norm_num
  have reaches : 2 ^ (-(exponent : ℤ)) ≤ roundMagnitude x ↔
      1 - 2 ^ (-54 : ℤ) ≤ x * 2 ^ exponent := by
    rw [two_zpow_le_roundMagnitude_iff (by omega), ← mul_le_mul_iff_left₀ scale, mul_right_comm,
      inverse, one_mul]
  rw [power, ← reaches, ofMagnitude]
  split
  · rw [mul, bne_self_eq_false, toWord_ofMagnitude_pos_iff, ← zpow_zero (2 : ℚ),
      two_zpow_le_roundMagnitude_iff (by decide), zpow_zero, one_mul]
    constructor
    · intro near
      by_contra short
      -- a representable number short of the reciprocal is short of it by two units
      have gap := (representable_roundMagnitude x).le_of_lt (not_le.mp short)
      have scaled := mul_le_mul_of_nonneg_right gap scale.le
      rw [mul_right_comm, inverse, one_mul] at scaled
      linarith
    · intro reached
      have scaled := mul_le_mul_of_nonneg_right reached scale.le
      rw [inverse] at scaled
      linarith
  · rename_i large
    rw [mul, if_neg scale.ne']
    refine iff_of_true (by decide) ((zpow_le_one_of_nonpos₀ (by norm_num) (by omega)).trans ?_)
    exact (one_le_pow₀ (by norm_num)).trans (not_lt.mp large)

theorem toWord_mul_negative (small : exponent < 1024) :
    ((ofMagnitude true x).mul (ofNat (2 ^ exponent))).toWord = 0 := by
  obtain ⟨shown, power⟩ := ofNat_two_pow small
  have scale : (2 : ℚ) ^ exponent ≠ 0 := pow_ne_zero _ (by norm_num)
  rw [power, ofMagnitude]
  split
  · exact toWord_ofMagnitude_negative
  · rw [mul, if_neg scale]
    rfl

end Products

end Binary64

end Arithmetic
