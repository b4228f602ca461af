import Mathlib.Data.Int.CardIntervalMod
import Mathlib.Data.List.Nodup

/-!
# Round robin

The numbers below a bound, dealt in turn to piles. Every number is dealt once, each pile
grows upwards, and no pile gets ahead of another by more than one number.
-/

set_option autoImplicit false

namespace Arithmetic

/-- Deal the numbers below a bound in turn. -/
def deal (count width : Nat) : List (List Nat) :=
  (List.range count).foldl
    (fun piles i => piles.modify (i % width) fun pile => pile ++ [i]) (List.replicate width [])

/-- What one pile gets. -/
def pile (count width position : Nat) : List Nat :=
  (List.range count).filter fun i => i % width = position

theorem mem_pile {count width position i : Nat} :
    i ∈ pile count width position ↔ i < count ∧ i % width = position := by
  simp [pile]

theorem pile_succ (count width position : Nat) :
    pile (count + 1) width position =
      if count % width = position then pile count width position ++ [count]
      else pile count width position := by
  unfold pile
  rw [List.range_succ, List.filter_append]
  split <;> simp [*]

theorem deal_succ (count width : Nat) :
    deal (count + 1) width =
      (deal count width).modify (count % width) fun pile => pile ++ [count] := by
  simp [deal, List.range_succ]

theorem deal_eq (count width : Nat) :
    deal count width = (List.range width).map (pile count width) := by
  induction count with
  | zero =>
      have nothing : pile 0 width = fun _ => [] := rfl
      simp [deal, nothing]
  | succ count ih =>
      rw [deal_succ, ih]
      apply List.ext_getElem
      · simp
      · intro position _ _
        rw [List.getElem_modify]
        simp only [List.getElem_map, List.getElem_range, pile_succ]

theorem length_deal (count width : Nat) : (deal count width).length = width := by
  simp [deal_eq]

theorem mem_deal {count width : Nat} {piled : List Nat} (member : piled ∈ deal count width) :
    ∃ position < width, piled = pile count width position := by
  rw [deal_eq] at member
  obtain ⟨position, inRange, same⟩ := List.mem_map.mp member
  exact ⟨position, List.mem_range.mp inRange, same.symm⟩

theorem pile_increasing (count width position : Nat) :
    (pile count width position).Pairwise (· < ·) :=
  List.pairwise_lt_range.filter _

theorem nodup_deal (count width : Nat) : (deal count width).flatten.Nodup := by
  rw [deal_eq, List.nodup_flatten]
  constructor
  · intro piled member
    obtain ⟨position, _, rfl⟩ := List.mem_map.mp member
    exact List.nodup_range.filter _
  · rw [List.pairwise_map]
    apply List.nodup_range.imp
    intro position position' different i first second
    exact different ((mem_pile.mp first).2.symm.trans (mem_pile.mp second).2)

theorem deal_perm {width : Nat} (some_ : 0 < width) (count : Nat) :
    (deal count width).flatten.Perm (List.range count) := by
  rw [List.perm_ext_iff_of_nodup (nodup_deal count width) List.nodup_range]
  intro i
  rw [deal_eq, List.mem_flatten, List.mem_range]
  constructor
  · intro ⟨piled, member, dealt⟩
    obtain ⟨position, _, rfl⟩ := List.mem_map.mp member
    exact (mem_pile.mp dealt).1
  · intro inRange
    have position : i % width ∈ List.range width := List.mem_range.mpr (Nat.mod_lt i some_)
    exact ⟨_, List.mem_map_of_mem position, mem_pile.mpr ⟨inRange, rfl⟩⟩

/-- The size of a pile: the quotient, or one more for the piles that come first. -/
theorem length_pile {width position : Nat} (inRange : position < width) (count : Nat) :
    (pile count width position).length =
      count / width + if position < count % width then 1 else 0 := by
  have some_ : 0 < width := by omega
  have counted : (pile count width position).length = Nat.count (· ≡ position [MOD width]) count := by
    rw [Nat.count, List.countP_eq_length_filter, pile]
    simp only [Nat.ModEq, Nat.mod_eq_of_lt inRange]
  rw [counted, Nat.count_modEq_card count some_, Nat.mod_eq_of_lt inRange]

theorem length_pile_le {width first second : Nat} (inRange : first < width)
    (inRange' : second < width) (count : Nat) :
    (pile count width first).length ≤ (pile count width second).length + 1 := by
  rw [length_pile inRange, length_pile inRange']
  split <;> omega

end Arithmetic
