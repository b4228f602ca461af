import Mathlib.Data.List.Sort
import Mathlib.Order.Lattice

/-!
# Finite maps as sorted association lists

A finite map in canonical form: its entries in strictly increasing key order.
Two maps with the same lookups are equal, so a map can be compared with what was
written to and read back from a byte string.
-/

set_option autoImplicit false

namespace Encoding

variable {κ ν : Type} [LinearOrder κ]

/-- Entries in strictly increasing order of their keys. -/
structure OrderedMap (κ ν : Type) [LinearOrder κ] where
  entries : List (κ × ν)
  sorted : entries.Pairwise fun left right => left.1 < right.1

namespace OrderedMap

@[ext] theorem ext {left right : OrderedMap κ ν} (same : left.entries = right.entries) :
    left = right := by
  cases left
  cases right
  cases same
  rfl

instance [DecidableEq ν] : DecidableEq (OrderedMap κ ν) := fun left right =>
  decidable_of_iff (left.entries = right.entries) ⟨OrderedMap.ext, congrArg _⟩

/-- The map without entries. -/
def empty : OrderedMap κ ν := ⟨[], .nil⟩

/-- The keys in increasing order. -/
def keys (map : OrderedMap κ ν) : List κ := map.entries.map Prod.fst

def insertEntries (key : κ) (value : ν) : List (κ × ν) → List (κ × ν)
  | [] => [(key, value)]
  | entry :: rest =>
    if key < entry.1 then (key, value) :: entry :: rest
    else if key = entry.1 then (key, value) :: rest
    else entry :: insertEntries key value rest

theorem mem_insertEntries {key : κ} {value : ν} {entries : List (κ × ν)} {entry : κ × ν}
    (member : entry ∈ insertEntries key value entries) : entry = (key, value) ∨ entry ∈ entries := by
  induction entries with
  | nil => exact .inl (by simpa [insertEntries] using member)
  | cons head rest ih =>
      rw [insertEntries] at member
      split at member
      · exact (List.mem_cons.mp member).imp id id
      · split at member
        · exact (List.mem_cons.mp member).imp id (List.mem_cons_of_mem head)
        · rcases List.mem_cons.mp member with rfl | member
          · exact .inr List.mem_cons_self
          · exact (ih member).imp id (List.mem_cons_of_mem head)

theorem insertEntries_sorted (key : κ) (value : ν) {entries : List (κ × ν)}
    (sorted : entries.Pairwise fun left right => left.1 < right.1) :
    (insertEntries key value entries).Pairwise fun left right => left.1 < right.1 := by
  induction entries with
  | nil => exact List.pairwise_singleton _ _
  | cons head rest ih =>
      obtain ⟨below, tail⟩ := List.pairwise_cons.mp sorted
      rw [insertEntries]
      split
      case isTrue smaller =>
        refine List.pairwise_cons.mpr ⟨fun entry member => ?_, sorted⟩
        rcases List.mem_cons.mp member with rfl | member
        · exact smaller
        · exact smaller.trans (below entry member)
      case isFalse notSmaller =>
        split
        case isTrue same =>
          exact List.pairwise_cons.mpr ⟨fun entry member => same ▸ below entry member, tail⟩
        case isFalse different =>
          refine List.pairwise_cons.mpr ⟨fun entry member => ?_, ih tail⟩
          rcases mem_insertEntries member with rfl | member
          · exact lt_of_le_of_ne (not_lt.mp notSmaller) (Ne.symm different)
          · exact below entry member

/-- Add an entry, or replace the value its key had. -/
def insert (map : OrderedMap κ ν) (key : κ) (value : ν) : OrderedMap κ ν :=
  ⟨insertEntries key value map.entries, insertEntries_sorted key value map.sorted⟩

/-- The value at a key. -/
def get? (map : OrderedMap κ ν) (key : κ) : Option ν :=
  (map.entries.find? fun entry => entry.1 = key).map Prod.snd

theorem get?_eq_some_iff {map : OrderedMap κ ν} {key : κ} {value : ν} :
    map.get? key = some value ↔ (key, value) ∈ map.entries := by
  obtain ⟨entries, sorted⟩ := map
  simp only [get?]
  induction entries with
  | nil => simp
  | cons head rest ih =>
      obtain ⟨below, tail⟩ := List.pairwise_cons.mp sorted
      rw [List.find?_cons, List.mem_cons]
      by_cases same : head.1 = key
      · simp only [same, decide_true, Option.map_some, Option.some.injEq]
        constructor
        · rintro rfl
          exact .inl (by rw [← same])
        · rintro (rfl | member)
          · rfl
          · exact absurd (below _ member) (by simp [same])
      · simp only [same, decide_false, ih tail]
        exact ⟨.inr, fun member => member.resolve_left fun equal => same (by rw [← equal])⟩

theorem mem_keys_iff {map : OrderedMap κ ν} {key : κ} :
    key ∈ map.keys ↔ ∃ value, map.get? key = some value := by
  simp only [keys, List.mem_map, get?_eq_some_iff]
  constructor
  · rintro ⟨⟨_, value⟩, member, rfl⟩
    exact ⟨value, member⟩
  · rintro ⟨value, member⟩
    exact ⟨_, member, rfl⟩

theorem get?_eq_none_iff {map : OrderedMap κ ν} {key : κ} :
    map.get? key = none ↔ key ∉ map.keys := by
  rw [mem_keys_iff]
  cases map.get? key with
  | none => simp
  | some value => simp

theorem keys_nodup (map : OrderedMap κ ν) : map.keys.Nodup :=
  List.pairwise_map.mpr (map.sorted.imp fun less => ne_of_lt less)

private theorem mem_insertEntries_self (key : κ) (value : ν) (entries : List (κ × ν)) :
    (key, value) ∈ insertEntries key value entries := by
  induction entries with
  | nil => exact List.mem_cons_self
  | cons head rest ih =>
      rw [insertEntries]
      split
      · exact List.mem_cons_self
      · split
        · exact List.mem_cons_self
        · exact List.mem_cons_of_mem _ ih

private theorem mem_insertEntries_of_ne {key : κ} {value : ν} {entries : List (κ × ν)}
    {entry : κ × ν} (different : entry.1 ≠ key) (member : entry ∈ entries) :
    entry ∈ insertEntries key value entries := by
  induction entries with
  | nil => cases member
  | cons head rest ih =>
      rw [insertEntries]
      split
      · exact List.mem_cons_of_mem _ member
      · split
        case isTrue same =>
          rcases List.mem_cons.mp member with rfl | member
          · exact absurd same.symm different
          · exact List.mem_cons_of_mem _ member
        case isFalse =>
          rcases List.mem_cons.mp member with rfl | member
          · exact List.mem_cons_self
          · exact List.mem_cons_of_mem _ (ih member)

@[simp] theorem get?_insert_self (map : OrderedMap κ ν) (key : κ) (value : ν) :
    (map.insert key value).get? key = some value :=
  get?_eq_some_iff.mpr (mem_insertEntries_self key value map.entries)

theorem get?_insert_of_ne (map : OrderedMap κ ν) {key other : κ} (value : ν)
    (different : other ≠ key) : (map.insert key value).get? other = map.get? other := by
  apply Option.ext
  intro found
  rw [get?_eq_some_iff, get?_eq_some_iff]
  constructor
  · intro member
    exact (mem_insertEntries member).resolve_left fun same => different (congrArg Prod.fst same)
  · exact mem_insertEntries_of_ne different

theorem mem_keys_insert {map : OrderedMap κ ν} {key other : κ} {value : ν} :
    other ∈ (map.insert key value).keys ↔ other = key ∨ other ∈ map.keys := by
  rw [mem_keys_iff, mem_keys_iff]
  by_cases same : other = key
  · subst same
    simp
  · simp [get?_insert_of_ne map value same, same]

theorem ext_get? {left right : OrderedMap κ ν} (same : ∀ key, left.get? key = right.get? key) :
    left = right := by
  have members : ∀ entry, entry ∈ left.entries ↔ entry ∈ right.entries := by
    rintro ⟨key, value⟩
    rw [← get?_eq_some_iff, ← get?_eq_some_iff, same]
  have nodup : ∀ map : OrderedMap κ ν, map.entries.Nodup := fun map =>
    map.sorted.imp fun less equal => absurd (equal ▸ less) (lt_irrefl _)
  apply OrderedMap.ext
  refine List.Perm.eq_of_pairwise ?_ left.sorted right.sorted
    ((List.perm_ext_iff_of_nodup (nodup left) (nodup right)).mpr members)
  intro first second _ _ less greater
  exact absurd (less.trans greater) (lt_irrefl _)

/-- Entries with different keys can be inserted in any order. -/
theorem insert_comm (map : OrderedMap κ ν) {key key' : κ} (value value' : ν)
    (different : key ≠ key') :
    (map.insert key value).insert key' value' = (map.insert key' value').insert key value := by
  apply ext_get?
  intro other
  by_cases here : other = key
  · rw [here, get?_insert_self, get?_insert_of_ne _ _ different, get?_insert_self]
  · rw [get?_insert_of_ne (map.insert key' value') value here]
    by_cases there : other = key'
    · rw [there, get?_insert_self, get?_insert_self]
    · rw [get?_insert_of_ne _ _ there, get?_insert_of_ne _ _ there, get?_insert_of_ne _ _ here]

/-- The map that lists of entries build, later entries replacing earlier ones. -/
def ofList (entries : List (κ × ν)) : OrderedMap κ ν :=
  entries.foldl (fun map entry => map.insert entry.1 entry.2) empty

theorem get?_foldl_insert (entries : List (κ × ν)) (map : OrderedMap κ ν)
    (distinct : (entries.map Prod.fst).Nodup) (key : κ) :
    (entries.foldl (fun map entry => map.insert entry.1 entry.2) map).get? key =
      match entries.find? fun entry => entry.1 = key with
      | some entry => some entry.2
      | none => map.get? key := by
  induction entries generalizing map with
  | nil => rfl
  | cons head rest ih =>
      obtain ⟨fresh, distinct⟩ := List.nodup_cons.mp distinct
      rw [List.foldl_cons, ih _ distinct, List.find?_cons]
      by_cases same : head.1 = key
      · have missing : rest.find? (fun entry => entry.1 = key) = none := by
          rw [List.find?_eq_none]
          intro entry member equal
          refine fresh (List.mem_map.mpr ⟨entry, member, ?_⟩)
          rw [same]
          exact of_decide_eq_true equal
        simp [missing, same]
      · simp only [same, decide_false, get?_insert_of_ne map head.2 (Ne.symm same)]

theorem ofList_entries (map : OrderedMap κ ν) : ofList map.entries = map := by
  apply ext_get?
  intro key
  rw [ofList, get?_foldl_insert _ _ map.keys_nodup]
  simp only [get?]
  cases map.entries.find? fun entry => entry.1 = key <;> rfl

@[simp] theorem length_keys (map : OrderedMap κ ν) : map.keys.length = map.entries.length :=
  List.length_map ..

/-- A map has at most as many entries as there are keys it can have. -/
theorem length_entries_le {map : OrderedMap κ ν} {keys : List κ} (among : ∀ key ∈ map.keys, key ∈ keys) :
    map.entries.length ≤ keys.length := by
  rw [← map.length_keys]
  exact (List.subperm_of_subset map.keys_nodup among).length_le

theorem mem_keys_foldl_insert {entries : List (κ × ν)} {map : OrderedMap κ ν} {key : κ} :
    key ∈ (entries.foldl (fun map entry => map.insert entry.1 entry.2) map).keys ↔
      key ∈ map.keys ∨ key ∈ entries.map Prod.fst := by
  induction entries generalizing map with
  | nil => simp
  | cons head rest ih =>
      rw [List.foldl_cons, ih, mem_keys_insert, List.map_cons, List.mem_cons]
      tauto

theorem mem_keys_ofList {entries : List (κ × ν)} {key : κ} :
    key ∈ (ofList entries).keys ↔ key ∈ entries.map Prod.fst := by
  rw [ofList, mem_keys_foldl_insert]
  simp [keys, empty]

theorem mergeSort_entries (map : OrderedMap κ ν) {entries : List (κ × ν)}
    (perm : entries.Perm map.entries) :
    entries.mergeSort (fun left right => left.1 ≤ right.1) = map.entries := by
  have sorted : (entries.mergeSort fun left right => left.1 ≤ right.1).Pairwise
      fun left right => left.1 ≤ right.1 := by
    refine (List.pairwise_mergeSort ?_ ?_ entries).imp of_decide_eq_true
    · intro left middle right below above
      exact decide_eq_true ((of_decide_eq_true below).trans (of_decide_eq_true above))
    · intro left right
      rw [Bool.or_eq_true, decide_eq_true_iff, decide_eq_true_iff]
      exact le_total _ _
  have sorted' : map.entries.Pairwise fun left right => left.1 ≤ right.1 :=
    map.sorted.imp le_of_lt
  refine List.Perm.eq_of_pairwise ?_ sorted sorted' ((List.mergeSort_perm _ _).trans perm)
  intro left right member member' below above
  have listed := perm.subset (List.mem_mergeSort.mp member)
  have found := get?_eq_some_iff.mpr listed
  have found' := get?_eq_some_iff.mpr member'
  have same : left.1 = right.1 := le_antisymm below above
  rw [same, found'] at found
  exact Prod.ext same (Option.some.inj found).symm

end OrderedMap

end Encoding
