import Mathlib.Tactic.Common
import Mathlib.Data.List.Basic
import Mathlib.Data.List.Nodup

/-!
# Ordered maps as association lists

An ordered map is the list of its entries in increasing key order, the order in
which an iterator visits them.  The three updates follow the usual container
contract: `insert` keeps an entry that is present, `set` replaces it, `find?`
looks a key up.
-/

set_option autoImplicit false

namespace EasyRtmp.Lib.OrdMap

variable {K V : Type} [Ord K]

def find? (key : K) : List (K × V) → Option V
  | [] => none
  | (other, value) :: rest =>
      match compare key other with
      | .eq => some value
      | _ => find? key rest

/-- Adds an entry unless the key is present. -/
def insert (key : K) (value : V) : List (K × V) → List (K × V)
  | [] => [(key, value)]
  | (other, old) :: rest =>
      match compare key other with
      | .lt => (key, value) :: (other, old) :: rest
      | .eq => (other, old) :: rest
      | .gt => (other, old) :: insert key value rest

/-- Adds an entry, or replaces the value of the one present. -/
def set (key : K) (value : V) : List (K × V) → List (K × V)
  | [] => [(key, value)]
  | (other, old) :: rest =>
      match compare key other with
      | .lt => (key, value) :: (other, old) :: rest
      | .eq => (other, value) :: rest
      | .gt => (other, old) :: set key value rest

def Sorted (entries : List (K × V)) : Prop :=
  entries.Pairwise fun left right => compare left.1 right.1 = .lt

theorem sorted_nil : Sorted ([] : List (K × V)) := List.Pairwise.nil

theorem sorted_cons {entry : K × V} {rest : List (K × V)} :
    Sorted (entry :: rest) ↔ (∀ other ∈ rest, compare entry.1 other.1 = .lt) ∧ Sorted rest :=
  List.pairwise_cons

section Entries

theorem mem_insert {key : K} {value : V} {entries : List (K × V)} {entry : K × V}
    (member : entry ∈ insert key value entries) : entry = (key, value) ∨ entry ∈ entries := by
  induction entries with
  | nil => exact Or.inl (by simpa [insert] using member)
  | cons head rest ih =>
      obtain ⟨other, old⟩ := head
      simp only [insert] at member
      split at member
      · simpa using member
      · exact Or.inr member
      · rcases List.mem_cons.mp member with rfl | inRest
        · exact Or.inr (List.mem_cons_self ..)
        · exact (ih inRest).imp_right (List.mem_cons_of_mem _)

theorem mem_set [Std.LawfulEqOrd K] {key : K} {value : V} {entries : List (K × V)}
    {entry : K × V} (member : entry ∈ set key value entries) :
    entry = (key, value) ∨ entry ∈ entries := by
  induction entries with
  | nil => exact Or.inl (by simpa [set] using member)
  | cons head rest ih =>
      obtain ⟨other, old⟩ := head
      simp only [set] at member
      split at member
      · simpa using member
      · rename_i same
        rcases List.mem_cons.mp member with rfl | inRest
        · left
          rw [Std.LawfulEqCmp.eq_of_compare same]
        · exact Or.inr (List.mem_cons_of_mem _ inRest)
      · rcases List.mem_cons.mp member with rfl | inRest
        · exact Or.inr (List.mem_cons_self ..)
        · exact (ih inRest).imp_right (List.mem_cons_of_mem _)

/-- A key above every present one goes to the end. -/
theorem insert_of_above [Std.OrientedOrd K] {key : K} {value : V} {entries : List (K × V)}
    (above : ∀ entry ∈ entries, compare entry.1 key = .lt) :
    insert key value entries = entries ++ [(key, value)] := by
  induction entries with
  | nil => rfl
  | cons head rest ih =>
      obtain ⟨other, old⟩ := head
      have headBelow : compare key other = .gt :=
        Std.OrientedCmp.gt_iff_lt.mpr (above (other, old) (List.mem_cons_self ..))
      have restBelow := ih fun entry inRest => above entry (List.mem_cons_of_mem _ inRest)
      simp only [insert, headBelow, restBelow, List.cons_append]

end Entries

section Order
variable [Std.TransOrd K]

theorem sorted_set [Std.LawfulEqOrd K] {key : K} {value : V} {entries : List (K × V)}
    (sorted : Sorted entries) : Sorted (set key value entries) := by
  induction entries with
  | nil => exact List.pairwise_singleton _ _
  | cons head rest ih =>
      obtain ⟨other, old⟩ := head
      obtain ⟨headBelow, restSorted⟩ := sorted_cons.mp sorted
      simp only [set]
      split
      · rename_i below
        refine sorted_cons.mpr ⟨fun entry member => ?_, sorted⟩
        rcases List.mem_cons.mp member with rfl | inRest
        · exact below
        · exact Std.TransCmp.lt_trans below (headBelow entry inRest)
      · exact sorted_cons.mpr ⟨headBelow, restSorted⟩
      · rename_i above
        refine sorted_cons.mpr ⟨fun entry member => ?_, ih restSorted⟩
        rcases mem_set member with rfl | inRest
        · exact Std.OrientedCmp.gt_iff_lt.mp above
        · exact headBelow entry inRest

theorem sorted_insert {key : K} {value : V} {entries : List (K × V)} (sorted : Sorted entries) :
    Sorted (insert key value entries) := by
  induction entries with
  | nil => exact List.pairwise_singleton _ _
  | cons head rest ih =>
      obtain ⟨other, old⟩ := head
      obtain ⟨headBelow, restSorted⟩ := sorted_cons.mp sorted
      simp only [insert]
      split
      · rename_i below
        refine sorted_cons.mpr ⟨fun entry member => ?_, sorted⟩
        rcases List.mem_cons.mp member with rfl | inRest
        · exact below
        · exact Std.TransCmp.lt_trans below (headBelow entry inRest)
      · exact sorted
      · rename_i above
        refine sorted_cons.mpr ⟨fun entry member => ?_, ih restSorted⟩
        rcases mem_insert member with rfl | inRest
        · exact Std.OrientedCmp.gt_iff_lt.mp above
        · exact headBelow entry inRest

theorem sorted_foldl_insert (inserted : List (K × V)) {entries : List (K × V)}
    (sorted : Sorted entries) :
    Sorted (inserted.foldl (fun entries entry => insert entry.1 entry.2 entries) entries) := by
  induction inserted generalizing entries with
  | nil => exact sorted
  | cons head rest ih => exact ih (sorted_insert sorted)

end Order

section Lookup
variable [Std.LawfulEqOrd K]

@[simp] theorem find?_set_self [Std.OrientedOrd K] (key : K) (value : V)
    (entries : List (K × V)) : find? key (set key value entries) = some value := by
  induction entries with
  | nil => simp [set, find?]
  | cons head rest ih =>
      obtain ⟨other, old⟩ := head
      simp only [set]
      split
      · simp [find?]
      · rename_i same
        simp [find?, same]
      · rename_i above
        simp [find?, above, ih]

omit [Std.LawfulEqOrd K] in
theorem find?_cons_of_ne {key other : K} (value : V) (rest : List (K × V))
    (differ : compare key other ≠ .eq) : find? key ((other, value) :: rest) = find? key rest := by
  cases order : compare key other with
  | eq => exact absurd order differ
  | lt => simp [find?, order]
  | gt => simp [find?, order]

theorem find?_set_other {key other : K} (value : V) (entries : List (K × V))
    (differ : compare key other ≠ .eq) :
    find? key (set other value entries) = find? key entries := by
  induction entries with
  | nil => exact find?_cons_of_ne value [] differ
  | cons head rest ih =>
      obtain ⟨present, old⟩ := head
      simp only [set]
      split
      · exact find?_cons_of_ne value _ differ
      · rename_i same
        rw [Std.LawfulEqCmp.eq_of_compare same] at differ
        rw [find?_cons_of_ne value _ differ, find?_cons_of_ne old _ differ]
      · simp only [find?, ih]

/-- What the last of some assignments to a key assigns. -/
def last? (key : K) : List (K × V) → Option V
  | [] => none
  | (other, value) :: rest =>
      (last? key rest).or (if compare key other = .eq then some value else none)

/-- A sequence of assignments leaves the last one to each key. -/
theorem find?_foldl_set [Std.OrientedOrd K] (key : K) (assignments entries : List (K × V)) :
    find? key (assignments.foldl (fun entries entry => set entry.1 entry.2 entries) entries) =
      (last? key assignments).or (find? key entries) := by
  induction assignments generalizing entries with
  | nil => rfl
  | cons head rest ih =>
      obtain ⟨other, value⟩ := head
      rw [List.foldl_cons, ih, last?, Option.or_assoc]
      by_cases same : compare key other = .eq
      · rw [if_pos same, Std.LawfulEqCmp.eq_of_compare same, find?_set_self, Option.some_or]
      · rw [if_neg same, find?_set_other value entries same, Option.none_or]

theorem sorted_foldl_set [Std.TransOrd K] (assignments : List (K × V)) {entries : List (K × V)}
    (sorted : Sorted entries) :
    Sorted (assignments.foldl (fun entries entry => set entry.1 entry.2 entries) entries) := by
  induction assignments generalizing entries with
  | nil => exact sorted
  | cons head rest ih => exact ih (sorted_set sorted)

omit [Std.LawfulEqOrd K] in
theorem length_set_le (key : K) (value : V) (entries : List (K × V)) :
    (set key value entries).length ≤ entries.length + 1 := by
  induction entries with
  | nil => exact Nat.le_refl 1
  | cons head rest ih =>
      obtain ⟨other, old⟩ := head
      simp only [set]
      split
      · exact Nat.le_refl _
      · exact Nat.le_succ _
      · exact Nat.succ_le_succ ih

omit [Std.LawfulEqOrd K] in
theorem length_foldl_set_le (assignments entries : List (K × V)) :
    (assignments.foldl (fun entries entry => set entry.1 entry.2 entries) entries).length ≤
      assignments.length + entries.length := by
  induction assignments generalizing entries with
  | nil => exact Nat.le_add_left _ _
  | cons head rest ih =>
      have tail := ih (set head.1 head.2 entries)
      have one := length_set_le head.1 head.2 entries
      rw [List.foldl_cons, List.length_cons]
      omega

theorem mem_foldl_set {assignments entries : List (K × V)} {entry : K × V}
    (member : entry ∈ assignments.foldl (fun entries entry => set entry.1 entry.2 entries)
      entries) : entry ∈ assignments ∨ entry ∈ entries := by
  induction assignments generalizing entries with
  | nil => exact Or.inr member
  | cons head rest ih =>
      rcases ih member with later | now
      · exact Or.inl (List.mem_cons_of_mem _ later)
      · exact (mem_set now).imp_left fun same => List.mem_cons.mpr (Or.inl same)

end Lookup

section Insertions
variable [Std.LawfulEqOrd K]

theorem mem_of_find? {key : K} {value : V} {entries : List (K × V)}
    (found : find? key entries = some value) : (key, value) ∈ entries := by
  induction entries with
  | nil => cases found
  | cons head rest ih =>
      obtain ⟨other, old⟩ := head
      rw [find?] at found
      split at found
      · rename_i same
        obtain rfl := Option.some.inj found
        rw [Std.LawfulEqCmp.eq_of_compare same]
        exact List.mem_cons_self ..
      · exact List.mem_cons_of_mem _ (ih found)

/-- Where no key comes twice a lookup finds every entry. -/
theorem find?_eq_some_iff {key : K} {value : V} {entries : List (K × V)}
    (distinct : (entries.map Prod.fst).Nodup) :
    find? key entries = some value ↔ (key, value) ∈ entries := by
  refine ⟨mem_of_find?, fun member => ?_⟩
  induction entries with
  | nil => cases member
  | cons head rest ih =>
      obtain ⟨other, old⟩ := head
      rw [List.map_cons, List.nodup_cons] at distinct
      obtain ⟨absent, others⟩ := distinct
      rcases List.mem_cons.mp member with same | inRest
      · cases same
        simp [find?]
      · have differ : compare key other ≠ .eq := by
          intro same
          rw [← Std.LawfulEqCmp.eq_of_compare same] at absent
          exact absent (List.mem_map.mpr ⟨(key, value), inRest, rfl⟩)
        rw [find?_cons_of_ne old rest differ]
        exact ih others inRest

theorem find?_of_absent {key : K} {entries : List (K × V)}
    (absent : key ∉ entries.map Prod.fst) : find? key entries = none := by
  rw [Option.eq_none_iff_forall_ne_some]
  intro value found
  exact absent (List.mem_map_of_mem (mem_of_find? found))

theorem Sorted.distinct {entries : List (K × V)} (sorted : Sorted entries) :
    (entries.map Prod.fst).Nodup := by
  refine List.pairwise_map.mpr (sorted.imp ?_)
  intro left right below same
  rw [same, Std.compare_self] at below
  cases below

theorem find?_above {key : K} {entries : List (K × V)}
    (above : ∀ entry ∈ entries, compare key entry.1 = .lt) : find? key entries = none := by
  refine find?_of_absent ?_
  intro member
  obtain ⟨entry, inside, rfl⟩ := List.mem_map.mp member
  have below := above entry inside
  rw [Std.compare_self] at below
  cases below

/-- Where no key comes twice, the order of the entries does not matter to a lookup. -/
theorem find?_perm {entries other : List (K × V)} (distinct : (entries.map Prod.fst).Nodup)
    (perm : entries.Perm other) (key : K) : find? key entries = find? key other := by
  have distinct' := (perm.map Prod.fst).nodup_iff.mp distinct
  ext value
  rw [find?_eq_some_iff distinct, find?_eq_some_iff distinct', perm.mem_iff]

variable [Std.TransOrd K]

/-- An insertion shows where nothing was found. -/
theorem find?_insert {entries : List (K × V)} (sorted : Sorted entries) (key other : K)
    (value : V) : find? key (insert other value entries) =
      (find? key entries).or (find? key [(other, value)]) := by
  induction entries with
  | nil => rfl
  | cons head rest ih =>
      obtain ⟨present, old⟩ := head
      obtain ⟨headBelow, restSorted⟩ := sorted_cons.mp sorted
      simp only [insert]
      split
      · rename_i below
        by_cases same : compare key other = .eq
        · obtain rfl := Std.LawfulEqCmp.eq_of_compare same
          have none_ : find? key ((present, old) :: rest) = none := by
            refine find?_above (List.forall_mem_cons.mpr ⟨below, fun entry member => ?_⟩)
            exact Std.TransCmp.lt_trans below (headBelow entry member)
          rw [none_]
          simp [find?]
        · rw [find?_cons_of_ne value _ same, find?_cons_of_ne value _ same, find?, Option.or_none]
      · rename_i equal
        obtain rfl := Std.LawfulEqCmp.eq_of_compare equal
        by_cases same : compare key other = .eq
        · simp [find?, same]
        · rw [find?_cons_of_ne value _ same]
          exact (Option.or_none).symm
      · by_cases same : compare key present = .eq
        · simp [find?, same]
        · rw [find?_cons_of_ne old _ same, find?_cons_of_ne old _ same, ih restSorted]

/-- Of several insertions under one key the first counts. -/
theorem find?_foldl_insert (key : K) (inserted : List (K × V)) {entries : List (K × V)}
    (sorted : Sorted entries) :
    find? key (inserted.foldl (fun entries entry => insert entry.1 entry.2 entries) entries) =
      (find? key entries).or (find? key inserted) := by
  induction inserted generalizing entries with
  | nil => exact (Option.or_none).symm
  | cons head rest ih =>
      rw [List.foldl_cons, ih (sorted_insert sorted), find?_insert sorted, Option.or_assoc]
      congr 1
      by_cases same : compare key head.1 = .eq
      · simp [find?, same]
      · rw [find?_cons_of_ne head.2 _ same, find?_cons_of_ne head.2 _ same]
        rfl

/-- A map is what its lookups find. -/
theorem Sorted.ext {left right : List (K × V)} (sorted : Sorted left) (sorted' : Sorted right)
    (same : ∀ key, find? key left = find? key right) : left = right := by
  have members : ∀ entry, entry ∈ left ↔ entry ∈ right := by
    intro entry
    rw [← find?_eq_some_iff sorted.distinct, same, find?_eq_some_iff sorted'.distinct]
  have perm : left.Perm right := (List.perm_ext_iff_of_nodup
    (List.Nodup.of_map _ sorted.distinct) (List.Nodup.of_map _ sorted'.distinct)).mpr members
  refine perm.eq_of_pairwise ?_ sorted sorted'
  intro entry other _ _ below above
  rw [Std.OrientedCmp.gt_iff_lt.mpr below] at above
  cases above

/-- Nor does it to what their insertions build. -/
theorem foldl_insert_perm {inserted other : List (K × V)}
    (distinct : (inserted.map Prod.fst).Nodup) (perm : inserted.Perm other) :
    inserted.foldl (fun entries entry => insert entry.1 entry.2 entries) [] =
      other.foldl (fun entries entry => insert entry.1 entry.2 entries) [] := by
  refine (sorted_foldl_insert _ sorted_nil).ext (sorted_foldl_insert _ sorted_nil) fun key => ?_
  rw [find?_foldl_insert key _ sorted_nil, find?_foldl_insert key _ sorted_nil,
    find?_perm distinct perm]

/-- Nothing is lost of entries with different keys. -/
theorem perm_foldl_insert {inserted : List (K × V)} (distinct : (inserted.map Prod.fst).Nodup) :
    (inserted.foldl (fun entries entry => insert entry.1 entry.2 entries) []).Perm inserted := by
  have sorted := sorted_foldl_insert inserted sorted_nil
  refine (List.perm_ext_iff_of_nodup (List.Nodup.of_map _ sorted.distinct)
    (List.Nodup.of_map _ distinct)).mpr fun entry => ?_
  rw [← find?_eq_some_iff sorted.distinct, ← find?_eq_some_iff distinct,
    find?_foldl_insert _ _ sorted_nil]
  rfl

end Insertions

end EasyRtmp.Lib.OrdMap
