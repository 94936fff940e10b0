import Mathlib.Algebra.BigOperators.Group.Finset.Basic
import Mathlib.Algebra.BigOperators.Group.Finset.Piecewise
import Mathlib.Algebra.Order.BigOperators.Group.Finset
import Mathlib.Data.Finset.Max
import Mathlib.Data.Multiset.Count
import Mathlib.Tactic.Common

/-!
# Objects with reference counts

The objects of a `RefStore` hold references to objects of a lower level.  An object
ceases to be with its last reference, and lets go of those that it holds.

`Counted roots store` says that the counts are right: that of an object is the number
of times it stands in `roots`, the references held from outside, and in what the objects
hold.  As long as only roots are released nothing is released twice, and without roots
nothing is left.
-/

set_option autoImplicit false

namespace EasyRtmp.Lib

/-- Objects are numbered in the order of their creation. -/
structure RefStore (K : Type) where
  next : Nat := 0
  kind : Nat → Option K := fun _ => none
  refs : Nat → Nat := fun _ => 0
  held : Nat → List Nat := fun _ => []

namespace RefStore

variable {K : Type} (level : K → Nat)

def height (store : RefStore K) (object : Nat) : Nat := (store.kind object).elim 0 level

/-- The new object is `store.next`.  It takes over the references in `held`. -/
def create (store : RefStore K) (kind : K) (held : List Nat) : RefStore K where
  next := store.next + 1
  kind := Function.update store.kind store.next (some kind)
  refs := Function.update store.refs store.next 1
  held := Function.update store.held store.next held

def retain (store : RefStore K) (object : Nat) : RefStore K :=
  { store with refs := Function.update store.refs object (store.refs object + 1) }

def retainAll (store : RefStore K) (objects : List Nat) : RefStore K := objects.foldl retain store

/-- A reference to `child` is taken over by `owner`. -/
def give (store : RefStore K) (owner child : Nat) : RefStore K :=
  { store with held := Function.update store.held owner (child :: store.held owner) }

/-- A reference that `owner` holds is taken from it. -/
def take (store : RefStore K) (owner child : Nat) : RefStore K :=
  { store with held := Function.update store.held owner ((store.held owner).erase child) }

def bury (store : RefStore K) (object : Nat) : RefStore K :=
  { store with
    refs := Function.update store.refs object 0
    held := Function.update store.held object [] }

/-- One reference less, where the objects held lie no deeper than `depth`. -/
def releaseWithin : Nat → Nat → RefStore K → Option (RefStore K)
  | 0, _, _ => none
  | depth + 1, object, store =>
      match store.refs object with
      | 0 => none
      | 1 => (store.held object).foldlM (fun now child => releaseWithin depth child now)
          (store.bury object)
      | refs + 2 => some { store with refs := Function.update store.refs object (refs + 1) }

def release (store : RefStore K) (object : Nat) : Option (RefStore K) :=
  releaseWithin (store.height level object + 1) object store

/-- The references to `object` that objects hold. -/
def references (store : RefStore K) (object : Nat) : Nat :=
  ∑ owner ∈ Finset.range store.next, (store.held owner).count object

end RefStore

/-- One thing that `owner` may do when it is handed `object`: it gets a reference of its own,
or lets go of something that it holds. -/
inductive Regroups {K : Type} (level : K → Nat) (owner object : Nat) (store : RefStore K) :
    RefStore K → Prop where
  | keep : Regroups level owner object store ((store.retain object).give owner object)
  | drop {child : Nat} {after : RefStore K} (held : child ∈ store.held owner)
      (released : (store.take owner child).release level child = some after) :
      Regroups level owner object store after

structure Counted {K : Type} (level : K → Nat) (roots : Multiset Nat) (store : RefStore K) :
    Prop where
  counts : ∀ object, store.refs object = roots.count object + store.references object
  unborn : ∀ object, store.next ≤ object → store.refs object = 0
  buried : ∀ object, store.refs object = 0 → store.held object = []
  lower : ∀ object, ∀ child ∈ store.held object,
    store.height level child < store.height level object

/-- Objects only cease to be, and those that are left hold what they held. -/
structure Shrinks {K : Type} (before after : RefStore K) : Prop where
  next : after.next = before.next
  kind : after.kind = before.kind
  refs : ∀ object, after.refs object ≤ before.refs object
  held : ∀ object, 0 < after.refs object → after.held object = before.held object

namespace Shrinks

variable {K : Type} {first second third : RefStore K}

theorem refl (store : RefStore K) : Shrinks store store :=
  ⟨rfl, rfl, fun _ => Nat.le_refl _, fun _ _ => rfl⟩

theorem trans (before : Shrinks first second) (after : Shrinks second third) :
    Shrinks first third where
  next := after.next.trans before.next
  kind := after.kind.trans before.kind
  refs object := (after.refs object).trans (before.refs object)
  held object alive :=
    (after.held object alive).trans (before.held object (alive.trans_le (after.refs object)))

theorem height (shrinks : Shrinks first second) (level : K → Nat) :
    second.height level = first.height level := by
  unfold RefStore.height
  rw [shrinks.kind]

end Shrinks

namespace Counted

variable {K : Type} {level : K → Nat} {roots : Multiset Nat} {store : RefStore K} {object : Nat}

theorem empty (level : K → Nat) : Counted level 0 ({} : RefStore K) where
  counts object := by simp [RefStore.references]
  unborn _ _ := rfl
  buried _ _ := rfl
  lower _ _ member := by cases member

theorem alive (counted : Counted level roots store) (member : object ∈ roots) :
    0 < store.refs object := by
  have listed := Multiset.count_pos.mpr member
  have counts := counted.counts object
  omega

theorem born (counted : Counted level roots store) (alive : 0 < store.refs object) :
    object < store.next := by
  by_contra later
  have unborn := counted.unborn object (Nat.le_of_not_lt later)
  omega

/-- What an object holds is there. -/
theorem held_alive (counted : Counted level roots store) {owner : Nat}
    (held : object ∈ store.held owner) : 0 < store.refs owner ∧ 0 < store.refs object := by
  have owned : 0 < store.refs owner := by
    by_contra dead
    rw [counted.buried owner (Nat.eq_zero_of_not_pos dead)] at held
    cases held
  refine ⟨owned, ?_⟩
  have one : (store.held owner).count object ≤ store.references object :=
    Finset.single_le_sum (f := fun owner => (store.held owner).count object)
      (fun _ _ => Nat.zero_le _) (Finset.mem_range.mpr (counted.born owned))
  have listed := List.count_pos_iff.mpr held
  have counts := counted.counts object
  omega

end Counted

/-! ## What the operations do to the references -/

namespace RefStore

variable {K : Type}

/-- One owner's references are exchanged for others. -/
theorem references_update (store : RefStore K) {owner : Nat} (born : owner < store.next)
    (children : List Nat) (object : Nat) :
    ({ store with held := Function.update store.held owner children } : RefStore K).references
        object + (store.held owner).count object =
      store.references object + children.count object := by
  have member := Finset.mem_range.mpr born
  unfold references
  rw [← Finset.add_sum_erase _ _ member, ← Finset.add_sum_erase _ _ member]
  have others : ∀ other ∈ (Finset.range store.next).erase owner,
      (Function.update store.held owner children other).count object =
        (store.held other).count object := by
    intro other distinct
    rw [Function.update_of_ne (Finset.ne_of_mem_erase distinct)]
  simp only [Function.update_self, Finset.sum_congr rfl others]
  omega

theorem retainAll_fields (objects : List Nat) : ∀ store : RefStore K,
    (store.retainAll objects).next = store.next ∧ (store.retainAll objects).kind = store.kind ∧
      (store.retainAll objects).held = store.held := by
  induction objects with
  | nil => exact fun _ => ⟨rfl, rfl, rfl⟩
  | cons object objects ih => exact fun store => ih (store.retain object)

theorem references_create (store : RefStore K) (kind : K) (held : List Nat) (object : Nat) :
    (store.create kind held).references object = store.references object + held.count object := by
  have others : ∀ owner ∈ Finset.range store.next,
      (Function.update store.held store.next held owner).count object =
        (store.held owner).count object := by
    intro owner member
    rw [Function.update_of_ne (Finset.mem_range.mp member).ne]
  unfold references create
  simp only
  rw [Finset.sum_range_succ, Function.update_self, Finset.sum_congr rfl others]

end RefStore

/-! ## The operations keep the counts -/

namespace Counted

variable {K : Type} {level : K → Nat} {roots : Multiset Nat} {store : RefStore K}
  {object owner : Nat}

theorem create (kind : K) {held : List Nat} (counted : Counted level (held + roots) store)
    (lower : ∀ child ∈ held, store.height level child < level kind) :
    Counted level (store.next ::ₘ roots) (store.create kind held) := by
  have unborn := counted.unborn store.next (Nat.le_refl _)
  have elder : ∀ child, 0 < store.refs child → child ≠ store.next := by
    intro child alive
    exact (counted.born alive).ne
  have heights : ∀ child, 0 < store.refs child →
      (store.create kind held).height level child = store.height level child := by
    intro child alive
    unfold RefStore.height RefStore.create
    simp only
    rw [Function.update_of_ne (elder child alive)]
  have here : (store.create kind held).height level store.next = level kind := by
    simp [RefStore.height, RefStore.create]
  refine ⟨?_, ?_, ?_, ?_⟩
  · intro object
    have counts := counted.counts object
    rw [Multiset.count_add, Multiset.coe_count] at counts
    rw [store.references_create, Multiset.count_cons]
    by_cases same : object = store.next
    · subst same
      rw [if_pos rfl]
      simp only [RefStore.create, Function.update_self]
      omega
    · rw [if_neg same]
      simp only [RefStore.create, Function.update_of_ne same]
      omega
  · intro object later
    have older : store.next + 1 ≤ object := later
    simp only [RefStore.create]
    rw [Function.update_of_ne (by omega)]
    exact counted.unborn object (by omega)
  · intro object dead
    by_cases same : object = store.next
    · subst same
      simp [RefStore.create] at dead
    · simp only [RefStore.create, Function.update_of_ne same] at dead ⊢
      exact counted.buried object dead
  · intro object child member
    by_cases same : object = store.next
    · subst same
      have inside : child ∈ held := by simpa [RefStore.create] using member
      have alive := counted.alive (Multiset.mem_add.mpr (Or.inl (Multiset.mem_coe.mpr inside)))
      rw [here, heights child alive]
      exact lower child inside
    · simp only [RefStore.create, Function.update_of_ne same] at member
      obtain ⟨owned, alive⟩ := counted.held_alive member
      rw [heights child alive, heights object owned]
      exact counted.lower object child member

theorem retain (counted : Counted level roots store) (alive : 0 < store.refs object) :
    Counted level (object ::ₘ roots) (store.retain object) := by
  have born := counted.born alive
  refine ⟨?_, ?_, ?_, counted.lower⟩
  · intro other
    have counts := counted.counts other
    rw [Multiset.count_cons]
    change Function.update store.refs object (store.refs object + 1) other =
      _ + store.references other
    by_cases same : other = object
    · subst same
      rw [Function.update_self, if_pos rfl]
      omega
    · rw [Function.update_of_ne same, if_neg same]
      omega
  · intro other later
    have distinct : other ≠ object := (born.trans_le later).ne'
    exact (Function.update_of_ne distinct ..).trans (counted.unborn other later)
  · intro other dead
    by_cases same : other = object
    · subst same
      simp [RefStore.retain] at dead
    · simp only [RefStore.retain, Function.update_of_ne same] at dead
      exact counted.buried other dead

theorem give (counted : Counted level (object ::ₘ roots) store) (alive : 0 < store.refs owner)
    (lower : store.height level object < store.height level owner) :
    Counted level roots (store.give owner object) := by
  have born := counted.born alive
  refine ⟨?_, counted.unborn, ?_, ?_⟩
  · intro other
    have counts := counted.counts other
    have exchanged := store.references_update born (object :: store.held owner) other
    rw [Multiset.count_cons] at counts
    rw [List.count_cons] at exchanged
    change store.refs other = _ + (store.give owner object).references other
    change (store.give owner object).references other + _ = _ at exchanged
    by_cases same : other = object
    · subst same
      simp only [beq_self_eq_true, if_pos] at exchanged counts
      omega
    · have different : (object == other) = false := by simpa using Ne.symm same
      simp only [different, Bool.false_eq_true, if_false, if_neg same] at exchanged counts
      omega
  · intro other dead
    have distinct : other ≠ owner := by
      rintro rfl
      exact alive.ne' dead
    exact (Function.update_of_ne distinct ..).trans (counted.buried other dead)
  · intro other child member
    change store.height level child < store.height level other
    by_cases same : other = owner
    · subst same
      simp only [RefStore.give, Function.update_self, List.mem_cons] at member
      rcases member with rfl | member
      · exact lower
      · exact counted.lower other child member
    · simp only [RefStore.give, Function.update_of_ne same] at member
      exact counted.lower other child member

theorem take (counted : Counted level roots store) (held : object ∈ store.held owner) :
    Counted level (object ::ₘ roots) (store.take owner object) := by
  have alive := (counted.held_alive held).1
  have born := counted.born alive
  have listed := List.count_pos_iff.mpr held
  refine ⟨?_, counted.unborn, ?_, ?_⟩
  · intro other
    have counts := counted.counts other
    have exchanged := store.references_update born ((store.held owner).erase object) other
    rw [Multiset.count_cons]
    rw [List.count_erase] at exchanged
    change (store.take owner object).references other + _ = _ at exchanged
    change store.refs other = _ + (store.take owner object).references other
    by_cases same : other = object
    · subst same
      simp only [beq_self_eq_true, if_pos] at exchanged ⊢
      omega
    · have different : (object == other) = false := by simpa using Ne.symm same
      simp only [different, Bool.false_eq_true, if_false, if_neg same] at exchanged ⊢
      omega
  · intro other dead
    have distinct : other ≠ owner := by
      rintro rfl
      exact alive.ne' dead
    exact (Function.update_of_ne distinct ..).trans (counted.buried other dead)
  · intro other child member
    change store.height level child < store.height level other
    by_cases same : other = owner
    · subst same
      simp only [RefStore.take, Function.update_self] at member
      exact counted.lower other child (List.mem_of_mem_erase member)
    · simp only [RefStore.take, Function.update_of_ne same] at member
      exact counted.lower other child member

theorem retainAll {objects : List Nat} : ∀ {roots : Multiset Nat} {store : RefStore K},
    Counted level roots store → (∀ object ∈ objects, 0 < store.refs object) →
      Counted level (objects + roots) (store.retainAll objects) := by
  induction objects with
  | nil =>
      intro roots store counted _
      rwa [Multiset.coe_nil, zero_add]
  | cons object objects ih =>
      intro roots store counted alive
      have grown : ∀ other, store.refs other ≤ (store.retain object).refs other := by
        intro other
        by_cases same : other = object
        · simp [RefStore.retain, same]
        · simp [RefStore.retain, same]
      have rest := ih (counted.retain (alive object List.mem_cons_self)) fun other member =>
        (alive other (List.mem_cons_of_mem _ member)).trans_le (grown other)
      rw [← Multiset.cons_coe, Multiset.cons_add, ← Multiset.add_cons]
      exact rest

/-! ## Release -/

/-- The last reference is gone, and what the object held is to be released. -/
theorem bury (counted : Counted level (object ::ₘ roots) store) (last : store.refs object = 1) :
    Counted level (store.held object + roots) (store.bury object) := by
  have born : object < store.next := counted.born (by omega)
  have notSelf : object ∉ store.held object := fun member =>
    (counted.lower object object member).false
  refine ⟨?_, ?_, ?_, ?_⟩
  · intro other
    have counts := counted.counts other
    have exchanged := store.references_update born [] other
    change (store.bury object).references other + _ = _ at exchanged
    rw [Multiset.count_cons] at counts
    rw [List.count_nil] at exchanged
    rw [Multiset.count_add, Multiset.coe_count]
    change Function.update store.refs object 0 other = _ + (store.bury object).references other
    by_cases same : other = object
    · subst same
      rw [if_pos rfl] at counts
      rw [List.count_eq_zero_of_not_mem notSelf] at exchanged ⊢
      rw [Function.update_self]
      omega
    · rw [if_neg same] at counts
      rw [Function.update_of_ne same]
      omega
  · intro other later
    have distinct : other ≠ object := (born.trans_le later).ne'
    exact (Function.update_of_ne distinct ..).trans (counted.unborn other later)
  · intro other dead
    by_cases same : other = object
    · subst same
      exact Function.update_self ..
    · simp only [RefStore.bury, Function.update_of_ne same] at dead ⊢
      exact counted.buried other dead
  · intro other child member
    by_cases same : other = object
    · subst same
      simp [RefStore.bury] at member
    · simp only [RefStore.bury, Function.update_of_ne same] at member
      exact counted.lower other child member

theorem bury_shrinks (store : RefStore K) (object : Nat) : Shrinks store (store.bury object) := by
  refine ⟨rfl, rfl, ?_, ?_⟩
  · intro other
    by_cases same : other = object
    · simp [RefStore.bury, same]
    · simp [RefStore.bury, same]
  · intro other alive
    by_cases same : other = object
    · simp [RefStore.bury, same] at alive
    · exact Function.update_of_ne same ..

/-- An object that has other references left. -/
theorem release_shared {refs : Nat} (counted : Counted level (object ::ₘ roots) store)
    (shared : store.refs object = refs + 2) :
    Counted level roots { store with refs := Function.update store.refs object (refs + 1) } ∧
      Shrinks store { store with refs := Function.update store.refs object (refs + 1) } := by
  have born : object < store.next := counted.born (by omega)
  refine ⟨⟨?_, ?_, ?_, counted.lower⟩, ⟨rfl, rfl, ?_, fun _ _ => rfl⟩⟩
  · intro other
    have counts := counted.counts other
    rw [Multiset.count_cons] at counts
    change Function.update store.refs object (refs + 1) other = _ + store.references other
    by_cases same : other = object
    · subst same
      rw [if_pos rfl] at counts
      rw [Function.update_self]
      omega
    · rw [if_neg same] at counts
      rw [Function.update_of_ne same]
      omega
  · intro other later
    have distinct : other ≠ object := (born.trans_le later).ne'
    exact (Function.update_of_ne distinct ..).trans (counted.unborn other later)
  · intro other dead
    by_cases same : other = object
    · subst same
      simp at dead
    · simp only [Function.update_of_ne same] at dead
      exact counted.buried other dead
  · intro other
    by_cases same : other = object
    · subst same
      simp only [Function.update_self]
      omega
    · simp only [Function.update_of_ne same]
      exact Nat.le_refl _

theorem releaseWithin (depth : Nat) : ∀ {object : Nat} {roots : Multiset Nat} {store : RefStore K},
    Counted level (object ::ₘ roots) store → store.height level object < depth →
      ∃ after, RefStore.releaseWithin depth object store = some after ∧
        Counted level roots after ∧ Shrinks store after := by
  induction depth with
  | zero => exact fun _ deep => absurd deep (Nat.not_lt_zero _)
  | succ depth ih =>
      intro object roots store counted deep
      -- what was held is released one after the other
      have children : ∀ (held : List Nat) {roots : Multiset Nat} {now : RefStore K},
          Counted level (held + roots) now → (∀ child ∈ held, now.height level child < depth) →
            ∃ after, held.foldlM (fun now child => RefStore.releaseWithin depth child now) now =
                some after ∧ Counted level roots after ∧ Shrinks now after := by
        intro held
        induction held with
        | nil =>
            intro roots now counted _
            rw [Multiset.coe_nil, zero_add] at counted
            exact ⟨now, rfl, counted, .refl now⟩
        | cons child held ihHeld =>
            intro roots now counted heights
            rw [← Multiset.cons_coe, Multiset.cons_add] at counted
            obtain ⟨middle, released, counted', shrinks⟩ :=
              ih counted (heights child List.mem_cons_self)
            obtain ⟨after, rest, counted'', shrinks'⟩ := ihHeld counted' fun other member => by
              rw [shrinks.height level]
              exact heights other (List.mem_cons_of_mem _ member)
            refine ⟨after, ?_, counted'', shrinks.trans shrinks'⟩
            rw [List.foldlM_cons, released]
            exact rest
      have alive := counted.alive (Multiset.mem_cons_self object roots)
      match found : store.refs object with
      | 0 => omega
      | 1 =>
          have buried := bury_shrinks store object
          obtain ⟨after, released, counted', shrinks⟩ :=
            children (store.held object) (counted.bury found) fun child member => by
              have lower := counted.lower object child member
              rw [buried.height level]
              omega
          refine ⟨after, ?_, counted', buried.trans shrinks⟩
          rw [RefStore.releaseWithin, found]
          exact released
      | refs + 2 =>
          obtain ⟨counted', shrinks⟩ := counted.release_shared found
          refine ⟨_, ?_, counted', shrinks⟩
          rw [RefStore.releaseWithin, found]

/-- A reference held from outside can be released. -/
theorem release (counted : Counted level (object ::ₘ roots) store) :
    ∃ after, store.release level object = some after ∧ Counted level roots after ∧
      Shrinks store after := counted.releaseWithin _ (Nat.lt_succ_self _)

/-- Without references from outside nothing is left. -/
theorem nothing_left (counted : Counted level 0 store) (object : Nat) : store.refs object = 0 := by
  by_contra alive
  -- of the objects that are left, one of the highest is held by none
  have members : ((Finset.range store.next).filter fun object => 0 < store.refs object).Nonempty :=
    ⟨object, Finset.mem_filter.mpr ⟨Finset.mem_range.mpr (counted.born (Nat.pos_of_ne_zero alive)),
      Nat.pos_of_ne_zero alive⟩⟩
  obtain ⟨top, member, highest⟩ := Finset.exists_max_image _ (store.height level) members
  have here := (Finset.mem_filter.mp member).2
  have counts := counted.counts top
  rw [Multiset.count_zero, zero_add] at counts
  obtain ⟨owner, born, listed⟩ := Finset.exists_ne_zero_of_sum_ne_zero (counts ▸ here.ne')
  have held := List.count_pos_iff.mp (Nat.pos_of_ne_zero listed)
  have owned := (counted.held_alive held).1
  have below := highest owner (Finset.mem_filter.mpr ⟨born, owned⟩)
  have above := counted.lower owner top held
  omega

end Counted

end EasyRtmp.Lib
