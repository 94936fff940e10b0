import Mathlib.Data.List.Perm.Basic

/-!
# Objects at positions of a list

What is counted of all objects does not depend on their order: the object at a position can
be put first.
-/

set_option autoImplicit false

namespace EasyRtmp.Lib

variable {A : Type} {objects : List A} {position target source : Nat} {object o : A}

theorem perm_found_first (found : objects[position]? = some object) :
    objects.Perm (object :: objects.eraseIdx position) := by
  obtain ⟨inside, rfl⟩ := List.getElem?_eq_some_iff.mp found
  exact (List.getElem_cons_eraseIdx_perm inside).symm

theorem perm_written_first (found : objects[position]? = some object) (after : A) :
    (objects.set position after).Perm (after :: objects.eraseIdx position) := by
  obtain ⟨inside, -⟩ := List.getElem?_eq_some_iff.mp found
  exact List.set_perm_cons_eraseIdx inside after

/-- The object at `source` is moved to `target`, and `left` stays behind.  It is all that
stays where both are the same. -/
theorem perm_moved {moved : A} (found : objects[target]? = some object)
    (taken : objects[source]? = some o) (isMoved : source ≠ target → moved = o) (left : A) :
    ((objects.set target moved).set source left).Perm (left :: objects.eraseIdx target) := by
  obtain ⟨inside, -⟩ := List.getElem?_eq_some_iff.mp found
  obtain ⟨sourceInside, isSource⟩ := List.getElem?_eq_some_iff.mp taken
  by_cases same : source = target
  · subst same
    rw [List.set_set]
    exact List.set_perm_cons_eraseIdx inside left
  · obtain rfl := isMoved same
    have stillInside : source < (objects.set target moved).length := by
      rwa [List.length_set]
    have still : (objects.set target moved)[source] = moved := by
      rw [List.getElem_set_of_ne (Ne.symm same)]
      exact isSource
    have first := List.set_perm_cons_eraseIdx inside moved
    have second := List.getElem_cons_eraseIdx_perm stillInside
    rw [still] at second
    have others := (second.trans first).cons_inv
    exact (List.set_perm_cons_eraseIdx stillInside left).trans (others.cons left)

end EasyRtmp.Lib
