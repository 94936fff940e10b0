import Mathlib.Logic.Relation

/-!
# Two parties that take their steps in any order

Where a step of the one and a step of the other commute, the order does not matter: if one
schedule brings both to rest, all do, and in the same state.
-/

set_option autoImplicit false

namespace EasyRtmp.Lib

def Interleaved {X : Type*} (one other : X → Option X) (before after : X) : Prop :=
  one before = some after ∨ other before = some after

namespace Interleaved

variable {X : Type*} {one other : X → Option X}

theorem no_step {here after : X} (oneRests : one here = none) (otherRests : other here = none) :
    ¬ Interleaved one other here after := by
  rintro (step | step)
  · rw [oneRests] at step
    cases step
  · rw [otherRests] at step
    cases step

theorem stays {here after : X} (oneRests : one here = none) (otherRests : other here = none)
    (path : Relation.ReflTransGen (Interleaved one other) here after) : after = here := by
  rcases Relation.ReflTransGen.cases_head path with same | ⟨middle, step, -⟩
  · exact same.symm
  · exact absurd step (no_step oneRests otherRests)

variable (commute : ∀ {here left right : X}, one here = some left → other here = some right →
  ∃ both, other left = some both ∧ one right = some both)

include commute

/-- Two steps are one, or there is one after each that makes up for the other. -/
theorem diamond {here left right : X} (first : Interleaved one other here left)
    (second : Interleaved one other here right) :
    left = right ∨ ∃ join, Interleaved one other left join ∧ Interleaved one other right join := by
  rcases first with first | first <;> rcases second with second | second
  · exact .inl (Option.some.inj (first.symm.trans second))
  · obtain ⟨join, fromLeft, fromRight⟩ := commute first second
    exact .inr ⟨join, .inr fromLeft, .inl fromRight⟩
  · obtain ⟨join, fromRight, fromLeft⟩ := commute second first
    exact .inr ⟨join, .inl fromLeft, .inr fromRight⟩
  · exact .inl (Option.some.inj (first.symm.trans second))

/-- When one schedule brings both to rest, no schedule can miss that state. -/
theorem completes {start final here : X}
    (schedule : Relation.ReflTransGen (Interleaved one other) start final)
    (oneRests : one final = none) (otherRests : other final = none)
    (path : Relation.ReflTransGen (Interleaved one other) start here) :
    Relation.ReflTransGen (Interleaved one other) here final := by
  have joins : ∀ here left right : X, Interleaved one other here left →
      Interleaved one other here right → ∃ join,
        Relation.ReflGen (Interleaved one other) left join ∧
          Relation.ReflTransGen (Interleaved one other) right join := by
    intro here left right first second
    rcases diamond commute first second with rfl | ⟨join, fromLeft, fromRight⟩
    · exact ⟨left, .refl, .refl⟩
    · exact ⟨join, .single fromLeft, .single fromRight⟩
  obtain ⟨join, fromFinal, fromHere⟩ := Relation.church_rosser joins schedule path
  rwa [stays oneRests otherRests fromFinal] at fromHere

theorem ends_of_step {here next : X}
    (ends : Acc (fun after before => Interleaved one other before after) next)
    (step : Interleaved one other here next) :
    Acc (fun after before => Interleaved one other before after) here := by
  induction ends generalizing here with
  | intro next later ih =>
      refine Acc.intro here fun after step' => ?_
      rcases diamond commute step step' with rfl | ⟨join, onward, onward'⟩
      · exact Acc.intro next later
      · exact ih join onward onward'

theorem ends {start final : X}
    (schedule : Relation.ReflTransGen (Interleaved one other) start final)
    (oneRests : one final = none) (otherRests : other final = none) :
    Acc (fun after before => Interleaved one other before after) start := by
  induction schedule using Relation.ReflTransGen.head_induction_on with
  | refl => exact Acc.intro final fun after step => absurd step (no_step oneRests otherRests)
  | head step _ ih => exact ends_of_step commute ih step

end Interleaved

end EasyRtmp.Lib
