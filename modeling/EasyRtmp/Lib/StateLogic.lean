import Mathlib.Tactic.Common

/-!
# Pre- and postconditions of programs that keep their state when they throw

`Ends program state done failed` says that `program`, started in `state`, ends in a value
and a state that satisfy `done`, or in an error and a state that satisfy `failed`.
-/

set_option autoImplicit false

namespace EasyRtmp.Lib

variable {E S α β : Type}

def Ends (program : EStateM E S α) (state : S) (done : α → S → Prop) (failed : E → S → Prop) :
    Prop :=
  match program state with
  | .ok value after => done value after
  | .error error after => failed error after

namespace Ends

variable {state : S} {done : α → S → Prop} {failed : E → S → Prop}

theorem mono {program : EStateM E S α} {done' : α → S → Prop} {failed' : E → S → Prop}
    (ends : Ends program state done failed)
    (weaker : ∀ value after, done value after → done' value after)
    (weakerFailed : ∀ error after, failed error after → failed' error after) :
    Ends program state done' failed' := by
  unfold Ends at ends ⊢
  cases result : program state with
  | ok value after =>
      rw [result] at ends
      exact weaker value after ends
  | error error after =>
      rw [result] at ends
      exact weakerFailed error after ends

theorem bind {program : EStateM E S β} {next : β → EStateM E S α}
    (ends : Ends program state (fun value after => Ends (next value) after done failed) failed) :
    Ends (program >>= next) state done failed := by
  change Ends (EStateM.bind program next) state done failed
  unfold Ends EStateM.bind at *
  cases result : program state with
  | ok value after =>
      rw [result] at ends
      exact ends
  | error error after =>
      rw [result] at ends
      exact ends

theorem pure {value : α} (holds : done value state) :
    Ends (Pure.pure value) state done failed := holds

theorem throw {error : E} (holds : failed error state) :
    Ends (MonadExcept.throw error) state done failed := holds

theorem get {done : S → S → Prop} (holds : done state state) :
    Ends MonadState.get state done failed := holds

theorem set {done : PUnit → S → Prop} {written : S} (holds : done ⟨⟩ written) :
    Ends (MonadStateOf.set written) state done failed := holds

theorem modify {done : PUnit → S → Prop} {change : S → S} (holds : done ⟨⟩ (change state)) :
    Ends (modify change) state done failed := holds

theorem modifyGet {change : S → α × S} (holds : done (change state).1 (change state).2) :
    Ends (MonadState.modifyGet change) state done failed := holds

theorem of_ok {program : EStateM E S α} {value : α} {after : S}
    (result : program state = .ok value after) (holds : done value after) :
    Ends program state done failed := by
  unfold Ends
  rwa [result]

/-- What a program that was run ended in. -/
theorem ok {program : EStateM E S α} {value : α} {after : S}
    (ends : Ends program state done failed) (result : program state = .ok value after) :
    done value after := by
  unfold Ends at ends
  rwa [result] at ends

theorem error {program : EStateM E S α} {error : E} {after : S}
    (ends : Ends program state done failed) (result : program state = .error error after) :
    failed error after := by
  unfold Ends at ends
  rwa [result] at ends

end Ends

-- From here on the rules above stand for the definition.
attribute [irreducible] Ends

end EasyRtmp.Lib
