import EasyRtmp.Lib.ChannelLogic

/-!
# How a computation ends

A computation ends in a value, in an exception that a handler may catch, or in a
fault, which none may.  Outcomes compose as the computations do, so where the
outcome of the parts does not depend on the state that of the whole does not.
-/

set_option autoImplicit false

namespace EasyRtmp.Lib

open ByteCodec

inductive Outcome where
  | done | thrown | fault
  deriving DecidableEq, Repr

namespace Outcome

def andThen : Outcome → Outcome → Outcome
  | .done, next => next
  | .thrown, _ => .thrown
  | .fault, _ => .fault

/-- What a handler makes of an outcome. -/
def caught : Outcome → Outcome → Outcome
  | .done, _ => .done
  | .thrown, handler => handler
  | .fault, _ => .fault

section Algebra
variable {first next : Outcome}

@[simp] theorem done_andThen : Outcome.done.andThen next = next := rfl

@[simp] theorem andThen_done : first.andThen .done = first := by
  cases first <;> rfl

theorem andThen_ne_fault :
    first.andThen next ≠ .fault ↔ first ≠ .fault ∧ (first = .done → next ≠ .fault) := by
  cases first <;> simp [andThen]

theorem caught_done_ne_fault : first.caught .done ≠ .fault ↔ first ≠ .fault := by
  cases first <;> simp [caught]

theorem caught_done_ne_thrown : first.caught .done ≠ .thrown := by
  cases first <;> simp [caught]

theorem caught_done_eq_done : first.caught .done = .done ↔ first ≠ .fault := by
  cases first <;> simp [caught]

end Algebra

/-! ## Results -/

variable {S E α β : Type} (fault : E → Prop) [DecidablePred fault]

def of : Except E α → Outcome
  | .ok _ => .done
  | .error error => if fault error then .fault else .thrown

variable {fault}

theorem of_ok {result : Except E α} {value : α} (ok : result = .ok value) :
    of fault result = .done := by
  rw [ok]
  rfl

theorem of_eq_done {result : Except E α} :
    of fault result = .done ↔ ∃ value, result = .ok value := by
  cases result with
  | ok value => simp [of]
  | error error =>
      by_cases isFault : fault error
      · simp [of, isFault]
      · simp [of, isFault]

theorem of_ne_fault {result : Except E α} :
    of fault result ≠ .fault ↔ ∀ error, result = .error error → ¬ fault error := by
  cases result with
  | ok value => simp [of]
  | error error =>
      by_cases isFault : fault error
      · simp [of, isFault]
      · simp [of, isFault]

theorem of_bind_ne_fault {result : Except E α} {next : α → Except E β} :
    of fault (result >>= next) ≠ .fault ↔
      of fault result ≠ .fault ∧ ∀ value, result = .ok value → of fault (next value) ≠ .fault := by
  cases result with
  | ok value =>
      show of fault (next value) ≠ .fault ↔ _
      simp [of]
  | error error =>
      show of fault (.error error : Except E β) ≠ .fault ↔ _
      simp [of]

/-! ## Computations with a state -/

variable (fault)

/-- The program ends so whatever the state. -/
def EndsIn (program : ExceptT E (StateM S) α) (outcome : Outcome) : Prop :=
  ∀ state, of fault (program.run.run state).1 = outcome

variable {fault} {program : ExceptT E (StateM S) α} {first later : Outcome}

namespace EndsIn

theorem pure (value : α) : EndsIn (S := S) fault (Pure.pure value) .done := fun _ => rfl

theorem modify (change : S → S) :
    EndsIn fault (MonadState.modifyGet fun state => ((), change state) : ExceptT E (StateM S) Unit)
      .done := fun _ => rfl

theorem lift (result : Except E α) :
    EndsIn fault (liftM result : ExceptT E (StateM S) α) (of fault result) := by
  intro state
  cases result <;> rfl

theorem bind {next : α → ExceptT E (StateM S) β} (head : EndsIn fault program first)
    (rest : ∀ value, EndsIn fault (next value) later) :
    EndsIn fault (program >>= next) (first.andThen later) := by
  intro state
  have ended := head state
  rw [ExceptT.run_bind, StateT.run_bind]
  generalize program.run.run state = reached at ended
  obtain ⟨outcome, after⟩ := reached
  subst ended
  cases outcome with
  | ok value => exact rest value after
  | error error =>
      show of fault (.error error : Except E β) =
        (of fault (.error error : Except E α)).andThen later
      by_cases isFault : fault error
      · simp [of, isFault, andThen]
      · simp [of, isFault, andThen]

/-- A handler for all exceptions that lets faults through. -/
theorem guarded {body handler : ExceptT E (StateM S) α} (head : EndsIn fault body first)
    (rest : EndsIn fault handler later) :
    EndsIn fault (tryCatch body fun error => if fault error then throw error else handler)
      (first.caught later) := by
  intro state
  have ended := head state
  rw [ExceptT.run_tryCatch, StateT.run_bind]
  generalize body.run.run state = reached at ended
  obtain ⟨outcome, after⟩ := reached
  subst ended
  cases outcome with
  | ok value => rfl
  | error error =>
      show of fault (((if fault error then throw error else handler :
        ExceptT E (StateM S) α)).run.run after).1 =
          (of fault (.error error : Except E α)).caught later
      by_cases isFault : fault error
      · rw [if_pos isFault, of, if_pos isFault]
        exact if_pos isFault
      · rw [if_neg isFault, of, if_neg isFault]
        exact rest after

end EndsIn

end Outcome

/-! ## Programs that need no input -/

section Programs
variable {S E α β : Type} (fault : E → Prop)

/-- The program ends on its own, and not in a fault. -/
def Survives (program : Prog S E α) (state : S) : Prop :=
  ∃ output after, (∃ value, Returns program state [] output value after) ∨
    ∃ error, Fails program state [] output error after ∧ ¬ fault error

variable {fault} {program : Prog S E α} {state : S}

theorem Survives.no_fault (survives : Survives fault program state) {input output : Bytes}
    {error : E} {after : S} (failed : Fails program state input output error after) :
    ¬ fault error := by
  have stream : ([] : Bytes) ++ input = input ++ [] := (List.append_nil input).symm
  obtain ⟨sent, last, ending⟩ := survives
  rcases ending with ⟨value, call⟩ | ⟨other, failed', thrown⟩
  · obtain ⟨same, -, -⟩ := Runs.unique call failed stream (Returns.finished _ _)
      (Fails.finished _ _)
    exact nomatch congrArg Config.prog same
  · obtain ⟨same, -, -⟩ := Runs.unique failed' failed stream (Fails.finished _ _)
      (Fails.finished _ _)
    obtain rfl : other = error := by
      injection congrArg Config.prog same
    exact thrown

/-- The first steps make no difference. -/
theorem survives_after {middle : S} {rest : Prog S E α} {output : Bytes}
    (run : Runs ⟨state, program⟩ [] output ⟨middle, rest⟩) :
    Survives fault program state ↔ Survives fault rest middle := by
  have onward : ∀ {final : Config S E α} {sent : Bytes}, final.Finished →
      Runs ⟨state, program⟩ [] sent final → ∃ later, Runs ⟨middle, rest⟩ [] later final := by
    intro final sent finished whole
    rcases run.comparable whole (Eq.refl ([] ++ [])) with ⟨extra, later, tail, none, -⟩ |
      ⟨extra, later, tail, none, -⟩
    · obtain rfl : [] = extra := none
      exact ⟨later, tail⟩
    · obtain ⟨rfl, -, -⟩ := Runs.of_finished finished tail
      exact ⟨[], .refl _⟩
  constructor
  · intro survives
    obtain ⟨sent, last, ending⟩ := survives
    rcases ending with ⟨value, call⟩ | ⟨error, failed, thrown⟩
    · obtain ⟨later, tail⟩ := onward (Returns.finished _ _) call
      exact ⟨later, last, Or.inl ⟨value, tail⟩⟩
    · obtain ⟨later, tail⟩ := onward (Fails.finished _ _) failed
      exact ⟨later, last, Or.inr ⟨error, tail, thrown⟩⟩
  · intro survives
    obtain ⟨sent, last, ending⟩ := survives
    rcases ending with ⟨value, call⟩ | ⟨error, failed, thrown⟩
    · exact ⟨output ++ sent, last, Or.inl ⟨value, run.trans call⟩⟩
    · exact ⟨output ++ sent, last, Or.inr ⟨error, run.trans failed, thrown⟩⟩

theorem survives_getState {next : S → Prog S E α} :
    Survives fault (Prog.getState >>= next) state ↔ Survives fault (next state) state :=
  survives_after ((Returns.getState state).before next)

theorem survives_putState {written : S} {next : Unit → Prog S E α} :
    Survives fault (Prog.putState written >>= next) state ↔ Survives fault (next ()) written :=
  survives_after ((Returns.putState state written).before next)

theorem survives_ofExcept [DecidablePred fault] {result : Except E β} {next : β → Prog S E α} :
    Survives fault (Prog.ofExcept result >>= next) state ↔
      Outcome.of fault result ≠ .fault ∧
        ∀ value, result = .ok value → Survives fault (next value) state := by
  cases result with
  | ok value =>
      have start : Runs ⟨state, Prog.ofExcept (.ok value) >>= next⟩ [] [] ⟨state, next value⟩ :=
        (Returns.ofExcept rfl state).before next
      rw [survives_after start]
      simp [Outcome.of]
  | error error =>
      have failed : Fails (Prog.ofExcept (.error error) >>= next) state [] [] error state :=
        (Fails.ofExcept rfl state).bind next
      rw [Outcome.of_ne_fault]
      constructor
      · intro survives
        exact ⟨fun other same => Except.error.inj same ▸ survives.no_fault failed, by simp⟩
      · intro conditions
        exact ⟨[], state, Or.inr ⟨error, failed, conditions.1 error rfl⟩⟩

/-- The same where the value makes no difference to the rest. -/
theorem survives_ofExcept_const [DecidablePred fault] {result : Except E β}
    {next : β → Prog S E α} {rest : Prop}
    (same : ∀ value, Survives fault (next value) state ↔ rest) :
    Survives fault (Prog.ofExcept result >>= next) state ↔
      Outcome.of fault result ≠ .fault ∧ (Outcome.of fault result = .done → rest) := by
  rw [survives_ofExcept, Outcome.of_eq_done]
  simp only [same, forall_exists_index]

theorem survives_result [DecidablePred fault] {result : Except E α} :
    Survives fault (Prog.ofExcept result) state ↔ Outcome.of fault result ≠ .fault := by
  cases result with
  | ok value =>
      have call : Returns (Prog.ofExcept (.ok value) : Prog S E α) state [] [] value state :=
        Returns.ofExcept rfl state
      constructor
      · intro _
        simp [Outcome.of]
      · intro _
        exact ⟨[], state, Or.inl ⟨value, call⟩⟩
  | error error =>
      have failed : Fails (Prog.ofExcept (.error error) : Prog S E α) state [] [] error state :=
        Fails.ofExcept rfl state
      rw [Outcome.of_ne_fault]
      constructor
      · intro survives other same
        exact Except.error.inj same ▸ survives.no_fault failed
      · intro thrown
        exact ⟨[], state, Or.inr ⟨error, failed, thrown error rfl⟩⟩

/-- A program that has no end does not survive. -/
theorem not_survives (endless : Post program state (fun _ _ => False) fun _ _ => False) :
    ¬ Survives fault program state := by
  intro survives
  obtain ⟨output, after, ending⟩ := survives
  rcases ending with ⟨value, call⟩ | ⟨error, failed, -⟩
  · exact endless.returns call
  · exact endless.fails failed

end Programs

end EasyRtmp.Lib
