import Mathlib.Tactic.Common
import EasyRtmp.Lib.ChannelLogic

/-!
# Programs that cannot tell related states apart

`Lockstep R` relates two programs that send and receive the same bytes and end
in the same way from states related by `R`, and whose writes keep `R`.  With `R`
saying that two states agree on one component and that the second state's other
component has a given value, it says at once that a program depends on the first
component alone and leaves the other alone.
-/

set_option autoImplicit false

namespace EasyRtmp.Lib

open ByteCodec

inductive Lockstep {S T E : Type} (R : S → T → Prop) :
    {α : Type} → Prog S E α → Prog T E α → Prop where
  | ret {α : Type} (value : α) : Lockstep R (.ret value) (.ret value)
  | fail {α : Type} (error : E) : Lockstep R (.fail (α := α) error) (.fail error)
  | get {α : Type} {next : S → Prog S E α} {next' : T → Prog T E α}
      (each : ∀ state state', R state state' → Lockstep R (next state) (next' state')) :
      Lockstep R (.get next) (.get next')
  | put {α : Type} {state : S} {state' : T} {next : Prog S E α} {next' : Prog T E α}
      (related : R state state') (rest : Lockstep R next next') :
      Lockstep R (.put state next) (.put state' next')
  | send {α : Type} (data : Bytes) {next : Prog S E α} {next' : Prog T E α}
      (rest : Lockstep R next next') : Lockstep R (.send data next) (.send data next')
  | recv {α : Type} (count : Nat) {next : Bytes → Prog S E α} {next' : Bytes → Prog T E α}
      (each : ∀ data, Lockstep R (next data) (next' data)) :
      Lockstep R (.recv count next) (.recv count next')
  | loop {α σ β : Type} {body : σ → Prog S E (σ ⊕ β)} {body' : σ → Prog T E (σ ⊕ β)} (start : σ)
      {next : β → Prog S E α} {next' : β → Prog T E α}
      (bodies : ∀ here, Lockstep R (body here) (body' here))
      (each : ∀ value, Lockstep R (next value) (next' value)) :
      Lockstep R (.loop body start next) (.loop body' start next')

namespace Lockstep

variable {S T E α β : Type} {R : S → T → Prop}

theorem bind {program : Prog S E α} {program' : Prog T E α} {next : α → Prog S E β}
    {next' : α → Prog T E β} (first : Lockstep R program program')
    (each : ∀ value, Lockstep R (next value) (next' value)) :
    Lockstep R (program >>= next) (program' >>= next') := by
  simp only [Prog.bind_eq]
  induction first with
  | ret value => exact each value
  | fail error => exact .fail error
  | get _ ih => exact .get fun state state' related => ih state state' related each
  | put related _ ih => exact .put related (ih each)
  | send data _ ih => exact .send data (ih each)
  | recv count _ ih => exact .recv count fun data => ih data each
  | loop start bodies _ _ ih => exact .loop start bodies fun value => ih value each

theorem ofExcept (result : Except E α) :
    Lockstep R (Prog.ofExcept result) (Prog.ofExcept result) := by
  cases result with
  | ok value => exact .ret value
  | error error => exact .fail error

theorem sendBytes (data : Bytes) :
    Lockstep R (Prog.sendBytes data : Prog S E Unit) (Prog.sendBytes data) := .send data (.ret ())

theorem recvBytes (count : Nat) :
    Lockstep R (Prog.recvBytes count : Prog S E Bytes) (Prog.recvBytes count) :=
  .recv count fun data => .ret data

theorem modifyState {change : S → S} {change' : T → T}
    (keeps : ∀ state state', R state state' → R (change state) (change' state')) :
    Lockstep R (Prog.modifyState change : Prog S E Unit) (Prog.modifyState change') :=
  .get fun state state' related => .put (keeps state state' related) (.ret ())

/-- Reading the state: what follows may use it as far as `R` ties it. -/
theorem getState {next : S → Prog S E α} {next' : T → Prog T E α}
    (each : ∀ state state', R state state' → Lockstep R (next state) (next' state')) :
    Lockstep R (Prog.getState >>= next) (Prog.getState >>= next') := .get each

theorem repeatUntil {σ : Type} {body : σ → Prog S E (σ ⊕ β)} {body' : σ → Prog T E (σ ⊕ β)}
    (start : σ) (bodies : ∀ here, Lockstep R (body here) (body' here)) :
    Lockstep R (Prog.repeatUntil body start) (Prog.repeatUntil body' start) :=
  .loop start bodies fun value => .ret value

theorem ite {condition : Prop} [Decidable condition] {yes no : Prog S E α}
    {yes' no' : Prog T E α} (whenTrue : Lockstep R yes yes') (whenFalse : Lockstep R no no') :
    Lockstep R (if condition then yes else no) (if condition then yes' else no') := by
  split
  · exact whenTrue
  · exact whenFalse

theorem step {config after : Config S E α} {config' : Config T E α}
    {available rest sent : Bytes} (lockstep : Lockstep R config.prog config'.prog)
    (related : R config.state config'.state)
    (moved : config.advance available = some (after, rest, sent)) :
    ∃ after', config'.advance available = some (after', rest, sent) ∧
      R after.state after'.state ∧ Lockstep R after.prog after'.prog := by
  obtain ⟨state', prog'⟩ := config'
  simp only at lockstep related
  cases Config.advance_cases moved with
  | get state =>
      cases lockstep with
      | get each => exact ⟨_, rfl, related, each state state' related⟩
  | put =>
      cases lockstep with
      | put written rest' => exact ⟨_, rfl, written, rest'⟩
  | send =>
      cases lockstep with
      | send data rest' => exact ⟨_, rfl, related, rest'⟩
  | recv _ _ enough =>
      cases lockstep with
      | recv count each => exact ⟨_, if_pos enough, related, each _⟩
  | loop _ body start next =>
      cases lockstep with
      | loop _ bodies each =>
          refine ⟨_, rfl, related, (bodies start).bind fun result => ?_⟩
          cases result with
          | inl again => exact .loop again bodies each
          | inr value => exact each value

theorem run {config final : Config S E α} {config' : Config T E α} {input output : Bytes}
    (runs : Runs config input output final) (lockstep : Lockstep R config.prog config'.prog)
    (related : R config.state config'.state) :
    ∃ final', Runs config' input output final' ∧ R final.state final'.state ∧
      Lockstep R final.prog final'.prog := by
  induction runs generalizing config' with
  | refl => exact ⟨config', .refl _, related, lockstep⟩
  | step moved _ ih =>
      obtain ⟨middle', moved', related', lockstep'⟩ := step lockstep related moved
      obtain ⟨final', runs', done⟩ := ih lockstep' related'
      exact ⟨final', .step moved' runs', done⟩

theorem reaches {program : Prog S E α} {program' : Prog T E α} {before : S} {before' : T}
    {final : Config S E α} {input output : Bytes} (lockstep : Lockstep R program program')
    (related : R before before') (runs : Runs ⟨before, program⟩ input output final) :
    ∃ after' rest', Runs ⟨before', program'⟩ input output ⟨after', rest'⟩ ∧
      R final.state after' ∧ Lockstep R final.prog rest' := by
  obtain ⟨final', runs', done⟩ :=
    run runs lockstep (show R before (Config.mk before' program').state from related)
  exact ⟨final'.state, final'.prog, runs', done⟩

theorem returns {program : Prog S E α} {program' : Prog T E α} {before after : S} {before' : T}
    {value : α} {input output : Bytes} (lockstep : Lockstep R program program')
    (related : R before before') (call : Returns program before input output value after) :
    ∃ after', Returns program' before' input output value after' ∧ R after after' := by
  obtain ⟨after', rest', runs, related', rest⟩ := reaches lockstep related call
  cases rest
  exact ⟨after', runs, related'⟩

/-- Programs on components, where the wholes are tied through them. -/
theorem zoom {U V : Type} {lens : Lens U S} {lens' : Lens V T} {Q : U → V → Prop}
    (parts : ∀ whole whole', Q whole whole' → R (lens.view whole) (lens'.view whole'))
    (wholes : ∀ whole whole' part part', Q whole whole' → R part part' →
      Q (lens.update part whole) (lens'.update part' whole'))
    {program : Prog S E α} {program' : Prog T E α} (lockstep : Lockstep R program program') :
    Lockstep Q (program.zoom lens) (program'.zoom lens') := by
  induction lockstep with
  | ret value => exact .ret value
  | fail error => exact .fail error
  | get _ ih => exact .get fun whole whole' tied => ih _ _ (parts whole whole' tied)
  | put related _ ih =>
      exact .get fun whole whole' tied => .put (wholes whole whole' _ _ tied related) ih
  | send data _ ih => exact .send data ih
  | recv count _ ih => exact .recv count ih
  | loop start _ _ bodies each => exact .loop start bodies each

end Lockstep

end EasyRtmp.Lib
