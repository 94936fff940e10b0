import EasyRtmp.Lib.ChannelLogic

/-!
# What programs ask for

`Asks allowed program state` says that `program`, whatever bytes arrive, asks only for
numbers of bytes that `allowed` admits in the state at that moment.
-/

set_option autoImplicit false

namespace EasyRtmp.Lib

open ByteCodec

variable {S T E α β : Type}

def Asks {S E α : Type} (allowed : Nat → S → Prop) : Prog S E α → S → Prop
  | .ret _, _ => True
  | .fail _, _ => True
  | .get next, state => Asks allowed (next state) state
  | .put written next, _ => Asks allowed next written
  | .send _ next, state => Asks allowed next state
  | .recv count next, state => allowed count state ∧ ∀ data, Asks allowed (next data) state
  | .loop body _ next, _ =>
      (∀ here now, Asks allowed (body here) now) ∧ ∀ value now, Asks allowed (next value) now

namespace Asks

variable {allowed : Nat → S → Prop}

theorem bind {program : Prog S E α} {next : α → Prog S E β} {state : S}
    (first : Asks allowed program state) (rest : ∀ value now, Asks allowed (next value) now) :
    Asks allowed (program >>= next) state := by
  rw [Prog.bind_eq]
  induction program generalizing state with
  | ret value => exact rest value state
  | fail error => trivial
  | get continue_ ih => exact ih state first rest
  | put written continue_ ih => exact ih first rest
  | send data continue_ ih => exact ih first rest
  | recv count continue_ ih => exact ⟨first.1, fun data => ih data (first.2 data) rest⟩
  | loop body start continue_ _ ih =>
      exact ⟨first.1, fun value now => ih value (first.2 value now) rest⟩

theorem pure {value : α} {state : S} : Asks allowed (pure value : Prog S E α) state := trivial

theorem fail {error : E} {state : S} : Asks allowed (.fail error : Prog S E α) state := trivial

theorem modifyState {change : S → S} {state : S} :
    Asks allowed (Prog.modifyState change : Prog S E Unit) state := trivial

theorem putState {written state : S} :
    Asks allowed (Prog.putState written : Prog S E Unit) state := trivial

theorem sendBytes {data : Bytes} {state : S} :
    Asks allowed (Prog.sendBytes data : Prog S E Unit) state := trivial

theorem recvBytes {count : Nat} {state : S} (admitted : allowed count state) :
    Asks allowed (Prog.recvBytes count : Prog S E Bytes) state := ⟨admitted, fun _ => trivial⟩

theorem ofExcept {result : Except E α} {state : S} :
    Asks allowed (Prog.ofExcept result) state := by
  cases result <;> trivial

/-! A first operation that the rest has to know of. -/

theorem getState_bind {next : S → Prog S E β} {state : S} (rest : Asks allowed (next state) state) :
    Asks allowed (Prog.getState >>= next) state := rest

theorem modifyState_bind {change : S → S} {next : Unit → Prog S E β} {state : S}
    (rest : Asks allowed (next ()) (change state)) :
    Asks allowed (Prog.modifyState change >>= next) state := rest

theorem repeatUntil {σ : Type} {body : σ → Prog S E (σ ⊕ β)} {start : σ} {state : S}
    (passes : ∀ here now, Asks allowed (body here) now) :
    Asks allowed (Prog.repeatUntil body start) state := ⟨passes, fun _ _ => trivial⟩

/-- A program on a component, which admits what the whole does. -/
theorem zoom {lens : Lens T S} {onWhole : Nat → T → Prop}
    (admits : ∀ count whole, allowed count (lens.view whole) → onWhole count whole)
    (program : Prog S E α) :
    ∀ whole, Asks allowed program (lens.view whole) → Asks onWhole (program.zoom lens) whole := by
  induction program with
  | ret | fail => exact fun _ _ => trivial
  | get next ih => exact fun whole asks => ih _ whole asks
  | put part next ih =>
      intro whole asks
      refine ih (lens.update part whole) ?_
      rwa [lens.view_update]
  | send data next ih => exact fun whole asks => ih whole asks
  | recv count next ih =>
      exact fun whole asks => ⟨admits count whole asks.1, fun data => ih data whole (asks.2 data)⟩
  | loop body start next ihBody ihNext =>
      intro whole asks
      exact ⟨fun here now => ihBody here now (asks.1 here _),
        fun value now => ihNext value now (asks.2 value _)⟩

theorem step {config after : Config S E α} {available rest sent : Bytes}
    (asks : Asks allowed config.prog config.state)
    (moved : config.advance available = some (after, rest, sent)) :
    Asks allowed after.prog after.state := by
  cases Config.advance_cases moved with
  | get | put | send => exact asks
  | recv => exact asks.2 _
  | loop state body start next =>
      obtain ⟨passes, onward⟩ := asks
      refine (passes start state).bind fun result now => ?_
      cases result with
      | inl again => exact ⟨passes, onward⟩
      | inr value => exact onward value now

theorem run {config final : Config S E α} {input output : Bytes}
    (asks : Asks allowed config.prog config.state) (runs : Runs config input output final) :
    Asks allowed final.prog final.state := by
  induction runs with
  | refl => exact asks
  | step moved _ ih => exact ih (asks.step moved)

/-- What a run asks for when it comes to a receive. -/
theorem demanded {config : Config S E α} {input output : Bytes} {state : S} {count : Nat}
    {next : Bytes → Prog S E α} (asks : Asks allowed config.prog config.state)
    (runs : Runs config input output ⟨state, .recv count next⟩) : allowed count state :=
  (asks.run runs).1

end Asks

-- From here on the rules above stand for the definition.
attribute [irreducible] Asks

end EasyRtmp.Lib
