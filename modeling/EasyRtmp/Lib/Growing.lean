import EasyRtmp.Lib.ChannelLogic
import EasyRtmp.Lib.Duplex

/-!
# Programs whose state only grows

`Grows R program state` says that every write of `program`, whatever bytes arrive,
leads from the state before it to one that `R` relates to it.  For a preorder `R`
the states of an execution then form a chain.
-/

set_option autoImplicit false

namespace EasyRtmp.Lib

open ByteCodec

variable {S T E α β : Type}

def Grows {S E α : Type} (R : S → S → Prop) : Prog S E α → S → Prop
  | .ret _, _ => True
  | .fail _, _ => True
  | .get next, state => Grows R (next state) state
  | .put written next, state => R state written ∧ Grows R next written
  | .send _ next, state => Grows R next state
  | .recv _ next, state => ∀ data, Grows R (next data) state
  | .loop body _ next, _ =>
      (∀ here now, Grows R (body here) now) ∧ ∀ value now, Grows R (next value) now

namespace Grows

variable {R : S → S → Prop}

theorem bind {program : Prog S E α} {next : α → Prog S E β} {state : S}
    (first : Grows R program state) (rest : ∀ value now, Grows R (next value) now) :
    Grows R (program >>= next) state := by
  rw [Prog.bind_eq]
  induction program generalizing state with
  | ret value => exact rest value state
  | fail error => trivial
  | get continue_ ih => exact ih state first rest
  | put written continue_ ih => exact ⟨first.1, ih first.2 rest⟩
  | send data continue_ ih => exact ih first rest
  | recv count continue_ ih => exact fun data => ih data (first data) rest
  | loop body start continue_ _ ih =>
      exact ⟨first.1, fun value now => ih value (first.2 value now) rest⟩

theorem pure {value : α} {state : S} : Grows R (pure value : Prog S E α) state := trivial

theorem modifyState {change : S → S} {state : S} (grown : R state (change state)) :
    Grows R (Prog.modifyState change : Prog S E Unit) state := ⟨grown, trivial⟩

theorem putState {written state : S} (grown : R state written) :
    Grows R (Prog.putState written : Prog S E Unit) state := ⟨grown, trivial⟩

theorem ofExcept {result : Except E α} {state : S} :
    Grows R (Prog.ofExcept result) state := by
  cases result <;> trivial

theorem sendBytes {data : Bytes} {state : S} :
    Grows R (Prog.sendBytes data : Prog S E Unit) state := trivial

theorem fail {error : E} {state : S} : Grows R (.fail error : Prog S E α) state := trivial

/-! A first operation, with what it tells the rest. -/

section First

variable {next : α → Prog S E β} {state : S}

theorem pure_bind {value : α} (rest : Grows R (next value) state) :
    Grows R (Pure.pure value >>= next) state := rest

theorem fail_bind {error : E} : Grows R (.fail error >>= next) state := trivial

theorem ofExcept_bind {result : Except E α}
    (rest : ∀ value, result = .ok value → Grows R (next value) state) :
    Grows R (Prog.ofExcept result >>= next) state := by
  cases result with
  | ok value => exact rest value rfl
  | error error => trivial

theorem getState_bind {next : S → Prog S E β} (rest : Grows R (next state) state) :
    Grows R (Prog.getState >>= next) state := rest

theorem modifyState_bind {change : S → S} {next : Unit → Prog S E β}
    (grown : R state (change state)) (rest : Grows R (next ()) (change state)) :
    Grows R (Prog.modifyState change >>= next) state := ⟨grown, rest⟩

theorem recvBytes_bind {count : Nat} {next : Bytes → Prog S E β}
    (rest : ∀ data, Grows R (next data) state) :
    Grows R (Prog.recvBytes count >>= next) state := rest

end First

theorem repeatUntil {σ : Type} {body : σ → Prog S E (σ ⊕ β)} {start : σ} {state : S}
    (passes : ∀ here now, Grows R (body here) now) :
    Grows R (Prog.repeatUntil body start) state := ⟨passes, fun _ _ => trivial⟩

/-- A program on a component, whose growth is growth of the whole. -/
theorem component {lens : Lens T S} {Q : T → T → Prop}
    (writes : ∀ part whole, R (lens.view whole) part → Q whole (lens.update part whole))
    (program : Prog S E α) :
    ∀ whole, Grows R program (lens.view whole) → Grows Q (program.zoom lens) whole := by
  induction program with
  | ret | fail => exact fun _ _ => trivial
  | get next ih => exact fun whole grows => ih _ whole grows
  | put part next ih =>
      intro whole grows
      obtain ⟨grown, rest⟩ := grows
      refine ⟨writes part whole grown, ih _ ?_⟩
      rwa [lens.view_update]
  | send data next ih => exact fun whole grows => ih whole grows
  | recv count next ih => exact fun whole grows data => ih data whole (grows data)
  | loop body start next ihBody ihNext =>
      intro whole grows
      exact ⟨fun here now => ihBody here now (grows.1 here _),
        fun value now => ihNext value now (grows.2 value _)⟩

theorem unrelated (program : Prog S E α) : ∀ state : S, Grows (fun _ _ => True) program state := by
  induction program with
  | ret | fail => exact fun _ => trivial
  | get next ih => exact fun state => ih state state
  | put written next ih => exact fun _ => ⟨trivial, ih written⟩
  | send data next ih => exact ih
  | recv count next ih => exact fun state data => ih data state
  | loop body start next ihBody ihNext => exact fun _ => ⟨ihBody, ihNext⟩

/-- A program on a component, where writing that component is growth. -/
theorem zoom {lens : Lens T S} {Q : T → T → Prop}
    (writes : ∀ part whole, Q whole (lens.update part whole)) (program : Prog S E α)
    (whole : T) : Grows Q (program.zoom lens) whole :=
  component (fun part whole _ => writes part whole) program whole (unrelated program _)

theorem step (refl : ∀ state, R state state) {config after : Config S E α}
    {available rest sent : Bytes} (grows : Grows R config.prog config.state)
    (moved : config.advance available = some (after, rest, sent)) :
    R config.state after.state ∧ Grows R after.prog after.state := by
  cases Config.advance_cases moved with
  | get state => exact ⟨refl state, grows⟩
  | put before written => exact grows
  | send state => exact ⟨refl state, grows⟩
  | recv state => exact ⟨refl state, grows _⟩
  | loop state body start next =>
      obtain ⟨passes, onward⟩ := grows
      refine ⟨refl state, (passes start state).bind fun result now => ?_⟩
      cases result with
      | inl again => exact ⟨passes, onward⟩
      | inr value => exact onward value now

/-- The states of a run form a chain. -/
theorem run (refl : ∀ state, R state state)
    (trans : ∀ {first second third}, R first second → R second third → R first third)
    {config final : Config S E α} {input output : Bytes} (runs : Runs config input output final)
    (grows : Grows R config.prog config.state) :
    R config.state final.state ∧ Grows R final.prog final.state := by
  induction runs with
  | refl => exact ⟨refl _, grows⟩
  | step moved _ ih =>
      obtain ⟨grown, growing⟩ := step refl grows moved
      obtain ⟨more, later⟩ := ih growing
      exact ⟨trans grown more, later⟩

/-- On the way from one state of a network to a later one its right side has grown. -/
theorem right {left : Type} {net after : Duplex left S E α β} (refl : ∀ state, R state state)
    (trans : ∀ {first second third}, R first second → R second third → R first third)
    (grows : Grows R net.right.prog net.right.state) (path : net.Reaches after) :
    R net.right.state after.right.state ∧ Grows R after.right.prog after.right.state := by
  induction path with
  | refl => exact ⟨refl _, grows⟩
  | tail _ moved ih =>
      obtain ⟨grown, growing⟩ := ih
      rcases moved with moved | moved
      · unfold Duplex.stepLeft at moved
        split at moved
        · cases moved
        · cases moved
          exact ⟨grown, growing⟩
      · unfold Duplex.stepRight at moved
        split at moved
        · cases moved
        · rename_i advanced
          cases moved
          obtain ⟨more, later⟩ := step refl growing advanced
          exact ⟨trans grown more, later⟩

end Grows

-- From here on a long program is not run to see what `Grows` says of it.
attribute [irreducible] Grows

end EasyRtmp.Lib
