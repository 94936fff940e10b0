import EasyRtmp.Lib.ChannelProgram

/-!
# Pre- and postconditions of channel programs

`Post program state done failed` says that, whatever bytes arrive, `program`
started in `state` ends in a value and state satisfying `done` or in an error
and state satisfying `failed`, if it ends at all.  A loop needs an invariant.
Every step of an execution preserves `Post` (`Post.run`), so the two conditions
hold wherever the program finishes.

`zoom` runs a program on a component of a larger state, given by a `Lens`.
-/

set_option autoImplicit false

namespace EasyRtmp.Lib

open ByteCodec

variable {S E α β : Type}

def Post {S E α : Type} : Prog S E α → S → (α → S → Prop) → (E → S → Prop) → Prop
  | .ret value, state, done, _ => done value state
  | .fail error, state, _, failed => failed error state
  | .get next, state, done, failed => Post (next state) state done failed
  | .put state next, _, done, failed => Post next state done failed
  | .send _ next, state, done, failed => Post next state done failed
  | .recv count next, state, done, failed =>
      ∀ data : Bytes, data.length = count → Post (next data) state done failed
  | .loop body start next, state, done, failed =>
      ∃ invariant : _ → S → Prop, invariant start state ∧
        ∀ here now, invariant here now →
          Post (body here) now
            (fun result after =>
              match result with
              | .inl again => invariant again after
              | .inr value => Post (next value) after done failed)
            failed

namespace Post

theorem mono {program : Prog S E α} {state : S} {done done' : α → S → Prop}
    {failed failed' : E → S → Prop} (holds : Post program state done failed)
    (weaker : ∀ value after, done value after → done' value after)
    (weakerFailed : ∀ error after, failed error after → failed' error after) :
    Post program state done' failed' := by
  induction program generalizing state with
  | ret value => exact weaker value state holds
  | fail error => exact weakerFailed error state holds
  | get next ih => exact ih state holds weaker
  | put state next ih => exact ih holds weaker
  | send data next ih => exact ih holds weaker
  | recv count next ih => exact fun data exact_ => ih data (holds data exact_) weaker
  | loop body start next ihBody ihNext =>
      obtain ⟨invariant, begins, keeps⟩ := holds
      refine ⟨invariant, begins, fun here now inv => ihBody here (keeps here now inv) ?_⟩
      intro result after reached
      cases result with
      | inl again => exact reached
      | inr value => exact ihNext value reached weaker

theorem bind {program : Prog S E α} {next : α → Prog S E β} {state : S}
    {done : β → S → Prop} {failed : E → S → Prop}
    (holds : Post program state (fun value after => Post (next value) after done failed) failed) :
    Post (program.bind next) state done failed := by
  induction program generalizing state with
  | ret value => exact holds
  | fail error => exact holds
  | get continue_ ih => exact ih state holds
  | put state continue_ ih => exact ih holds
  | send data continue_ ih => exact ih holds
  | recv count continue_ ih => exact fun data exact_ => ih data (holds data exact_)
  | loop body start continue_ _ ih =>
      obtain ⟨invariant, begins, keeps⟩ := holds
      refine ⟨invariant, begins, fun here now inv => (keeps here now inv).mono ?_ ?_⟩
      · intro result after reached
        cases result with
        | inl again => exact reached
        | inr value => exact ih value reached
      · exact fun _ _ failed => failed

/-! The rules for the primitive operations. -/

theorem pure {value : α} {state : S} {done : α → S → Prop} {failed : E → S → Prop}
    (holds : done value state) : Post (Pure.pure value : Prog S E α) state done failed := holds

theorem fail {error : E} {state : S} {done : α → S → Prop} {failed : E → S → Prop}
    (holds : failed error state) : Post (.fail error) state done failed := holds

theorem getState {state : S} {done : S → S → Prop} {failed : E → S → Prop}
    (holds : done state state) : Post Prog.getState state done failed := holds

theorem putState {state written : S} {done : Unit → S → Prop} {failed : E → S → Prop}
    (holds : done () written) : Post (Prog.putState written) state done failed := holds

theorem modifyState {state : S} {change : S → S} {done : Unit → S → Prop}
    {failed : E → S → Prop} (holds : done () (change state)) :
    Post (Prog.modifyState change) state done failed := holds

theorem sendBytes {data : Bytes} {state : S} {done : Unit → S → Prop} {failed : E → S → Prop}
    (holds : done () state) : Post (Prog.sendBytes data) state done failed := holds

theorem recvBytes {count : Nat} {state : S} {done : Bytes → S → Prop} {failed : E → S → Prop}
    (holds : ∀ data : Bytes, data.length = count → done data state) :
    Post (Prog.recvBytes count) state done failed := holds

theorem ofExcept {result : Except E α} {state : S} {done : α → S → Prop} {failed : E → S → Prop}
    (whenOk : ∀ value, result = .ok value → done value state)
    (whenError : ∀ error, result = .error error → failed error state) :
    Post (Prog.ofExcept result) state done failed := by
  cases result with
  | ok value => exact whenOk value rfl
  | error error => exact whenError error rfl

theorem repeatUntil {σ : Type} {body : σ → Prog S E (σ ⊕ β)} {start : σ} {state : S}
    {done : β → S → Prop} {failed : E → S → Prop} (invariant : σ → S → Prop)
    (begins : invariant start state)
    (keeps : ∀ here now, invariant here now →
      Post (body here) now (fun result after =>
        match result with
        | .inl again => invariant again after
        | .inr value => done value after) failed) :
    Post (Prog.repeatUntil body start) state done failed := by
  refine ⟨invariant, begins, fun here now inv => (keeps here now inv).mono ?_ fun _ _ h => h⟩
  intro result after reached
  cases result with
  | inl again => exact reached
  | inr value => exact reached

theorem seq {program : Prog S E α} {next : α → Prog S E β} {state : S}
    {done : β → S → Prop} {failed : E → S → Prop}
    (holds : Post program state (fun value after => Post (next value) after done failed) failed) :
    Post (program >>= next) state done failed := bind holds

theorem step {config after : Config S E α} {available rest sent : Bytes}
    {done : α → S → Prop} {failed : E → S → Prop}
    (holds : Post config.prog config.state done failed)
    (moved : config.advance available = some (after, rest, sent)) :
    Post after.prog after.state done failed := by
  cases Config.advance_cases moved with
  | recv _ _ enough => exact holds _ (List.length_take_of_le enough)
  | get | put | send => exact holds
  | loop state body start next =>
      obtain ⟨invariant, begins, keeps⟩ := holds
      refine bind ((keeps start state begins).mono ?_ fun _ _ failed => failed)
      intro result after reached
      cases result with
      | inl again => exact ⟨invariant, reached, keeps⟩
      | inr value => exact reached

theorem run {config final : Config S E α} {input output : Bytes}
    {done : α → S → Prop} {failed : E → S → Prop}
    (holds : Post config.prog config.state done failed)
    (runs : Runs config input output final) : Post final.prog final.state done failed := by
  induction runs with
  | refl => exact holds
  | step moved _ ih => exact ih (step holds moved)

theorem returns {program : Prog S E α} {before after : S} {value : α} {input output : Bytes}
    {done : α → S → Prop} {failed : E → S → Prop} (holds : Post program before done failed)
    (call : Returns program before input output value after) : done value after :=
  run (show Post (Config.mk before program).prog _ done failed from holds) call

theorem fails {program : Prog S E α} {before after : S} {error : E} {input output : Bytes}
    {done : α → S → Prop} {failed : E → S → Prop} (holds : Post program before done failed)
    (call : Fails program before input output error after) : failed error after :=
  run (show Post (Config.mk before program).prog _ done failed from holds) call

/-- Whatever a program ends in is the end of an execution. -/
theorem strongest (program : Prog S E α) (state : S) :
    Post program state
      (fun value after => ∃ input output, Returns program state input output value after)
      (fun error after => ∃ input output, Fails program state input output error after) := by
  induction program generalizing state with
  | ret value => exact ⟨[], [], .refl _⟩
  | fail error => exact ⟨[], [], .refl _⟩
  | get next ih =>
      refine (ih state state).mono ?_ ?_
      · rintro value after ⟨input, output, run⟩
        exact ⟨input, output, Runs.get run⟩
      · rintro error after ⟨input, output, run⟩
        exact ⟨input, output, Runs.get run⟩
  | put written next ih =>
      refine (ih written).mono ?_ ?_
      · rintro value after ⟨input, output, run⟩
        exact ⟨input, output, Runs.put run⟩
      · rintro error after ⟨input, output, run⟩
        exact ⟨input, output, Runs.put run⟩
  | send data next ih =>
      refine (ih state).mono ?_ ?_
      · rintro value after ⟨input, output, run⟩
        exact ⟨input, data ++ output, Runs.send run⟩
      · rintro error after ⟨input, output, run⟩
        exact ⟨input, data ++ output, Runs.send run⟩
  | recv count next ih =>
      intro data exact_
      refine (ih data state).mono ?_ ?_
      · rintro value after ⟨input, output, run⟩
        exact ⟨data ++ input, output, Runs.recv exact_ run⟩
      · rintro error after ⟨input, output, run⟩
        exact ⟨data ++ input, output, Runs.recv exact_ run⟩
  | loop body start next ihBody ihNext =>
      refine ⟨fun here now => ∃ input output,
        Runs ⟨state, .loop body start next⟩ input output ⟨now, .loop body here next⟩,
        ⟨[], [], .refl _⟩, ?_⟩
      rintro here now ⟨input, output, reached⟩
      refine (ihBody here now).mono ?_ ?_
      · rintro result after ⟨input', output', pass⟩
        cases result with
        | inl again => exact ⟨_, _, reached.trans (Runs.loop_again pass)⟩
        | inr value =>
            refine (ihNext value after).mono ?_ ?_
            · rintro last final ⟨_, _, run⟩
              exact ⟨_, _, (reached.trans (Runs.loop_done pass)).trans run⟩
            · rintro last final ⟨_, _, run⟩
              exact ⟨_, _, (reached.trans (Runs.loop_done pass)).trans run⟩
      · rintro error after ⟨input', output', failed⟩
        exact ⟨_, _, reached.trans (Runs.loop (failed.bind _))⟩

theorem trivial (program : Prog S E α) (state : S) :
    Post program state (fun _ _ => True) (fun _ _ => True) :=
  (strongest program state).mono (fun _ _ _ => True.intro) fun _ _ _ => True.intro

/-- A fact that holds when a call returns, whatever the state it leaves. -/
theorem fact {program : Prog S E α} {next : α → Prog S E β} {state : S} {known last : Prop}
    (call : Post program state (fun _ _ => known) fun _ _ => True)
    (rest : known → ∀ value after, Post (next value) after (fun _ _ => last) fun _ _ => True) :
    Post (program >>= next) state (fun _ _ => last) fun _ _ => True :=
  seq (call.mono (fun value after holds => rest holds value after) fun _ _ _ => True.intro)

end Post

/-! ## Programs on a component of the state -/

/-- Read and write access to a component, with the laws that make it one. -/
structure Lens (T S : Type) where
  view : T → S
  update : S → T → T
  view_update : ∀ part whole, view (update part whole) = part
  update_update : ∀ part part' whole, update part (update part' whole) = update part whole
  update_view : ∀ whole, update (view whole) whole = whole

variable {T : Type}

namespace Prog

def zoom {α : Type} (lens : Lens T S) : Prog S E α → Prog T E α
  | .ret value => .ret value
  | .fail error => .fail error
  | .get next => .get fun whole => zoom lens (next (lens.view whole))
  | .put part next => .get fun whole => .put (lens.update part whole) (zoom lens next)
  | .send data next => .send data (zoom lens next)
  | .recv count next => .recv count fun data => zoom lens (next data)
  | .loop body start next =>
      .loop (fun here => zoom lens (body here)) start fun value => zoom lens (next value)

theorem zoom_bind (lens : Lens T S) (program : Prog S E α) (next : α → Prog S E β) :
    zoom lens (program.bind next) =
      (zoom lens program).bind fun value => zoom lens (next value) := by
  induction program with
  | ret => rfl
  | fail => rfl
  | get continue_ ih => simp only [bind, zoom, ih]
  | put part continue_ ih => simp only [bind, zoom, ih]
  | send data continue_ ih => simp only [bind, zoom, ih]
  | recv count continue_ ih => simp only [bind, zoom, ih]
  | loop body start continue_ _ ih => simp only [bind, zoom, ih]

end Prog

/-- A run on the component is a run on the whole that leaves the rest alone. -/
theorem Runs.zoom (lens : Lens T S) {first final : Config S E α} {input output : Bytes}
    (run : Runs first input output final) (whole : T) :
    Runs ⟨lens.update first.state whole, first.prog.zoom lens⟩ input output
      ⟨lens.update final.state whole, final.prog.zoom lens⟩ := by
  induction run with
  | refl => exact .refl _
  | @step config middle final input rest sent output moved _ ih =>
      cases Config.advance_cases moved with
      | recv _ _ enough => exact .step (if_pos enough) ih
      | get =>
          refine .get ?_
          rw [lens.view_update]
          exact ih
      | put =>
          refine .get (.put ?_)
          rw [lens.update_update]
          exact ih
      | send => exact .send ih
      | loop _ body start next =>
          have passes : (fun result => (Prog.afterPass body next result).zoom lens) =
              Prog.afterPass (fun here => (body here).zoom lens)
                fun value => (next value).zoom lens := by
            funext result
            cases result <;> rfl
          rw [Prog.zoom_bind, passes] at ih
          exact .loop ih

/-- A run at the head of a call on the component. -/
theorem Runs.inside {γ : Type} (lens : Lens T S) {before after : S} {program final : Prog S E α}
    {input output : Bytes} (run : Runs ⟨before, program⟩ input output ⟨after, final⟩) (whole : T)
    (next : α → Prog S E β) (rest : β → Prog T E γ) :
    Runs ⟨lens.update before whole, (program >>= next).zoom lens >>= rest⟩ input output
      ⟨lens.update after whole, (final >>= next).zoom lens >>= rest⟩ :=
  ((run.bindLeft next).zoom lens whole).bindLeft rest

theorem Returns.zoom (lens : Lens T S) {program : Prog S E α} {after : S} {value : α}
    {input output : Bytes} (whole : T)
    (call : Returns program (lens.view whole) input output value after) :
    Returns (program.zoom lens) whole input output value (lens.update after whole) := by
  have run := Runs.zoom lens call whole
  rwa [lens.update_view] at run

theorem Fails.zoom (lens : Lens T S) {program : Prog S E α} {after : S} {error : E}
    {input output : Bytes} (whole : T)
    (call : Fails program (lens.view whole) input output error after) :
    Fails (program.zoom lens) whole input output error (lens.update after whole) := by
  have run := Runs.zoom lens call whole
  rwa [lens.update_view] at run

theorem Prog.zoom_pass {σ : Type} (lens : Lens T S) (body : σ → Prog S E (σ ⊕ β)) (start : σ)
    (next : β → Prog S E α) :
    ((body start).bind (Prog.afterPass body next)).zoom lens =
      ((body start).zoom lens).bind (Prog.afterPass (fun here => (body here).zoom lens)
        fun value => (next value).zoom lens) := by
  rw [Prog.zoom_bind]
  congr 1
  funext result
  cases result <;> rfl

/-- What a run on the whole says of the component.  A write of the component is a read and a
write of the whole, so a run may stand between the two. -/
theorem Runs.of_zoom (lens : Lens T S) {first final : Config T E α} {input output : Bytes}
    {value : α} (run : Runs first input output final) (returned : final.prog = .ret value) :
    ∀ (program : Prog S E α) (whole : T),
      (first = ⟨whole, program.zoom lens⟩ → ∃ part,
        Returns program (lens.view whole) input output value part ∧
          final.state = lens.update part whole) ∧
      ∀ written, first = ⟨whole, .put (lens.update written whole) (program.zoom lens)⟩ → ∃ part,
        Returns program written input output value part ∧
          final.state = lens.update part whole := by
  induction run with
  | refl config =>
      intro program whole
      constructor
      · rintro rfl
        cases program with
        | ret value' =>
            cases returned
            exact ⟨lens.view whole, .refl _, (lens.update_view whole).symm⟩
        | fail | get | put | send | recv | loop => cases returned
      · rintro written rfl
        cases returned
  | step moved remaining ih =>
      intro program whole
      constructor
      · rintro rfl
        cases program with
        | ret | fail => cases moved
        | get next =>
            cases moved
            obtain ⟨part, call, after⟩ := (ih returned (next (lens.view whole)) whole).1 rfl
            exact ⟨part, .get call, after⟩
        | put written next =>
            cases moved
            obtain ⟨part, call, after⟩ := (ih returned next whole).2 written rfl
            exact ⟨part, .put call, after⟩
        | send data next =>
            cases moved
            obtain ⟨part, call, after⟩ := (ih returned next whole).1 rfl
            exact ⟨part, .send call, after⟩
        | recv count next =>
            cases Config.advance_cases moved with
            | recv _ _ enough =>
                obtain ⟨part, call, after⟩ := (ih returned (next _) whole).1 rfl
                exact ⟨part, .step (if_pos enough) call, after⟩
        | loop body start next =>
            cases moved
            obtain ⟨part, call, after⟩ :=
              (ih returned ((body start).bind (Prog.afterPass body next)) whole).1
                (by rw [Prog.zoom_pass])
            exact ⟨part, .loop call, after⟩
      · rintro written rfl
        cases moved
        obtain ⟨part, call, after⟩ := (ih returned program (lens.update written whole)).1 rfl
        rw [lens.view_update] at call
        rw [lens.update_update] at after
        exact ⟨part, call, after⟩

theorem Returns.of_zoom (lens : Lens T S) {program : Prog S E α} {whole after : T} {value : α}
    {input output : Bytes} (call : Returns (program.zoom lens) whole input output value after) :
    ∃ part, Returns program (lens.view whole) input output value part ∧
      after = lens.update part whole :=
  (Runs.of_zoom lens call rfl program whole).1 rfl

theorem Post.zoom (lens : Lens T S) {program : Prog S E α} {whole : T}
    {done : α → T → Prop} {failed : E → T → Prop}
    (holds : Post program (lens.view whole) (fun value part => done value (lens.update part whole))
      fun error part => failed error (lens.update part whole)) :
    Post (program.zoom lens) whole done failed := by
  suffices general : ∀ part, Post program part
      (fun value part => done value (lens.update part whole))
      (fun error part => failed error (lens.update part whole)) →
      Post (program.zoom lens) (lens.update part whole) done failed by
    have start := general _ holds
    rwa [lens.update_view] at start
  clear holds
  induction program with
  | ret => exact fun part holds => holds
  | fail => exact fun part holds => holds
  | get next ih =>
      intro part holds
      simp only [Prog.zoom, Post, lens.view_update]
      exact ih part part holds
  | put part next ih =>
      intro old holds
      simp only [Prog.zoom, Post, lens.update_update]
      exact ih part holds
  | send data next ih => exact fun part holds => ih part holds
  | recv count next ih => exact fun part holds data exact_ => ih data part (holds data exact_)
  | loop body start next ihBody ihNext =>
      rintro part ⟨invariant, begins, keeps⟩
      refine ⟨fun here now => ∃ p, now = lens.update p whole ∧ invariant here p,
        ⟨part, rfl, begins⟩, ?_⟩
      rintro here _ ⟨p, rfl, inv⟩
      refine ihBody here p ((keeps here p inv).mono ?_ fun _ _ reached => reached)
      intro result after reached
      cases result with
      | inl again => exact ⟨after, rfl, reached⟩
      | inr value => exact ihNext value after reached

-- From here on the rules above stand for the definition.
attribute [irreducible] Post

end EasyRtmp.Lib
