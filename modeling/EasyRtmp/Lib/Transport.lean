import Mathlib.Logic.Relation
import EasyRtmp.Lib.ChannelProgram

/-!
# Programs over a transport

A transport answers every receive and every send of a program with a call on a system
of type `K`; an exception of the call ends the program where it stands.  `RunsBy` is a
run on the ideal channel taken apart into its calls.  Such a run is a run over the
transport as far as the transport serves its calls (`Serves.carries`), be it a stream of
bytes or one that keeps the calls of the other side apart.
-/

set_option autoImplicit false

namespace EasyRtmp.Lib

open ByteCodec

variable {K N S E α β : Type}

structure Transport (K N : Type) where
  receive : Nat → K → Except N Bytes × K
  send : Bytes → K → Except N Unit × K

/-- A program over a transport, or what an exception has left of it. -/
inductive Execution (K N S E α : Type) where
  | running (config : Config S E α) (system : K)
  | thrown (exception : N) (state : S) (system : K)

namespace Transport

def advance (transport : Transport K N) :
    Execution K N S E α → Option (Execution K N S E α)
  | .thrown _ _ _ => none
  | .running ⟨_, .ret _⟩ _ => none
  | .running ⟨_, .fail _⟩ _ => none
  | .running ⟨state, .get next⟩ system => some (.running ⟨state, next state⟩ system)
  | .running ⟨_, .put state next⟩ system => some (.running ⟨state, next⟩ system)
  | .running ⟨state, .send data next⟩ system =>
      match transport.send data system with
      | (.ok (), after) => some (.running ⟨state, next⟩ after)
      | (.error exception, after) => some (.thrown exception state after)
  | .running ⟨state, .recv count next⟩ system =>
      match transport.receive count system with
      | (.ok data, after) => some (.running ⟨state, next data⟩ after)
      | (.error exception, after) => some (.thrown exception state after)
  | .running ⟨state, .loop body start next⟩ system =>
      some (.running ⟨state, (body start).bind (Prog.afterPass body next)⟩ system)

/-- Any number of steps.  There is one way to take them. -/
abbrev Carries (transport : Transport K N) :
    Execution K N S E α → Execution K N S E α → Prop :=
  Relation.ReflTransGen fun here there => transport.advance here = some there

end Transport

/-! ## The calls of a run -/

/-- A run in which each receive takes one of `inputs` and each send makes one of `outputs`. -/
inductive RunsBy {S E α : Type} : Config S E α → List Bytes → List Bytes → Config S E α → Prop where
  | refl (config : Config S E α) : RunsBy config [] [] config
  | get {state : S} {next : S → Prog S E α} {inputs outputs : List Bytes} {final : Config S E α}
      (rest : RunsBy ⟨state, next state⟩ inputs outputs final) :
      RunsBy ⟨state, .get next⟩ inputs outputs final
  | put {before state : S} {next : Prog S E α} {inputs outputs : List Bytes} {final : Config S E α}
      (rest : RunsBy ⟨state, next⟩ inputs outputs final) :
      RunsBy ⟨before, .put state next⟩ inputs outputs final
  | send {state : S} {data : Bytes} {next : Prog S E α} {inputs outputs : List Bytes}
      {final : Config S E α} (rest : RunsBy ⟨state, next⟩ inputs outputs final) :
      RunsBy ⟨state, .send data next⟩ inputs (data :: outputs) final
  | recv {state : S} {count : Nat} {next : Bytes → Prog S E α} {data : Bytes}
      {inputs outputs : List Bytes} {final : Config S E α} (exact_ : data.length = count)
      (rest : RunsBy ⟨state, next data⟩ inputs outputs final) :
      RunsBy ⟨state, .recv count next⟩ (data :: inputs) outputs final
  | loop {σ β : Type} {state : S} {body : σ → Prog S E (σ ⊕ β)} {start : σ} {next : β → Prog S E α}
      {inputs outputs : List Bytes} {final : Config S E α}
      (rest : RunsBy ⟨state, (body start).bind (Prog.afterPass body next)⟩ inputs outputs final) :
      RunsBy ⟨state, .loop body start next⟩ inputs outputs final

/-- A call that returns `value`. -/
def ReturnsBy (program : Prog S E α) (before : S) (inputs outputs : List Bytes) (value : α)
    (after : S) : Prop :=
  RunsBy ⟨before, program⟩ inputs outputs ⟨after, .ret value⟩

namespace RunsBy

theorem runs {config final : Config S E α} {inputs outputs : List Bytes}
    (run : RunsBy config inputs outputs final) :
    Runs config inputs.flatten outputs.flatten final := by
  induction run with
  | refl config => exact .refl config
  | get _ ih => exact .get ih
  | put _ ih => exact .put ih
  | send _ ih => exact .send ih
  | recv exact_ _ ih => exact .recv exact_ ih
  | loop _ ih => exact .loop ih

theorem trans {first middle final : Config S E α} {inputs inputs' outputs outputs' : List Bytes}
    (before : RunsBy first inputs outputs middle) (after : RunsBy middle inputs' outputs' final) :
    RunsBy first (inputs ++ inputs') (outputs ++ outputs') final := by
  induction before with
  | refl => exact after
  | get _ ih => exact .get (ih after)
  | put _ ih => exact .put (ih after)
  | send _ ih => exact .send (ih after)
  | recv exact_ _ ih => exact .recv exact_ (ih after)
  | loop _ ih => exact .loop (ih after)

theorem bindLeft {first final : Config S E α} {inputs outputs : List Bytes}
    (run : RunsBy first inputs outputs final) (next : α → Prog S E β) :
    RunsBy ⟨first.state, first.prog.bind next⟩ inputs outputs
      ⟨final.state, final.prog.bind next⟩ := by
  induction run with
  | refl => exact .refl _
  | get _ ih => exact .get ih
  | put _ ih => exact .put ih
  | send _ ih => exact .send ih
  | recv exact_ _ ih => exact .recv exact_ ih
  | @loop σ β state body start continue_ inputs outputs final _ ih =>
      rw [Prog.bind_assoc] at ih
      refine .loop ?_
      have same : (fun result => (Prog.afterPass body continue_ result).bind next) =
          Prog.afterPass body fun value => (continue_ value).bind next := by
        funext result
        exact Prog.afterPass_bind body continue_ next result
      rwa [same] at ih

/-- A pass of a loop that asks for another one. -/
theorem loop_again {σ : Type} {body : σ → Prog S E (σ ⊕ β)} {start again : σ}
    {next : β → Prog S E α} {before middle : S} {inputs outputs : List Bytes}
    (pass : ReturnsBy (body start) before inputs outputs (.inl again) middle) :
    RunsBy ⟨before, .loop body start next⟩ inputs outputs ⟨middle, .loop body again next⟩ :=
  .loop (pass.bindLeft (Prog.afterPass body next))

/-- The last pass of a loop. -/
theorem loop_done {σ : Type} {body : σ → Prog S E (σ ⊕ β)} {start : σ} {result : β}
    {next : β → Prog S E α} {before middle : S} {inputs outputs : List Bytes}
    (pass : ReturnsBy (body start) before inputs outputs (.inr result) middle) :
    RunsBy ⟨before, .loop body start next⟩ inputs outputs ⟨middle, next result⟩ :=
  .loop (pass.bindLeft (Prog.afterPass body next))

end RunsBy

namespace ReturnsBy

theorem returns {program : Prog S E α} {before after : S} {value : α} {inputs outputs : List Bytes}
    (call : ReturnsBy program before inputs outputs value after) :
    Returns program before inputs.flatten outputs.flatten value after := call.runs

theorem pure (value : α) (state : S) :
    ReturnsBy (.ret value : Prog S E α) state [] [] value state := .refl _

theorem getState (state : S) : ReturnsBy (Prog.getState : Prog S E S) state [] [] state state :=
  .get (.refl _)

theorem modifyState (change : S → S) (before : S) :
    ReturnsBy (Prog.modifyState change : Prog S E Unit) before [] [] () (change before) :=
  .get (.put (.refl _))

theorem sendBytes (data : Bytes) (state : S) :
    ReturnsBy (Prog.sendBytes data : Prog S E Unit) state [] [data] () state := .send (.refl _)

theorem ofExcept {result : Except E α} {value : α} (ok : result = .ok value) (state : S) :
    ReturnsBy (Prog.ofExcept result) state [] [] value state := by
  subst ok
  exact .refl _

theorem bind {program : Prog S E α} {next : α → Prog S E β} {before middle after : S} {value : α}
    {result : β} {inputs inputs' outputs outputs' : List Bytes}
    (call : ReturnsBy program before inputs outputs value middle)
    (rest : ReturnsBy (next value) middle inputs' outputs' result after) :
    ReturnsBy (program >>= next) before (inputs ++ inputs') (outputs ++ outputs') result after :=
  (call.bindLeft next).trans rest

/-- A call after which the rest is silent. -/
theorem bind_silent {program : Prog S E α} {next : α → Prog S E β} {before middle after : S}
    {value : α} {result : β} {inputs outputs : List Bytes}
    (call : ReturnsBy program before inputs outputs value middle)
    (rest : ReturnsBy (next value) middle [] [] result after) :
    ReturnsBy (program >>= next) before inputs outputs result after := by
  have both := call.bind rest
  rwa [List.append_nil, List.append_nil] at both

/-- A silent call before the rest. -/
theorem silent_bind {program : Prog S E α} {next : α → Prog S E β} {before middle after : S}
    {value : α} {result : β} {inputs outputs : List Bytes}
    (call : ReturnsBy program before [] [] value middle)
    (rest : ReturnsBy (next value) middle inputs outputs result after) :
    ReturnsBy (program >>= next) before inputs outputs result after := call.bind rest

end ReturnsBy

/-! ## Programs that make no calls -/

/-- A program that reads and writes its state and does nothing else. -/
def Quiet {S E α : Type} : Prog S E α → Prop
  | .ret _ => True
  | .fail _ => True
  | .get next => ∀ state, Quiet (next state)
  | .put _ next => Quiet next
  | .send _ _ => False
  | .recv _ _ => False
  | .loop _ _ _ => False

namespace Quiet

theorem bind {program : Prog S E α} {next : α → Prog S E β} (first : Quiet program)
    (rest : ∀ value, Quiet (next value)) : Quiet (program >>= next) := by
  rw [Prog.bind_eq]
  induction program with
  | ret value => exact rest value
  | fail error => trivial
  | get continue_ ih => exact fun state => ih state (first state) rest
  | put state continue_ ih => exact ih first rest
  | send | recv | loop => exact first.elim

theorem pure (value : α) : Quiet (pure value : Prog S E α) := trivial

theorem fail (error : E) : Quiet (.fail error : Prog S E α) := trivial

theorem getState : Quiet (Prog.getState : Prog S E S) := fun _ => trivial

theorem putState (state : S) : Quiet (Prog.putState state : Prog S E Unit) := trivial

theorem modifyState (change : S → S) : Quiet (Prog.modifyState change : Prog S E Unit) :=
  fun _ => trivial

theorem ofExcept (result : Except E α) : Quiet (Prog.ofExcept result : Prog S E α) := by
  cases result <;> trivial

theorem run {config final : Config S E α} {input output : Bytes} (quiet : Quiet config.prog)
    (run : Runs config input output final) :
    RunsBy config [] [] final ∧ input = [] ∧ output = [] := by
  induction run with
  | refl config => exact ⟨.refl config, rfl, rfl⟩
  | step moved _ ih =>
      cases Config.advance_cases moved with
      | get state =>
          obtain ⟨run, rfl, rfl⟩ := ih (quiet state)
          exact ⟨.get run, rfl, rfl⟩
      | put =>
          obtain ⟨run, rfl, rfl⟩ := ih quiet
          exact ⟨.put run, rfl, rfl⟩
      | send | recv | loop => exact quiet.elim

end Quiet

-- From here on the rules above stand for the definition.
attribute [irreducible] Quiet

/-! ## What a transport serves -/

/-- `holds system inputs written` is to say that `inputs` are the calls of the other side
that come next, and `written` those that were made so far on this one. -/
structure Transport.Serves (transport : Transport K N)
    (holds : K → List Bytes → List Bytes → Prop) (receives sends : Bytes → Prop) : Prop where
  receive : ∀ {system data inputs written}, holds system (data :: inputs) written →
    receives data → ∃ after, transport.receive data.length system = (.ok data, after) ∧
      holds after inputs written
  send : ∀ {system data inputs written}, holds system inputs written → sends data →
    ∃ after, transport.send data system = (.ok (), after) ∧
      holds after inputs (written ++ [data])

namespace Transport.Serves

variable {transport : Transport K N} {holds : K → List Bytes → List Bytes → Prop}
  {receives sends : Bytes → Prop}

/-- A run whose calls are all served is the run over the transport. -/
theorem carries (serves : transport.Serves holds receives sends) {config final : Config S E α}
    {inputs outputs : List Bytes} (run : RunsBy config inputs outputs final) :
    ∀ {system : K} {later written : List Bytes}, (∀ data ∈ inputs, receives data) →
      (∀ data ∈ outputs, sends data) → holds system (inputs ++ later) written →
      ∃ after, transport.Carries (.running config system) (.running final after) ∧
        holds after later (written ++ outputs) := by
  induction run with
  | refl config =>
      intro system later written _ _ held
      rw [List.append_nil]
      exact ⟨system, .refl, held⟩
  | get _ ih | put _ ih | loop _ ih =>
      intro system later written received sent held
      obtain ⟨after, carried, held'⟩ := ih received sent held
      exact ⟨after, .head rfl carried, held'⟩
  | send _ ih =>
      intro system later written received sent held
      obtain ⟨first, others⟩ := List.forall_mem_cons.mp sent
      obtain ⟨middle, accepted, held'⟩ := serves.send held first
      obtain ⟨after, carried, held''⟩ := ih received others held'
      rw [List.append_assoc, List.singleton_append] at held''
      exact ⟨after, .head (by simp only [advance, accepted]) carried, held''⟩
  | recv exact_ _ ih =>
      intro system later written received sent held
      subst exact_
      obtain ⟨first, others⟩ := List.forall_mem_cons.mp received
      obtain ⟨middle, answered, held'⟩ := serves.receive held first
      obtain ⟨after, carried, held''⟩ := ih others sent held'
      exact ⟨after, .head (by simp only [advance, answered]) carried, held''⟩

end Transport.Serves

end EasyRtmp.Lib
