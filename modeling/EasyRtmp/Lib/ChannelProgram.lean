import Mathlib.Tactic.Common
import EasyRtmp.Lib.ByteCodec

/-!
# Sequential programs over a byte channel

`Prog S E α` is a program that reads and writes a state of type `S`, sends and
receives bytes on a reliable channel, and ends with a value or with an error of
type `E`.  The state is not rolled back by an error.  Loops are a constructor
of their own, so that an unbounded loop needs no fuel: a loop body answers
`Sum.inl` with the next loop state or `Sum.inr` with the loop's result.

`advance` is one step of a program on the bytes that are available to it,
`Runs` any number of steps that consume exactly the input named.
-/

set_option autoImplicit false

namespace EasyRtmp.Lib

open ByteCodec

inductive Prog (S E : Type) : Type → Type 1 where
  | ret {α : Type} (value : α) : Prog S E α
  | fail {α : Type} (error : E) : Prog S E α
  | get {α : Type} (next : S → Prog S E α) : Prog S E α
  | put {α : Type} (state : S) (next : Prog S E α) : Prog S E α
  | send {α : Type} (data : Bytes) (next : Prog S E α) : Prog S E α
  | recv {α : Type} (count : Nat) (next : Bytes → Prog S E α) : Prog S E α
  | loop {α σ β : Type} (body : σ → Prog S E (σ ⊕ β)) (start : σ) (next : β → Prog S E α) :
      Prog S E α

namespace Prog

variable {S E α β γ : Type}

def bind {α β : Type} : Prog S E α → (α → Prog S E β) → Prog S E β
  | .ret value, after => after value
  | .fail error, _ => .fail error
  | .get next, after => .get fun state => bind (next state) after
  | .put state next, after => .put state (bind next after)
  | .send data next, after => .send data (bind next after)
  | .recv count next, after => .recv count fun data => bind (next data) after
  | .loop body start next, after => .loop body start fun result => bind (next result) after

instance : Monad (Prog S E) where
  pure := .ret
  bind := bind

theorem bind_eq (program : Prog S E α) (after : α → Prog S E β) :
    program >>= after = program.bind after := rfl

theorem recv_bind (count : Nat) (next : Bytes → Prog S E α) (after : α → Prog S E β) :
    (Prog.recv count next >>= after) = .recv count fun data => next data >>= after := rfl

theorem bind_ret (program : Prog S E α) : program.bind .ret = program := by
  induction program with
  | ret => rfl
  | fail => rfl
  | get next ih => simp only [bind, ih]
  | put state next ih => simp only [bind, ih]
  | send data next ih => simp only [bind, ih]
  | recv count next ih => simp only [bind, ih]
  | loop body start next _ ih => simp only [bind, ih]

theorem bind_assoc (program : Prog S E α) (after : α → Prog S E β) (last : β → Prog S E γ) :
    (program.bind after).bind last = program.bind fun value => (after value).bind last := by
  induction program with
  | ret => rfl
  | fail => rfl
  | get next ih => simp only [bind, ih]
  | put state next ih => simp only [bind, ih]
  | send data next ih => simp only [bind, ih]
  | recv count next ih => simp only [bind, ih]
  | loop body start next _ ih => simp only [bind, ih]

instance : LawfulMonad (Prog S E) :=
  LawfulMonad.mk' (Prog S E) bind_ret (fun _ _ => rfl) bind_assoc

/-! ## The primitive operations -/

def getState : Prog S E S := .get .ret

def putState (state : S) : Prog S E Unit := .put state (.ret ())

def modifyState (change : S → S) : Prog S E Unit := .get fun state => .put (change state) (.ret ())

def sendBytes (data : Bytes) : Prog S E Unit := .send data (.ret ())

def recvBytes (count : Nat) : Prog S E Bytes := .recv count .ret

def ofExcept : Except E α → Prog S E α
  | .ok value => .ret value
  | .error error => .fail error

theorem ofExcept_bind (result : Except E α) (next : α → Except E β) :
    (ofExcept (result >>= next) : Prog S E β) =
      ofExcept result >>= fun value => ofExcept (next value) := by
  cases result <;> rfl

def repeatUntil {σ : Type} (body : σ → Prog S E (σ ⊕ β)) (start : σ) : Prog S E β :=
  .loop body start .ret

/-- What follows one pass of a loop body. -/
def afterPass {σ : Type} (body : σ → Prog S E (σ ⊕ β)) (next : β → Prog S E α) :
    σ ⊕ β → Prog S E α
  | .inl state => .loop body state next
  | .inr result => next result

theorem afterPass_bind {σ : Type} (body : σ → Prog S E (σ ⊕ β)) (next : β → Prog S E α)
    (after : α → Prog S E γ) (result : σ ⊕ β) :
    (afterPass body next result).bind after =
      afterPass body (fun value => (next value).bind after) result := by
  cases result <;> rfl

end Prog

/-- Where an exception can strike: an error, or a send that the channel refuses. -/
def Prog.MayThrow {S E α : Type} : Prog S E α → Prop
  | .send _ _ => True
  | .fail _ => True
  | _ => False

theorem Prog.mayThrow_bind {S E α β : Type} {program : Prog S E α} {next : α → Prog S E β}
    (exposed : (program.bind next).MayThrow) :
    program.MayThrow ∨ ∃ value, program = .ret value := by
  cases program with
  | ret value => exact Or.inr ⟨value, rfl⟩
  | fail | send => exact Or.inl trivial
  | get | put | recv | loop => exact exposed.elim

/-! ## Execution -/

structure Config (S E α : Type) where
  state : S
  prog : Prog S E α

namespace Config

variable {S E α β : Type}

/-- One step on the available bytes: the next configuration, the bytes left and
the bytes sent.  A finished program and a receive that lacks bytes have none. -/
def advance : Config S E α → Bytes → Option (Config S E α × Bytes × Bytes)
  | ⟨_, .ret _⟩, _ => none
  | ⟨_, .fail _⟩, _ => none
  | ⟨state, .get next⟩, available => some (⟨state, next state⟩, available, [])
  | ⟨_, .put state next⟩, available => some (⟨state, next⟩, available, [])
  | ⟨state, .send data next⟩, available => some (⟨state, next⟩, available, data)
  | ⟨state, .recv count next⟩, available =>
      if count ≤ available.length then
        some (⟨state, next (available.take count)⟩, available.drop count, [])
      else none
  | ⟨state, .loop body start next⟩, available =>
      some (⟨state, (body start).bind (Prog.afterPass body next)⟩, available, [])

/-- The number of bytes the next step takes. -/
def demand : Config S E α → Nat
  | ⟨_, .recv count _⟩ => count
  | _ => 0

def Finished (config : Config S E α) : Prop :=
  (∃ value, config.prog = .ret value) ∨ ∃ error, config.prog = .fail error

theorem advance_finished {config : Config S E α} (finished : config.Finished)
    (available : Bytes) : config.advance available = none := by
  obtain ⟨state, prog⟩ := config
  rcases finished with ⟨value, same⟩ | ⟨error, same⟩ <;> simp only at same <;> subst same <;> rfl

/-- What one step can be. -/
inductive Advances : Config S E α → Bytes → Config S E α → Bytes → Bytes → Prop where
  | get (state : S) (next : S → Prog S E α) (available : Bytes) :
      Advances ⟨state, .get next⟩ available ⟨state, next state⟩ available []
  | put (before state : S) (next : Prog S E α) (available : Bytes) :
      Advances ⟨before, .put state next⟩ available ⟨state, next⟩ available []
  | send (state : S) (data : Bytes) (next : Prog S E α) (available : Bytes) :
      Advances ⟨state, .send data next⟩ available ⟨state, next⟩ available data
  | recv (state : S) {count : Nat} (next : Bytes → Prog S E α) {available : Bytes}
      (enough : count ≤ available.length) :
      Advances ⟨state, .recv count next⟩ available ⟨state, next (available.take count)⟩
        (available.drop count) []
  | loop {σ β : Type} (state : S) (body : σ → Prog S E (σ ⊕ β)) (start : σ)
      (next : β → Prog S E α) (available : Bytes) :
      Advances ⟨state, .loop body start next⟩ available
        ⟨state, (body start).bind (Prog.afterPass body next)⟩ available []

theorem advance_cases {config after : Config S E α} {available rest sent : Bytes}
    (moved : config.advance available = some (after, rest, sent)) :
    Advances config available after rest sent := by
  obtain ⟨state, prog⟩ := config
  cases prog with
  | ret | fail => simp [advance] at moved
  | recv count next =>
      simp only [advance, Option.ite_none_right_eq_some, Option.some.injEq, Prod.mk.injEq] at moved
      obtain ⟨enough, rfl, rfl, rfl⟩ := moved
      exact .recv state next enough
  | get | put | send | loop =>
      simp only [advance, Option.some.injEq, Prod.mk.injEq] at moved
      obtain ⟨rfl, rfl, rfl⟩ := moved
      constructor

theorem advance_consumes {config after : Config S E α} {available rest sent : Bytes}
    (moved : config.advance available = some (after, rest, sent)) :
    config.demand ≤ available.length ∧ rest = available.drop config.demand := by
  cases advance_cases moved with
  | recv _ _ enough => exact ⟨enough, rfl⟩
  | get | put | send | loop => exact ⟨Nat.zero_le _, rfl⟩

/-- More bytes behind the available ones stay behind the bytes left. -/
theorem advance_append {config after : Config S E α} {available rest sent : Bytes}
    (moved : config.advance available = some (after, rest, sent)) (more : Bytes) :
    config.advance (available ++ more) = some (after, rest ++ more, sent) := by
  cases advance_cases moved with
  | @recv _ count _ _ enough =>
      have longer : count ≤ (available ++ more).length := by
        rw [List.length_append]
        omega
      simp only [advance, if_pos longer, List.take_append_of_le_length enough,
        List.drop_append_of_le_length enough]
  | get | put | send | loop => rfl

/-- A step needs no more than the bytes it takes. -/
theorem advance_exact {config after : Config S E α} {available rest sent : Bytes}
    (moved : config.advance available = some (after, rest, sent)) :
    config.advance (available.take config.demand) = some (after, [], sent) := by
  cases advance_cases moved with
  | @recv _ count _ _ enough =>
      have taken : (available.take count).length = count := List.length_take_of_le enough
      simp only [demand, advance, taken, Nat.le_refl, if_true, List.take_take, Nat.min_self,
        List.drop_of_length_le taken.le]
  | get | put | send | loop => rfl

theorem advance_bind {state : S} {program : Prog S E α} {after : Config S E α}
    {available rest sent : Bytes}
    (moved : advance ⟨state, program⟩ available = some (after, rest, sent))
    (next : α → Prog S E β) :
    advance ⟨state, program.bind next⟩ available =
      some (⟨after.state, after.prog.bind next⟩, rest, sent) := by
  cases advance_cases moved with
  | recv _ _ enough => simp only [Prog.bind, advance, if_pos enough]
  | get | put | send => rfl
  | loop _ body start continue_ =>
      simp only [Prog.bind, advance, Prog.bind_assoc]
      congr 4
      funext result
      exact (Prog.afterPass_bind body continue_ next result).symm

/-- A step of a program that something follows is a step of the program, unless it
has returned. -/
theorem advance_bind_inv {state : S} {program : Prog S E α} {next : α → Prog S E β}
    {after : Config S E β} {available rest sent : Bytes}
    (moved : advance ⟨state, program.bind next⟩ available = some (after, rest, sent)) :
    (∃ value, program = .ret value) ∨ ∃ middle : Config S E α,
      advance ⟨state, program⟩ available = some (middle, rest, sent) ∧
        after = ⟨middle.state, middle.prog.bind next⟩ := by
  cases program with
  | ret value => exact Or.inl ⟨value, rfl⟩
  | fail => simp [Prog.bind, advance] at moved
  | recv count continue_ =>
      simp only [Prog.bind, advance, Option.ite_none_right_eq_some, Option.some.injEq,
        Prod.mk.injEq] at moved
      obtain ⟨enough, rfl, rfl, rfl⟩ := moved
      exact Or.inr ⟨_, if_pos enough, rfl⟩
  | get | put | send =>
      simp only [Prog.bind, advance, Option.some.injEq, Prod.mk.injEq] at moved
      obtain ⟨rfl, rfl, rfl⟩ := moved
      exact Or.inr ⟨_, rfl, rfl⟩
  | loop body start continue_ =>
      simp only [Prog.bind, advance, Option.some.injEq, Prod.mk.injEq] at moved
      obtain ⟨rfl, rfl, rfl⟩ := moved
      refine Or.inr ⟨_, rfl, ?_⟩
      simp only [Prog.bind_assoc]
      congr 2
      funext result
      exact (Prog.afterPass_bind body continue_ next result).symm

end Config

/-- Any number of steps that consume exactly `input` and send exactly `output`. -/
inductive Runs {S E α : Type} : Config S E α → Bytes → Bytes → Config S E α → Prop where
  | refl (config : Config S E α) : Runs config [] [] config
  | step {config middle final : Config S E α} {input rest sent output : Bytes}
      (moved : config.advance input = some (middle, rest, sent))
      (remaining : Runs middle rest output final) : Runs config input (sent ++ output) final

/-- A call that returns `value`. -/
def Returns {S E α : Type} (program : Prog S E α) (before : S) (input output : Bytes)
    (value : α) (after : S) : Prop :=
  Runs ⟨before, program⟩ input output ⟨after, .ret value⟩

/-- A call that ends with `error`. -/
def Fails {S E α : Type} (program : Prog S E α) (before : S) (input output : Bytes)
    (error : E) (after : S) : Prop :=
  Runs ⟨before, program⟩ input output ⟨after, .fail error⟩

namespace Runs

variable {S E α β : Type}

theorem trans {first middle final : Config S E α} {input input' output output' : Bytes}
    (before : Runs first input output middle) (after : Runs middle input' output' final) :
    Runs first (input ++ input') (output ++ output') final := by
  induction before with
  | refl => exact after
  | step moved _ ih =>
      rw [List.append_assoc]
      exact .step (Config.advance_append moved _) (ih after)

theorem bindLeft {first final : Config S E α} {input output : Bytes}
    (run : Runs first input output final) (next : α → Prog S E β) :
    Runs ⟨first.state, first.prog.bind next⟩ input output ⟨final.state, final.prog.bind next⟩ := by
  induction run with
  | refl => exact .refl _
  | step moved _ ih => exact .step (Config.advance_bind moved next) ih

/-- Sequencing: the rule by which callers use what is known of a callee. -/
theorem bind {program : Prog S E α} {next : α → Prog S E β} {before middle : S} {value : α}
    {input input' output output' : Bytes} {final : Config S E β}
    (call : Returns program before input output value middle)
    (rest : Runs ⟨middle, next value⟩ input' output' final) :
    Runs ⟨before, program >>= next⟩ (input ++ input') (output ++ output') final :=
  (call.bindLeft next).trans rest

theorem silent {config middle final : Config S E α} {input rest output : Bytes}
    (moved : config.advance input = some (middle, rest, []))
    (remaining : Runs middle rest output final) : Runs config input output final :=
  step moved remaining

theorem get {next : S → Prog S E α} {state : S} {input output : Bytes} {final : Config S E α}
    (rest : Runs ⟨state, next state⟩ input output final) :
    Runs ⟨state, .get next⟩ input output final := silent rfl rest

theorem put {next : Prog S E α} {before state : S} {input output : Bytes} {final : Config S E α}
    (rest : Runs ⟨state, next⟩ input output final) :
    Runs ⟨before, .put state next⟩ input output final := silent rfl rest

theorem send {next : Prog S E α} {state : S} {data input output : Bytes} {final : Config S E α}
    (rest : Runs ⟨state, next⟩ input output final) :
    Runs ⟨state, .send data next⟩ input (data ++ output) final := .step rfl rest

theorem recv {count : Nat} {next : Bytes → Prog S E α} {state : S} {data input output : Bytes}
    {final : Config S E α} (exact_ : data.length = count)
    (rest : Runs ⟨state, next data⟩ input output final) :
    Runs ⟨state, .recv count next⟩ (data ++ input) output final := by
  have enough : count ≤ (data ++ input).length := by
    rw [List.length_append]
    omega
  refine silent ?_ rest
  subst exact_
  simp only [Config.advance, if_pos enough, List.take_left, List.drop_left]

theorem loop {σ : Type} {body : σ → Prog S E (σ ⊕ β)} {start : σ} {next : β → Prog S E α}
    {before : S} {input output : Bytes} {final : Config S E α}
    (rest : Runs ⟨before, (body start).bind (Prog.afterPass body next)⟩ input output final) :
    Runs ⟨before, .loop body start next⟩ input output final := silent rfl rest

/-- A loop pass that asks for another one. -/
theorem loop_again {σ : Type} {body : σ → Prog S E (σ ⊕ β)} {start again : σ}
    {next : β → Prog S E α} {before middle : S} {input output : Bytes}
    (pass : Returns (body start) before input output (.inl again) middle) :
    Runs ⟨before, .loop body start next⟩ input output ⟨middle, .loop body again next⟩ :=
  loop (pass.bindLeft (Prog.afterPass body next))

/-- The last pass of a loop. -/
theorem loop_done {σ : Type} {body : σ → Prog S E (σ ⊕ β)} {start : σ} {result : β}
    {next : β → Prog S E α} {before middle : S} {input output : Bytes}
    (pass : Returns (body start) before input output (.inr result) middle) :
    Runs ⟨before, .loop body start next⟩ input output ⟨middle, next result⟩ :=
  loop (pass.bindLeft (Prog.afterPass body next))

/-- A run of a sequence ends in its first part or has passed through the end of it. -/
theorem bind_inv {next : α → Prog S E β} {config : Config S E β} {final : Config S E β}
    {input output : Bytes} (run : Runs config input output final) :
    ∀ {state : S} {program : Prog S E α}, config = ⟨state, program.bind next⟩ →
      (∃ middle : Config S E α, Runs ⟨state, program⟩ input output middle ∧
        final = ⟨middle.state, middle.prog.bind next⟩) ∨
      ∃ value middle first second sent later, Returns program state first sent value middle ∧
        Runs ⟨middle, next value⟩ second later final ∧ input = first ++ second ∧
          output = sent ++ later := by
  induction run with
  | refl config =>
      rintro state program rfl
      exact Or.inl ⟨⟨state, program⟩, .refl _, rfl⟩
  | @step config middle final input rest sent output moved remaining ih =>
      rintro state program rfl
      rcases Config.advance_bind_inv moved with ⟨value, rfl⟩ | ⟨inner, stepped, rfl⟩
      · exact Or.inr ⟨value, state, [], _, [], _, .refl _, .step moved remaining, rfl, rfl⟩
      · rcases ih rfl with ⟨last, within, rfl⟩ |
          ⟨value, reached, first, second, early, later, call, tail, rfl, rfl⟩
        · exact Or.inl ⟨last, .step stepped within, rfl⟩
        · obtain ⟨-, left⟩ := Config.advance_consumes stepped
          have exact_ := Config.advance_append (Config.advance_exact stepped) first
          refine Or.inr ⟨value, reached, _, second, _, later, .step exact_ call, tail, ?_, ?_⟩
          · rw [List.append_assoc, left, List.take_append_drop]
          · rw [List.append_assoc]

/-- The passes of a loop up to the one that ends it. -/
inductive Iterates {S E σ β : Type} (body : σ → Prog S E (σ ⊕ β)) :
    σ → S → Bytes → Bytes → β → S → Prop where
  | last {start : σ} {before after : S} {input output : Bytes} {result : β}
      (pass : Returns (body start) before input output (.inr result) after) :
      Iterates body start before input output result after
  | again {start again : σ} {before middle after : S} {input input' output output' : Bytes}
      {result : β} (pass : Returns (body start) before input output (.inl again) middle)
      (rest : Iterates body again middle input' output' result after) :
      Iterates body start before (input ++ input') (output ++ output') result after

/-- The rest of a loop's run, from amid a pass: the end of that pass and the passes behind it. -/
theorem passes {σ : Type} {body : σ → Prog S E (σ ⊕ β)} {config final : Config S E β}
    {input output : Bytes} (run : Runs config input output final) :
    ∀ {state after : S} {program : Prog S E (σ ⊕ β)} {result : β},
      config = ⟨state, program.bind (Prog.afterPass body .ret)⟩ → final = ⟨after, .ret result⟩ →
      ∃ value middle front back sent later, Returns program state front sent value middle ∧
        input = front ++ back ∧ output = sent ++ later ∧
        ((∃ again, value = .inl again ∧ Iterates body again middle back later result after) ∨
          (value = .inr result ∧ middle = after ∧ back = [] ∧ later = [])) := by
  induction run with
  | refl config =>
      rintro state after program result rfl ended
      cases program <;> simp only [Prog.bind, Config.mk.injEq, reduceCtorEq, and_false] at ended
      rename_i value
      obtain ⟨rfl, ended⟩ := ended
      cases value with
      | inl again => cases ended
      | inr last =>
          obtain rfl : last = result := Prog.ret.inj ended
          exact ⟨_, state, [], [], [], [], .refl _, rfl, rfl, Or.inr ⟨rfl, rfl, rfl, rfl⟩⟩
  | @step config middle final input rest sent output moved remaining ih =>
      rintro state after program result rfl ended
      rcases Config.advance_bind_inv moved with ⟨value, rfl⟩ | ⟨inner, stepped, rfl⟩
      · cases value with
        | inr last => simp [Prog.bind, Prog.afterPass, Config.advance] at moved
        | inl again =>
            simp only [Prog.bind, Prog.afterPass, Config.advance, Option.some.injEq,
              Prod.mk.injEq] at moved
            obtain ⟨rfl, rfl, rfl⟩ := moved
            obtain ⟨value, middle, front, back, early, later, pass, rfl, rfl, others⟩ :=
              ih rfl ended
            refine ⟨_, state, [], _, [], _, .refl _, rfl, rfl, Or.inl ⟨again, rfl, ?_⟩⟩
            rcases others with ⟨next, rfl, others⟩ | ⟨rfl, rfl, rfl, rfl⟩
            · exact .again pass others
            · have last : Iterates body again state (front ++ []) (early ++ []) result middle := by
                rw [List.append_nil, List.append_nil]
                exact .last pass
              exact last
      · obtain ⟨value, reached, front, back, early, later, pass, rfl, rfl, others⟩ := ih rfl ended
        obtain ⟨-, left⟩ := Config.advance_consumes stepped
        have exact_ := Config.advance_append (Config.advance_exact stepped) front
        refine ⟨value, reached, _, back, _, later, .step exact_ pass, ?_, ?_, others⟩
        · rw [List.append_assoc, left, List.take_append_drop]
        · rw [List.append_assoc]

/-- Writing the state cannot be interrupted. -/
theorem modifyState_quiet {change : S → S} {before : S} {final : Config S E Unit}
    {input output : Bytes} (run : Runs ⟨before, Prog.modifyState change⟩ input output final) :
    ¬ final.prog.MayThrow := by
  cases run with
  | refl => exact id
  | step moved remaining =>
      simp only [Prog.modifyState, Config.advance, Option.some.injEq, Prod.mk.injEq] at moved
      obtain ⟨rfl, -, -⟩ := moved
      cases remaining with
      | refl => exact id
      | step moved remaining =>
          simp only [Config.advance, Option.some.injEq, Prod.mk.injEq] at moved
          obtain ⟨rfl, -, -⟩ := moved
          cases remaining with
          | refl => exact id
          | step moved _ => simp [Config.advance] at moved

theorem of_finished {first final : Config S E α} {input output : Bytes}
    (finished : first.Finished) (run : Runs first input output final) :
    final = first ∧ input = [] ∧ output = [] := by
  cases run with
  | refl => exact ⟨rfl, rfl, rfl⟩
  | step moved _ => rw [Config.advance_finished finished] at moved; cases moved

/-- Execution is deterministic: of two runs on one stream, one continues the
other. -/
theorem comparable {first final final' : Config S E α} {input input' output output' : Bytes}
    {rest rest' : Bytes} (run : Runs first input output final)
    (run' : Runs first input' output' final') (stream : input ++ rest = input' ++ rest') :
    (∃ extra sent, Runs final extra sent final' ∧ input' = input ++ extra ∧
      output' = output ++ sent) ∨
    (∃ extra sent, Runs final' extra sent final ∧ input = input' ++ extra ∧
      output = output' ++ sent) := by
  induction run generalizing input' output' with
  | refl config => exact Or.inl ⟨input', output', run', rfl, rfl⟩
  | @step config middle final input left sent output moved remaining ih =>
      cases run' with
      | refl => exact Or.inr ⟨input, sent ++ output, .step moved remaining, rfl, rfl⟩
      | @step _ middle' _ _ left' sent' output' moved' remaining' =>
          have same := Config.advance_append moved' rest'
          rw [← stream, Config.advance_append moved rest] at same
          simp only [Option.some.injEq, Prod.mk.injEq] at same
          obtain ⟨rfl, leftSame, rfl⟩ := same
          obtain ⟨enough, rfl⟩ := Config.advance_consumes moved
          obtain ⟨enough', rfl⟩ := Config.advance_consumes moved'
          have consumed : input.take config.demand = input'.take config.demand := by
            have taken := congrArg (List.take config.demand) stream
            rwa [List.take_append_of_le_length enough,
              List.take_append_of_le_length enough'] at taken
          rcases ih remaining' leftSame with ⟨extra, more, tail, inputs, outputs⟩ |
            ⟨extra, more, tail, inputs, outputs⟩
          · refine Or.inl ⟨extra, more, tail, ?_, by rw [outputs, List.append_assoc]⟩
            rw [← List.take_append_drop config.demand input', inputs, ← consumed,
              ← List.append_assoc, List.take_append_drop]
          · refine Or.inr ⟨extra, more, tail, ?_, by rw [outputs, List.append_assoc]⟩
            rw [← List.take_append_drop config.demand input, inputs, consumed,
              ← List.append_assoc, List.take_append_drop]

/-- A program finishes in one way at most on a given stream. -/
theorem unique {first final final' : Config S E α} {input input' output output' : Bytes}
    {rest rest' : Bytes} (run : Runs first input output final)
    (run' : Runs first input' output' final') (stream : input ++ rest = input' ++ rest')
    (finished : final.Finished) (finished' : final'.Finished) :
    final = final' ∧ input = input' ∧ output = output' := by
  rcases comparable run run' stream with ⟨extra, sent, tail, inputs, outputs⟩ |
    ⟨extra, sent, tail, inputs, outputs⟩
  · obtain ⟨rfl, rfl, rfl⟩ := of_finished finished tail
    exact ⟨rfl, by simpa using inputs.symm, by simpa using outputs.symm⟩
  · obtain ⟨rfl, rfl, rfl⟩ := of_finished finished' tail
    exact ⟨rfl, by simpa using inputs, by simpa using outputs⟩

end Runs

/-! ## Calls -/

namespace Returns

variable {S E α β : Type}

theorem pure (value : α) (state : S) :
    Returns (.ret value : Prog S E α) state [] [] value state := .refl _

theorem getState (state : S) : Returns (Prog.getState : Prog S E S) state [] [] state state :=
  .get (.refl _)

theorem putState (before after : S) :
    Returns (Prog.putState after : Prog S E Unit) before [] [] () after := .put (.refl _)

theorem modifyState (change : S → S) (before : S) :
    Returns (Prog.modifyState change : Prog S E Unit) before [] [] () (change before) :=
  .get (.put (.refl _))

theorem sendBytes (data : Bytes) (state : S) :
    Returns (Prog.sendBytes data : Prog S E Unit) state [] data () state := by
  have run : Runs ⟨state, .send data (.ret ())⟩ [] (data ++ []) ⟨state, .ret ()⟩ :=
    Runs.send (.refl (⟨state, .ret ()⟩ : Config S E Unit))
  rwa [List.append_nil] at run

theorem recvBytes (data : Bytes) (state : S) :
    Returns (Prog.recvBytes data.length : Prog S E Bytes) state data [] data state := by
  have run : Runs ⟨state, .recv data.length .ret⟩ (data ++ []) [] ⟨state, .ret data⟩ :=
    Runs.recv rfl (.refl (⟨state, .ret data⟩ : Config S E Bytes))
  rwa [List.append_nil] at run

theorem ofExcept {result : Except E α} {value : α} (ok : result = .ok value) (state : S) :
    Returns (Prog.ofExcept result) state [] [] value state := by
  subst ok
  exact .refl _

theorem bind {program : Prog S E α} {next : α → Prog S E β} {before middle after : S} {value : α}
    {result : β} {input input' output output' : Bytes}
    (call : Returns program before input output value middle)
    (rest : Returns (next value) middle input' output' result after) :
    Returns (program >>= next) before (input ++ input') (output ++ output') result after :=
  Runs.bind call rest

/-- The run up to the end of a call. -/
theorem before {program : Prog S E α} {first middle : S} {value : α} {input output : Bytes}
    (call : Returns program first input output value middle) (next : α → Prog S E β) :
    Runs ⟨first, program >>= next⟩ input output ⟨middle, next value⟩ := call.bindLeft next

/-- A sequence that returned, taken apart. -/
theorem bind_inv {program : Prog S E α} {next : α → Prog S E β} {before after : S} {result : β}
    {input output : Bytes} (call : Returns (program >>= next) before input output result after) :
    ∃ value middle front back sent later, Returns program before front sent value middle ∧
      Returns (next value) middle back later result after ∧ input = front ++ back ∧
        output = sent ++ later := by
  rcases Runs.bind_inv call rfl with ⟨middle, within, ended⟩ | split
  · obtain ⟨state, program'⟩ := middle
    cases program' <;> simp only [Prog.bind, Config.mk.injEq, reduceCtorEq, and_false] at ended
    rename_i value
    obtain ⟨rfl, last⟩ := ended
    refine ⟨value, after, input, [], output, [], within, ?_, ?_, ?_⟩
    · rw [← last]
      exact .refl _
    · rw [List.append_nil]
    · rw [List.append_nil]
  · exact split

/-- A call after which the rest is silent. -/
theorem bind_silent {program : Prog S E α} {next : α → Prog S E β} {before middle after : S}
    {value : α} {result : β} {input output : Bytes}
    (call : Returns program before input output value middle)
    (rest : Returns (next value) middle [] [] result after) :
    Returns (program >>= next) before input output result after := by
  have both := call.bind rest
  rwa [List.append_nil, List.append_nil] at both

/-- A silent call before the rest. -/
theorem silent_bind {program : Prog S E α} {next : α → Prog S E β} {before middle after : S}
    {value : α} {result : β} {input output : Bytes}
    (call : Returns program before [] [] value middle)
    (rest : Returns (next value) middle input output result after) :
    Returns (program >>= next) before input output result after := call.bind rest

theorem ofExcept_inv {γ : Type} {result : Except E γ} {next : γ → Prog S E β} {value : β}
    {before after : S} {input output : Bytes}
    (call : Returns (Prog.ofExcept result >>= next) before input output value after) :
    ∃ got, result = .ok got ∧ Returns (next got) before input output value after := by
  cases result with
  | ok got => exact ⟨got, rfl, call⟩
  | error error =>
      obtain ⟨same, -, -⟩ := Runs.of_finished (Or.inr ⟨error, rfl⟩) call
      cases same

theorem finished (value : α) (state : S) : (⟨state, .ret value⟩ : Config S E α).Finished :=
  Or.inl ⟨value, rfl⟩

/-- A loop that returned went through its passes. -/
theorem iterates {σ : Type} {body : σ → Prog S E (σ ⊕ β)} {start : σ} {before after : S}
    {input output : Bytes} {result : β}
    (call : Returns (Prog.repeatUntil body start) before input output result after) :
    Runs.Iterates body start before input output result after := by
  -- The loop is what follows a pass that asked for another one.
  have entered : (⟨before, Prog.repeatUntil body start⟩ : Config S E β) =
      ⟨before, (Prog.ret (.inl start)).bind (Prog.afterPass body .ret)⟩ := rfl
  obtain ⟨value, middle, front, back, sent, later, pass, rfl, rfl, others⟩ :=
    Runs.passes call entered rfl
  obtain ⟨same, rfl, rfl⟩ := Runs.of_finished (Or.inl ⟨_, rfl⟩) pass
  cases same
  rcases others with ⟨again, asked, passes⟩ | ⟨ended, -⟩
  · cases asked
    exact passes
  · cases ended

theorem unique {program : Prog S E α} {before after after' : S} {value value' : α}
    {input input' output output' rest rest' : Bytes}
    (call : Returns program before input output value after)
    (call' : Returns program before input' output' value' after')
    (stream : input ++ rest = input' ++ rest') :
    value = value' ∧ after = after' ∧ input = input' ∧ output = output' := by
  obtain ⟨same, inputs, outputs⟩ :=
    Runs.unique call call' stream (finished value after) (finished value' after')
  cases same
  exact ⟨rfl, rfl, inputs, outputs⟩

end Returns

namespace Fails

variable {S E α β : Type}

theorem finished (error : E) (state : S) : (⟨state, .fail error⟩ : Config S E α).Finished :=
  Or.inr ⟨error, rfl⟩

theorem ofExcept {result : Except E α} {error : E} (failed : result = .error error) (state : S) :
    Fails (Prog.ofExcept result) state [] [] error state := by
  subst failed
  exact .refl _

theorem bind {program : Prog S E α} {before after : S} {error : E} {input output : Bytes}
    (call : Fails program before input output error after) (next : α → Prog S E β) :
    Fails (program >>= next) before input output error after := call.bindLeft next

/-- A call that throws does not return. -/
theorem not_returns {program : Prog S E α} {before after after' : S} {error : E} {value : α}
    {input input' output output' rest rest' : Bytes}
    (call : Fails program before input output error after)
    (stream : input ++ rest = input' ++ rest') :
    ¬ Returns program before input' output' value after' := by
  intro returned
  obtain ⟨same, -, -⟩ :=
    Runs.unique call returned stream (finished error after) (Returns.finished value after')
  cases same

theorem after {program : Prog S E α} {next : α → Prog S E β} {before middle final : S} {value : α}
    {error : E} {input input' output output' : Bytes}
    (call : Returns program before input output value middle)
    (rest : Fails (next value) middle input' output' error final) :
    Fails (program >>= next) before (input ++ input') (output ++ output') error final :=
  Runs.bind call rest

theorem after_silent {program : Prog S E α} {next : α → Prog S E β} {before middle final : S}
    {value : α} {error : E} {input output : Bytes}
    (call : Returns program before input output value middle)
    (rest : Fails (next value) middle [] [] error final) :
    Fails (program >>= next) before input output error final := by
  have both := Fails.after call rest
  rwa [List.append_nil, List.append_nil] at both

end Fails

end EasyRtmp.Lib
