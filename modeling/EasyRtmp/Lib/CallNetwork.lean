import EasyRtmp.Lib.Interleaving
import EasyRtmp.Lib.Transport

/-!
# Two programs that exchange calls

Each end has a queue of the calls that the other has made and it has not received.  A
receive takes the first of them, which must have the length that is asked for; where
`refuse` says so it throws.  A call of no bytes is neither made nor received.

The ends never disturb one another, so that one schedule decides what becomes of all.
-/

set_option autoImplicit false

namespace EasyRtmp.Lib

open ByteCodec

variable {N S T E α β : Type}

/-! ## One end -/

namespace Execution

/-- Nothing more happens at this end. -/
def Done {K : Type} : Execution K N S E α → Prop
  | .running config _ => config.Finished
  | .thrown _ _ _ => True

/-- A step, and the call that it makes if it is a send. -/
def exchange (refuse : Bytes → Option N) : Execution (List Bytes) N S E α →
    Option (Execution (List Bytes) N S E α × List Bytes)
  | .thrown _ _ _ => none
  | .running ⟨_, .ret _⟩ _ => none
  | .running ⟨_, .fail _⟩ _ => none
  | .running ⟨state, .get next⟩ queue => some (.running ⟨state, next state⟩ queue, [])
  | .running ⟨_, .put state next⟩ queue => some (.running ⟨state, next⟩ queue, [])
  | .running ⟨state, .send data next⟩ queue =>
      if data = [] then none else some (.running ⟨state, next⟩ queue, [data])
  | .running ⟨_, .recv _ _⟩ [] => none
  | .running ⟨state, .recv count next⟩ (data :: queue) =>
      if data = [] ∨ data.length ≠ count then none
      else
        match refuse data with
        | none => some (.running ⟨state, next data⟩ queue, [])
        | some exception => some (.thrown exception state queue, [])
  | .running ⟨state, .loop body start next⟩ queue =>
      some (.running ⟨state, (body start).bind (Prog.afterPass body next)⟩ queue, [])

def post (calls : List Bytes) : Execution (List Bytes) N S E α → Execution (List Bytes) N S E α
  | .running config queue => .running config (queue ++ calls)
  | .thrown exception state queue => .thrown exception state (queue ++ calls)

variable {refuse : Bytes → Option N} {here there : Execution (List Bytes) N S E α}
  {made : List Bytes}

@[simp] theorem post_nil (here : Execution (List Bytes) N S E α) : here.post [] = here := by
  cases here <;> simp only [post, List.append_nil]

@[simp] theorem post_post (calls more : List Bytes) (here : Execution (List Bytes) N S E α) :
    (here.post calls).post more = here.post (calls ++ more) := by
  cases here <;> simp only [post, List.append_assoc]

@[simp] theorem post_done (calls : List Bytes) (here : Execution (List Bytes) N S E α) :
    (here.post calls).Done ↔ here.Done := by
  cases here <;> rfl

/-- What comes later does not matter to a step. -/
theorem exchange_post (moved : here.exchange refuse = some (there, made)) (calls : List Bytes) :
    (here.post calls).exchange refuse = some (there.post calls, made) := by
  rcases here with ⟨⟨state, program⟩, queue⟩ | ⟨exception, state, queue⟩
  case thrown => cases moved
  cases program with
  | ret | fail => cases moved
  | get next | put state' next | loop body start next =>
      cases moved
      rfl
  | send data next =>
      simp only [exchange, post] at moved ⊢
      split at moved
      · cases moved
      · rename_i some
        cases moved
        exact if_neg some
  | recv count next =>
      cases queue with
      | nil => cases moved
      | cons data queue =>
          simp only [exchange, post, List.cons_append] at moved ⊢
          split at moved
          · cases moved
          · rename_i asked
            rw [if_neg asked]
            split at moved
            all_goals
              cases moved
              rfl

/-- What only lacks the calls to come is a receive. -/
theorem exchange_stuck {calls : List Bytes} (stuck : here.exchange refuse = none)
    (goesOn : (here.post calls).exchange refuse ≠ none) : ∃ state count next,
      here = .running ⟨state, .recv count next⟩ [] ∧ 0 < count := by
  rcases here with ⟨⟨state, program⟩, queue⟩ | ⟨exception, state, queue⟩
  case thrown => exact absurd rfl goesOn
  cases program with
  | ret | fail => exact absurd rfl goesOn
  | get next | put state' next | loop body start next => cases stuck
  | send data next =>
      simp only [exchange, post] at stuck goesOn
      split at stuck
      · rename_i empty
        exact absurd (if_pos empty) goesOn
      · cases stuck
  | recv count next =>
      cases queue with
      | cons data queue =>
          simp only [exchange, post, List.cons_append] at stuck goesOn
          split at stuck
          · rename_i unasked
            exact absurd (if_pos unasked) goesOn
          · split at stuck <;> cases stuck
      | nil =>
          cases calls with
          | nil => exact absurd rfl goesOn
          | cons data calls =>
              simp only [exchange, post, List.nil_append] at goesOn
              split at goesOn
              · exact absurd rfl goesOn
              · rename_i asked
                obtain ⟨some, length⟩ := not_or.mp asked
                obtain rfl := not_not.mp length
                exact ⟨state, data.length, next, rfl, List.length_pos_of_ne_nil some⟩

theorem exchange_done (done : here.Done) : here.exchange refuse = none := by
  rcases here with ⟨⟨state, program⟩, queue⟩ | ⟨exception, state, queue⟩
  · rcases done with ⟨value, rfl⟩ | ⟨error, rfl⟩ <;> rfl
  · rfl

end Execution

/-! ## Both ends -/

structure CallNetwork (N S T E α β : Type) where
  left : Execution (List Bytes) N S E α
  right : Execution (List Bytes) N T E β

namespace CallNetwork

def swap (net : CallNetwork N S T E α β) : CallNetwork N T S E β α := ⟨net.right, net.left⟩

def stepLeft (refuse : Bytes → Option N) (net : CallNetwork N S T E α β) :
    Option (CallNetwork N S T E α β) :=
  match net.left.exchange refuse with
  | none => none
  | some (left, made) => some ⟨left, net.right.post made⟩

def stepRight (refuse : Bytes → Option N) (net : CallNetwork N S T E α β) :
    Option (CallNetwork N S T E α β) :=
  match net.right.exchange refuse with
  | none => none
  | some (right, made) => some ⟨net.left.post made, right⟩

abbrev Reaches (refuse : Bytes → Option N) :
    CallNetwork N S T E α β → CallNetwork N S T E α β → Prop :=
  Relation.ReflTransGen (Interleaved (stepLeft refuse) (stepRight refuse))

structure Settled (net : CallNetwork N S T E α β) : Prop where
  left : net.left.Done
  right : net.right.Done

variable {refuse : Bytes → Option N} {net after final : CallNetwork N S T E α β}

theorem stepLeft_some (moved : net.stepLeft refuse = some after) : ∃ made,
    net.left.exchange refuse = some (after.left, made) ∧ after.right = net.right.post made := by
  rw [stepLeft] at moved
  split at moved
  · cases moved
  · rename_i left made acted
    cases moved
    exact ⟨made, acted, rfl⟩

theorem stepRight_some (moved : net.stepRight refuse = some after) : ∃ made,
    net.right.exchange refuse = some (after.right, made) ∧ after.left = net.left.post made := by
  rw [stepRight] at moved
  split at moved
  · cases moved
  · rename_i right made acted
    cases moved
    exact ⟨made, acted, rfl⟩

theorem stepRight_swap (net : CallNetwork N S T E α β) :
    net.swap.stepRight refuse = (net.stepLeft refuse).map swap := by
  simp only [stepRight, stepLeft, swap]
  split <;> rfl

theorem stepLeft_swap (net : CallNetwork N S T E α β) :
    net.swap.stepLeft refuse = (net.stepRight refuse).map swap := by
  simp only [stepRight, stepLeft, swap]
  split <;> rfl

theorem Reaches.swap (path : net.Reaches refuse after) : net.swap.Reaches refuse after.swap := by
  refine Relation.ReflTransGen.lift CallNetwork.swap (fun here there step => ?_) _ _ path
  rcases step with step | step
  · exact .inr (by rw [stepRight_swap, step, Option.map_some])
  · exact .inl (by rw [stepLeft_swap, step, Option.map_some])

theorem steps_commute {here left right : CallNetwork N S T E α β}
    (leftMoved : here.stepLeft refuse = some left)
    (rightMoved : here.stepRight refuse = some right) :
    ∃ both, left.stepRight refuse = some both ∧ right.stepLeft refuse = some both := by
  rw [stepLeft] at leftMoved
  rw [stepRight] at rightMoved
  split at leftMoved
  · cases leftMoved
  rename_i leftEnd leftMade leftActed
  split at rightMoved
  · cases rightMoved
  rename_i rightEnd rightMade rightActed
  cases leftMoved
  cases rightMoved
  refine ⟨⟨leftEnd.post rightMade, rightEnd.post leftMade⟩, ?_, ?_⟩
  · simp only [stepRight, Execution.exchange_post rightActed leftMade]
  · simp only [stepLeft, Execution.exchange_post leftActed rightMade]

theorem Reaches.completes {start : CallNetwork N S T E α β} (schedule : start.Reaches refuse final)
    (settled : final.Settled) (path : start.Reaches refuse net) : net.Reaches refuse final := by
  refine Interleaved.completes steps_commute schedule ?_ ?_ path
  · simp only [stepLeft, Execution.exchange_done settled.left]
  · simp only [stepRight, Execution.exchange_done settled.right]

theorem Reaches.ends (schedule : net.Reaches refuse final) (settled : final.Settled) :
    Acc (fun after before => Interleaved (stepLeft refuse) (stepRight refuse) before after)
      net := by
  refine Interleaved.ends steps_commute schedule ?_ ?_
  · simp only [stepLeft, Execution.exchange_done settled.left]
  · simp only [stepRight, Execution.exchange_done settled.right]

/-- An end that is done only gets more calls. -/
theorem Reaches.left_done (path : net.Reaches refuse after) (done : net.left.Done) :
    ∃ calls, after.left = net.left.post calls := by
  induction path with
  | refl => exact ⟨[], (Execution.post_nil _).symm⟩
  | @tail middle after _ step ih =>
      obtain ⟨calls, same⟩ := ih
      rcases step with step | step
      · have rests : middle.left.exchange refuse = none := by
          rw [same]
          exact Execution.exchange_done ((Execution.post_done calls _).mpr done)
        obtain ⟨made, acted, -⟩ := stepLeft_some step
        rw [rests] at acted
        cases acted
      · obtain ⟨made, -, posted⟩ := stepRight_some step
        exact ⟨calls ++ made, by rw [posted, same, Execution.post_post]⟩

/-- An end that is to be done and is not yet can go on, some calls later at least. -/
theorem Reaches.left_goes_on (path : net.Reaches refuse final) (done : final.left.Done)
    (running : ¬ net.left.Done) : ∃ calls, (net.left.post calls).exchange refuse ≠ none := by
  induction path using Relation.ReflTransGen.head_induction_on with
  | refl => exact absurd done running
  | @head net middle step _ ih =>
      rcases step with step | step
      · obtain ⟨made, acted, -⟩ := stepLeft_some step
        refine ⟨[], ?_⟩
        rw [Execution.post_nil, acted]
        exact Option.some_ne_none _
      · obtain ⟨made, -, posted⟩ := stepRight_some step
        obtain ⟨calls, goesOn⟩ := ih (by rwa [posted, Execution.post_done])
        rw [posted, Execution.post_post] at goesOn
        exact ⟨made ++ calls, goesOn⟩

/-! ## Runs of one end as paths of the network -/

/-- The calls that a receive takes without an exception. -/
def Accepted (refuse : Bytes → Option N) (data : Bytes) : Prop := data ≠ [] ∧ refuse data = none

theorem reaches_left {config last : Config S E α} {inputs outputs : List Bytes}
    (run : RunsBy config inputs outputs last) (received : ∀ data ∈ inputs, Accepted refuse data)
    (sent : ∀ data ∈ outputs, data ≠ []) (right : Execution (List Bytes) N T E β)
    (later : List Bytes) :
    Reaches refuse ⟨.running config (inputs ++ later), right⟩
      ⟨.running last later, right.post outputs⟩ := by
  induction run generalizing right with
  | refl config =>
      rw [Execution.post_nil]
      exact .refl
  | get _ ih | put _ ih | loop _ ih =>
      refine .head (.inl ?_) (ih received sent right)
      simp only [stepLeft, Execution.exchange, Execution.post_nil]
  | @send state data next inputs outputs last _ ih =>
      obtain ⟨first, others⟩ := List.forall_mem_cons.mp sent
      have path := ih received others (right.post [data])
      rw [Execution.post_post, List.singleton_append] at path
      refine .head (.inl ?_) path
      simp only [stepLeft, Execution.exchange, if_neg first]
  | @recv state count next data inputs outputs last exact_ _ ih =>
      obtain ⟨⟨nonempty, taken⟩, others⟩ := List.forall_mem_cons.mp received
      refine .head (.inl ?_) (ih others sent right)
      simp only [stepLeft, Execution.exchange, List.cons_append, nonempty, exact_, taken,
        Execution.post_nil, ne_eq, not_true_eq_false, or_self, if_false]

theorem reaches_right {config last : Config T E β} {inputs outputs : List Bytes}
    (run : RunsBy config inputs outputs last) (received : ∀ data ∈ inputs, Accepted refuse data)
    (sent : ∀ data ∈ outputs, data ≠ []) (left : Execution (List Bytes) N S E α)
    (later : List Bytes) :
    Reaches refuse ⟨left, .running config (inputs ++ later)⟩
      ⟨left.post outputs, .running last later⟩ :=
  (reaches_left run received sent left later).swap

/-- Each end sends, answers what the other sent first and takes the answer to its own. -/
theorem reaches_greeting {left left₁ left₂ left₃ : Config S E α}
    {right right₁ right₂ right₃ : Config T E β} {hello echo hello' echo' : List Bytes}
    (leftSends : RunsBy left [] hello left₁) (rightSends : RunsBy right [] hello' right₁)
    (leftAnswers : RunsBy left₁ hello' echo' left₂) (rightAnswers : RunsBy right₁ hello echo right₂)
    (leftTakes : RunsBy left₂ echo [] left₃) (rightTakes : RunsBy right₂ echo' [] right₃)
    (accepted : ∀ data ∈ hello ++ hello' ++ (echo ++ echo'), Accepted refuse data) :
    Reaches refuse ⟨.running left [], .running right []⟩
      ⟨.running left₃ [], .running right₃ []⟩ := by
  obtain ⟨greetings, answers⟩ := List.forall_mem_append.mp accepted
  obtain ⟨ofLeft, ofRight⟩ := List.forall_mem_append.mp greetings
  obtain ⟨toLeft, toRight⟩ := List.forall_mem_append.mp answers
  have none : ∀ data ∈ ([] : List Bytes), Accepted refuse data := List.forall_mem_nil _
  have first := reaches_left leftSends none (fun data member => (ofLeft data member).1)
    (.running right [] : Execution (List Bytes) N T E β) []
  have second := reaches_right rightSends none (fun data member => (ofRight data member).1)
    (.running left₁ [] : Execution (List Bytes) N S E α) hello
  have third := reaches_left leftAnswers ofRight (fun data member => (toRight data member).1)
    (.running right₁ hello : Execution (List Bytes) N T E β) []
  have fourth := reaches_right rightAnswers ofLeft (fun data member => (toLeft data member).1)
    (.running left₂ [] : Execution (List Bytes) N S E α) echo'
  have fifth := reaches_left leftTakes toLeft (List.forall_mem_nil _)
    (.running right₂ echo' : Execution (List Bytes) N T E β) []
  have sixth := reaches_right rightTakes toRight (List.forall_mem_nil _)
    (.running left₃ [] : Execution (List Bytes) N S E α) []
  simp only [Execution.post, List.append_nil, List.nil_append]
    at first second third fourth fifth sixth
  exact first.trans (second.trans (third.trans (fourth.trans (fifth.trans sixth))))

/-- A run that receives a call that is refused ends there. -/
theorem throws_left {config last : Config S E α} {inputs outputs : List Bytes}
    (run : RunsBy config inputs outputs last) (nonempty : ∀ data ∈ inputs, data ≠ [])
    (sent : ∀ data ∈ outputs, data ≠ []) {exception : N}
    (refused : ∀ data ∈ inputs, refuse data = none ∨ refuse data = some exception)
    (unserved : ¬ ∀ data ∈ inputs, refuse data = none) (right : Execution (List Bytes) N T E β)
    (later : List Bytes) :
    ∃ state queue made, Reaches refuse ⟨.running config (inputs ++ later), right⟩
      ⟨.thrown exception state queue, right.post made⟩ := by
  induction run generalizing right with
  | refl config => exact absurd (List.forall_mem_nil _) unserved
  | get _ ih | put _ ih | loop _ ih =>
      obtain ⟨state, queue, made, path⟩ := ih nonempty sent refused unserved right
      refine ⟨state, queue, made, .head (.inl ?_) path⟩
      simp only [stepLeft, Execution.exchange, Execution.post_nil]
  | @send state data next inputs outputs last _ ih =>
      obtain ⟨first, others⟩ := List.forall_mem_cons.mp sent
      obtain ⟨state', queue, made, path⟩ :=
        ih nonempty others refused unserved (right.post [data])
      rw [Execution.post_post] at path
      refine ⟨state', queue, _, .head (.inl ?_) path⟩
      simp only [stepLeft, Execution.exchange, if_neg first]
  | @recv state count next data inputs outputs last exact_ _ ih =>
      obtain ⟨some, others⟩ := List.forall_mem_cons.mp nonempty
      obtain ⟨answer, answers⟩ := List.forall_mem_cons.mp refused
      rcases answer with taken | thrown
      · have unserved' : ¬ ∀ data ∈ inputs, refuse data = none := fun all =>
          unserved (List.forall_mem_cons.mpr ⟨taken, all⟩)
        obtain ⟨state', queue, made, path⟩ := ih others sent answers unserved' right
        refine ⟨state', queue, made, .head (.inl ?_) path⟩
        simp only [stepLeft, Execution.exchange, List.cons_append, some, exact_, taken,
          Execution.post_nil, ne_eq, not_true_eq_false, or_self, if_false]
      · refine ⟨state, inputs ++ later, [], .single (.inl ?_)⟩
        simp only [stepLeft, Execution.exchange, List.cons_append, some, exact_, thrown,
          ne_eq, not_true_eq_false, or_self, if_false]

end CallNetwork

end EasyRtmp.Lib
