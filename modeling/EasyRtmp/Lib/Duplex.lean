import EasyRtmp.Lib.ChannelProgram
import EasyRtmp.Lib.Interleaving

/-!
# Two programs joined by two reliable FIFO channels

Each side sends into one channel and receives from the other; a step of the
network is a step of one side.  Sending and receiving on a FIFO channel commute,
so the network is determinate: if one schedule brings it to rest in some state,
every reachable state still leads there (`Reaches.completes`).
-/

set_option autoImplicit false

namespace EasyRtmp.Lib

open ByteCodec

structure Duplex (S T E α β : Type) where
  left : Config S E α
  right : Config T E β
  toRight : Bytes
  toLeft : Bytes

namespace Duplex

variable {S T E α β : Type}

def stepLeft (net : Duplex S T E α β) : Option (Duplex S T E α β) :=
  match net.left.advance net.toLeft with
  | none => none
  | some (left, rest, sent) => some ⟨left, net.right, net.toRight ++ sent, rest⟩

def stepRight (net : Duplex S T E α β) : Option (Duplex S T E α β) :=
  match net.right.advance net.toRight with
  | none => none
  | some (right, rest, sent) => some ⟨net.left, right, rest, net.toLeft ++ sent⟩

/-- One side, whichever, takes a step. -/
def Step (net after : Duplex S T E α β) : Prop :=
  net.stepLeft = some after ∨ net.stepRight = some after

abbrev Reaches : Duplex S T E α β → Duplex S T E α β → Prop := Relation.ReflTransGen Step

def AtRest (net : Duplex S T E α β) : Prop := net.stepLeft = none ∧ net.stepRight = none

/-- Steps of the two sides commute. -/
theorem steps_commute {net leftFirst rightFirst : Duplex S T E α β}
    (left : net.stepLeft = some leftFirst) (right : net.stepRight = some rightFirst) :
    ∃ both, leftFirst.stepRight = some both ∧ rightFirst.stepLeft = some both := by
  unfold stepLeft at left
  unfold stepRight at right
  split at left
  · cases left
  rename_i leftAfter leftRest leftSent leftMoved
  split at right
  · cases right
  rename_i rightAfter rightRest rightSent rightMoved
  simp only [Option.some.injEq] at left right
  subst left right
  refine ⟨⟨leftAfter, rightAfter, rightRest ++ leftSent, leftRest ++ rightSent⟩, ?_, ?_⟩
  · simp only [stepRight, Config.advance_append rightMoved]
  · simp only [stepLeft, Config.advance_append leftMoved]

theorem AtRest.reaches {net after : Duplex S T E α β} (rest : net.AtRest)
    (path : Reaches net after) : after = net := Interleaved.stays rest.1 rest.2 path

/-- Determinacy: when one schedule brings the network to rest, no schedule can
miss that state. -/
theorem Reaches.completes {start final net : Duplex S T E α β} (schedule : Reaches start final)
    (rest : final.AtRest) (path : Reaches start net) : Reaches net final :=
  Interleaved.completes steps_commute schedule rest.1 rest.2 path

/-! ## A side that has finished stays as it is -/

theorem left_finished {net after : Duplex S T E α β} (finished : net.left.Finished)
    (path : Reaches net after) : after.left = net.left := by
  induction path with
  | refl => rfl
  | tail _ step ih =>
      rw [← ih] at finished ⊢
      rcases step with step | step
      · simp [stepLeft, Config.advance_finished finished] at step
      · unfold stepRight at step
        split at step
        · cases step
        · cases step
          rfl

theorem right_finished {net after : Duplex S T E α β} (finished : net.right.Finished)
    (path : Reaches net after) : after.right = net.right := by
  induction path with
  | refl => rfl
  | tail _ step ih =>
      rw [← ih] at finished ⊢
      rcases step with step | step
      · unfold stepLeft at step
        split at step
        · cases step
        · cases step
          rfl
      · simp [stepRight, Config.advance_finished finished] at step

/-! ## Runs of one side as paths of the network -/

theorem reaches_left {first final : Config S E α} {input output : Bytes}
    (run : Runs first input output final) (right : Config T E β) (toRight rest : Bytes) :
    Reaches ⟨first, right, toRight, input ++ rest⟩ ⟨final, right, toRight ++ output, rest⟩ := by
  induction run generalizing toRight with
  | refl => simpa using Relation.ReflTransGen.refl
  | @step config middle final input left sent output moved _ ih =>
      have step : Step ⟨config, right, toRight, input ++ rest⟩
          ⟨middle, right, toRight ++ sent, left ++ rest⟩ :=
        Or.inl (by simp only [stepLeft, Config.advance_append moved])
      rw [← List.append_assoc]
      exact Relation.ReflTransGen.head step (ih (toRight ++ sent))

theorem reaches_right {first final : Config T E β} {input output : Bytes}
    (run : Runs first input output final) (left : Config S E α) (toLeft rest : Bytes) :
    Reaches ⟨left, first, input ++ rest, toLeft⟩ ⟨left, final, rest, toLeft ++ output⟩ := by
  induction run generalizing toLeft with
  | refl => simpa using Relation.ReflTransGen.refl
  | @step config middle final input right sent output moved _ ih =>
      have step : Step ⟨left, config, input ++ rest, toLeft⟩
          ⟨left, middle, right ++ rest, toLeft ++ sent⟩ :=
        Or.inr (by simp only [stepRight, Config.advance_append moved])
      rw [← List.append_assoc]
      exact Relation.ReflTransGen.head step (ih (toLeft ++ sent))

/-- Each side sends, answers what the other sent first and takes the answer to its
own. -/
theorem reaches_greeting {left left₁ left₂ left₃ : Config S E α}
    {right right₁ right₂ right₃ : Config T E β} {hello echo hello' echo' : Bytes}
    (leftSends : Runs left [] hello left₁) (rightSends : Runs right [] hello' right₁)
    (leftAnswers : Runs left₁ hello' echo' left₂) (rightAnswers : Runs right₁ hello echo right₂)
    (leftTakes : Runs left₂ echo [] left₃) (rightTakes : Runs right₂ echo' [] right₃) :
    Reaches ⟨left, right, [], []⟩ ⟨left₃, right₃, [], []⟩ := by
  have first := reaches_left leftSends right [] []
  have second := reaches_right rightSends left₁ [] hello
  have third := reaches_left leftAnswers right₁ hello []
  have fourth := reaches_right rightAnswers left₂ [] echo'
  have fifth := reaches_left leftTakes right₂ echo' []
  have sixth := reaches_right rightTakes left₃ [] []
  simp only [List.append_nil] at third fifth sixth
  exact first.trans (second.trans (third.trans (fourth.trans (fifth.trans sixth))))

end Duplex

end EasyRtmp.Lib
