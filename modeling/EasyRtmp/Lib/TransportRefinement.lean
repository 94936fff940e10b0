import EasyRtmp.Lib.Transport

/-!
# Transports that answer alike

If two transports give the same answers to the same calls, a program over the one does what
it does over the other.  `pipe` is a stream of bytes as simple as can be: its executions are
the runs on the ideal channel, up to a receive that the stream cannot answer or that asks
for nothing.
-/

set_option autoImplicit false

namespace EasyRtmp.Lib

open ByteCodec

variable {K L N S E α β : Type}

/-- Two answers to one call.  The systems behind them are `related`, or `broken` where an
exception was thrown. -/
inductive AnswersAlike (related broken : K → L → Prop) :
    Except N β × K → Except N β × L → Prop where
  | ok {value : β} {system : K} {system' : L} (kept : related system system') :
      AnswersAlike related broken (.ok value, system) (.ok value, system')
  | error {exception : N} {system : K} {system' : L} (kept : broken system system') :
      AnswersAlike related broken (.error exception, system) (.error exception, system')

inductive Execution.Alike (related broken : K → L → Prop) :
    Execution K N S E α → Execution L N S E α → Prop where
  | running (config : Config S E α) {system : K} {system' : L} (kept : related system system') :
      Alike related broken (.running config system) (.running config system')
  | thrown (exception : N) (state : S) {system : K} {system' : L} (kept : broken system system') :
      Alike related broken (.thrown exception state system) (.thrown exception state system')

section Symmetry

variable {related broken : K → L → Prop}

theorem AnswersAlike.symm {answer : Except N β × K} {answer' : Except N β × L}
    (alike : AnswersAlike related broken answer answer') :
    AnswersAlike (flip related) (flip broken) answer' answer := by
  cases alike with
  | ok kept => exact .ok kept
  | error kept => exact .error kept

theorem AnswersAlike.behind {broken' : K → L → Prop} {answer : Except N β × K}
    {answer' : Except N β × L} (alike : AnswersAlike related broken answer answer')
    (implies : ∀ system system', broken system system' → broken' system system') :
    AnswersAlike related broken' answer answer' := by
  cases alike with
  | ok kept => exact .ok kept
  | error kept => exact .error (implies _ _ kept)

theorem AnswersAlike.trans {M : Type} {related' broken' : L → M → Prop}
    {answer : Except N β × K} {answer' : Except N β × L} {answer'' : Except N β × M}
    (alike : AnswersAlike related broken answer answer')
    (alike' : AnswersAlike related' broken' answer' answer'') :
    AnswersAlike (fun system system'' => ∃ between, related system between ∧
        related' between system'')
      (fun system system'' => ∃ between, broken system between ∧ broken' between system'')
      answer answer'' := by
  cases alike with
  | ok kept =>
      cases alike' with
      | ok kept' => exact .ok ⟨_, kept, kept'⟩
  | error kept =>
      cases alike' with
      | error kept' => exact .error ⟨_, kept, kept'⟩

theorem Execution.Alike.symm {here : Execution K N S E α} {here' : Execution L N S E α}
    (alike : here.Alike related broken here') :
    here'.Alike (flip related) (flip broken) here := by
  cases alike with
  | running config kept => exact .running config kept
  | thrown exception state kept => exact .thrown exception state kept

end Symmetry

namespace Transport

structure Alike (one : Transport K N) (other : Transport L N) (related broken : K → L → Prop) :
    Prop where
  receive : ∀ count {system system'}, related system system' →
    AnswersAlike related broken (one.receive count system) (other.receive count system')
  send : ∀ data {system system'}, related system system' →
    AnswersAlike related broken (one.send data system) (other.send data system')

namespace Alike

variable {one : Transport K N} {other : Transport L N} {related broken : K → L → Prop}

theorem symm (alike : one.Alike other related broken) :
    other.Alike one (flip related) (flip broken) where
  receive count _ _ kept := (alike.receive count kept).symm
  send data _ _ kept := (alike.send data kept).symm

theorem advance (alike : one.Alike other related broken) {here there : Execution K N S E α}
    {here' : Execution L N S E α} (same : here.Alike related broken here')
    (moved : one.advance here = some there) :
    ∃ there', other.advance here' = some there' ∧ there.Alike related broken there' := by
  cases same with
  | thrown exception state kept => cases moved
  | running config kept =>
      obtain ⟨state, program⟩ := config
      cases program with
      | ret | fail => cases moved
      | get next | put written next | loop body start next =>
          cases moved
          exact ⟨_, rfl, .running _ kept⟩
      | send data next =>
          have answers := alike.send data kept
          simp only [Transport.advance] at moved ⊢
          generalize one.send data _ = answer at moved answers
          generalize other.send data _ = answer' at answers ⊢
          cases answers with
          | ok kept' =>
              cases moved
              exact ⟨_, rfl, .running _ kept'⟩
          | error kept' =>
              cases moved
              exact ⟨_, rfl, .thrown _ _ kept'⟩
      | recv count next =>
          have answers := alike.receive count kept
          simp only [Transport.advance] at moved ⊢
          generalize one.receive count _ = answer at moved answers
          generalize other.receive count _ = answer' at answers ⊢
          cases answers with
          | ok kept' =>
              cases moved
              exact ⟨_, rfl, .running _ kept'⟩
          | error kept' =>
              cases moved
              exact ⟨_, rfl, .thrown _ _ kept'⟩

theorem carries (alike : one.Alike other related broken) {here there : Execution K N S E α}
    {here' : Execution L N S E α} (same : here.Alike related broken here')
    (carried : one.Carries here there) :
    ∃ there', other.Carries here' there' ∧ there.Alike related broken there' := by
  induction carried with
  | refl => exact ⟨here', .refl, same⟩
  | tail _ moved ih =>
      obtain ⟨middle', carried', alike'⟩ := ih
      obtain ⟨there', moved', alike''⟩ := alike.advance alike' moved
      exact ⟨there', carried'.tail moved', alike''⟩

/-- More may be known of the systems behind an exception. -/
theorem behind {broken' : K → L → Prop} (alike : one.Alike other related broken)
    (implies : ∀ system system', broken system system' → broken' system system') :
    one.Alike other related broken' where
  receive _ _ _ kept := (alike.receive _ kept).behind implies
  send _ _ _ kept := (alike.send _ kept).behind implies

/-- Two transports that answer as a third one does. -/
theorem through {M : Type} {third : Transport M N} {related' broken' : M → L → Prop}
    {middle : K → M → Prop} {middle' : K → M → Prop} (alike : one.Alike third middle middle')
    (alike' : third.Alike other related' broken') :
    one.Alike other (fun system system' => ∃ between, middle system between ∧
        related' between system')
      fun system system' => ∃ between, middle' system between ∧ broken' between system' where
  receive := by
    rintro count system system' ⟨between, first, second⟩
    exact (alike.receive count first).trans (alike'.receive count second)
  send := by
    rintro data system system' ⟨between, first, second⟩
    exact (alike.send data first).trans (alike'.send data second)

end Alike

/-! ## A stream of bytes -/

/-- The bytes still to come and the bytes sent.  A receive of none is answered like one of
too many. -/
def pipe (closed : N) : Transport (Bytes × Bytes) N where
  receive count stream :=
    if count = 0 then (.error closed, stream)
    else if stream.1.length < count then (.error closed, ([], stream.2))
    else (.ok (stream.1.take count), (stream.1.drop count, stream.2))
  send data stream := (.ok (), (stream.1, stream.2 ++ data))

section Pipe

variable {closed exception : N} {config after final : Config S E α} {state state' : S}
  {left left' sent sent' input output rest : Bytes}

theorem pipe_step (moved : (pipe closed).advance (.running config (left, sent)) =
      some (.running after (left', sent'))) :
    ∃ taken given, Runs config taken given after ∧ left = taken ++ left' ∧
      sent' = sent ++ given := by
  obtain ⟨state, program⟩ := config
  cases program with
  | ret | fail => cases moved
  | get next =>
      cases moved
      exact ⟨[], [], .get (.refl _), rfl, (List.append_nil _).symm⟩
  | put written next =>
      cases moved
      exact ⟨[], [], .put (.refl _), rfl, (List.append_nil _).symm⟩
  | loop body start next =>
      cases moved
      exact ⟨[], [], .loop (.refl _), rfl, (List.append_nil _).symm⟩
  | send data next =>
      cases moved
      have run : Runs ⟨state, .send data next⟩ [] (data ++ []) ⟨state, next⟩ := .send (.refl _)
      rw [List.append_nil] at run
      exact ⟨[], data, run, rfl, rfl⟩
  | recv count next =>
      simp only [Transport.advance, pipe] at moved
      split at moved
      · rename_i answered
        split at answered
        · cases answered
        · split at answered
          · cases answered
          · rename_i enough
            cases answered
            cases moved
            have run := Runs.recv (List.length_take_of_le (not_lt.mp enough))
              (Runs.refl (⟨state, next (left.take count)⟩ : Config S E α))
            rw [List.append_nil] at run
            exact ⟨left.take count, [], run, (List.take_append_drop _ _).symm,
              (List.append_nil _).symm⟩
      · cases moved

theorem pipe_throws (moved : (pipe closed).advance (.running config (left, sent)) =
      some (.thrown exception state (left', sent'))) :
    exception = closed ∧ sent' = sent ∧ ∃ count next,
      config = ⟨state, .recv count next⟩ ∧ (count = 0 ∨ left.length < count) := by
  obtain ⟨before, program⟩ := config
  cases program with
  | ret | fail | get | put | loop | send => cases moved
  | recv count next =>
      simp only [Transport.advance, pipe] at moved
      split at moved
      · cases moved
      · rename_i answered
        split at answered
        · rename_i nothing
          cases answered
          cases moved
          exact ⟨rfl, rfl, count, next, rfl, .inl nothing⟩
        · split at answered
          · rename_i few
            cases answered
            cases moved
            exact ⟨rfl, rfl, count, next, rfl, .inr few⟩
          · cases answered

/-- The part of an execution on the ideal channel: a run that has come as far, or to the
receive that was refused. -/
def Follows (closed : N) (config : Config S E α) (left sent : Bytes) :
    Execution (Bytes × Bytes) N S E α → Prop
  | .running final stream => ∃ input output, Runs config input output final ∧
      left = input ++ stream.1 ∧ stream.2 = sent ++ output
  | .thrown exception state stream => exception = closed ∧ ∃ input output rest count next,
      Runs config input output ⟨state, .recv count next⟩ ∧ left = input ++ rest ∧
        stream.2 = sent ++ output ∧ (count = 0 ∨ rest.length < count)

theorem pipe_follows {there : Execution (Bytes × Bytes) N S E α}
    (carried : (pipe closed).Carries (.running config (left, sent)) there) :
    Follows closed config left sent there := by
  induction carried with
  | refl => exact ⟨[], [], .refl config, rfl, (List.append_nil _).symm⟩
  | @tail here there _ moved ih =>
      cases here with
      | thrown => cases moved
      | running middle stream =>
          obtain ⟨input, output, run, rfl, written⟩ := ih
          cases there with
          | running final stream' =>
              obtain ⟨taken, given, steps, arrived, gone⟩ := pipe_step moved
              refine ⟨input ++ taken, output ++ given, run.trans steps, ?_, ?_⟩
              · rw [arrived, List.append_assoc]
              · rw [gone, written, List.append_assoc]
          | thrown exception state stream' =>
              obtain ⟨rfl, same, count, next, rfl, refused⟩ := pipe_throws moved
              exact ⟨rfl, input, output, stream.1, count, next, run, rfl, same.trans written,
                refused⟩

/-- A step on the channel, unless it receives nothing. -/
theorem pipe_advances (closed : N) (moved : config.advance input = some (after, rest, output))
    (more before : Bytes) : (∃ next, config.prog = .recv 0 next) ∨
      (pipe closed).advance (.running config (input ++ more, before)) =
        some (.running after (rest ++ more, before ++ output)) := by
  cases Config.advance_cases moved with
  | get | put | loop =>
      rw [List.append_nil]
      exact .inr rfl
  | send => exact .inr rfl
  | @recv state count next _ enough =>
      rcases Nat.eq_zero_or_pos count with rfl | positive
      · exact .inl ⟨next, rfl⟩
      · have longer : ¬ (input ++ more).length < count := by
          rw [List.length_append]
          omega
        right
        simp only [Transport.advance, pipe, if_neg positive.ne', if_neg longer,
          List.take_append_of_le_length enough, List.drop_append_of_le_length enough,
          List.append_nil]

/-- A run on the channel is an execution, or there is one that ends at a receive of nothing. -/
theorem runs_pipe (closed : N) (run : Runs config input output final) (rest : Bytes) :
    ∀ before, (pipe closed).Carries (.running config (input ++ rest, before))
        (.running final (rest, before ++ output)) ∨
      ∃ state next front back early late, Runs config front early ⟨state, .recv 0 next⟩ ∧
        input = front ++ back ∧ output = early ++ late ∧
        (pipe closed).Carries (.running config (input ++ rest, before))
          (.thrown closed state (back ++ rest, before ++ early)) := by
  induction run with
  | refl config =>
      intro before
      rw [List.append_nil]
      exact .inl .refl
  | @step config middle final input left sent output moved remaining ih =>
      intro before
      rcases pipe_advances closed moved rest before with ⟨next, asks⟩ | advanced
      · obtain ⟨state, program⟩ := config
        cases asks
        refine .inr ⟨state, next, [], input, [], sent ++ output, .refl _, rfl, rfl, .single ?_⟩
        rw [List.append_nil]
        rfl
      · rcases ih (before ++ sent) with carried | ⟨state, next, front, back, early, late, run, read,
          written, carried⟩
        · rw [List.append_assoc] at carried
          exact .inl (.head advanced carried)
        · obtain ⟨-, remains⟩ := Config.advance_consumes moved
          have step := Config.advance_append (Config.advance_exact moved) front
          refine .inr ⟨state, next, input.take config.demand ++ front, back, sent ++ early, late,
            .step step run, ?_, ?_, .head advanced ?_⟩
          · rw [List.append_assoc, ← read, remains, List.take_append_drop]
          · rw [written, List.append_assoc]
          · rwa [List.append_assoc] at carried

end Pipe

end Transport

end EasyRtmp.Lib
