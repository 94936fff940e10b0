import EasyRtmp.Lib.ChannelLogic

/-!
# Scripts of requests and replies

A script makes requests in its order and waits, where it says so, for a message that
approves.  `requested` are the requests that some messages call for, and `ending` is where
they leave the script.  A program performs the script if its calls keep `Performs`: then
in every run it has sent what the messages that it has taken call for, or the beginning
of it.
-/

set_option autoImplicit false

namespace EasyRtmp.Lib

open ByteCodec

/-! ## What messages make of a script -/

inductive ScriptStep (C R : Type) where
  | request (request : C)
  | wait (reply : R)

abbrev Script (C R : Type) := List (ScriptStep C R)

/-- What a wait makes of a message. -/
inductive Verdict (E : Type) where
  | ignored
  | approved
  | stopped (error : E)

/-- Where messages leave a wait or a script; `later` are those that it did not take. -/
inductive ScriptEnd (E M : Type) where
  | waiting
  | completed (later : List M)
  | stopped (error : E)

section Script

variable {C R M E : Type}

/-- The first message that is not ignored decides. -/
def awaited (judge : M → Verdict E) : List M → ScriptEnd E M
  | [] => .waiting
  | message :: later =>
      match judge message with
      | .ignored => awaited judge later
      | .approved => .completed later
      | .stopped error => .stopped error

variable (judge : R → M → Verdict E)

def Script.requested : Script C R → List M → List C
  | [], _ => []
  | .request request :: rest, messages => request :: requested rest messages
  | .wait reply :: rest, messages =>
      match awaited (judge reply) messages with
      | .completed later => requested rest later
      | .waiting | .stopped _ => []

def Script.ending : Script C R → List M → ScriptEnd E M
  | [], messages => .completed messages
  | .request _ :: rest, messages => ending rest messages
  | .wait reply :: rest, messages =>
      match awaited (judge reply) messages with
      | .completed later => ending rest later
      | .waiting => .waiting
      | .stopped error => .stopped error

variable {judge}

theorem awaited_ignored {wait : M → Verdict E} {skipped : List M}
    (ignored : ∀ message ∈ skipped, wait message = .ignored) (later : List M) :
    awaited wait (skipped ++ later) = awaited wait later := by
  induction skipped with
  | nil => rfl
  | cons message skipped ih =>
      rw [List.cons_append, awaited, ignored message List.mem_cons_self]
      exact ih fun other member => ignored other (List.mem_cons_of_mem _ member)

/-- The messages are all ignored, or there is a first one that is not. -/
theorem awaited_cases (wait : M → Verdict E) (messages : List M) :
    ((∀ message ∈ messages, wait message = .ignored) ∧ awaited wait messages = .waiting) ∨
    ∃ skipped message later, messages = skipped ++ message :: later ∧
      (∀ earlier ∈ skipped, wait earlier = .ignored) ∧
      ((wait message = .approved ∧ awaited wait messages = .completed later) ∨
        ∃ error, wait message = .stopped error ∧ awaited wait messages = .stopped error) := by
  induction messages with
  | nil => exact .inl ⟨List.forall_mem_nil _, rfl⟩
  | cons message messages ih =>
      cases judged : wait message with
      | ignored =>
          have same : awaited wait (message :: messages) = awaited wait messages := by
            rw [awaited, judged]
          have extend : ∀ {skipped : List M}, (∀ earlier ∈ skipped, wait earlier = .ignored) →
              ∀ earlier ∈ message :: skipped, wait earlier = .ignored := by
            intro skipped ignored earlier member
            rcases List.mem_cons.mp member with rfl | member
            · exact judged
            · exact ignored earlier member
          rw [same]
          rcases ih with ⟨ignored, waiting⟩ | ⟨skipped, first, later, rfl, ignored, decided⟩
          · exact .inl ⟨extend ignored, waiting⟩
          · exact .inr ⟨message :: skipped, first, later, rfl, extend ignored, decided⟩
      | approved =>
          refine .inr ⟨[], message, messages, rfl, List.forall_mem_nil _, ?_⟩
          exact .inl ⟨judged, by rw [awaited, judged]⟩
      | stopped error =>
          refine .inr ⟨[], message, messages, rfl, List.forall_mem_nil _, ?_⟩
          exact .inr ⟨error, judged, by rw [awaited, judged]⟩

theorem awaited_approved {wait : M → Verdict E} {skipped : List M} {message : M}
    (ignored : ∀ earlier ∈ skipped, wait earlier = .ignored)
    (approved : wait message = .approved) (later : List M) :
    awaited wait (skipped ++ message :: later) = .completed later := by
  rw [awaited_ignored ignored, awaited, approved]

end Script

/-! ## Programs that send nothing -/

section Mute

variable {S T E α β : Type}

def Mute {S E α : Type} : Prog S E α → Prop
  | .ret _ => True
  | .fail _ => True
  | .get next => ∀ state, Mute (next state)
  | .put _ next => Mute next
  | .send _ _ => False
  | .recv _ next => ∀ data, Mute (next data)
  | .loop body _ next => (∀ here, Mute (body here)) ∧ ∀ value, Mute (next value)

namespace Mute

theorem bind {program : Prog S E α} {next : α → Prog S E β} (first : Mute program)
    (rest : ∀ value, Mute (next value)) : Mute (program >>= next) := by
  rw [Prog.bind_eq]
  induction program with
  | ret value => exact rest value
  | fail error => trivial
  | get continue_ ih => exact fun state => ih state (first state) rest
  | put state continue_ ih => exact ih first rest
  | send data continue_ => exact first.elim
  | recv count continue_ ih => exact fun data => ih data (first data) rest
  | loop body start continue_ _ ih => exact ⟨first.1, fun value => ih value (first.2 value) rest⟩

theorem pure (value : α) : Mute (pure value : Prog S E α) := trivial

theorem fail (error : E) : Mute (.fail error : Prog S E α) := trivial

theorem getState : Mute (Prog.getState : Prog S E S) := fun _ => trivial

theorem putState (state : S) : Mute (Prog.putState state : Prog S E Unit) := trivial

theorem modifyState (change : S → S) : Mute (Prog.modifyState change : Prog S E Unit) :=
  fun _ => trivial

theorem recvBytes (count : Nat) : Mute (Prog.recvBytes count : Prog S E Bytes) := fun _ => trivial

theorem ofExcept (result : Except E α) : Mute (Prog.ofExcept result : Prog S E α) := by
  cases result <;> trivial

theorem repeatUntil {σ : Type} {body : σ → Prog S E (σ ⊕ β)} {start : σ}
    (bodies : ∀ here, Mute (body here)) : Mute (Prog.repeatUntil body start) :=
  ⟨bodies, fun _ => trivial⟩

theorem zoom {program : Prog S E α} (mute : Mute program) (lens : Lens T S) :
    Mute (program.zoom lens) := by
  induction program with
  | ret | fail => trivial
  | get continue_ ih => exact fun whole => ih _ (mute _)
  | put part continue_ ih => exact fun _ => ih mute
  | send data continue_ => exact mute.elim
  | recv count continue_ ih => exact fun data => ih data (mute data)
  | loop body start continue_ bodies ih =>
      exact ⟨fun here => bodies here (mute.1 here), fun value => ih value (mute.2 value)⟩

theorem run {config final : Config S E α} {input output : Bytes} (mute : Mute config.prog)
    (run : Runs config input output final) : output = [] := by
  induction run with
  | refl => rfl
  | step moved _ ih =>
      cases Config.advance_cases moved with
      | get state => exact ih (mute state)
      | put => exact ih mute
      | send => exact mute.elim
      | recv => exact ih (mute _)
      | loop _ body start next =>
          refine ih (bind (mute.1 start) fun result => ?_)
          cases result with
          | inl again => exact mute
          | inr value => exact mute.2 value

end Mute

end Mute

-- From here on the rules above stand for the definition.
attribute [irreducible] Mute

/-! ## Runs of a sequence and of a call -/

section Runs

variable {S E α β : Type}

/-- No step is possible before there are more bytes. -/
def Blocked (config : Config S E α) : Prop :=
  ∃ count next, 0 < count ∧ config.prog = .recv count next

theorem Blocked.bind {config : Config S E α} (blocked : Blocked config) (next : α → Prog S E β) :
    Blocked ⟨config.state, config.prog >>= next⟩ := by
  obtain ⟨count, rest, positive, isRecv⟩ := blocked
  refine ⟨count, fun data => rest data >>= next, positive, ?_⟩
  rw [isRecv, Prog.recv_bind]

/-- A run of a sequence is amid its first part, or that has returned. -/
theorem Runs.bind_split {program : Prog S E α} {next : α → Prog S E β} {before : S}
    {final : Config S E β} {input output : Bytes}
    (run : Runs ⟨before, program >>= next⟩ input output final) :
    (∃ middle : Config S E α, Runs ⟨before, program⟩ input output middle ∧
      ∀ value, final.prog ≠ .ret value) ∨
    ∃ value middle front back sent later, Returns program before front sent value middle ∧
      Runs ⟨middle, next value⟩ back later final ∧ input = front ++ back ∧
        output = sent ++ later := by
  rcases Runs.bind_inv run rfl with ⟨⟨after, rest⟩, amid, rfl⟩ | returned
  · cases rest with
    | ret value =>
        exact .inr ⟨value, after, input, [], output, [], amid, .refl _,
          (List.append_nil input).symm, (List.append_nil output).symm⟩
    | fail | get | put | send | recv | loop =>
        exact .inl ⟨_, amid, fun value isRet => by cases isRet⟩
  · exact .inr returned

theorem Returns.of_pure {value value' : α} {before after : S} {input output : Bytes}
    (call : Returns (.ret value : Prog S E α) before input output value' after) :
    value' = value ∧ after = before ∧ input = [] ∧ output = [] := by
  obtain ⟨same, rfl, rfl⟩ := Runs.of_finished (Returns.finished value before) call
  cases same
  exact ⟨rfl, rfl, rfl, rfl⟩

/-- What a call has sent is the beginning of what it sends. -/
theorem Returns.sent_prefix {program : Prog S E α} {before after : S} {value : α}
    {sent input output : Bytes} {config : Config S E α}
    (call : Returns program before [] sent value after)
    (run : Runs ⟨before, program⟩ input output config) : ∃ more, sent = output ++ more := by
  have stream : [] ++ input = input ++ [] := by rw [List.nil_append, List.append_nil]
  rcases Runs.comparable call run stream with ⟨extra, more, beyond, -, isOutput⟩ |
    ⟨extra, more, -, -, isSent⟩
  · obtain ⟨-, -, rfl⟩ := Runs.of_finished (Returns.finished value after) beyond
    exact ⟨[], by rw [isOutput, List.append_nil, List.append_nil]⟩
  · exact ⟨more, isSent⟩

end Runs

/-! ## Programs that perform a script -/

section Perform

variable {C R M S E V W : Type}

def Script.perform (send : C → Prog S E Unit) (wait : R → Prog S E Unit) :
    Script C R → Prog S E Unit
  | [] => pure ()
  | .request request :: rest => do
      send request
      perform send wait rest
  | .wait reply :: rest => do
      wait reply
      perform send wait rest

/-- Bytes are read as items, some and then more. -/
structure Delivering (Reads : V → Bytes → List M → V → Prop) : Prop where
  none : ∀ reader, Reads reader [] [] reader
  trans : ∀ {first middle last : V} {front back : Bytes} {items later : List M},
    Reads first front items middle → Reads middle back later last →
      Reads first (front ++ back) (items ++ later) last

/-- `Linked state receiver observer` ties the performer to a receiver, which `Takes` the
messages, and to an observer, who `Reads` the requests. -/
structure Performs (send : C → Prog S E Unit) (wait : R → Prog S E Unit)
    (judge : R → M → Verdict E) (Takes : V → Bytes → List M → V → Prop)
    (Reads : W → Bytes → List C → W → Prop) (Linked : S → V → W → Prop) : Prop where
  takes : Delivering Takes
  reads : Delivering Reads
  takes_split : ∀ {first last : V} {wire : Bytes} {messages later : List M},
    Takes first wire (messages ++ later) last → ∃ front back middle, wire = front ++ back ∧
      Takes first front messages middle ∧ Takes middle back later last
  sends : ∀ {state : S} {receiver : V} {observer : W} (request : C),
    Linked state receiver observer → ∃ output after observer',
      Returns (send request) state [] output () after ∧
        Reads observer output [request] observer' ∧ Linked after receiver observer'
  mute : ∀ reply, Mute (wait reply)
  ignored : ∀ {state : S} {receiver receiver' : V} {observer : W} {input : Bytes}
    {messages : List M} (reply : R), Linked state receiver observer →
      Takes receiver input messages receiver' →
      (∀ message ∈ messages, judge reply message = .ignored) →
        ∃ config, Runs ⟨state, wait reply⟩ input [] config ∧ Blocked config
  approved : ∀ {state : S} {receiver receiver' : V} {observer : W} {input : Bytes}
    {skipped : List M} {message : M} (reply : R), Linked state receiver observer →
      Takes receiver input (skipped ++ [message]) receiver' →
      (∀ earlier ∈ skipped, judge reply earlier = .ignored) → judge reply message = .approved →
        ∃ after, Returns (wait reply) state input [] () after ∧ Linked after receiver' observer
  stopped : ∀ {state : S} {receiver receiver' : V} {observer : W} {input : Bytes}
    {skipped : List M} {message : M} {error : E} (reply : R), Linked state receiver observer →
      Takes receiver input (skipped ++ [message]) receiver' →
      (∀ earlier ∈ skipped, judge reply earlier = .ignored) →
      judge reply message = .stopped error →
        ∃ after, Fails (wait reply) state input [] error after
  returned : ∀ {state after : S} {receiver : V} {observer : W} {input output : Bytes} {reply : R},
    Linked state receiver observer → Returns (wait reply) state input output () after →
      ∃ skipped message receiver', Takes receiver input (skipped ++ [message]) receiver' ∧
        (∀ earlier ∈ skipped, judge reply earlier = .ignored) ∧
        judge reply message = .approved ∧ Linked after receiver' observer

variable {send : C → Prog S E Unit} {wait : R → Prog S E Unit} {judge : R → M → Verdict E}
  {Takes : V → Bytes → List M → V → Prop} {Reads : W → Bytes → List C → W → Prop}
  {Linked : S → V → W → Prop}

/-- How a performance ends in front of the bytes `back`. -/
def ScriptEnd.Stands (Takes : V → Bytes → List M → V → Prop) (Linked : S → V → W → Prop)
    (back : Bytes) (last : V) (config : Config S E Unit) (observer : W) : ScriptEnd E M → Prop
  | .waiting => back = [] ∧ Blocked config
  | .completed later => config.prog = .ret () ∧
      ∃ receiver, Takes receiver back later last ∧ Linked config.state receiver observer
  | .stopped error => config.prog = .fail error

/-- Messages that come are answered with the requests that they call for. -/
theorem Script.performed (performs : Performs send wait judge Takes Reads Linked)
    (script : Script C R) : ∀ {state : S} {receiver last : V} {observer : W} {wire : Bytes}
      {messages : List M}, Linked state receiver observer → Takes receiver wire messages last →
      ∃ front back output config observer', wire = front ++ back ∧
        Runs ⟨state, script.perform send wait⟩ front output config ∧
        Reads observer output (script.requested judge messages) observer' ∧
        (script.ending judge messages).Stands Takes Linked back last config observer' := by
  induction script with
  | nil =>
      intro state receiver last observer wire messages linked takes
      exact ⟨[], wire, [], _, observer, rfl, .refl _, performs.reads.none observer, rfl,
        receiver, takes, linked⟩
  | cons step rest ih =>
      intro state receiver last observer wire messages linked takes
      cases step with
      | request request =>
          obtain ⟨output, after, observer₁, call, read, linked₁⟩ := performs.sends request linked
          obtain ⟨front, back, later, config, observer₂, rfl, run, reads, stands⟩ :=
            ih linked₁ takes
          exact ⟨front, back, output ++ later, config, observer₂, rfl, Runs.bind call run,
            performs.reads.trans read reads, stands⟩
      | wait reply =>
          rcases awaited_cases (judge reply) messages with ⟨ignored, waiting⟩ |
            ⟨skipped, message, later, rfl, ignored, decided⟩
          · obtain ⟨config, run, blocked⟩ := performs.ignored reply linked takes ignored
            refine ⟨wire, [], [], _, observer, (List.append_nil wire).symm, run.bindLeft _, ?_, ?_⟩
            · rw [Script.requested, waiting]
              exact performs.reads.none observer
            · rw [Script.ending, waiting]
              exact ⟨rfl, blocked.bind _⟩
          · rw [List.append_cons] at takes
            obtain ⟨front, back, middle, rfl, taken, behind⟩ := performs.takes_split takes
            rcases decided with ⟨approved, completed⟩ | ⟨error, stops, stopped⟩
            · obtain ⟨after, call, linked₁⟩ := performs.approved reply linked taken ignored approved
              obtain ⟨front', back', output, config, observer', rfl, run, reads, stands⟩ :=
                ih linked₁ behind
              refine ⟨front ++ front', back', output, config, observer',
                (List.append_assoc ..).symm, Runs.bind call run, ?_, ?_⟩
              · rw [Script.requested, completed]
                exact reads
              · rw [Script.ending, completed]
                exact stands
            · obtain ⟨after, call⟩ := performs.stopped reply linked taken ignored stops
              refine ⟨front, back, [], _, observer, rfl, call.bindLeft _, ?_, ?_⟩
              · rw [Script.requested, stopped]
                exact performs.reads.none observer
              · rw [Script.ending, stopped]
                rfl

/-- At every moment of every run, whatever bytes arrive: what was sent is the beginning of
the requests that the messages taken from them call for. -/
theorem Script.sent_requested (performs : Performs send wait judge Takes Reads Linked)
    (script : Script C R) : ∀ {state : S} {receiver : V} {observer : W} {input output : Bytes}
      {config : Config S E Unit}, Linked state receiver observer →
      Runs ⟨state, script.perform send wait⟩ input output config →
      ∃ whole part messages now more observer', input = whole ++ part ∧
        Takes receiver whole messages now ∧
        Reads observer (output ++ more) (script.requested judge messages) observer' ∧
        (config.prog = .ret () → part = [] ∧ more = [] ∧
          script.ending judge messages = .completed [] ∧ Linked config.state now observer') := by
  induction script with
  | nil =>
      intro state receiver observer input output config linked run
      obtain ⟨rfl, rfl, rfl⟩ := Runs.of_finished (Returns.finished () state) run
      exact ⟨[], [], [], receiver, [], observer, rfl, performs.takes.none receiver,
        performs.reads.none observer, fun _ => ⟨rfl, rfl, rfl, linked⟩⟩
  | cons step rest ih =>
      intro state receiver observer input output config linked run
      cases step with
      | request request =>
          obtain ⟨sent, after, observer₁, call, read, linked₁⟩ := performs.sends request linked
          rcases Runs.bind_split run with ⟨middle, amid, unfinished⟩ |
            ⟨_, after', front, back, sent', later, call', run', rfl, rfl⟩
          · -- nothing has been taken yet
            obtain ⟨more, rfl⟩ := call.sent_prefix amid
            obtain ⟨-, -, next, -, observer₂, -, -, reads, -⟩ :=
              Script.performed performs rest linked₁ (performs.takes.none receiver)
            refine ⟨[], input, [], receiver, more ++ next, observer₂, rfl,
              performs.takes.none receiver, ?_, fun isRet => (unfinished () isRet).elim⟩
            rw [← List.append_assoc]
            exact performs.reads.trans read reads
          · obtain ⟨-, rfl, rfl, rfl⟩ := call'.unique call
              (show front ++ [] = [] ++ front from List.append_nil front)
            obtain ⟨whole, part, messages, now, more, observer₂, rfl, takes, reads, returned⟩ :=
              ih linked₁ run'
            refine ⟨whole, part, messages, now, more, observer₂, rfl, takes, ?_, returned⟩
            rw [List.append_assoc]
            exact performs.reads.trans read reads
      | wait reply =>
          rcases Runs.bind_split run with ⟨middle, amid, unfinished⟩ |
            ⟨_, after, front, back, sent, later, call, run', rfl, rfl⟩
          · obtain rfl := (performs.mute reply).run amid
            exact ⟨[], input, [], receiver, [], observer, rfl, performs.takes.none receiver,
              performs.reads.none observer, fun isRet => (unfinished () isRet).elim⟩
          · obtain rfl := (performs.mute reply).run call
            obtain ⟨skipped, message, receiver₁, taken, ignored, approved, linked₁⟩ :=
              performs.returned linked call
            obtain ⟨whole, part, messages, now, more, observer', rfl, takes, reads, returned⟩ :=
              ih linked₁ run'
            have completed : awaited (judge reply) ((skipped ++ [message]) ++ messages) =
                .completed messages := by
              rw [List.append_assoc]
              exact awaited_approved ignored approved messages
            refine ⟨front ++ whole, part, (skipped ++ [message]) ++ messages, now, more, observer',
              (List.append_assoc ..).symm, performs.takes.trans taken takes, ?_, ?_⟩
            · rw [Script.requested, completed]
              exact reads
            · rw [Script.ending, completed]
              exact returned

end Perform

end EasyRtmp.Lib
