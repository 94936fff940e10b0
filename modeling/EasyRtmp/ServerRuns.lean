import EasyRtmp.ChunkSizes
import EasyRtmp.Sentinels
import EasyRtmp.ServerMessages

/-!
# What the server makes of its messages

The calls of `GetRTMPMessage` go on as if only the accepted messages had arrived: a
rejected one ends its call in an exception and leaves the parameters, the chunk sizes
and the bytes sent as they were.
-/

set_option autoImplicit false

namespace EasyRtmp

open Lib Lib.ByteCodec AMFValue

/-! ## Runs of the endpoint -/

/-- The loop of `GetRTMPMessage` and `HandleMessage`, which goes on when the latter throws. -/
inductive Delivers (start : RTMPEndpoint) : Bytes → List RTMPMessage → RTMPEndpoint → Prop where
  | start : Delivers start [] [] start
  | message {wire input : Bytes} {messages : List RTMPMessage} {message : RTMPMessage}
      {now heard next : RTMPEndpoint} (before : Delivers start wire messages now)
      (call : Returns getRTMPMessage now input [] message heard)
      (passed : PassesOn (.inr message) heard next) :
      Delivers start (wire ++ input) (messages ++ [message]) next

/-! ## Calls of the session -/

/-- What can be seen of a session: its parameters, both chunk sizes and all that was sent. -/
structure Served where
  clientParameters : ClientParameters
  chunkSizeSend : Nat
  chunkSizeReceive : Nat
  sent : Bytes

def RTMPServerSession.served (session : RTMPServerSession) (sent : Bytes) : Served :=
  ⟨session.clientParameters, session.endpoint.chunkSizeSend, session.endpoint.chunkSizeReceive,
    sent⟩

abbrev CallEnd := Except Stop RTMPMediaMessage × Served

/-- Calls of `GetRTMPMessage`, a new one after each return and each exception. -/
inductive Calls (start : RTMPServerSession) :
    Bytes → Bytes → List CallEnd → RTMPServerSession → Prop where
  | none : Calls start [] [] [] start
  | returned {wire sent input output : Bytes} {ends : List CallEnd}
      {session after : RTMPServerSession} {media : RTMPMediaMessage}
      (before : Calls start wire sent ends session)
      (call : Returns RTMPServerSession.getRTMPMessage session input output media after) :
      Calls start (wire ++ input) (sent ++ output)
        (ends ++ [(.ok media, after.served (sent ++ output))]) after
  | threw {wire sent input output : Bytes} {ends : List CallEnd}
      {session after : RTMPServerSession} {stop : Stop}
      (before : Calls start wire sent ends session)
      (call : Fails RTMPServerSession.getRTMPMessage session input output stop after)
      (thrown : ¬ stop.IsFault) :
      Calls start (wire ++ input) (sent ++ output)
        (ends ++ [(.error stop, after.served (sent ++ output))]) after

/-- Calls that have ended, and one that is back at the head of its loop. -/
def Serves (start : RTMPServerSession) (wire sent : Bytes) (ends : List CallEnd)
    (now : RTMPServerSession) : Prop :=
  ∃ session front back early later, Calls start front early ends session ∧
    Runs ⟨session, RTMPServerSession.getRTMPMessage⟩ back later
      ⟨now, RTMPServerSession.getRTMPMessage⟩ ∧
    wire = front ++ back ∧ sent = early ++ later

/-! ## What the messages ask for -/

def accepted (messages : List RTMPMessage) : List RTMPMessage :=
  messages.filter fun message => !message.rejected

/-- A message that a call ends with. -/
def RTMPMessage.endsCall (message : RTMPMessage) : Bool := message.rejected || message.isMedia

/-- The messages that calls end with, each behind the ones before it. -/
def endings (before : List RTMPMessage) :
    List RTMPMessage → List (List RTMPMessage × RTMPMessage)
  | [] => []
  | message :: rest =>
      (if message.endsCall then [(before, message)] else []) ++
        endings (before ++ [message]) rest

/-- `HandleAMF`, on one value after the other. -/
inductive Applies : RTMPServerSession → List AMFValue → Bytes → RTMPServerSession → Prop where
  | none (session : RTMPServerSession) : Applies session [] [] session
  | command {session middle after : RTMPServerSession} {root : AMFValue} {roots : List AMFValue}
      {output sent : Bytes}
      (call : Returns (RTMPServerSession.handleAMF root) session [] output () middle)
      (rest : Applies middle roots sent after) :
      Applies session (root :: roots) (output ++ sent) after

/-- The chunk size that the messages set last. -/
def chunkSizeAfter (size : Nat) (messages : List RTMPMessage) : Nat :=
  messages.foldl (fun size message => (announcedSize message).getD size) size

/-- What is seen after the messages is what they alone lead to. -/
def Reflects (start : RTMPServerSession) (messages : List RTMPMessage) (served : Served) : Prop :=
  ∃ applied, Applies start (messages.filterMap RTMPMessage.command?) served.sent applied ∧
    served.clientParameters = applied.clientParameters ∧
    served.chunkSizeSend = start.endpoint.chunkSizeSend ∧
    served.chunkSizeReceive = chunkSizeAfter start.endpoint.chunkSizeReceive messages

/-- A rejected message ends its call with an exception, a media message with its return,
and what is then seen reflects the accepted messages before it. -/
def EndsAs (start : RTMPServerSession) (ending : List RTMPMessage × RTMPMessage)
    (callEnd : CallEnd) : Prop :=
  (if ending.2.rejected then ∃ stop, ¬ stop.IsFault ∧ callEnd.1 = .error stop
    else ∃ media, Carries ending.2 media ∧ callEnd.1 = .ok media) ∧
  Reflects start (accepted ending.1) callEnd.2

def CallEnd.media? (callEnd : CallEnd) : Option RTMPMediaMessage := callEnd.1.toOption

def CallEnd.returns (callEnd : CallEnd) : Bool := callEnd.media?.isSome

/-! ## Passes -/

section Passes
variable {start session after : RTMPServerSession} {wire sent input output : Bytes}
  {ends : List CallEnd}

theorem Serves.none (session : RTMPServerSession) : Serves session [] [] [] session :=
  ⟨session, [], [], [], [], .none, .refl _, rfl, rfl⟩

theorem Serves.waits (serves : Serves start wire sent ends session)
    (pass : Returns RTMPServerSession.serverPass session input output (.inl ()) after) :
    Serves start (wire ++ input) (sent ++ output) ends after := by
  obtain ⟨entered, front, back, early, later, calls, run, rfl, rfl⟩ := serves
  exact ⟨entered, front, back ++ input, early, later ++ output, calls,
    run.trans (Runs.loop_again pass), List.append_assoc .., List.append_assoc ..⟩

theorem Serves.returns {media : RTMPMediaMessage} (serves : Serves start wire sent ends session)
    (pass : Returns RTMPServerSession.serverPass session input output (.inr media) after) :
    Serves start (wire ++ input) (sent ++ output)
      (ends ++ [(.ok media, after.served (sent ++ output))]) after := by
  obtain ⟨entered, front, back, early, later, calls, run, rfl, rfl⟩ := serves
  have call := calls.returned (run.trans (Runs.loop_done pass))
  rw [← List.append_assoc, ← List.append_assoc] at call
  exact ⟨after, _, [], _, [], call, .refl _, (List.append_nil _).symm, (List.append_nil _).symm⟩

theorem Serves.throws {stop : Stop} (serves : Serves start wire sent ends session)
    (pass : Fails RTMPServerSession.serverPass session input output stop after)
    (thrown : ¬ stop.IsFault) :
    Serves start (wire ++ input) (sent ++ output)
      (ends ++ [(.error stop, after.served (sent ++ output))]) after := by
  obtain ⟨entered, front, back, early, later, calls, run, rfl, rfl⟩ := serves
  have call := calls.threw (run.trans (Runs.loop (pass.bind _))) thrown
  rw [← List.append_assoc, ← List.append_assoc] at call
  exact ⟨after, _, [], _, [], call, .refl _, (List.append_nil _).symm, (List.append_nil _).symm⟩

end Passes

/-! ## Messages one after the other -/

section Messages
variable {start session applied : RTMPServerSession} {messages : List RTMPMessage}
  {message : RTMPMessage}

theorem accepted_concat (messages : List RTMPMessage) (message : RTMPMessage) :
    accepted (messages ++ [message]) =
      accepted messages ++ if message.rejected then [] else [message] := by
  cases rejected : message.rejected <;> simp [accepted, List.filter_append, rejected]

theorem endings_concat (messages : List RTMPMessage) (message : RTMPMessage) :
    ∀ before, endings before (messages ++ [message]) = endings before messages ++
      if message.endsCall then [(before ++ messages, message)] else [] := by
  induction messages with
  | nil =>
      intro before
      simp [endings]
  | cons first rest inductionHypothesis =>
      intro before
      simp only [List.cons_append, endings, inductionHypothesis, List.append_assoc,
        List.nil_append]

theorem Applies.concat {roots : List AMFValue} {root : AMFValue} {sent output : Bytes}
    {after : RTMPServerSession} (applies : Applies start roots sent session)
    (call : Returns (RTMPServerSession.handleAMF root) session [] output () after) :
    Applies start (roots ++ [root]) (sent ++ output) after := by
  induction applies with
  | none session =>
      have single := Applies.command call (.none after)
      rwa [List.append_nil] at single
  | command first _ inductionHypothesis =>
      rw [List.cons_append, List.append_assoc]
      exact .command first (inductionHypothesis call)

theorem Applies.unique {roots : List AMFValue} {sent sent' : Bytes}
    {after after' : RTMPServerSession} (applies : Applies start roots sent after)
    (applies' : Applies start roots sent' after') :
    sent = sent' ∧ after = after' := by
  induction applies generalizing sent' with
  | none session =>
      cases applies'
      exact ⟨rfl, rfl⟩
  | command call _ inductionHypothesis =>
      cases applies' with
      | command call' rest' =>
          obtain ⟨-, rfl, -, rfl⟩ := call.unique call' (Eq.refl ([] ++ []))
          obtain ⟨rfl, rfl⟩ := inductionHypothesis rest'
          exact ⟨rfl, rfl⟩

/-- What is seen is determined by the messages. -/
theorem Reflects.unique {served served' : Served} (reflects : Reflects start messages served)
    (reflects' : Reflects start messages served') : served = served' := by
  obtain ⟨applied, applies, parameters, send, receive⟩ := reflects
  obtain ⟨applied', applies', parameters', send', receive'⟩ := reflects'
  obtain ⟨sent, rfl⟩ := applies.unique applies'
  obtain ⟨clientParameters, chunkSizeSend, chunkSizeReceive, output⟩ := served
  obtain ⟨clientParameters', chunkSizeSend', chunkSizeReceive', output'⟩ := served'
  simp only at sent parameters send receive parameters' send' receive'
  rw [sent, parameters, send, receive, parameters', send', receive']

/-- A message that neither commands nor sets a chunk size leaves nothing to be seen. -/
theorem Reflects.concat {served : Served} (command : message.command? = none)
    (size : announcedSize message = none)
    (reflects : Reflects start (messages ++ [message]) served) :
    Reflects start messages served := by
  obtain ⟨applied, applies, parameters, send, receive⟩ := reflects
  rw [List.filterMap_append, List.filterMap_cons_none command, List.filterMap_nil,
    List.append_nil] at applies
  rw [chunkSizeAfter, List.foldl_append, List.foldl_cons, size] at receive
  exact ⟨applied, applies, parameters, send, receive⟩

end Messages

/-! ## The endpoint between two passes -/

/-- A chunk size of 32 bits and message lengths of three bytes. -/
structure Ready (endpoint : RTMPEndpoint) : Prop where
  small : endpoint.chunkSizeReceive < 2 ^ 32
  short : ShortLengths endpoint

section Endpoint
variable {now heard next : RTMPEndpoint} {message : RTMPMessage} {input : Bytes}

theorem Ready.delivers (ready : Ready now)
    (call : Returns getRTMPMessage now input [] message heard) :
    Ready heard ∧ Delivered message heard ∧ message.data.length < 2 ^ 31 := by
  obtain ⟨short, size, delivered⟩ :=
    (getRTMPMessage_post ready.small shortLengths_invariant ready.short).returns call
  refine ⟨⟨size.trans_lt ready.small, short⟩, delivered, ?_⟩
  obtain ⟨cs, found, -, length⟩ := delivered.record
  have bound := short message.chunkStreamId
  rw [RTMPEndpoint.inputStream, found, Option.getD_some, length, ← delivered.whole] at bound
  exact bound.trans (by decide)

theorem Delivered.congr {other : RTMPEndpoint} (delivered : Delivered message heard)
    (same : heard.SameReceiving other) : Delivered message other :=
  ⟨delivered.idBound, delivered.whole, same.chunkStreamsInput ▸ delivered.record⟩

theorem handleMessage_short (short : ShortLengths heard) :
    Post (handleMessage message) heard (fun _ after => ShortLengths after)
      fun _ after => ShortLengths after := by
  refine (handleMessage_post message heard).mono ?_ ?_
  · rintro _ after (rfl | ⟨chunkSize, -, rfl⟩ | ⟨cs, found, rfl⟩)
    · exact short
    · exact short
    · have bound := short message.chunkStreamId
      rw [RTMPEndpoint.inputStream, found] at bound
      exact shortLengths_setInput short bound
  · rintro _ after rfl
    exact short

theorem Ready.passes (ready : Ready heard) (passed : PassesOn (.inr message) heard next) :
    Ready next := by
  refine ⟨passed.small ready.small, ?_⟩
  obtain ⟨rest, run, finished⟩ := passed
  rcases finished with ⟨value, ended⟩ | ⟨stop, ended⟩
  all_goals
    simp only at ended
    subst ended
  · exact (handleMessage_short ready.short).returns run
  · exact (handleMessage_short ready.short).fails run

theorem PassesOn.after_return {after : RTMPEndpoint}
    (call : Returns (handleMessage message) heard [] [] () after)
    (passed : PassesOn (.inr message) heard next) : next = after := by
  obtain ⟨rest, run, finished⟩ := passed
  obtain ⟨same, -, -⟩ := Runs.unique run call (Eq.refl ([] ++ [])) finished (Returns.finished _ _)
  exact congrArg Config.state same

theorem PassesOn.after_failure {stop : Stop}
    (call : Fails (handleMessage message) heard [] [] stop heard)
    (passed : PassesOn (.inr message) heard next) : next = heard := by
  obtain ⟨rest, run, finished⟩ := passed
  obtain ⟨same, -, -⟩ := Runs.unique run call (Eq.refl ([] ++ [])) finished (Fails.finished _ _)
  exact congrArg Config.state same

/-- The endpoint has nothing to do for commands and media. -/
theorem PassesOn.idle (others : message.IsAMF ∨ message.isMedia = true)
    (passed : PassesOn (.inr message) heard next) : next = heard := by
  refine passed.after_return (handleMessage_other ?_ ?_ ?_ ?_ heard)
  all_goals
    intro control
    simp [RTMPMessage.IsAMF, RTMPMessage.isMedia, control] at others
    revert others
    decide

theorem announcedSize_idle (others : message.IsAMF ∨ message.isMedia = true) :
    announcedSize message = none := by
  rw [announcedSize, if_neg]
  intro isSize
  simp [RTMPMessage.IsAMF, RTMPMessage.isMedia, isSize] at others
  revert others
  decide

end Endpoint

/-! ## The session between two passes -/

/-- A session that took the messages beside an endpoint that only read them, and beside
a session that was given the commands of the accepted ones. -/
structure Accompanies (start : RTMPServerSession) (now : RTMPEndpoint) (messages : List RTMPMessage)
    (sent : Bytes) (session applied : RTMPServerSession) : Prop where
  receiving : now.SameReceiving session.endpoint
  applies : Applies start ((accepted messages).filterMap RTMPMessage.command?) sent applied
  parameters : session.clientParameters = applied.clientParameters
  sending : session.endpoint.SameSending applied.endpoint
  chunkSizeSend : session.endpoint.chunkSizeSend = start.endpoint.chunkSizeSend
  chunkSizeReceive : session.endpoint.chunkSizeReceive =
    chunkSizeAfter start.endpoint.chunkSizeReceive (accepted messages)

/-- How a pass ends that takes the message. -/
def Turn (message : RTMPMessage) (session : RTMPServerSession) (input output : Bytes)
    (after : RTMPServerSession) : Prop :=
  if message.rejected then
    ∃ stop, ¬ stop.IsFault ∧ Fails RTMPServerSession.serverPass session input output stop after
  else if message.isMedia then
    ∃ media, Carries message media ∧
      Returns RTMPServerSession.serverPass session input output (.inr media) after
  else Returns RTMPServerSession.serverPass session input output (.inl ()) after

namespace Accompanies

variable {start session applied : RTMPServerSession} {now heard next : RTMPEndpoint}
  {messages : List RTMPMessage} {message : RTMPMessage} {sent input : Bytes}

theorem reflects (accompanies : Accompanies start now messages sent session applied) :
    Reflects start (accepted messages) (session.served sent) :=
  ⟨applied, accompanies.applies, accompanies.parameters, accompanies.chunkSizeSend,
    accompanies.chunkSizeReceive⟩

theorem none (start : RTMPServerSession) : Accompanies start start.endpoint [] [] start start :=
  ⟨.refl _, .none start, rfl, .refl _, rfl, rfl⟩

/-- The session's endpoint hears the same message. -/
theorem hears (accompanies : Accompanies start now messages sent session applied)
    (ready : Ready now) (call : Returns getRTMPMessage now input [] message heard) :
    ∃ session', Accompanies start heard messages sent session' applied ∧
      Returns (RTMPServerSession.onEndpoint getRTMPMessage) session input [] message session' := by
  obtain ⟨heard', call', same, sending⟩ :=
    receiving_returns (fun _ => getRTMPMessage_lockstep) call accompanies.receiving
  have size := ((getRTMPMessage_post ready.small chunkInvariant_true trivial).returns call).2.1
  refine ⟨{ session with endpoint := heard' }, ?_, RTMPServerSession.onEndpoint_returns call'⟩
  refine ⟨same, accompanies.applies, accompanies.parameters, sending.trans accompanies.sending,
    sending.chunkSizeSend.trans accompanies.chunkSizeSend, ?_⟩
  calc heard'.chunkSizeReceive
      = heard.chunkSizeReceive := same.chunkSizeReceive.symm
    _ = now.chunkSizeReceive := size
    _ = session.endpoint.chunkSizeReceive := accompanies.receiving.chunkSizeReceive
    _ = _ := accompanies.chunkSizeReceive

/-- A rejected message and one that only carries media. -/
theorem skip (accompanies : Accompanies start now messages sent session applied)
    (nothing : message.rejected = true ∨
      message.command? = Option.none ∧ announcedSize message = Option.none) :
    Accompanies start now (messages ++ [message]) sent session applied := by
  have roots : (accepted (messages ++ [message])).filterMap RTMPMessage.command? =
      (accepted messages).filterMap RTMPMessage.command? := by
    rw [accepted_concat, List.filterMap_append]
    rcases nothing with rejected | ⟨command, -⟩
    · simp [rejected]
    · split <;> simp [command]
  have size : chunkSizeAfter start.endpoint.chunkSizeReceive (accepted (messages ++ [message])) =
      chunkSizeAfter start.endpoint.chunkSizeReceive (accepted messages) := by
    rw [accepted_concat, chunkSizeAfter, List.foldl_append]
    rcases nothing with rejected | ⟨-, size⟩
    · simp [rejected, chunkSizeAfter]
    · split <;> simp [size, chunkSizeAfter]
  refine ⟨accompanies.receiving, ?_, accompanies.parameters, accompanies.sending,
    accompanies.chunkSizeSend, ?_⟩
  · rw [roots]
    exact accompanies.applies
  · rw [size]
    exact accompanies.chunkSizeReceive

theorem command (accompanies : Accompanies start now messages sent session applied)
    (isAMF : message.IsAMF) (taken : message.rejected = false) {root : AMFValue} {output : Bytes}
    {after : RTMPServerSession} (command : message.command? = some root)
    (call : Returns (RTMPServerSession.handleAMF root) session [] output () after) :
    ∃ applied', Accompanies start now (messages ++ [message]) (sent ++ output) after applied' := by
  obtain ⟨applied', call', parameters, sending, -⟩ :=
    RTMPServerSession.handleAMF_alike call accompanies.parameters accompanies.sending
  obtain ⟨receiving, size⟩ := RTMPServerSession.handleAMF_frame call
  have whole : accepted (messages ++ [message]) = accepted messages ++ [message] := by
    rw [accepted_concat, taken]
    rfl
  refine ⟨applied', accompanies.receiving.trans receiving.symm, ?_, parameters, sending,
    size.trans accompanies.chunkSizeSend, ?_⟩
  · rw [whole, List.filterMap_append, List.filterMap_cons_some command]
    exact accompanies.applies.concat call'
  · rw [whole, chunkSizeAfter, List.foldl_append, List.foldl_cons,
      announcedSize_idle (Or.inl isAMF), receiving.chunkSizeReceive]
    exact accompanies.chunkSizeReceive

theorem control (accompanies : Accompanies start heard messages sent session applied)
    (notAMF : ¬ message.IsAMF) (taken : message.rejected = false)
    (call : Returns (handleMessage message) heard [] [] () next) :
    ∃ session', Accompanies start next (messages ++ [message]) sent session' applied ∧
      Returns (RTMPServerSession.onEndpoint (handleMessage message)) session [] [] () session' := by
  obtain ⟨next', call', same, sending⟩ :=
    receiving_returns (fun _ => handleMessage_lockstep message) call accompanies.receiving
  have size := ((handleMessage_sizes message _).returns call').2
  have whole : accepted (messages ++ [message]) = accepted messages ++ [message] := by
    rw [accepted_concat, taken]
    rfl
  have command : message.command? = Option.none := by
    rw [RTMPMessage.command?, if_neg notAMF]
  refine ⟨{ session with endpoint := next' }, ?_, RTMPServerSession.onEndpoint_returns call'⟩
  refine ⟨same, ?_, accompanies.parameters, sending.trans accompanies.sending,
    sending.chunkSizeSend.trans accompanies.chunkSizeSend, ?_⟩
  · rw [whole, List.filterMap_append, List.filterMap_cons_none command, List.filterMap_nil,
      List.append_nil]
    exact accompanies.applies
  · rw [whole, chunkSizeAfter, List.foldl_append, List.foldl_cons, List.foldl_nil, size,
      accompanies.chunkSizeReceive]
    rfl

/-- The endpoint of the session has handed the message over. -/
abbrev Hands (session : RTMPServerSession) (input : Bytes) (message : RTMPMessage)
    (middle : RTMPServerSession) : Prop :=
  Returns (RTMPServerSession.onEndpoint getRTMPMessage) session input [] message middle

section Turns
variable {middle : RTMPServerSession}

theorem turn_command (delivery : Hands session input message middle)
    (accompanies : Accompanies start heard messages sent middle applied)
    (sends : 0 < middle.endpoint.chunkSizeSend) (isAMF : message.IsAMF)
    (readable : message.Readable) :
    ∃ output session' applied',
      Accompanies start heard (messages ++ [message]) (sent ++ output) session' applied' ∧
        Turn message session input output session' := by
  unfold Turn
  rw [RTMPServerSession.serverPass_dispatches]
  cases taken : message.rejected with
  | true =>
      obtain ⟨stop, thrown, failed⟩ :=
        RTMPServerSession.dispatch_rejected_command isAMF taken readable sends
      refine ⟨[], middle, applied, ?_, ?_⟩
      · rw [List.append_nil]
        exact accompanies.skip (Or.inl taken)
      · rw [if_pos rfl]
        exact ⟨stop, thrown, Fails.after_silent delivery failed⟩
  | false =>
      obtain ⟨root, output, after, command, answer, pass⟩ :=
        RTMPServerSession.dispatch_command isAMF taken readable sends
      obtain ⟨applied', accompanies'⟩ := accompanies.command isAMF taken command answer
      have notMedia : message.isMedia = false := by
        by_contra isMedia
        exact RTMPServerSession.isMedia_not_AMF (by simpa using isMedia) isAMF
      refine ⟨output, after, applied', accompanies', ?_⟩
      rw [if_neg Bool.false_ne_true, notMedia, if_neg Bool.false_ne_true]
      have whole := delivery.bind pass
      rwa [List.append_nil] at whole

theorem turn_media (delivery : Hands session input message middle)
    (accompanies : Accompanies start heard messages sent middle applied)
    (isMedia : message.isMedia = true) (fits : message.data.length < 2 ^ 31) :
    Accompanies start heard (messages ++ [message]) sent middle applied ∧
      Turn message session input [] middle := by
  have notAMF := RTMPServerSession.isMedia_not_AMF isMedia
  have noCommand : message.command? = Option.none := by
    rw [RTMPMessage.command?, if_neg notAMF]
  have ends := @RTMPServerSession.dispatch_media middle message isMedia fits
  refine ⟨accompanies.skip (Or.inr ⟨noCommand, announcedSize_idle (Or.inr isMedia)⟩), ?_⟩
  rw [Turn, RTMPServerSession.serverPass_dispatches]
  split
  · rename_i taken
    rw [if_pos taken] at ends
    exact ⟨.runtimeError, id, Fails.after_silent delivery ends⟩
  · rename_i taken
    rw [if_neg taken] at ends
    obtain ⟨media, carries, pass⟩ := ends
    exact ⟨media, carries, delivery.bind_silent pass⟩

theorem turn_control (delivery : Hands session input message middle)
    (accompanies : Accompanies start heard messages sent middle applied)
    (notAMF : ¬ message.IsAMF) (notMedia : message.isMedia = false)
    (delivered : Delivered message heard) (fits : message.data.length < 2 ^ 31)
    (passed : PassesOn (.inr message) heard next) :
    ∃ session', Accompanies start next (messages ++ [message]) sent session' applied ∧
      Turn message session input [] session' := by
  have short : message.rejected =
      decide (message.data.length < message.messageType.leastLength) := by
    rw [RTMPMessage.rejected, if_neg notAMF]
  have ends := handleMessage_ends delivered fits notMedia
  unfold Turn
  rw [RTMPServerSession.serverPass_dispatches]
  cases taken : message.rejected with
  | true =>
      have tooShort := decide_eq_true_eq.mp (short.symm.trans taken)
      rw [if_pos tooShort] at ends
      obtain rfl := passed.after_failure ends
      have ends' := handleMessage_ends (delivered.congr accompanies.receiving) fits notMedia
      rw [if_pos tooShort] at ends'
      refine ⟨middle, accompanies.skip (Or.inl taken), ?_⟩
      rw [if_pos rfl]
      refine ⟨.runtimeError, id, Fails.after_silent delivery ?_⟩
      rw [RTMPServerSession.dispatch_control notAMF notMedia]
      exact (ends'.zoom RTMPServerSession.endpointLens middle).bind _
  | false =>
      rw [if_neg (decide_eq_false_iff_not.mp (short.symm.trans taken))] at ends
      obtain ⟨after, handled⟩ := ends
      obtain rfl := passed.after_return handled
      obtain ⟨session', accompanies', pass⟩ := accompanies.control notAMF taken handled
      refine ⟨session', accompanies', ?_⟩
      rw [if_neg Bool.false_ne_true, notMedia, if_neg Bool.false_ne_true]
      refine delivery.bind_silent ?_
      rw [RTMPServerSession.dispatch_control notAMF notMedia]
      exact pass.bind_silent (.pure _ _)

end Turns

/-- One message more, and the pass that takes it. -/
theorem turn (positive : 0 < start.endpoint.chunkSizeSend) (ready : Ready now)
    (accompanies : Accompanies start now messages sent session applied)
    (readable : message.Readable) (call : Returns getRTMPMessage now input [] message heard)
    (passed : PassesOn (.inr message) heard next) :
    ∃ output session' applied',
      Accompanies start next (messages ++ [message]) (sent ++ output) session' applied' ∧
        Turn message session input output session' := by
  obtain ⟨middle, accompanies, delivery⟩ := accompanies.hears ready call
  obtain ⟨-, delivered, fits⟩ := ready.delivers call
  by_cases isAMF : message.IsAMF
  · obtain rfl := passed.idle (Or.inl isAMF)
    have sends : 0 < middle.endpoint.chunkSizeSend := by
      rw [accompanies.chunkSizeSend]
      exact positive
    exact turn_command delivery accompanies sends isAMF readable
  · cases isMedia : message.isMedia with
    | true =>
        obtain rfl := passed.idle (Or.inr isMedia)
        obtain ⟨accompanies', ends⟩ := turn_media delivery accompanies isMedia fits
        refine ⟨[], middle, applied, ?_, ends⟩
        rwa [List.append_nil]
    | false =>
        obtain ⟨session', accompanies', ends⟩ :=
          turn_control delivery accompanies isAMF isMedia delivered fits passed
        refine ⟨[], session', applied, ?_, ends⟩
        rwa [List.append_nil]

end Accompanies

/-! ## Runs -/

section Run
variable {start : RTMPServerSession} {wire : Bytes} {messages : List RTMPMessage}
  {now : RTMPEndpoint}

theorem notCommand {message : RTMPMessage} (isMedia : message.isMedia = true) :
    message.command? = none := by
  rw [RTMPMessage.command?, if_neg (RTMPServerSession.isMedia_not_AMF isMedia)]

theorem serves_messages (positive : 0 < start.endpoint.chunkSizeSend)
    (ready : Ready start.endpoint) (delivers : Delivers start.endpoint wire messages now)
    (readable : ∀ message ∈ messages, message.Readable) :
    Ready now ∧ ∃ session applied sent ends, Serves start wire sent ends session ∧
      Accompanies start now messages sent session applied ∧
      List.Forall₂ (EndsAs start) (endings [] messages) ends := by
  induction delivers with
  | start => exact ⟨ready, start, start, [], [], .none start, .none start, .nil⟩
  | @message wire input messages message now heard next before call passed inductionHypothesis =>
      rw [List.forall_mem_append, List.forall_mem_singleton] at readable
      obtain ⟨ready', session, applied, sent, ends, serves, accompanies, alike⟩ :=
        inductionHypothesis readable.1
      obtain ⟨output, session', applied', accompanies', turn⟩ :=
        accompanies.turn positive ready' readable.2 call passed
      refine ⟨(ready'.delivers call).1.passes passed, session', applied', sent ++ output, ?_⟩
      have reflects := accompanies'.reflects
      rw [accepted_concat] at reflects
      rw [endings_concat, List.nil_append, RTMPMessage.endsCall]
      cases rejected : message.rejected with
      | true =>
          rw [Turn, if_pos rejected] at turn
          obtain ⟨stop, thrown, pass⟩ := turn
          refine ⟨_, serves.throws pass thrown, accompanies', List.rel_append alike ?_⟩
          rw [rejected, if_pos rfl, List.append_nil] at reflects
          refine .cons ⟨?_, reflects⟩ .nil
          rw [if_pos rejected]
          exact ⟨stop, thrown, rfl⟩
      | false =>
          have kept : ¬ message.rejected = true := by
            rw [rejected]
            exact Bool.false_ne_true
          rw [Turn, if_neg kept] at turn
          rw [if_neg kept] at reflects
          rw [Bool.false_or]
          cases isMedia : message.isMedia with
          | true =>
              rw [if_pos isMedia] at turn
              obtain ⟨media, carries, pass⟩ := turn
              refine ⟨_, serves.returns pass, accompanies', List.rel_append alike ?_⟩
              refine .cons ⟨?_, reflects.concat (notCommand isMedia)
                (announcedSize_idle (Or.inr isMedia))⟩ .nil
              rw [if_neg kept]
              exact ⟨media, carries, rfl⟩
          | false =>
              rw [if_neg (by rw [isMedia]; exact Bool.false_ne_true)] at turn
              refine ⟨ends, serves.waits turn, accompanies', ?_⟩
              rw [if_neg Bool.false_ne_true, List.append_nil]
              exact alike

theorem Carries.unique {message : RTMPMessage} {media media' : RTMPMediaMessage}
    (carries : Carries message media) (carries' : Carries message media') : media = media' := by
  have audio : media.audio = media'.audio := by
    have first := carries.audio
    have second := carries'.audio
    split at first
    · rename_i isAudio
      rw [if_pos isAudio, first] at second
      exact Except.ok.inj second
    · rename_i notAudio
      rw [if_neg notAudio] at second
      exact first.trans second.symm
  have video : media.video = media'.video := by
    have first := carries.video
    have second := carries'.video
    split at first
    · rename_i isVideo
      rw [if_pos isVideo, first] at second
      exact Except.ok.inj second
    · rename_i notVideo
      rw [if_neg notVideo] at second
      exact first.trans second.symm
  have type := carries.messageType.trans carries'.messageType.symm
  have stream := carries.messageStreamId.trans carries'.messageStreamId.symm
  have time := carries.timestamp.trans carries'.timestamp.symm
  obtain ⟨messageType, messageStreamId, timestamp, packet, frame⟩ := media
  obtain ⟨messageType', messageStreamId', timestamp', packet', frame'⟩ := media'
  simp only at audio video type stream time
  rw [audio, video, type, stream, time]

theorem accepted_rejected {message : RTMPMessage} (rejected : message.rejected = true)
    (rest : List RTMPMessage) : accepted (message :: rest) = accepted rest :=
  List.filter_cons_of_neg (by simp [rejected])

theorem accepted_kept {message : RTMPMessage} (kept : message.rejected = false)
    (rest : List RTMPMessage) : accepted (message :: rest) = message :: accepted rest :=
  List.filter_cons_of_pos (by simp [kept])

section Ends
variable {before before' rest : List RTMPMessage} {message : RTMPMessage} {callEnd : CallEnd}
  {ends : List CallEnd}

theorem EndsAs.thrown (alike : EndsAs start (before, message) callEnd)
    (rejected : message.rejected = true) : callEnd.media? = none := by
  obtain ⟨result, -⟩ := alike
  rw [if_pos rejected] at result
  obtain ⟨stop, -, result⟩ := result
  rw [CallEnd.media?, result]
  rfl

theorem EndsAs.returned (alike : EndsAs start (before, message) callEnd)
    (kept : message.rejected = false) :
    ∃ media, Carries message media ∧ callEnd.1 = .ok media := by
  obtain ⟨result, -⟩ := alike
  rwa [if_neg (by simp [kept])] at result

theorem endings_rejected (rejected : message.rejected = true) :
    endings before (message :: rest) = (before, message) :: endings (before ++ [message]) rest := by
  rw [endings, RTMPMessage.endsCall, rejected, Bool.true_or, if_pos rfl, List.singleton_append]

theorem endings_media (isMedia : message.isMedia = true) :
    endings before (message :: rest) = (before, message) :: endings (before ++ [message]) rest := by
  rw [endings, RTMPMessage.endsCall, isMedia, Bool.or_true, if_pos rfl, List.singleton_append]

theorem endings_others (kept : message.rejected = false) (notMedia : message.isMedia = false) :
    endings before (message :: rest) = endings (before ++ [message]) rest := by
  rw [endings, RTMPMessage.endsCall, kept, notMedia, Bool.or_false, if_neg Bool.false_ne_true,
    List.nil_append]

end Ends

/-- The calls that return, return the accepted media messages. -/
theorem media_carried (messages : List RTMPMessage) :
    ∀ {before : List RTMPMessage} {ends : List CallEnd},
      List.Forall₂ (EndsAs start) (endings before messages) ends →
        List.Forall₂ Carries ((accepted messages).filter RTMPMessage.isMedia)
          (ends.filterMap CallEnd.media?) := by
  induction messages with
  | nil =>
      intro before ends alike
      cases alike
      exact .nil
  | cons message rest inductionHypothesis =>
      intro before ends alike
      cases rejected : message.rejected with
      | true =>
          rw [endings_rejected rejected] at alike
          obtain ⟨callEnd, others, first, later, rfl⟩ := List.forall₂_cons_left_iff.mp alike
          rw [accepted_rejected rejected, List.filterMap_cons_none (first.thrown rejected)]
          exact inductionHypothesis later
      | false =>
          rw [accepted_kept rejected]
          cases isMedia : message.isMedia with
          | true =>
              rw [endings_media isMedia] at alike
              obtain ⟨callEnd, others, first, later, rfl⟩ := List.forall₂_cons_left_iff.mp alike
              obtain ⟨media, carries, result⟩ := first.returned rejected
              have some : callEnd.media? = some media := by
                rw [CallEnd.media?, result]
                rfl
              rw [List.filter_cons_of_pos isMedia, List.filterMap_cons_some some]
              exact .cons carries (inductionHypothesis later)
          | false =>
              rw [endings_others rejected isMedia] at alike
              rw [List.filter_cons_of_neg (by simp [isMedia])]
              exact inductionHypothesis alike

/-- Without the rejected messages the calls that return are the same. -/
theorem ends_alike (messages : List RTMPMessage) :
    ∀ {before before' : List RTMPMessage} {ends ends' : List CallEnd},
      accepted before' = accepted before →
      List.Forall₂ (EndsAs start) (endings before messages) ends →
      List.Forall₂ (EndsAs start) (endings before' (accepted messages)) ends' →
        ends' = ends.filter CallEnd.returns := by
  induction messages with
  | nil =>
      intro before before' ends ends' same alike alike'
      cases alike
      cases alike'
      rfl
  | cons message rest inductionHypothesis =>
      intro before before' ends ends' same alike alike'
      cases rejected : message.rejected with
      | true =>
          rw [endings_rejected rejected] at alike
          rw [accepted_rejected rejected] at alike'
          obtain ⟨callEnd, others, first, later, rfl⟩ := List.forall₂_cons_left_iff.mp alike
          have further : accepted before' = accepted (before ++ [message]) := by
            rw [accepted_concat, if_pos rejected, List.append_nil, same]
          rw [List.filter_cons_of_neg (by simp [CallEnd.returns, first.thrown rejected])]
          exact inductionHypothesis further later alike'
      | false =>
          have further : accepted (before' ++ [message]) = accepted (before ++ [message]) := by
            rw [accepted_concat, accepted_concat, same]
          rw [accepted_kept rejected] at alike'
          cases isMedia : message.isMedia with
          | true =>
              rw [endings_media isMedia] at alike alike'
              obtain ⟨callEnd, others, first, later, rfl⟩ := List.forall₂_cons_left_iff.mp alike
              obtain ⟨callEnd', others', first', later', rfl⟩ :=
                List.forall₂_cons_left_iff.mp alike'
              obtain ⟨media, carries, result⟩ := first.returned rejected
              obtain ⟨media', carries', result'⟩ := first'.returned rejected
              have seen := first'.2
              rw [same] at seen
              have equal : callEnd' = callEnd :=
                Prod.ext (by rw [result, result', carries.unique carries'])
                  (seen.unique first.2)
              have returned : callEnd.returns = true := by
                rw [CallEnd.returns, CallEnd.media?, result]
                rfl
              rw [List.filter_cons_of_pos returned, equal, inductionHypothesis further later later']
          | false =>
              rw [endings_others rejected isMedia] at alike alike'
              exact inductionHypothesis further alike alike'

/-- The run up to a message, and the message. -/
theorem Delivers.split {start now : RTMPEndpoint} {wire : Bytes} {messages : List RTMPMessage}
    (delivers : Delivers start wire messages now) :
    ∀ {before rest : List RTMPMessage} {message : RTMPMessage},
      messages = before ++ message :: rest →
        ∃ front input back now heard next, wire = front ++ input ++ back ∧
          Delivers start front before now ∧
          Returns getRTMPMessage now input [] message heard ∧
          PassesOn (.inr message) heard next := by
  induction delivers with
  | start =>
      intro before rest message split
      simp at split
  | @message wire input messages last now heard next earlier call passed inductionHypothesis =>
      intro before rest message split
      rcases rest.eq_nil_or_concat with rfl | ⟨others, final, rfl⟩
      · obtain ⟨rfl, same⟩ := List.append_inj' split rfl
        obtain rfl := List.head_eq_of_cons_eq same
        exact ⟨wire, input, [], now, heard, next, (List.append_nil _).symm, earlier, call, passed⟩
      · rw [List.concat_eq_append, ← List.cons_append, ← List.append_assoc] at split
        obtain ⟨rfl, -⟩ := List.append_inj' split rfl
        obtain ⟨front, taken, back, now', heard', next', rfl, others⟩ := inductionHypothesis rfl
        exact ⟨front, taken, back ++ input, now', heard', next', List.append_assoc .., others⟩

/-- The call that takes a rejected message throws, with nothing else to be seen of it. -/
def ThrowsUnseen (start : RTMPServerSession) (wire : Bytes) (messages : List RTMPMessage) : Prop :=
  ∀ before message rest, messages = before ++ message :: rest → message.rejected = true →
    ∃ front input back session sent ends stop session',
      wire = front ++ input ++ back ∧ Serves start front sent ends session ∧ ¬ stop.IsFault ∧
        Serves start (front ++ input) sent (ends ++ [(.error stop, session.served sent)]) session' ∧
        session'.served sent = session.served sent

/-- For whatever messages the endpoint delivers from a wire, the calls of `GetRTMPMessage`
end as the messages ask, in their order, and as they would without the rejected ones. -/
def ServesAccepted (start : RTMPServerSession) (wire : Bytes) (messages : List RTMPMessage) :
    Prop :=
  ∃ session sent ends, Serves start wire sent ends session ∧
    List.Forall₂ (EndsAs start) (endings [] messages) ends ∧
    List.Forall₂ Carries ((accepted messages).filter RTMPMessage.isMedia)
      (ends.filterMap CallEnd.media?) ∧
    Reflects start (accepted messages) (session.served sent) ∧
    ∀ {wire' : Bytes} {heard' : RTMPEndpoint},
      Delivers start.endpoint wire' (accepted messages) heard' →
        ∃ session', Serves start wire' sent (ends.filter CallEnd.returns) session' ∧
          session'.served sent = session.served sent

theorem throws_unseen (positive : 0 < start.endpoint.chunkSizeSend)
    (ready : Ready start.endpoint) (delivers : Delivers start.endpoint wire messages now)
    (readable : ∀ message ∈ messages, message.Readable) : ThrowsUnseen start wire messages := by
  intro before message rest split rejected
  rw [split, List.forall_mem_append, List.forall_mem_cons] at readable
  obtain ⟨front, input, back, now', heard, next, rfl, earlier, call, passed⟩ := delivers.split split
  obtain ⟨ready', session, applied, sent, ends, serves, accompanies, -⟩ :=
    serves_messages positive ready earlier readable.1
  obtain ⟨output, session', applied', accompanies', turn⟩ :=
    accompanies.turn positive ready' readable.2.1 call passed
  rw [Turn, if_pos rejected] at turn
  obtain ⟨stop, thrown, pass⟩ := turn
  have reflects := accompanies'.reflects
  rw [accepted_concat, if_pos rejected, List.append_nil] at reflects
  have seen := reflects.unique accompanies.reflects
  have unsent : sent ++ output = sent := congrArg Served.sent seen
  have throws := serves.throws pass thrown
  rw [seen, unsent] at throws
  rw [unsent] at seen
  exact ⟨front, input, back, session, sent, ends, stop, session', rfl, serves, thrown, throws, seen⟩

theorem serves_accepted (positive : 0 < start.endpoint.chunkSizeSend)
    (ready : Ready start.endpoint) (delivers : Delivers start.endpoint wire messages now)
    (readable : ∀ message ∈ messages, message.Readable) : ServesAccepted start wire messages := by
  obtain ⟨-, session, applied, sent, ends, serves, accompanies, alike⟩ :=
    serves_messages positive ready delivers readable
  refine ⟨session, sent, ends, serves, alike, media_carried messages alike,
    accompanies.reflects, ?_⟩
  intro wire' heard' delivers'
  obtain ⟨-, session', applied', sent', ends', serves', accompanies', alike'⟩ :=
    serves_messages positive ready delivers' fun message member =>
      readable message (List.mem_of_mem_filter member)
  have twice : accepted (accepted messages) = accepted messages := by
    rw [accepted, accepted, List.filter_filter]
    simp only [Bool.and_self]
  have reflects := accompanies'.reflects
  rw [twice] at reflects
  have seen := reflects.unique accompanies.reflects
  obtain rfl : sent' = sent := congrArg Served.sent seen
  obtain rfl := ends_alike messages rfl alike alike'
  exact ⟨session', serves', seen⟩

/-- The server takes the accepted messages, in order and each once, and a rejected one
leaves no trace. -/
theorem server_takes_accepted (positive : 0 < start.endpoint.chunkSizeSend)
    (ready : Ready start.endpoint) (delivers : Delivers start.endpoint wire messages now)
    (readable : ∀ message ∈ messages, message.Readable) :
    ServesAccepted start wire messages ∧ ThrowsUnseen start wire messages :=
  ⟨serves_accepted positive ready delivers readable,
    throws_unseen positive ready delivers readable⟩

end Run

/-! ## Two messages -/

/-- What was received and handled in order. -/
theorem Receives.delivers {start now : RTMPEndpoint} {wire : Bytes} {messages : List RTMPMessage}
    (receives : Receives start wire messages now) : Delivers start wire messages now := by
  induction receives with
  | none => exact .start
  | call _ call handled inductionHypothesis =>
      exact .message inductionHypothesis call ⟨_, handled, Returns.finished _ _⟩

theorem ready_default : Ready {} := ⟨by decide, fun _ => show 0 < 2 ^ 24 by decide⟩

def audio (payload : Bytes) : TimedMessage := ⟨.audio, 1, 0, payload⟩

theorem audio_readable (payload : Bytes) : ((audio payload).toMessage 4).Readable where
  parses isAMF := by
    rcases isAMF with isAMF | isAMF <;> cases isAMF
  shaped root command := by cases command
  aborts isAbort := by cases isAbort

theorem audios_delivered : ∃ wire heard,
    Delivers {} wire [(audio [7]).toMessage 4, (audio [7, 1, 2]).toMessage 4] heard := by
  have short : TimedMessage.Valid (audio [7]) := by decide
  have long : TimedMessage.Valid (audio [7, 1, 2]) := by decide
  have first := Encodes.chunk .none
    (@Emits.first {} 4 _ _ (by decide) rfl short (Admissible.full (by decide)))
  have both := first.chunk
    (@Emits.first _ 4 _ _ (by decide) rfl long (Admissible.full (by decide)))
  obtain ⟨wire, -, heard, -, -, receives, -⟩ := both.received
  exact ⟨wire, heard, receives.delivers⟩

/-- An audio message of one byte, and one of three behind it. -/
theorem short_audio_leaves_no_trace : ∃ wire,
    ServesAccepted {} wire [(audio [7]).toMessage 4, (audio [7, 1, 2]).toMessage 4] ∧
      ThrowsUnseen {} wire [(audio [7]).toMessage 4, (audio [7, 1, 2]).toMessage 4] := by
  obtain ⟨wire, heard, delivers⟩ := audios_delivered
  refine ⟨wire, server_takes_accepted (by decide) ready_default delivers ?_⟩
  intro message member
  simp only [List.mem_cons, List.not_mem_nil, or_false] at member
  rcases member with rfl | rfl
  · exact audio_readable [7]
  · exact audio_readable [7, 1, 2]

/-! ## A control message that is not parsed -/

/-- Without a byte a call waits. -/
theorem getRTMPMessage_unfed {session after : RTMPServerSession} {output : Bytes} {stop : Stop} :
    ¬ Fails RTMPServerSession.getRTMPMessage session [] output stop after := by
  intro failed
  obtain ⟨wait, run⟩ := serverLoop_waits session .ret
  rcases run.comparable failed (Eq.refl ([] ++ [])) with ⟨extra, sent, tail, none, -⟩ |
    ⟨extra, sent, tail, -, -⟩
  · obtain rfl : [] = extra := none
    cases tail with
    | step moved _ => simp [Config.advance] at moved
  · obtain ⟨same, -, -⟩ := Runs.of_finished (Fails.finished _ _) tail
    cases same

theorem Calls.none_ended {start session : RTMPServerSession} {wire sent : Bytes}
    {ends : List CallEnd} (calls : Calls start wire sent ends session) (none : ends = []) :
    wire = [] ∧ sent = [] ∧ session = start := by
  cases calls with
  | none => exact ⟨rfl, rfl, rfl⟩
  | returned | threw => simp at none

/-- While a call goes on no part of the bytes makes one throw. -/
theorem Serves.unfailing {start session : RTMPServerSession} {wire sent : Bytes}
    (serves : Serves start wire sent [] session) {front back output : Bytes} {stop : Stop}
    {after : RTMPServerSession} (split : wire = front ++ back) :
    ¬ Fails RTMPServerSession.getRTMPMessage start front output stop after := by
  intro failed
  obtain ⟨entered, passed, within, early, later, calls, run, rfl, -⟩ := serves
  obtain ⟨rfl, -, rfl⟩ := calls.none_ended rfl
  rw [List.nil_append] at split
  rcases run.comparable failed ((List.append_nil within).trans split) with
    ⟨extra, more, tail, longer, -⟩ | ⟨extra, more, tail, -, -⟩
  · obtain ⟨rfl, -⟩ : extra = [] ∧ back = [] := by
      rw [longer, List.append_assoc, List.self_eq_append_right, List.append_eq_nil_iff] at split
      exact split
    exact getRTMPMessage_unfed tail
  · obtain ⟨same, -, -⟩ := Runs.of_finished (Fails.finished _ _) tail
    cases same

def userControl : TimedMessage := ⟨.userControlMessage, 0, 0, [0]⟩

/-- A user control message of one byte: nothing is parsed of it, so nothing throws. -/
theorem short_control_accepted : ∃ wire heard session,
    Delivers {} wire [userControl.toMessage 2] heard ∧ (userControl.toMessage 2).Readable ∧
      userControl.payload.length < UCMStreamBegin.getLength ∧ Serves {} wire [] [] session ∧
      ∀ front back output stop after, wire = front ++ back →
        ¬ Fails RTMPServerSession.getRTMPMessage {} front output stop after := by
  have valid : TimedMessage.Valid userControl := by decide
  have encodes := Encodes.chunk .none
    (@Emits.first {} 2 _ _ (by decide) rfl valid (Admissible.full (by decide)))
  obtain ⟨wire, -, heard, -, -, receives, -⟩ := encodes.received
  have delivers : Delivers {} wire [userControl.toMessage 2] heard := receives.delivers
  have readable : (userControl.toMessage 2).Readable := by
    refine ⟨fun isAMF => ?_, fun root command => ?_, fun isAbort => ?_⟩
    · rcases isAMF with isAMF | isAMF <;> cases isAMF
    · cases command
    · cases isAbort
  obtain ⟨-, session, applied, sent, ends, serves, accompanies, alike⟩ :=
    @serves_messages {} wire _ heard (by decide) ready_default delivers
      (List.forall_mem_singleton.mpr readable)
  obtain rfl : ends = [] := List.forall₂_nil_left_iff.mp alike
  obtain rfl : sent = [] := by
    have applies : Applies {} [] sent applied := accompanies.applies
    cases applies
    rfl
  exact ⟨wire, heard, session, delivers, readable, by decide, serves,
    fun front back output stop after split => serves.unfailing split⟩

end EasyRtmp
