import EasyRtmp.Framing
import EasyRtmp.Conformance
import EasyRtmp.Metadata

/-!
# `rtmp_client_session.cpp`: publishing a stream

`SendClientParameters` sends six commands and waits for the replies to three of
them.  A reply is recognised by its transaction id alone.
-/

set_option autoImplicit false

namespace EasyRtmp

open Lib Lib.ByteCodec

structure RTMPClientSession where
  endpoint : RTMPEndpoint := {}
  sentParams : Bool := false

abbrev ClientProg := Prog RTMPClientSession Stop

/-! ## The commands -/

def connectCommand (app url : Bytes) : AMFValue :=
  .root [.string (ascii "connect"), .ofInt 1,
    .object (AMFValue.assigned
      [(ascii "app", .string app),
        (ascii "type", .string (ascii "nonprivate")),
        (ascii "flashVer", .string (ascii "FMLE/3.0 (compatible; FMSc/1.0)")),
        (ascii "swfUrl", .string url),
        (ascii "tcUrl", .string url)])]

def releaseStreamCommand (key : Bytes) : AMFValue :=
  .root [.string (ascii "releaseStream"), .ofInt 2, .nul, .string key]

def fcPublishCommand (key : Bytes) : AMFValue :=
  .root [.string (ascii "FCPublish"), .ofInt 3, .nul, .string key]

def createStreamCommand : AMFValue :=
  .root [.string (ascii "createStream"), .ofInt 4, .nul]

def publishCommand (key : Bytes) : AMFValue :=
  .root [.string (ascii "publish"), .ofInt 0, .nul, .string key, .string (ascii "live")]

def dataFrame (params : ClientParameters) : AMFValue :=
  .root [.string (ascii "@setDataFrame"), .string (ascii "onMetaData"), metadataProps params]

/-! ## The replies -/

/-- The callbacks of `SendAmfConnect` and `SendPublish`: the fourth value of the
reply is an object whose `code` says how the command went. -/
def statusReply (cmdName code : String) (v : AMFValue) : Except Stop Bool := do
  let it ← v.begin
  let first ← AMFValue.deref it
  let name ← first.getString
  if name = ascii cmdName then
    let it ← AMFValue.next it
    let it ← AMFValue.next it
    let it ← AMFValue.next it
    let info ← AMFValue.deref it
    let found ← info.index (ascii "code")
    let text ← found.getString
    pure (decide (text = ascii code))
  else pure false

def connectReply : AMFValue → Except Stop Bool :=
  statusReply "_result" "NetConnection.Connect.Success"

def createStreamReply (v : AMFValue) : Except Stop Bool := do
  let it ← v.begin
  let first ← AMFValue.deref it
  let name ← first.getString
  pure (decide (name = ascii "_result"))

def publishReply : AMFValue → Except Stop Bool :=
  statusReply "onStatus" "NetStream.Publish.Start"

/-- What `GetCommandResponse` makes of an AMF0 message: nothing, or the answer of
its callback. -/
def matchReply (clb : AMFValue → Except Stop Bool) (cmdId : Int) (amfContainer : AMFValue) :
    Except Stop (Option Bool) := do
  let it ← amfContainer.begin
  let it ← AMFValue.next it
  let id ← AMFValue.deref it
  let number ← id.getNumber
  if Binary64.EqualsInt number cmdId then
    let answer ← clb amfContainer
    pure (some answer)
  else pure none

namespace RTMPClientSession

def endpointLens : Lens RTMPClientSession RTMPEndpoint where
  view session := session.endpoint
  update endpoint session := { session with endpoint := endpoint }
  view_update _ _ := rfl
  update_update _ _ _ := rfl
  update_view _ := rfl

/-- A call on `m_Endpoint`. -/
def onEndpoint {α : Type} (program : EndpointProg α) : ClientProg α :=
  program.zoom endpointLens

/-- One pass of the loop of `GetCommandResponse`. -/
def responsePass (clb : AMFValue → Except Stop Bool) (cmdId : Int) : ClientProg (Unit ⊕ Bool) := do
  let message ← onEndpoint getRTMPMessage
  if message.messageType = .amf0 then
    let amfContainer ← Prog.ofExcept (parseBuffer (AMFValue.parseRoot []) message.data)
    let answer ← Prog.ofExcept (matchReply clb cmdId amfContainer)
    match answer with
    | some result => pure (.inr result)
    | none => pure (.inl ())
  else do
    onEndpoint (handleMessage message)
    pure (.inl ())

def getCommandResponse (clb : AMFValue → Except Stop Bool) (cmdId : Int) : ClientProg Bool :=
  Prog.repeatUntil (fun _ => responsePass clb cmdId) ()

/-- The test that follows each call of `GetCommandResponse`. -/
def expectSuccess (clb : AMFValue → Except Stop Bool) (cmdId : Int) : ClientProg Unit := do
  let result ← getCommandResponse clb cmdId
  if result = false then .fail (.rtmpException .netstreamConnection) else pure ()

def sendAmfConnect (app url : Bytes) : ClientProg Unit := do
  onEndpoint (sendCommand (connectCommand app url) 3 0 .amf0)
  expectSuccess connectReply 1

def sendReleaseStream (key : Bytes) : ClientProg Unit :=
  onEndpoint (sendCommand (releaseStreamCommand key) 3 0 .amf0)

def sendFCPublish (key : Bytes) : ClientProg Unit :=
  onEndpoint (sendCommand (fcPublishCommand key) 3 0 .amf0)

def sendCreateStream : ClientProg Unit := do
  onEndpoint (sendCommand createStreamCommand 3 0 .amf0)
  expectSuccess createStreamReply 4

def sendPublish (key : Bytes) : ClientProg Unit := do
  onEndpoint (sendCommand (publishCommand key) 4 1 .amf0)
  expectSuccess publishReply 0

def sendDataFrameParameters (params : ClientParameters) : ClientProg Unit :=
  onEndpoint (sendCommand (dataFrame params) 4 1 .metadataAmf0)

def sendClientParameters (params : ClientParameters) : ClientProg Unit := do
  sendAmfConnect params.app params.url
  sendReleaseStream params.key
  sendFCPublish params.key
  sendCreateStream
  sendPublish params.key
  sendDataFrameParameters params
  Prog.modifyState fun session => { session with sentParams := true }

/-- The steps in one sequence. -/
theorem sendClientParameters_eq (params : ClientParameters) :
    sendClientParameters params = (do
      onEndpoint
        (sendCommand (connectCommand params.app params.url) 3 0 .amf0)
      expectSuccess connectReply 1
      onEndpoint (sendCommand (releaseStreamCommand params.key) 3 0 .amf0)
      onEndpoint (sendCommand (fcPublishCommand params.key) 3 0 .amf0)
      onEndpoint (sendCommand createStreamCommand 3 0 .amf0)
      expectSuccess createStreamReply 4
      onEndpoint (sendCommand (publishCommand params.key) 4 1 .amf0)
      expectSuccess publishReply 0
      onEndpoint (sendCommand (dataFrame params) 4 1 .metadataAmf0)
      Prog.modifyState fun session => { session with sentParams := true }) := by
  simp only [sendClientParameters, sendAmfConnect,
    sendReleaseStream, sendFCPublish,
    sendCreateStream, sendPublish,
    sendDataFrameParameters, bind_assoc]

end RTMPClientSession

/-! ## Messages taken one by one -/

namespace Receives
variable {start middle after : RTMPEndpoint} {bytes more input : Bytes}
  {messages later : List RTMPMessage} {message : RTMPMessage}

theorem trans (first : Receives start bytes messages middle)
    (second : Receives middle more later after) :
    Receives start (bytes ++ more) (messages ++ later) after := by
  induction second with
  | none => simpa using first
  | call _ call handled inductionHypothesis =>
      rw [← List.append_assoc, ← List.append_assoc]
      exact .call inductionHypothesis call handled

theorem of_nil (receives : Receives start bytes [] after) : bytes = [] ∧ after = start := by
  generalize none : ([] : List RTMPMessage) = all at receives
  cases receives with
  | none => exact ⟨rfl, rfl⟩
  | call => exact absurd none.symm (by simp)

theorem uncons (receives : Receives start bytes (message :: later) after) :
    ∃ front back middle handledAt, bytes = front ++ back ∧
      Returns getRTMPMessage start front [] message middle ∧
      Returns (handleMessage message) middle [] [] () handledAt ∧
      Receives handledAt back later after := by
  generalize whole : message :: later = all at receives
  induction receives generalizing later with
  | none => cases whole
  | @call endpoint middle after bytes input all last receives call handled inductionHypothesis =>
      cases all with
      | nil =>
          obtain ⟨rfl, rfl⟩ := receives.of_nil
          obtain ⟨rfl, rfl⟩ := List.cons.inj whole
          exact ⟨input, [], middle, after, (List.append_nil _).symm, call, handled, .none⟩
      | cons first rest =>
          obtain ⟨rfl, rfl⟩ := List.cons.inj whole
          obtain ⟨front, back, middle', handledAt, rfl, call', handled', behind⟩ :=
            inductionHypothesis rfl
          exact ⟨front, back ++ input, middle', handledAt, by rw [List.append_assoc], call',
            handled', .call behind call handled⟩

theorem single (call : Returns getRTMPMessage start input [] message middle)
    (handled : Returns (handleMessage message) middle [] [] () after) :
    Receives start input [message] after := .call .none call handled

theorem split : ∀ {messages : List RTMPMessage} {start : RTMPEndpoint} {bytes : Bytes},
    Receives start bytes (messages ++ later) after →
      ∃ front back middle, bytes = front ++ back ∧ Receives start front messages middle ∧
        Receives middle back later after := by
  intro messages
  induction messages with
  | nil =>
      intro start bytes receives
      exact ⟨[], bytes, start, rfl, .none, receives⟩
  | cons message messages inductionHypothesis =>
      intro start bytes receives
      obtain ⟨input, rest, middle, handledAt, rfl, call, handled, behind⟩ := uncons receives
      obtain ⟨front, back, between, rfl, before, afterwards⟩ := inductionHypothesis behind
      exact ⟨input ++ front, back, between, by rw [List.append_assoc],
        (single call handled).trans before, afterwards⟩

/-- The sending half has no part in it. -/
theorem congr : ∀ {messages : List RTMPMessage} {start other : RTMPEndpoint} {bytes : Bytes},
    Receives start bytes messages after → start.SameReceiving other →
      ∃ after', Receives other bytes messages after' ∧ after.SameReceiving after' ∧
        after'.SameSending other := by
  intro messages
  induction messages with
  | nil =>
      intro start other bytes receives same
      obtain ⟨rfl, rfl⟩ := receives.of_nil
      exact ⟨other, .none, same, .refl other⟩
  | cons message messages inductionHypothesis =>
      intro start other bytes receives same
      obtain ⟨input, rest, middle, handledAt, rfl, call, handled, behind⟩ := uncons receives
      obtain ⟨middle', call', sameMiddle, sending⟩ :=
        receiving_returns (fun _ => getRTMPMessage_lockstep) call same
      obtain ⟨handledAt', handled', sameHandled, sendingHandled⟩ :=
        receiving_returns (fun _ => handleMessage_lockstep message) handled sameMiddle
      obtain ⟨after', behind', sameAfter, sendingAfter⟩ := inductionHypothesis behind sameHandled
      exact ⟨after', (single call' handled').trans behind', sameAfter,
        sendingAfter.trans (sendingHandled.trans sending)⟩

/-- Receiving leaves the sending half alone. -/
theorem frame (receives : Receives start bytes messages after) : after.SameSending start := by
  induction receives with
  | none => exact .refl start
  | call _ call handled inductionHypothesis =>
      have middle := receiving_frame (fun _ => getRTMPMessage_lockstep) call
      have last := receiving_frame (fun _ => handleMessage_lockstep _) handled
      exact last.trans (middle.trans inductionHypothesis)

end Receives

/-- What is under way will have been received. -/
theorem InFlight.receives : ∀ {sender receiver : RTMPEndpoint} {channel : Bytes}
    {pending : List Delivery}, InFlight sender receiver channel pending →
      ∃ messages after, Receives receiver channel messages after ∧
        messages.map RTMPMessage.delivery = pending ∧ Synced sender after := by
  intro sender receiver channel pending flight
  induction flight with
  | synced synced => exact ⟨[], _, .none, rfl, synced⟩
  | next call handled _ inductionHypothesis =>
      obtain ⟨messages, after, receives, rfl, synced⟩ := inductionHypothesis
      exact ⟨_ :: messages, after, (Receives.single call handled).trans receives, rfl, synced⟩

/-! ## Waiting for a reply -/

/-- How `GetCommandResponse` takes a message. -/
def replyTo (clb : AMFValue → Except Stop Bool) (cmdId : Int) (messageType : RTMPMessageType)
    (data : Bytes) : Except Stop (Option Bool) :=
  if messageType = .amf0 then do
    let amfContainer ← parseBuffer (AMFValue.parseRoot []) data
    matchReply clb cmdId amfContainer
  else pure none

theorem replyTo_other {clb : AMFValue → Except Stop Bool} {cmdId : Int}
    {messageType : RTMPMessageType} {data : Bytes} (other : messageType ≠ .amf0) :
    replyTo clb cmdId messageType data = .ok none := if_neg other

/-- A reply that carries the status its callback looks for. -/
theorem matchReply_status {cmdName code : String} {cmdId : Int} {number : UInt64}
    {third info : AMFValue} {rest : List AMFValue} (numbered : Binary64.EqualsInt number cmdId)
    (coded : info.index (ascii "code") = .ok (.string (ascii code))) :
    matchReply (statusReply cmdName code) cmdId
      (.root (.string (ascii cmdName) :: .number number :: third :: info :: rest)) =
        .ok (some true) := by
  simp only [matchReply, statusReply, AMFValue.begin, AMFValue.next, AMFValue.deref,
    AMFValue.getNumber, AMFValue.getString, bind, Except.bind, pure, Except.pure, numbered, coded,
    if_true, decide_true]

namespace RTMPClientSession

section Response
variable {α : Type} {clb : AMFValue → Except Stop Bool} {cmdId : Int} {session : RTMPClientSession}
  {input output bytes : Bytes} {message : RTMPMessage} {middle after : RTMPEndpoint}

theorem onEndpoint_returns {program : EndpointProg α} {value : α}
    (call : Returns program session.endpoint input output value after) :
    Returns (onEndpoint program) session input output value { session with endpoint := after } :=
  call.zoom endpointLens session

theorem handleMessage_ignores (isAmf0 : message.messageType = .amf0) (endpoint : RTMPEndpoint) :
    Returns (handleMessage message) endpoint [] [] () endpoint :=
  handleMessage_idle isAmf0 (by decide) endpoint

theorem handleMessage_amf0 (isAmf0 : message.messageType = .amf0)
    (handled : Returns (handleMessage message) middle [] [] () after) : after = middle :=
  (handled.unique (handleMessage_ignores isAmf0 middle) (Eq.refl ([] ++ []))).2.1

/-- The pass in terms of `replyTo`, for the messages it looks at. -/
theorem responsePass_amf0 (isAmf0 : message.messageType = .amf0)
    {next : Option Bool → ClientProg (Unit ⊕ Bool)} :
    (do
      let amfContainer ← Prog.ofExcept (parseBuffer (AMFValue.parseRoot []) message.data)
      let answer ← Prog.ofExcept (matchReply clb cmdId amfContainer)
      next answer) =
      Prog.ofExcept (replyTo clb cmdId message.messageType message.data) >>= next := by
  rw [replyTo, if_pos isAmf0, Prog.ofExcept_bind, bind_assoc]

/-- A message that is no reply to this command is taken and dropped. -/
theorem responsePass_skips (ignored : replyTo clb cmdId message.messageType message.data = .ok none)
    (call : Returns getRTMPMessage session.endpoint input [] message middle)
    (handled : Returns (handleMessage message) middle [] [] () after) :
    Returns (responsePass clb cmdId) session input [] (.inl ())
      { session with endpoint := after } := by
  refine (onEndpoint_returns call).bind_silent ?_
  by_cases isAmf0 : message.messageType = .amf0
  · obtain rfl := handleMessage_amf0 isAmf0 handled
    rw [if_pos isAmf0, responsePass_amf0 isAmf0]
    exact (Returns.ofExcept ignored _).silent_bind (.pure _ _)
  · rw [if_neg isAmf0]
    exact (onEndpoint_returns handled).bind_silent (.pure _ _)

theorem amf0_of_reply {result : Bool}
    (answers : replyTo clb cmdId message.messageType message.data = .ok (some result)) :
    message.messageType = .amf0 := by
  by_contra notAmf0
  rw [replyTo, if_neg notAmf0] at answers
  cases answers

theorem responsePass_answers {result : Bool}
    (answers : replyTo clb cmdId message.messageType message.data = .ok (some result))
    (call : Returns getRTMPMessage session.endpoint input [] message middle) :
    Returns (responsePass clb cmdId) session input [] (.inr result)
      { session with endpoint := middle } := by
  have isAmf0 := amf0_of_reply answers
  refine (onEndpoint_returns call).bind_silent ?_
  rw [if_pos isAmf0, responsePass_amf0 isAmf0]
  exact (Returns.ofExcept answers _).silent_bind (.pure _ _)

/-- The call ends with the first message that answers the command. -/
theorem getCommandResponse_returns {result : Bool} : ∀ {skipped : List RTMPMessage}
    {session : RTMPClientSession} {bytes : Bytes},
    Receives session.endpoint bytes (skipped ++ [message]) after →
    (∀ earlier ∈ skipped, replyTo clb cmdId earlier.messageType earlier.data = .ok none) →
    replyTo clb cmdId message.messageType message.data = .ok (some result) →
      Returns (getCommandResponse clb cmdId) session bytes [] result
        { session with endpoint := after } := by
  intro skipped
  induction skipped with
  | nil =>
      intro session bytes receives _ answers
      obtain ⟨front, back, middle, handledAt, rfl, call, handled, behind⟩ := receives.uncons
      obtain ⟨rfl, rfl⟩ := behind.of_nil
      obtain rfl := handleMessage_amf0 (amf0_of_reply answers) handled
      rw [List.append_nil]
      exact Runs.loop_done (responsePass_answers answers call)
  | cons earlier skipped inductionHypothesis =>
      intro session bytes receives ignored answers
      obtain ⟨front, back, middle, handledAt, rfl, call, handled, behind⟩ := receives.uncons
      have pass := responsePass_skips (ignored earlier (List.mem_cons_self ..)) call handled
      have rest := @inductionHypothesis { session with endpoint := handledAt } back behind
        (fun other member => ignored other (List.mem_cons_of_mem _ member)) answers
      exact (Runs.loop_again pass).trans rest

theorem expectSuccess_returns (responds : Returns (getCommandResponse clb cmdId) session bytes []
    true { session with endpoint := after }) :
    Returns (expectSuccess clb cmdId) session bytes [] () { session with endpoint := after } :=
  responds.bind_silent (.pure _ _)

end Response

end RTMPClientSession

end EasyRtmp
