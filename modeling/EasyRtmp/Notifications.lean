import Mathlib.Data.List.Forall2
import EasyRtmp.Commands

/-!
# Publishing to a server that also sends notifications

`GetCommandResponse` takes the first AMF0 message with the transaction id of its
command for the reply.  `publish` has the id 0, which every notification has.
-/

set_option autoImplicit false

namespace EasyRtmp

open Lib Lib.ByteCodec AMFValue RTMPClientSession

/-! ## What the server may send -/

def RTMPMessage.Carries (message : RTMPMessage) (container : AMFValue) : Prop :=
  message.messageType = .amf0 ∧ parseBuffer (parseRoot []) message.data = .ok container

def RTMPMessage.IsStatus (message : RTMPMessage) (cmdName code : String) (id : Int) : Prop :=
  ∃ number third info rest,
    message.Carries (.root (.string (ascii cmdName) :: .number number :: third :: info :: rest)) ∧
      Binary64.EqualsInt number id ∧ info.index (ascii "code") = .ok (.string (ascii code))

def RTMPMessage.IsConnectReply (message : RTMPMessage) : Prop :=
  message.IsStatus "_result" "NetConnection.Connect.Success" 1

def RTMPMessage.IsCreateStreamReply (message : RTMPMessage) : Prop :=
  ∃ number rest, message.Carries (.root (.string (ascii "_result") :: .number number :: rest)) ∧
    Binary64.EqualsInt number 4

def RTMPMessage.IsPublishReply (message : RTMPMessage) : Prop :=
  message.IsStatus "onStatus" "NetStream.Publish.Start" 0

/-- A command that wants no answer and is none. -/
def RTMPMessage.IsNotification (message : RTMPMessage) : Prop :=
  (∃ name number rest, message.Carries (.root (.string name :: .number number :: rest)) ∧
    Binary64.EqualsInt number 0) ∧ ¬ message.IsPublishReply

def RTMPMessage.IsUnrelated (message : RTMPMessage) : Prop :=
  message.messageType ≠ .amf0 ∨ message.IsNotification

section Replies
variable {message : RTMPMessage} {clb : AMFValue → Except Stop Bool} {cmdId : Int}

theorem replyTo_carried {container : AMFValue} (carries : message.Carries container) :
    replyTo clb cmdId message.messageType message.data = matchReply clb cmdId container := by
  rw [replyTo, if_pos carries.1, carries.2]
  rfl

theorem replyTo_status {cmdName code : String} (isStatus : message.IsStatus cmdName code cmdId) :
    replyTo (statusReply cmdName code) cmdId message.messageType message.data =
      .ok (some true) := by
  obtain ⟨number, third, info, rest, carries, numbered, coded⟩ := isStatus
  rw [replyTo_carried carries, matchReply_status numbered coded]

theorem replyTo_createStream (isReply : message.IsCreateStreamReply) :
    replyTo createStreamReply 4 message.messageType message.data = .ok (some true) := by
  obtain ⟨number, rest, carries, numbered⟩ := isReply
  rw [replyTo_carried carries]
  simp only [matchReply, createStreamReply, begin, next, deref, getNumber, getString, bind,
    Except.bind, pure, Except.pure, numbered, if_true, decide_true]

theorem matchReply_foreign {first : AMFValue} {number : UInt64} {rest : List AMFValue}
    (foreign : ¬ Binary64.EqualsInt number cmdId) :
    matchReply clb cmdId (.root (first :: .number number :: rest)) = .ok none := by
  simp only [matchReply, begin, next, deref, getNumber, bind, Except.bind, pure, Except.pure,
    foreign, if_false]

theorem equalsInt_unique {number : UInt64} {one other : Int}
    (first : Binary64.EqualsInt number one) (second : Binary64.EqualsInt number other) :
    one = other :=
  Int.eq_of_mul_eq_mul_right (by positivity) (first.2.symm.trans second.2)

/-- Only a command with another id than 0 is deaf to notifications. -/
theorem replyTo_unrelated (unrelated : message.IsUnrelated) (other : cmdId ≠ 0) :
    replyTo clb cmdId message.messageType message.data = .ok none := by
  rcases unrelated with notAmf0 | ⟨⟨name, number, rest, carries, zero⟩, -⟩
  · exact replyTo_other notAmf0
  · rw [replyTo_carried carries]
    exact matchReply_foreign fun same => other (equalsInt_unique same zero)

theorem statusReply_true {cmdName code : String} {name : Bytes} {second : AMFValue}
    {rest : List AMFValue}
    (approved : statusReply cmdName code (.root (.string name :: second :: rest)) = .ok true) :
    ∃ third info tail, rest = third :: info :: tail ∧ name = ascii cmdName ∧
      info.index (ascii "code") = .ok (.string (ascii code)) := by
  simp only [statusReply, begin, next, deref, getString, bind, Except.bind, pure,
    Except.pure] at approved
  split at approved
  · rename_i named
    cases rest with
    | nil => cases approved
    | cons third rest =>
        cases rest with
        | nil => cases approved
        | cons info tail =>
            refine ⟨third, info, tail, rfl, named, ?_⟩
            dsimp only at approved
            cases found : info.index (ascii "code") with
            | error stop =>
                rw [found] at approved
                cases approved
            | ok value =>
                rw [found] at approved
                cases value with
                | string text =>
                    have same := of_decide_eq_true (Except.ok.inj approved)
                    rw [same]
                | number | boolean | nul | undefined | strictArray | endOfObject | unknown
                | object | ecmaArray | root => cases approved
  · cases approved

/-- A notification is taken for the reply to `publish`, and not for a good one. -/
theorem replyTo_notification (isNotification : message.IsNotification) :
    replyTo publishReply 0 message.messageType message.data = .ok (some false) ∨
      ∃ stop, replyTo publishReply 0 message.messageType message.data = .error stop := by
  obtain ⟨⟨name, number, rest, carries, zero⟩, notReply⟩ := isNotification
  rw [replyTo_carried carries]
  have matched : matchReply publishReply 0 (.root (.string name :: .number number :: rest)) =
      (publishReply (.root (.string name :: .number number :: rest))).map some := by
    simp only [matchReply, begin, next, deref, getNumber, bind, Except.bind, pure, Except.pure,
      zero, if_true]
    cases publishReply (.root (.string name :: .number number :: rest)) <;> rfl
  rw [matched]
  cases answer : publishReply (.root (.string name :: .number number :: rest)) with
  | error stop => exact Or.inr ⟨stop, rfl⟩
  | ok approved =>
      cases approved with
      | false => exact Or.inl rfl
      | true =>
          obtain ⟨third, info, tail, rfl, rfl, coded⟩ := statusReply_true answer
          exact absurd ⟨number, third, info, tail, carries, zero, coded⟩ notReply

end Replies

/-! ## Writing the commands -/

/-- The command has an encoding. -/
def AMFValue.Writable (command : AMFValue) : Prop :=
  ∃ payload, command.toSerializable.serializeToBuffer = .ok payload

theorem AMFValue.Travels.writable {command : AMFValue} {payload : Bytes}
    (travels : command.Travels payload) : command.Writable := ⟨payload, travels.serialized⟩

def ClientParameters.commands (params : ClientParameters) : List AMFValue :=
  [connectCommand params.app params.url, releaseStreamCommand params.key,
    fcPublishCommand params.key, createStreamCommand, publishCommand params.key, dataFrame params]

structure RTMPClientSession.Ready (session : RTMPClientSession) (params : ClientParameters) :
    Prop where
  positive : 0 < session.endpoint.chunkSizeSend
  writable : ∀ command ∈ params.commands, command.Writable

theorem ClientParameters.writable_of_fits {params : ClientParameters}
    (app : FitsString params.app) (url : FitsString params.url) (key : FitsString params.key) :
    ∀ command ∈ params.commands, command.Writable := by
  obtain ⟨connect, connectTravels⟩ := connectCommand_travels app url
  obtain ⟨release, releaseTravels⟩ := releaseStreamCommand_travels key
  obtain ⟨fcPublish, fcPublishTravels⟩ := fcPublishCommand_travels key
  obtain ⟨create, createTravels⟩ := createStreamCommand_travels
  obtain ⟨publish, publishTravels⟩ := publishCommand_travels key
  obtain ⟨frame, frameTravels⟩ := dataFrame_travels params
  simp only [commands, List.forall_mem_cons, List.not_mem_nil, false_implies, implies_true,
    and_true]
  exact ⟨connectTravels.writable, releaseTravels.writable, fcPublishTravels.writable,
    createTravels.writable, publishTravels.writable, frameTravels.writable⟩

/-- Commands start with a string, so there is something to send. -/
theorem AMFValue.serialize_nonempty {name payload : Bytes} {rest : List AMFValue}
    (serialized : (root (.string name :: rest)).toSerializable.serializeToBuffer = .ok payload) :
    payload ≠ [] := by
  rintro rfl
  simp only [Serializable.serializeToBuffer, toSerializable, serialize, serializeArray, bind,
    Except.bind] at serialized
  cases length : (root (.string name :: rest)).getLength with
  | error stop =>
      rw [length] at serialized
      cases serialized
  | ok size =>
      rw [length] at serialized
      dsimp only at serialized
      split at serialized
      · cases serialized
      · cases others : serializeArray rest with
        | error stop =>
            rw [others] at serialized
            cases serialized
        | ok bytes =>
            rw [others] at serialized
            dsimp only at serialized
            split at serialized
            · exact absurd (Except.ok.inj serialized) (by simp)
            · cases serialized

/-! ## What the client needs in order to send -/

section Needs
variable {endpoint : RTMPEndpoint}

theorem sendChunkHeader_keeps (cs : ChunkStream) (id : UInt8) (messageStreamId : Nat)
    (messageType : RTMPMessageType) (timestamp size bytesSent : Nat) :
    Post (sendChunkHeader cs id messageStreamId messageType timestamp size bytesSent) endpoint
      (fun _ after => after = endpoint) fun _ _ => False := by
  unfold sendChunkHeader
  split
  · exact .sendBytes rfl
  · split
    · exact .seq (.sendBytes (.sendBytes rfl))
    · split
      · exact .seq (.sendBytes (.sendBytes rfl))
      · exact .seq (.sendBytes (.sendBytes rfl))

/-- With chunks of no bytes the loop ends on an empty payload alone. -/
theorem sendChunks_needs (endpoint : RTMPEndpoint) (payload : Bytes) (id : UInt8)
    (messageStreamId : Nat) (messageType : RTMPMessageType) (timestamp : Nat)
    (stuck : endpoint.chunkSizeSend = 0) :
    Post (Prog.repeatUntil (sendChunk payload id messageStreamId messageType timestamp) 0) endpoint
      (fun _ _ => payload = []) fun _ _ => False := by
  -- the loop keeps the state and never gets past the first byte
  apply Post.repeatUntil fun bytesSent now => bytesSent = 0 ∧ now.chunkSizeSend = 0
  · exact ⟨rfl, stuck⟩
  · rintro bytesSent now ⟨rfl, none⟩
    unfold sendChunk
    split
    · rename_i empty
      exact .pure (List.eq_nil_of_length_eq_zero empty.symm)
    · refine .seq (.getState (.seq ((sendChunkHeader_keeps ..).mono ?_ fun _ _ failed => failed)))
      rintro _ after rfl
      refine .seq (.sendBytes (.pure ?_))
      constructor
      · rw [none, Nat.zero_min]
      · exact none

/-- There is no end to a message whose chunks are empty. -/
theorem sendRTMPMessage_stuck {data : Serializable} {payload : Bytes}
    (serialized : data.serializeToBuffer = .ok payload) (nonempty : payload ≠ []) (id : UInt8)
    (messageStreamId : Nat) (messageType : RTMPMessageType) (timestamp : Nat)
    (stuck : endpoint.chunkSizeSend = 0) :
    Post (sendRTMPMessage data id messageStreamId messageType timestamp) endpoint
      (fun _ _ => False) fun _ _ => False := by
  unfold sendRTMPMessage
  rw [serialized]
  refine .seq (.ofExcept ?_ fun _ failed => nomatch failed)
  intro _ same
  obtain rfl := Except.ok.inj same
  refine .seq (.modifyState (.seq ?_))
  have loop := sendChunks_needs (endpoint.setOutput id (endpoint.outputStream id))
    payload id messageStreamId messageType timestamp stuck
  exact loop.mono (fun _ _ empty => absurd empty nonempty) fun _ _ failed => failed

theorem sendRTMPMessage_needs (data : Serializable) (id : UInt8) (messageStreamId : Nat)
    (messageType : RTMPMessageType) (timestamp : Nat) :
    Post (sendRTMPMessage data id messageStreamId messageType timestamp) endpoint
      (fun _ _ => ∃ payload, data.serializeToBuffer = .ok payload ∧
        (payload ≠ [] → 0 < endpoint.chunkSizeSend)) fun _ _ => True := by
  cases serialized : data.serializeToBuffer with
  | error stop =>
      unfold sendRTMPMessage
      rw [serialized]
      exact .seq (.ofExcept (fun _ none => nomatch none) fun _ _ => True.intro)
  | ok payload =>
      by_cases sendable : payload ≠ [] → 0 < endpoint.chunkSizeSend
      · exact (Post.trivial _ _).mono (fun _ _ _ => ⟨payload, rfl, sendable⟩)
          fun _ _ failed => failed
      · obtain ⟨nonempty, none⟩ := Classical.not_imp.mp sendable
        exact (sendRTMPMessage_stuck serialized nonempty id messageStreamId messageType timestamp
          (Nat.eq_zero_of_not_pos none)).mono (fun _ _ never => never.elim)
          fun _ _ never => never.elim

end Needs

namespace RTMPClientSession

theorem sendCommand_needs (session : RTMPClientSession) (command : AMFValue) (id : UInt8)
    (messageStreamId : Nat) (messageType : RTMPMessageType) :
    Post (onEndpoint (sendCommand command id messageStreamId messageType)) session
      (fun _ _ => ∃ payload, command.toSerializable.serializeToBuffer = .ok payload ∧
        (payload ≠ [] → 0 < session.endpoint.chunkSizeSend)) fun _ _ => True :=
  Post.zoom endpointLens (sendRTMPMessage_needs _ _ _ _ _)

theorem sendCommand_writable (session : RTMPClientSession) (command : AMFValue) (id : UInt8)
    (messageStreamId : Nat) (messageType : RTMPMessageType) :
    Post (onEndpoint (sendCommand command id messageStreamId messageType)) session
      (fun _ _ => command.Writable) fun _ _ => True := by
  refine (sendCommand_needs session command id messageStreamId messageType).mono ?_
    fun _ _ failed => failed
  intro _ after needs
  obtain ⟨payload, serialized, -⟩ := needs
  exact ⟨payload, serialized⟩

theorem sendClientParameters_needs (session : RTMPClientSession) (params : ClientParameters) :
    Post (sendClientParameters params) session (fun _ _ => session.Ready params)
      fun _ _ => True := by
  rw [sendClientParameters_eq]
  apply Post.fact (sendCommand_needs ..)
  intro first _ connected
  obtain ⟨payload, serialized, sendable⟩ := first
  have positive := sendable (serialize_nonempty serialized)
  apply Post.fact (Post.trivial _ _)
  intro _ _ answered
  apply Post.fact (sendCommand_writable ..)
  intro release _ released
  apply Post.fact (sendCommand_writable ..)
  intro fcPublish _ fcPublished
  apply Post.fact (sendCommand_writable ..)
  intro create _ created
  apply Post.fact (Post.trivial _ _)
  intro _ _ numbered
  apply Post.fact (sendCommand_writable ..)
  intro publish _ published
  apply Post.fact (Post.trivial _ _)
  intro _ _ started
  apply Post.fact (sendCommand_writable ..)
  intro frame _ described
  refine .modifyState ⟨positive, ?_⟩
  simp only [ClientParameters.commands, List.forall_mem_cons, List.not_mem_nil, false_implies,
    implies_true, and_true]
  exact ⟨⟨payload, serialized⟩, release, fcPublish, create, publish, frame⟩

/-! ## Waiting, step by step -/

/-- Whatever the sending half, the program goes through and takes the receiving
half from `start` to `after`. -/
def Advances (program : ClientProg Unit) (start : RTMPEndpoint) (input : Bytes)
    (after : RTMPEndpoint) : Prop :=
  ∀ session : RTMPClientSession, start.SameReceiving session.endpoint →
    0 < session.endpoint.chunkSizeSend →
      ∃ output endpoint,
        Returns program session input output () { session with endpoint := endpoint } ∧
        after.SameReceiving endpoint ∧ 0 < endpoint.chunkSizeSend

def Breaks (program : ClientProg Unit) (start : RTMPEndpoint) (input : Bytes) : Prop :=
  ∀ session : RTMPClientSession, start.SameReceiving session.endpoint →
    0 < session.endpoint.chunkSizeSend →
      ∃ output stop final, Fails program session input output stop final

section Steps
variable {program : ClientProg Unit} {next : Unit → ClientProg Unit}
  {start middle after : RTMPEndpoint} {input more : Bytes} {clb : AMFValue → Except Stop Bool}
  {cmdId : Int} {skipped : List RTMPMessage} {message : RTMPMessage}

theorem Advances.bind (first : Advances program start input middle)
    (second : Advances (next ()) middle more after) :
    Advances (program >>= next) start (input ++ more) after := by
  intro session same positive
  obtain ⟨output, between, call, same', positive'⟩ := first session same positive
  obtain ⟨output', endpoint, call', last⟩ := second { session with endpoint := between } same'
    positive'
  exact ⟨output ++ output', endpoint, call.bind call', last⟩

theorem Advances.send {name : Bytes} {rest : List AMFValue}
    (writable : (root (.string name :: rest)).Writable) (id : UInt8) (messageStreamId : Nat)
    (messageType : RTMPMessageType) (start : RTMPEndpoint) :
    Advances
      (onEndpoint (sendCommand (.root (.string name :: rest)) id messageStreamId messageType))
      start [] start := by
  intro session same positive
  obtain ⟨payload, serialized⟩ := writable
  obtain ⟨stream, -, call⟩ := sendRTMPMessage_returns serialized (serialize_nonempty serialized)
    positive id messageStreamId messageType 0
  exact ⟨stream, _, onEndpoint_returns call,
    ⟨same.maxMessageSize, same.chunkSizeReceive, same.chunkStreamsInput⟩, positive⟩

/-- The wait ends well with the first message that answers, if it approves. -/
theorem Advances.response (receives : Receives start input (skipped ++ [message]) after)
    (ignored : ∀ earlier ∈ skipped, replyTo clb cmdId earlier.messageType earlier.data = .ok none)
    (answers : replyTo clb cmdId message.messageType message.data = .ok (some true)) :
    Advances (expectSuccess clb cmdId) start input after := by
  intro session same positive
  obtain ⟨endpoint, receives', same', sending⟩ := receives.congr same
  refine ⟨[], endpoint, ?_, same', ?_⟩
  · exact expectSuccess_returns (getCommandResponse_returns receives' ignored answers)
  · rw [sending.chunkSizeSend]
    exact positive

/-- A reply that cannot be read ends the wait with what stopped the reader. -/
theorem getCommandResponse_fails {stop : Stop} : ∀ {skipped : List RTMPMessage}
    {session : RTMPClientSession} {input : Bytes},
    Receives session.endpoint input (skipped ++ [message]) after →
    (∀ earlier ∈ skipped, replyTo clb cmdId earlier.messageType earlier.data = .ok none) →
    replyTo clb cmdId message.messageType message.data = .error stop →
      ∃ final, Fails (getCommandResponse clb cmdId) session input [] stop final := by
  intro skipped
  induction skipped with
  | nil =>
      intro session input receives _ stops
      obtain ⟨front, back, middle, handledAt, rfl, call, handled, behind⟩ := receives.uncons
      obtain ⟨rfl, rfl⟩ := behind.of_nil
      have isAmf0 : message.messageType = .amf0 := by
        by_contra notAmf0
        rw [replyTo, if_neg notAmf0] at stops
        cases stops
      have pass : Fails (responsePass clb cmdId) session front [] stop
          { session with endpoint := middle } := by
        refine Fails.after_silent (onEndpoint_returns call) ?_
        rw [if_pos isAmf0, responsePass_amf0 isAmf0]
        exact (Fails.ofExcept stops _).bind _
      rw [List.append_nil]
      exact ⟨_, Runs.loop (pass.bind _)⟩
  | cons earlier skipped inductionHypothesis =>
      intro session input receives ignored stops
      obtain ⟨front, back, middle, handledAt, rfl, call, handled, behind⟩ := receives.uncons
      have pass := responsePass_skips (ignored earlier (List.mem_cons_self ..)) call handled
      obtain ⟨final, rest⟩ :=
        @inductionHypothesis { session with endpoint := handledAt } back behind
        (fun other member => ignored other (List.mem_cons_of_mem _ member)) stops
      have again : Runs ⟨session, getCommandResponse clb cmdId⟩ front []
          ⟨{ session with endpoint := handledAt }, getCommandResponse clb cmdId⟩ :=
        Runs.loop_again pass
      exact ⟨final, again.trans rest⟩

theorem Breaks.response (receives : Receives start input (skipped ++ [message]) after)
    (ignored : ∀ earlier ∈ skipped, replyTo clb cmdId earlier.messageType earlier.data = .ok none)
    (answers : replyTo clb cmdId message.messageType message.data = .ok (some false) ∨
      ∃ stop, replyTo clb cmdId message.messageType message.data = .error stop) :
    Breaks (expectSuccess clb cmdId) start input := by
  intro session same positive
  obtain ⟨endpoint, receives', -, -⟩ := receives.congr same
  rcases answers with refused | ⟨stop, unreadable⟩
  · have call := getCommandResponse_returns receives' ignored refused
    exact ⟨[], _, _, Fails.after_silent call (.refl _)⟩
  · obtain ⟨final, failed⟩ := getCommandResponse_fails receives' ignored unreadable
    exact ⟨[], stop, final, failed.bind _⟩

end Steps

end RTMPClientSession

/-! ## A whole publication -/

/-- What a server sends to a client that publishes. -/
structure ServerReplies where
  early : List RTMPMessage
  connect : RTMPMessage
  between : List RTMPMessage
  create : RTMPMessage
  late : List RTMPMessage
  publish : RTMPMessage
  early_unrelated : ∀ message ∈ early, message.IsUnrelated
  between_unrelated : ∀ message ∈ between, message.IsUnrelated
  late_unrelated : ∀ message ∈ late, message.IsUnrelated
  connect_reply : connect.IsConnectReply
  create_reply : create.IsCreateStreamReply
  publish_reply : publish.IsPublishReply

namespace ServerReplies

def messages (replies : ServerReplies) : List RTMPMessage :=
  (replies.early ++ [replies.connect]) ++ ((replies.between ++ [replies.create]) ++
    (replies.late ++ [replies.publish]))

/-- No command comes between the replies to `createStream` and `publish`. -/
def Quiet (replies : ServerReplies) : Prop :=
  ∀ message ∈ replies.late, message.messageType ≠ .amf0

end ServerReplies

namespace RTMPClientSession

/-- Up to the wait for the reply to `publish`. -/
def requests (params : ClientParameters) : ClientProg Unit := do
  onEndpoint (sendCommand (connectCommand params.app params.url) 3 0 .amf0)
  expectSuccess connectReply 1
  onEndpoint (sendCommand (releaseStreamCommand params.key) 3 0 .amf0)
  onEndpoint (sendCommand (fcPublishCommand params.key) 3 0 .amf0)
  onEndpoint (sendCommand createStreamCommand 3 0 .amf0)
  expectSuccess createStreamReply 4
  onEndpoint (sendCommand (publishCommand params.key) 4 1 .amf0)

theorem sendClientParameters_requests (params : ClientParameters) :
    sendClientParameters params = (do
      requests params
      expectSuccess publishReply 0
      onEndpoint (sendCommand (dataFrame params) 4 1 .metadataAmf0)
      Prog.modifyState fun session => { session with sentParams := true }) := by
  rw [sendClientParameters_eq]
  simp only [requests, bind_assoc]

theorem requests_advance {params : ClientParameters} {start middle after : RTMPEndpoint}
    {front back : Bytes} {replies : ServerReplies}
    (writable : ∀ command ∈ params.commands, command.Writable)
    (connected : Receives start front (replies.early ++ [replies.connect]) middle)
    (created : Receives middle back (replies.between ++ [replies.create]) after) :
    Advances (requests params) start (front ++ back) after := by
  simp only [ClientParameters.commands, List.forall_mem_cons, List.not_mem_nil, false_implies,
    implies_true, and_true] at writable
  obtain ⟨connect, release, fcPublish, create, publish, -⟩ := writable
  have afterConnect : Advances (expectSuccess connectReply 1) start front middle :=
    .response connected (fun message member =>
      replyTo_unrelated (replies.early_unrelated message member) (by decide))
      (replyTo_status replies.connect_reply)
  have afterCreate : Advances (expectSuccess createStreamReply 4) middle back after :=
    .response created (fun message member =>
      replyTo_unrelated (replies.between_unrelated message member) (by decide))
      (replyTo_createStream replies.create_reply)
  have whole : Advances (requests params) start
      ([] ++ (front ++ ([] ++ ([] ++ ([] ++ (back ++ [])))))) after :=
    (Advances.send connect 3 0 .amf0 start).bind (afterConnect.bind
      ((Advances.send release 3 0 .amf0 middle).bind
        ((Advances.send fcPublish 3 0 .amf0 middle).bind
          ((Advances.send create 3 0 .amf0 middle).bind (afterCreate.bind
            (Advances.send publish 4 1 .amf0 after))))))
  simpa only [List.nil_append, List.append_nil] using whole

theorem sendClientParameters_quiet {session : RTMPClientSession} {params : ClientParameters}
    {replies : ServerReplies} {input : Bytes} {after : RTMPEndpoint}
    (arrives : Receives session.endpoint input replies.messages after)
    (ready : session.Ready params) (quiet : replies.Quiet) :
    ∃ output session', Returns (sendClientParameters params) session input output () session' ∧
      session'.sentParams = true := by
  obtain ⟨front, rest, middle, rfl, connected, others⟩ := arrives.split
  obtain ⟨back, last, created, rfl, numbered, published⟩ := others.split
  have requested := requests_advance ready.writable connected numbered
  have started : Advances (expectSuccess publishReply 0) created last after :=
    .response published (fun message member => replyTo_other (quiet message member))
      (replyTo_status replies.publish_reply)
  have frame : (dataFrame params).Writable := ready.writable _ (by simp [ClientParameters.commands])
  obtain ⟨sent, one, requesting, same, positive⟩ := requested session (.refl _) ready.positive
  obtain ⟨none, two, waiting, same, positive⟩ := started { session with endpoint := one } same
    positive
  obtain ⟨frames, three, describing, -, -⟩ := Advances.send frame 4 1 .metadataAmf0 after
    { session with endpoint := two } same positive
  refine ⟨sent ++ (none ++ frames), { session with endpoint := three, sentParams := true }, ?_, rfl⟩
  rw [sendClientParameters_requests, ← List.append_assoc, ← List.append_nil last]
  exact requesting.bind (waiting.bind (describing.bind_silent (.modifyState _ _)))

/-- A command that comes before the reply to `publish` stops the client. -/
theorem sendClientParameters_disturbed {session : RTMPClientSession} {params : ClientParameters}
    {replies : ServerReplies} {input : Bytes} {after : RTMPEndpoint}
    (arrives : Receives session.endpoint input replies.messages after)
    (ready : session.Ready params) (disturbed : ¬ replies.Quiet) :
    ∃ front back output stop final, input = front ++ back ∧
      Fails (sendClientParameters params) session front output stop final := by
  -- the first command among the messages before the reply is taken for it
  obtain ⟨quiet, command, rest, late, isAmf0, silent⟩ : ∃ quiet command rest,
      replies.late = quiet ++ command :: rest ∧ command.messageType = .amf0 ∧
        ∀ message ∈ quiet, message.messageType ≠ .amf0 := by
    simp only [ServerReplies.Quiet, not_forall, Classical.not_not] at disturbed
    obtain ⟨command, member, isAmf0⟩ := disturbed
    obtain ⟨first, found⟩ := Option.isSome_iff_exists.mp (List.find?_isSome
      (p := fun message : RTMPMessage => decide (message.messageType = .amf0)) |>.mpr
        ⟨command, member, decide_eq_true isAmf0⟩)
    obtain ⟨isAmf0, quiet, rest, split, silent⟩ := List.find?_eq_some_iff_append.mp found
    exact ⟨quiet, first, rest, split, of_decide_eq_true isAmf0, by simpa using silent⟩
  have notification : command.IsNotification := by
    have member : command ∈ replies.late := by simp [late]
    rcases replies.late_unrelated command member with notAmf0 | isNotification
    · exact absurd isAmf0 notAmf0
    · exact isNotification
  obtain ⟨front, others, middle, rfl, connected, others'⟩ := arrives.split
  obtain ⟨back, last, created, rfl, numbered, published⟩ := others'.split
  have reordered : replies.late ++ [replies.publish] =
      (quiet ++ [command]) ++ (rest ++ [replies.publish]) := by simp [late]
  rw [reordered] at published
  obtain ⟨upTo, behind, disturbedAt, rfl, mistaken, -⟩ := published.split
  have breaks : Breaks (expectSuccess publishReply 0) created upTo :=
    .response mistaken (fun message member => replyTo_other (silent message member))
      (replyTo_notification notification)
  have requested := requests_advance ready.writable connected numbered
  obtain ⟨sent, one, requesting, same, positive⟩ := requested session (.refl _) ready.positive
  obtain ⟨none, stop, final, failed⟩ := breaks { session with endpoint := one } same positive
  refine ⟨(front ++ back) ++ upTo, behind, sent ++ none, stop, final, by simp, ?_⟩
  rw [sendClientParameters_requests]
  exact Fails.after requesting (failed.bind _)

end RTMPClientSession

theorem never_returns {session : RTMPClientSession} {params : ClientParameters}
    {replies : ServerReplies} {input : Bytes} {after : RTMPEndpoint}
    (arrives : Receives session.endpoint input replies.messages after)
    (ready : session.Ready params) (disturbed : ¬ replies.Quiet) (tail : Bytes) :
    ¬ ∃ read rest output session', input ++ tail = read ++ rest ∧
      Returns (RTMPClientSession.sendClientParameters params) session read output () session' := by
  intro returned
  obtain ⟨read, rest, output, session', stream, call⟩ := returned
  obtain ⟨front, back, output', stop, final, rfl, failed⟩ :=
    RTMPClientSession.sendClientParameters_disturbed arrives ready disturbed
  rw [List.append_assoc] at stream
  obtain ⟨same, -, -⟩ := Runs.unique call failed stream.symm (Returns.finished _ _)
    (Fails.finished _ _)
  exact nomatch congrArg Config.prog same

/-! ## Servers that answer as they should -/

theorem Synced.deliver : ∀ {containers : List AMFValue} {sender receiver : RTMPEndpoint},
    Synced sender receiver → (∀ container ∈ containers, ∃ payload, Travels container payload) →
      ∃ input messages after, Receives receiver input messages after ∧
        List.Forall₂ RTMPMessage.Carries messages containers := by
  intro containers
  induction containers with
  | nil =>
      intro sender receiver synced travel
      exact ⟨[], [], receiver, .none, .nil⟩
  | cons container containers inductionHypothesis =>
      intro sender receiver synced travel
      obtain ⟨payload, travels⟩ := travel container (List.mem_cons_self ..)
      have sendable : Sendable 3 0 payload :=
        ⟨by decide, by decide, travels.nonempty, travels.limited⟩
      obtain ⟨stream, middle, -, call, -, synced'⟩ :=
        synced.transfer travels.serialized sendable .amf0 0
      obtain ⟨input, messages, after, receives, carry⟩ := inductionHypothesis synced'
        fun other member => travel other (List.mem_cons_of_mem _ member)
      have arrives := (Receives.single call
        (RTMPClientSession.handleMessage_ignores (Eq.refl RTMPMessageType.amf0)
          middle)).trans receives
      exact ⟨stream ++ input, _ :: messages, after, arrives, .cons ⟨rfl, travels.parsed⟩ carry⟩

/-- A command that travels and answers none of the requests. -/
structure Noted (note : AMFValue) : Prop where
  travels : ∃ payload, Travels note payload
  unrelated : ∀ message : RTMPMessage, message.Carries note → message.IsUnrelated

theorem Noted.all {messages : List RTMPMessage} {notes : List AMFValue}
    (noted : ∀ note ∈ notes, Noted note) (carry : List.Forall₂ RTMPMessage.Carries messages notes) :
    ∀ message ∈ messages, message.IsUnrelated := by
  induction carry with
  | nil => exact fun message member => absurd member List.not_mem_nil
  | @cons message note _ _ carries _ ih =>
      obtain ⟨first, others⟩ := List.forall_mem_cons.mp noted
      exact List.forall_mem_cons.mpr ⟨first.unrelated message carries, ih others⟩

theorem carried_split {messages : List RTMPMessage} {before behind : List AMFValue}
    {container : AMFValue}
    (carry : List.Forall₂ RTMPMessage.Carries messages (before ++ container :: behind)) :
    ∃ front message back, messages = front ++ message :: back ∧
      List.Forall₂ RTMPMessage.Carries front before ∧ message.Carries container ∧
      List.Forall₂ RTMPMessage.Carries back behind := by
  have front := List.forall₂_take_append _ _ _ carry
  obtain ⟨message, back, carries, later, split⟩ :=
    List.forall₂_cons_right_iff.mp (List.forall₂_drop_append _ _ _ carry)
  exact ⟨_, message, back, by rw [← split, List.take_append_drop], front, carries, later⟩

theorem replies_with {early between late : List AMFValue} (earlyNoted : ∀ note ∈ early, Noted note)
    (betweenNoted : ∀ note ∈ between, Noted note) (lateNoted : ∀ note ∈ late, Noted note) :
    ∃ (replies : ServerReplies) (input : Bytes) (after : RTMPEndpoint),
      Receives {} input replies.messages after ∧
        List.Forall₂ RTMPMessage.Carries replies.early early ∧
        List.Forall₂ RTMPMessage.Carries replies.between between ∧
        List.Forall₂ RTMPMessage.Carries replies.late late := by
  have travels : ∀ container ∈ early ++ amfResult connectResult 1 :: (between ++
      amfResult createStreamResult 4 :: (late ++ [publishStatus 0])),
      ∃ payload, Travels container payload := by
    simp only [List.forall_mem_cons, List.forall_mem_append, List.not_mem_nil, false_implies,
      implies_true, and_true]
    exact ⟨fun note member => (earlyNoted note member).travels, connectResult_travels 1,
      fun note member => (betweenNoted note member).travels, createStreamResult_travels 4,
      fun note member => (lateNoted note member).travels, publishStatus_travels 0⟩
  obtain ⟨input, messages, after, receives, carry⟩ := synced_default.deliver travels
  obtain ⟨first, connect, others, rfl, carryFirst, connected, carryOthers⟩ := carried_split carry
  obtain ⟨second, create, last, rfl, carrySecond, created, carryLast⟩ := carried_split carryOthers
  obtain ⟨third, publish, none, rfl, carryThird, published, ends⟩ := carried_split carryLast
  obtain rfl := List.forall₂_nil_right_iff.mp ends
  have numbered : ∀ id : Int32, id.toInt.natAbs < 2 ^ 53 →
      Binary64.EqualsInt (Binary64.ofInt id.toInt) id.toInt :=
    fun id small => (Binary64.equalsInt_ofInt small).mpr rfl
  let replies : ServerReplies :=
    { early := first
      connect := connect
      between := second
      create := create
      late := third
      publish := publish
      early_unrelated := Noted.all earlyNoted carryFirst
      between_unrelated := Noted.all betweenNoted carrySecond
      late_unrelated := Noted.all lateNoted carryThird
      connect_reply := ⟨_, _, _, _, connected, numbered 1 (by decide), by
        simp [index, find?_assigned, OrdMap.last?]⟩
      create_reply := ⟨_, _, created, numbered 4 (by decide)⟩
      publish_reply := ⟨_, _, _, _, published, numbered 0 (by decide), by
        simp [index, find?_assigned, OrdMap.last?]⟩ }
  have whole : first ++ connect :: (second ++ create :: (third ++ [publish])) =
      replies.messages := by simp [replies, ServerReplies.messages]
  rw [whole] at receives
  exact ⟨replies, input, after, receives, carryFirst, carrySecond, carryThird⟩

theorem onBWDone_noted : Noted (.root [.string (ascii "onBWDone"), .ofInt 0, .nul]) where
  travels := by
    have name : Sized (.string (ascii "onBWDone")) 34 := sized_literal "onBWDone" rfl
    exact (((SizedArray.nil.cons sized_nul).cons (sized_ofInt 0)).cons name).travels
      (by simp [payloadLimit])
  unrelated message carries := by
    refine .inr ⟨⟨_, _, _, carries, (Binary64.equalsInt_ofInt (by decide)).mpr rfl⟩, ?_⟩
    intro isPublish
    obtain ⟨number, third, info, rest, other, -⟩ := isPublish
    have same := carries.2.symm.trans other.2
    simp at same

theorem defaultClient_ready : RTMPClientSession.Ready {} {} :=
  ⟨by decide, ClientParameters.writable_of_fits (by decide) (by decide) (by decide)⟩

/-- `SendClientParameters` returns and sets `sent_params` exactly if it can send and
no command lies between the replies to `createStream` and `publish`. -/
theorem publish_tolerates_iff (session : RTMPClientSession) (params : ClientParameters)
    (replies : ServerReplies) (input tail : Bytes) (after : RTMPEndpoint)
    (arrives : Receives session.endpoint input replies.messages after) :
    (∃ read rest output session', input ++ tail = read ++ rest ∧
      Returns (RTMPClientSession.sendClientParameters params) session read output () session' ∧
      session'.sentParams = true) ↔ session.Ready params ∧ replies.Quiet := by
  constructor
  · intro returned
    obtain ⟨read, rest, output, session', stream, call, -⟩ := returned
    have ready := (RTMPClientSession.sendClientParameters_needs session params).returns call
    refine ⟨ready, ?_⟩
    by_contra disturbed
    exact never_returns arrives ready disturbed tail ⟨read, rest, output, session', stream, call⟩
  · intro conditions
    obtain ⟨ready, quiet⟩ := conditions
    obtain ⟨output, session', call, sent⟩ :=
      RTMPClientSession.sendClientParameters_quiet arrives ready quiet
    exact ⟨input, tail, output, session', rfl, call, sent⟩

/-- A server that says `onBWDone` before it starts the stream. -/
theorem onBWDone_mistaken : ∃ (replies : ServerReplies) (input : Bytes) (after : RTMPEndpoint),
    Receives {} input replies.messages after ∧
    replies.early = [] ∧ replies.between = [] ∧
    (∃ note, replies.late = [note] ∧
      note.Carries (.root [.string (ascii "onBWDone"), .ofInt 0, .nul])) ∧
    ∀ tail, ¬ ∃ read rest output session', input ++ tail = read ++ rest ∧
      Returns (RTMPClientSession.sendClientParameters {}) {} read output () session' := by
  obtain ⟨replies, input, after, receives, early, between, late⟩ :=
    replies_with (List.forall_mem_nil _) (List.forall_mem_nil _)
      (List.forall_mem_singleton.mpr onBWDone_noted)
  obtain ⟨note, rest, carries, last, lateNote⟩ := List.forall₂_cons_right_iff.mp late
  obtain rfl := List.forall₂_nil_right_iff.mp last
  have disturbed : ¬ replies.Quiet := by
    intro quiet
    exact quiet note (by rw [lateNote]; exact List.mem_singleton_self note) carries.1
  exact ⟨replies, input, after, receives, List.forall₂_nil_right_iff.mp early,
    List.forall₂_nil_right_iff.mp between, ⟨note, lateNote, carries⟩,
    never_returns receives defaultClient_ready disturbed⟩

/-- A server that says `onBWDone` before it answers `connect` and before it answers
`createStream`. -/
theorem publish_tolerates_early_notes : ∃ (replies : ServerReplies) (input : Bytes),
    List.Forall₂ RTMPMessage.Carries replies.early
      [.root [.string (ascii "onBWDone"), .ofInt 0, .nul]] ∧
    List.Forall₂ RTMPMessage.Carries replies.between
      [.root [.string (ascii "onBWDone"), .ofInt 0, .nul]] ∧
    ∃ read rest output session', input ++ [] = read ++ rest ∧
      Returns (RTMPClientSession.sendClientParameters {}) {} read output () session' ∧
      session'.sentParams = true := by
  have noted := List.forall_mem_singleton.mpr onBWDone_noted
  obtain ⟨replies, input, after, receives, early, between, late⟩ :=
    replies_with noted noted (List.forall_mem_nil _)
  have quiet : replies.Quiet := by
    rw [ServerReplies.Quiet, List.forall₂_nil_right_iff.mp late]
    exact List.forall_mem_nil _
  exact ⟨replies, input, early, between,
    (publish_tolerates_iff {} {} replies input [] after receives).mpr ⟨defaultClient_ready, quiet⟩⟩

end EasyRtmp
