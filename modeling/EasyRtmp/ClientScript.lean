import EasyRtmp.Lib.Script
import EasyRtmp.Answers
import EasyRtmp.Calls

/-!
# A client and any server

`SendClientParameters` performs a script: six requests, and three waits that let it go on.
Whatever a server sends, no request leaves the client before the reply that it waits for.
-/

set_option autoImplicit false

namespace EasyRtmp

open Lib Lib.ByteCodec AMFValue

/-! ## The script -/

/-- A command that can be sent. -/
structure Request where
  root : AMFValue
  chunkStreamId : UInt8
  messageStreamId : Nat
  messageType : RTMPMessageType
  travels : ∃ payload, root.Travels payload
  idBound : chunkStreamId.toNat < 64
  streamBound : messageStreamId < 2 ^ 24
  isCommand : messageType = .amf0 ∨ messageType = .metadataAmf0

def Request.delivery (request : Request) : Delivery :=
  ⟨request.messageType, request.messageStreamId, request.chunkStreamId, request.root.payload⟩

def Request.send (request : Request) : ClientProg Unit :=
  RTMPClientSession.onEndpoint
    (sendCommand request.root request.chunkStreamId request.messageStreamId request.messageType)

structure Reply where
  callback : AMFValue → Except Stop Bool
  cmdId : Int

def Reply.await (reply : Reply) : ClientProg Unit :=
  RTMPClientSession.expectSuccess reply.callback reply.cmdId

/-- A reply that is refused ends in the exception that follows the wait. -/
def Reply.judge (reply : Reply) (message : RTMPMessage) : Verdict Stop :=
  match replyTo reply.callback reply.cmdId message.messageType message.data with
  | .ok none => .ignored
  | .ok (some true) => .approved
  | .ok (some false) => .stopped (.rtmpException .netstreamConnection)
  | .error stop => .stopped stop

structure ClientParameters.Fits (params : ClientParameters) : Prop where
  app : FitsString params.app
  url : FitsString params.url
  key : FitsString params.key

section Requests
variable {params : ClientParameters}

/-- The commands of the connection, on chunk stream 3. -/
def Request.ofConnection (root : AMFValue) (travels : ∃ payload, root.Travels payload) : Request :=
  ⟨root, 3, 0, .amf0, travels, by decide, by decide, .inl rfl⟩

/-- The commands of the stream, on chunk stream 4. -/
def Request.ofStream (root : AMFValue) (travels : ∃ payload, root.Travels payload)
    (messageType : RTMPMessageType)
    (isCommand : messageType = .amf0 ∨ messageType = .metadataAmf0) : Request :=
  ⟨root, 4, 1, messageType, travels, by decide, by decide, isCommand⟩

def publishScript (params : ClientParameters) (fits : params.Fits) : Script Request Reply :=
  [.request (.ofConnection (connectCommand params.app params.url)
      (connectCommand_travels fits.app fits.url)),
    .wait ⟨connectReply, 1⟩,
    .request (.ofConnection (releaseStreamCommand params.key)
      (releaseStreamCommand_travels fits.key)),
    .request (.ofConnection (fcPublishCommand params.key) (fcPublishCommand_travels fits.key)),
    .request (.ofConnection createStreamCommand createStreamCommand_travels),
    .wait ⟨createStreamReply, 4⟩,
    .request (.ofStream (publishCommand params.key) (publishCommand_travels fits.key) .amf0
      (.inl rfl)),
    .wait ⟨publishReply, 0⟩,
    .request (.ofStream (dataFrame params) (dataFrame_travels params) .metadataAmf0 (.inr rfl))]

theorem sendClientParameters_performs (fits : params.Fits) :
    RTMPClientSession.sendClientParameters params = (do
      (publishScript params fits).perform Request.send Reply.await
      Prog.modifyState fun session => { session with sentParams := true }) := by
  rw [RTMPClientSession.sendClientParameters_eq]
  simp only [publishScript, Script.perform, Request.send, Request.ofConnection, Request.ofStream,
    Reply.await, bind_assoc, pure_bind]

end Requests

/-! ## What a wait takes -/

theorem receiveSerializable_mute {α : Type} (getLength : Nat) (parseRef : Reader Stop α) :
    Mute (receiveSerializable getLength parseRef : EndpointProg α) := by
  refine Mute.bind ?_ fun data => .ofExcept _
  unfold receiveData
  split
  · exact .fail _
  · exact .recvBytes _

theorem receiveChunkHeader_mute : Mute receiveChunkHeader := by
  refine (receiveSerializable_mute _ _).bind fun basicHeader => ?_
  refine (Mute.modifyState _).bind fun _ => Mute.getState.bind fun endpoint => ?_
  refine Mute.bind ?_ fun cs => (Mute.modifyState _).bind fun _ => .pure _
  unfold receiveMessageHeader
  split
  · exact (receiveSerializable_mute _ _).bind fun header => .pure _
  · exact (receiveSerializable_mute _ _).bind fun header => .pure _
  · exact (receiveSerializable_mute _ _).bind fun header => .pure _
  · exact .pure _

theorem receiveChunkPayload_mute (chunkStreamId : UInt8) :
    Mute (receiveChunkPayload chunkStreamId) := by
  refine Mute.getState.bind fun endpoint => Mute.bind ?_ fun recData => ?_
  · unfold receiveData
    split
    · exact .fail _
    · exact .recvBytes _
  · split
    · exact .fail _
    · dsimp only
      split
      · refine (Mute.modifyState _).bind fun _ => ?_
        split
        · exact .fail _
        · exact .pure _
      · exact (Mute.modifyState _).bind fun _ => .pure _

theorem getRTMPMessage_mute : Mute getRTMPMessage :=
  .repeatUntil fun _ => receiveChunkHeader_mute.bind receiveChunkPayload_mute

theorem handleMessage_mute (message : RTMPMessage) : Mute (handleMessage message) := by
  unfold handleMessage
  split
  · exact (Mute.ofExcept _).bind fun _ => .modifyState _
  · split
    · refine Mute.getState.bind fun endpoint => ?_
      split
      · exact .fail _
      · exact .putState _
    · split
      · exact (Mute.ofExcept _).bind fun _ => .pure _
      · split
        · exact (Mute.ofExcept _).bind fun _ => .pure _
        · exact .pure _

namespace RTMPClientSession

section Taken
variable {clb : AMFValue → Except Stop Bool} {cmdId : Int} {session after : RTMPClientSession}
  {input output : Bytes}

theorem onEndpoint_mute {α : Type} {program : EndpointProg α} (mute : Mute program) :
    Mute (onEndpoint program) := mute.zoom endpointLens

theorem responsePass_mute (clb : AMFValue → Except Stop Bool) (cmdId : Int) :
    Mute (responsePass clb cmdId) := by
  refine (onEndpoint_mute getRTMPMessage_mute).bind fun message => ?_
  split
  · refine (Mute.ofExcept _).bind fun amfContainer => (Mute.ofExcept _).bind fun answer => ?_
    split
    · exact .pure _
    · exact .pure _
  · exact (onEndpoint_mute (handleMessage_mute message)).bind fun _ => .pure _

theorem expectSuccess_mute (clb : AMFValue → Except Stop Bool) (cmdId : Int) :
    Mute (expectSuccess clb cmdId) := by
  refine (Mute.repeatUntil fun _ => responsePass_mute clb cmdId).bind fun result => ?_
  split
  · exact .fail _
  · exact .pure _

/-- A call on the endpoint, told from the session. -/
theorem onEndpoint_inv {α : Type} {program : EndpointProg α} {value : α} (mute : Mute program)
    (call : Returns (onEndpoint program) session input output value after) :
    ∃ endpoint, Returns program session.endpoint input [] value endpoint ∧
      after = { session with endpoint := endpoint } ∧ output = [] := by
  obtain ⟨endpoint, inner, rfl⟩ := Returns.of_zoom endpointLens call
  obtain rfl := mute.run inner
  exact ⟨endpoint, inner, rfl, rfl⟩

/-- A pass takes one message, and answers if that is a reply. -/
theorem responsePass_inv {result : Unit ⊕ Bool}
    (pass : Returns (responsePass clb cmdId) session input output result after) :
    ∃ message middle endpoint, Returns getRTMPMessage session.endpoint input [] message middle ∧
      Returns (handleMessage message) middle [] [] () endpoint ∧
      after = { session with endpoint := endpoint } ∧
      ((result = .inl () ∧ replyTo clb cmdId message.messageType message.data = .ok none) ∨
        ∃ answer, result = .inr answer ∧
          replyTo clb cmdId message.messageType message.data = .ok (some answer)) := by
  obtain ⟨message, heard, front, back, sent, later, hears, rest, rfl, rfl⟩ :=
    Returns.bind_inv pass
  obtain ⟨middle, call, rfl, rfl⟩ := onEndpoint_inv getRTMPMessage_mute hears
  by_cases isAmf0 : message.messageType = .amf0
  · rw [if_pos isAmf0, responsePass_amf0 isAmf0] at rest
    obtain ⟨answer, replies, rest⟩ := rest.ofExcept_inv
    have handled := handleMessage_ignores isAmf0 middle
    cases answer with
    | none =>
        have pass : Returns (.ret (.inl ()) : ClientProg (Unit ⊕ Bool)) _ back later result after :=
          rest
        obtain ⟨rfl, rfl, rfl, rfl⟩ := pass.of_pure
        rw [List.append_nil]
        exact ⟨message, middle, middle, call, handled, rfl, .inl ⟨rfl, replies⟩⟩
    | some answer =>
        have pass : Returns (.ret (.inr answer) : ClientProg (Unit ⊕ Bool)) _ back later result
          after := rest
        obtain ⟨rfl, rfl, rfl, rfl⟩ := pass.of_pure
        rw [List.append_nil]
        exact ⟨message, middle, middle, call, handled, rfl, .inr ⟨answer, rfl, replies⟩⟩
  · rw [if_neg isAmf0] at rest
    obtain ⟨_, passed, front', back', sent', later', taken, last, rfl, rfl⟩ :=
      Returns.bind_inv rest
    obtain ⟨rfl, rfl, rfl, rfl⟩ := last.of_pure
    obtain ⟨endpoint, handled, rfl, rfl⟩ := onEndpoint_inv (handleMessage_mute message) taken
    obtain ⟨-, rfl, -⟩ := (handleMessage_quiet message).run handled
    rw [List.append_nil, List.append_nil]
    exact ⟨message, middle, endpoint, call, handled, rfl, .inl ⟨rfl, replyTo_other isAmf0⟩⟩

/-- The passes up to the reply. -/
theorem iterates_inv {start : Unit} {result : Bool}
    (passes : Runs.Iterates (fun _ => responsePass clb cmdId) start session input output result
      after) :
    ∃ skipped message endpoint, Receives session.endpoint input (skipped ++ [message]) endpoint ∧
      (∀ earlier ∈ skipped, replyTo clb cmdId earlier.messageType earlier.data = .ok none) ∧
      replyTo clb cmdId message.messageType message.data = .ok (some result) ∧
      after = { session with endpoint := endpoint } := by
  induction passes with
  | last pass =>
      obtain ⟨message, middle, endpoint, call, handled, rfl, skips | ⟨answer, same, replies⟩⟩ :=
        responsePass_inv pass
      · cases skips.1
      · cases same
        exact ⟨[], message, endpoint, .single call handled, List.forall_mem_nil _, replies, rfl⟩
  | again pass _ ih =>
      obtain ⟨message, middle, endpoint, call, handled, rfl, ⟨-, skips⟩ | ⟨answer, same, -⟩⟩ :=
        responsePass_inv pass
      · obtain ⟨skipped, reply, endpoint', receives, ignored, replies, rfl⟩ := ih
        refine ⟨message :: skipped, reply, endpoint', (Receives.single call handled).trans receives,
          ?_, replies, rfl⟩
        intro earlier member
        rcases List.mem_cons.mp member with rfl | member
        · exact skips
        · exact ignored earlier member
      · cases same

theorem expectSuccess_inv (call : Returns (expectSuccess clb cmdId) session input output () after) :
    ∃ skipped message endpoint, Receives session.endpoint input (skipped ++ [message]) endpoint ∧
      (∀ earlier ∈ skipped, replyTo clb cmdId earlier.messageType earlier.data = .ok none) ∧
      replyTo clb cmdId message.messageType message.data = .ok (some true) ∧
      after = { session with endpoint := endpoint } := by
  obtain ⟨result, middle, front, back, sent, later, waited, rest, rfl, rfl⟩ :=
    Returns.bind_inv call
  obtain ⟨skipped, message, endpoint, receives, ignored, replies, rfl⟩ :=
    iterates_inv waited.iterates
  cases result with
  | false =>
      obtain ⟨isRet, -⟩ := Runs.of_finished (Fails.finished _ _) rest
      cases isRet
  | true =>
      obtain ⟨-, rfl, rfl, rfl⟩ := rest.of_pure
      rw [List.append_nil]
      exact ⟨skipped, message, endpoint, receives, ignored, replies, rfl⟩

/-- Messages that are no reply leave the call waiting for the next one. -/
theorem getCommandResponse_waits : ∀ {messages : List RTMPMessage} {session : RTMPClientSession}
    {input : Bytes} {endpoint : RTMPEndpoint}, Receives session.endpoint input messages endpoint →
    (∀ message ∈ messages, replyTo clb cmdId message.messageType message.data = .ok none) →
      ∃ config, Runs ⟨session, getCommandResponse clb cmdId⟩ input [] config ∧
        Blocked config := by
  intro messages
  induction messages with
  | nil =>
      intro session input endpoint receives _
      obtain ⟨rfl, rfl⟩ := receives.of_nil
      obtain ⟨next, waits⟩ := receiveChunk_waits
      have inner : ∀ rest : RTMPMessage → ClientProg Bool, ∃ wait,
          Runs ⟨session, .loop (fun _ => receiveChunk.zoom endpointLens) () rest⟩ [] []
            ⟨session, .recv 1 wait⟩ := by
        intro rest
        rw [waits]
        exact ⟨_, Runs.loop (.refl _)⟩
      obtain ⟨wait, run⟩ := inner _
      exact ⟨_, Runs.loop run, 1, wait, Nat.one_pos, rfl⟩
  | cons message messages ih =>
      intro session input endpoint receives ignored
      obtain ⟨front, back, middle, handledAt, rfl, call, handled, behind⟩ := receives.uncons
      have pass := responsePass_skips (ignored message List.mem_cons_self) call handled
      obtain ⟨config, run, blocked⟩ := @ih { session with endpoint := handledAt } back endpoint
        behind fun other member => ignored other (List.mem_cons_of_mem _ member)
      exact ⟨config, (Runs.loop_again pass).trans run, blocked⟩

end Taken

end RTMPClientSession

/-! ## The client performs its script -/

/-- The messages that are read are these requests. -/
def ReadsRequests (reader : RTMPEndpoint) (bytes : Bytes) (requests : List Request)
    (after : RTMPEndpoint) : Prop :=
  ∃ messages, Receives reader bytes messages after ∧
    messages.map RTMPMessage.delivery = requests.map Request.delivery

/-- The session's receiving half is the receiver's, and the observer is in step with the
other half. -/
structure Attuned (session : RTMPClientSession) (receiver observer : RTMPEndpoint) : Prop where
  receiving : receiver.SameReceiving session.endpoint
  synced : Synced session.endpoint observer

section Attuned
variable {session : RTMPClientSession} {receiver receiver' observer : RTMPEndpoint} {input : Bytes}
  {messages : List RTMPMessage}

theorem Attuned.sends (attuned : Attuned session receiver observer) (request : Request) :
    ∃ output after observer', Returns request.send session [] output () after ∧
      ReadsRequests observer output [request] observer' ∧ Attuned after receiver observer' := by
  obtain ⟨payload, travels⟩ := request.travels
  have harmless : ∀ (message : RTMPMessage) (endpoint : RTMPEndpoint),
      message.messageType = request.messageType → message.data = payload →
        Returns (handleMessage message) endpoint [] [] () endpoint := by
    intro message endpoint isType _
    rcases request.isCommand with isAmf | isAmf
    · exact handleMessage_idle (isType.trans isAmf) (by decide) endpoint
    · exact handleMessage_idle (isType.trans isAmf) (by decide) endpoint
  obtain ⟨output, endpoint, call, flight⟩ := (InFlight.synced attuned.synced).sends 0
    travels.serialized ⟨request.idBound, request.streamBound, travels.nonempty, travels.limited⟩
    harmless
  obtain ⟨received, observer', receives, deliveries, synced⟩ := flight.receives
  have kept := sending_frame (fun _ => sendRTMPMessage_lockstep _ _ _ _ _) call
  refine ⟨output, { session with endpoint := endpoint }, observer',
    RTMPClientSession.onEndpoint_returns call, ⟨received, receives, ?_⟩,
    ⟨attuned.receiving.trans kept.symm, synced⟩⟩
  rw [deliveries, List.map_singleton, Request.delivery, travels.payload_eq]
  rfl

/-- The session's endpoint takes the same messages. -/
theorem Attuned.hears (attuned : Attuned session receiver observer)
    (receives : Receives receiver input messages receiver') :
    ∃ endpoint, Receives session.endpoint input messages endpoint ∧
      Attuned { session with endpoint := endpoint } receiver' observer := by
  obtain ⟨endpoint, receives', same, kept⟩ := receives.congr attuned.receiving
  exact ⟨endpoint, receives', same, attuned.synced.sender_congr kept.symm⟩

end Attuned

section Judged
variable {reply : Reply} {message : RTMPMessage}

theorem Reply.judge_ignored : reply.judge message = .ignored ↔
    replyTo reply.callback reply.cmdId message.messageType message.data = .ok none := by
  unfold Reply.judge
  split <;> simp_all

theorem Reply.judge_approved : reply.judge message = .approved ↔
    replyTo reply.callback reply.cmdId message.messageType message.data = .ok (some true) := by
  unfold Reply.judge
  split <;> simp_all

theorem Reply.ignored_iff {messages : List RTMPMessage} :
    (∀ message ∈ messages, reply.judge message = .ignored) ↔
      ∀ message ∈ messages,
        replyTo reply.callback reply.cmdId message.messageType message.data = .ok none :=
  forall₂_congr fun _ _ => Reply.judge_ignored

end Judged

/-- A message that stops the wait: a reply that is refused, or cannot be read. -/
theorem Reply.await_stops {reply : Reply} {session : RTMPClientSession} {input : Bytes}
    {skipped : List RTMPMessage} {message : RTMPMessage} {endpoint : RTMPEndpoint} {stop : Stop}
    (receives : Receives session.endpoint input (skipped ++ [message]) endpoint)
    (ignored : ∀ earlier ∈ skipped, reply.judge earlier = .ignored)
    (stops : reply.judge message = .stopped stop) :
    ∃ after, Fails reply.await session input [] stop after := by
  rw [Reply.ignored_iff] at ignored
  unfold Reply.judge at stops
  split at stops
  · cases stops
  · cases stops
  · rename_i refused
    cases stops
    have responds := RTMPClientSession.getCommandResponse_returns receives ignored refused
    exact ⟨_, responds.before _⟩
  · rename_i failed
    cases stops
    obtain ⟨after, fails⟩ := RTMPClientSession.getCommandResponse_fails receives ignored failed
    exact ⟨after, fails.bindLeft _⟩

theorem client_performs :
    Performs Request.send Reply.await Reply.judge Receives ReadsRequests Attuned where
  takes := ⟨fun _ => .none, fun first second => first.trans second⟩
  reads := by
    refine ⟨fun _ => ⟨[], .none, rfl⟩, ?_⟩
    rintro first middle last front back items later ⟨messages, receives, same⟩
      ⟨messages', receives', same'⟩
    refine ⟨messages ++ messages', receives.trans receives', ?_⟩
    rw [List.map_append, List.map_append, same, same']
  takes_split := Receives.split
  sends := fun request attuned => attuned.sends request
  mute := fun reply => RTMPClientSession.expectSuccess_mute reply.callback reply.cmdId
  ignored := by
    intro session receiver receiver' observer input messages reply attuned takes ignored
    obtain ⟨endpoint, receives, -⟩ := attuned.hears takes
    obtain ⟨config, run, blocked⟩ :=
      RTMPClientSession.getCommandResponse_waits receives (Reply.ignored_iff.mp ignored)
    exact ⟨_, run.bindLeft _, blocked.bind _⟩
  approved := by
    intro session receiver receiver' observer input skipped message reply attuned takes ignored
      approved
    obtain ⟨endpoint, receives, after⟩ := attuned.hears takes
    exact ⟨_, RTMPClientSession.expectSuccess_returns
      (RTMPClientSession.getCommandResponse_returns receives (Reply.ignored_iff.mp ignored)
        (Reply.judge_approved.mp approved)), after⟩
  stopped := by
    intro session receiver receiver' observer input skipped message stop reply attuned takes ignored
      stops
    obtain ⟨endpoint, receives, -⟩ := attuned.hears takes
    exact Reply.await_stops receives ignored stops
  returned := by
    intro session after receiver observer input output reply attuned call
    obtain ⟨skipped, message, endpoint, receives, ignored, replies, rfl⟩ :=
      RTMPClientSession.expectSuccess_inv call
    obtain ⟨receiver', takes, same, -⟩ := receives.congr attuned.receiving.symm
    refine ⟨skipped, message, receiver', takes, Reply.ignored_iff.mpr ignored,
      Reply.judge_approved.mpr replies, same.symm, ?_⟩
    exact attuned.synced.sender_congr receives.frame.symm

/-! ## Any server -/

/-- Where `SendClientParameters` stands in front of the bytes `back`. -/
def ClientStands (back : Bytes) (config : Config RTMPClientSession Stop Unit) :
    ScriptEnd Stop RTMPMessage → Prop
  | .waiting => back = [] ∧ Blocked config
  | .completed later => config.prog = .ret () ∧ config.state.sentParams = true ∧
      ∃ last, Receives config.state.endpoint back later last
  | .stopped stop => config.prog = .fail stop

section Server
variable {params : ClientParameters} {session : RTMPClientSession} {server : RTMPEndpoint}

/-- What was sent by any moment is asked for by the replies that had come by then. -/
theorem client_sends (fits : params.Fits) (synced : Synced session.endpoint server)
    {input output : Bytes} {config : Config RTMPClientSession Stop Unit}
    (run : Runs ⟨session, RTMPClientSession.sendClientParameters params⟩ input output config) :
    ∃ whole part messages now more after, input = whole ++ part ∧
      Receives session.endpoint whole messages now ∧
      ReadsRequests server (output ++ more)
        ((publishScript params fits).requested Reply.judge messages) after ∧
      (config.prog = .ret () → part = [] ∧ more = [] ∧ config.state.sentParams = true ∧
        (publishScript params fits).ending Reply.judge messages = .completed []) := by
  have attuned : Attuned session session.endpoint server := ⟨.refl _, synced⟩
  rw [sendClientParameters_performs fits] at run
  rcases Runs.bind_split run with ⟨middle, amid, unfinished⟩ |
    ⟨_, middle, front, back, sent, later, call, last, rfl, rfl⟩
  · obtain ⟨whole, part, messages, now, more, after, rfl, takes, reads, -⟩ :=
      Script.sent_requested client_performs _ attuned amid
    exact ⟨whole, part, messages, now, more, after, rfl, takes, reads,
      fun isRet => (unfinished () isRet).elim⟩
  · obtain ⟨whole, part, messages, now, more, after, rfl, takes, reads, returned⟩ :=
      Script.sent_requested client_performs _ attuned call
    obtain ⟨rfl, rfl, completed, -⟩ := returned rfl
    obtain ⟨-, rfl, rfl⟩ := (Quiet.modifyState _).run last
    refine ⟨whole, [], messages, now, [], after, List.append_nil _, takes, ?_, ?_⟩
    · rw [List.append_nil]
      exact reads
    · intro isRet
      obtain ⟨state, prog⟩ := config
      subst isRet
      obtain ⟨-, rfl, -, -⟩ := Returns.unique last (.modifyState _ middle) (Eq.refl ([] ++ []))
      exact ⟨rfl, rfl, rfl, completed⟩

/-- Messages that come are answered with the requests that they ask for. -/
theorem client_answers (fits : params.Fits) (synced : Synced session.endpoint server)
    {wire : Bytes} {messages : List RTMPMessage} {now : RTMPEndpoint}
    (receives : Receives session.endpoint wire messages now) :
    ∃ front back output config after, wire = front ++ back ∧
      Runs ⟨session, RTMPClientSession.sendClientParameters params⟩ front output config ∧
      ReadsRequests server output ((publishScript params fits).requested Reply.judge messages)
        after ∧
      ClientStands back config ((publishScript params fits).ending Reply.judge messages) := by
  have attuned : Attuned session session.endpoint server := ⟨.refl _, synced⟩
  rw [sendClientParameters_performs fits]
  obtain ⟨front, back, output, config, after, rfl, run, reads, stands⟩ :=
    Script.performed client_performs (publishScript params fits) attuned receives
  generalize (publishScript params fits).ending Reply.judge messages = ending at stands ⊢
  cases ending with
  | waiting =>
      exact ⟨front, back, output, _, after, rfl, run.bindLeft _, reads, stands.1, stands.2.bind _⟩
  | stopped stop =>
      obtain ⟨state, prog⟩ := config
      obtain rfl : prog = .fail stop := stands
      exact ⟨front, back, output, _, after, rfl, run.bindLeft _, reads, rfl⟩
  | completed later =>
      obtain ⟨state, prog⟩ := config
      obtain ⟨isRet, receiver, takes, attuned'⟩ := stands
      obtain rfl : prog = .ret () := isRet
      obtain ⟨last, behind, -⟩ := attuned'.hears takes
      have call : Returns ((publishScript params fits).perform Request.send Reply.await) session
          front output () state := run
      exact ⟨front, back, output, _, after, rfl, call.bind_silent (.modifyState _ state), reads,
        rfl, rfl, last, behind⟩

end Server

/-- Whatever a server sends, at every moment of every run what the client has sent is the
beginning of the requests that the replies taken so far ask for: none comes before its
reply, or twice, or behind a refusal.  And whatever messages come, these requests are sent
in full, and the client then waits, has returned or has stopped, as the messages say. -/
theorem publisher_in_turn (params : ClientParameters) (fits : params.Fits)
    (session : RTMPClientSession) (server : RTMPEndpoint)
    (synced : Synced session.endpoint server) :
    (∀ input output config,
      Runs ⟨session, RTMPClientSession.sendClientParameters params⟩ input output config →
      ∃ whole part messages now more after, input = whole ++ part ∧
        Receives session.endpoint whole messages now ∧
        ReadsRequests server (output ++ more)
          ((publishScript params fits).requested Reply.judge messages) after ∧
        (config.prog = .ret () → part = [] ∧ more = [] ∧ config.state.sentParams = true ∧
          (publishScript params fits).ending Reply.judge messages = .completed [])) ∧
    ∀ wire messages now, Receives session.endpoint wire messages now →
      ∃ front back output config after, wire = front ++ back ∧
        Runs ⟨session, RTMPClientSession.sendClientParameters params⟩ front output config ∧
        ReadsRequests server output ((publishScript params fits).requested Reply.judge messages)
          after ∧
        ClientStands back config ((publishScript params fits).ending Reply.judge messages) :=
  ⟨fun _ _ _ run => client_sends fits synced run,
    fun _ _ _ receives => client_answers fits synced receives⟩

/-- A server that refuses `connect`: the client has sent this one request, and stops. -/
theorem refused_client : ∃ front output state after,
    Runs ⟨{}, RTMPClientSession.sendClientParameters {}⟩ front output
      ⟨state, .fail (.rtmpException .netstreamConnection)⟩ ∧
    ∃ request, ReadsRequests {} output [request] after ∧ request.root = connectCommand [] [] := by
  have fits : ClientParameters.Fits {} := ⟨by decide, by decide, by decide⟩
  have name : Sized (.string (ascii "_error")) 34 := sized_literal "_error" rfl
  have travels : ∃ payload, Travels (.root [.string (ascii "_error"), .ofInt 1, .nul]) payload :=
    (((SizedArray.nil.cons sized_nul).cons (sized_ofInt 1)).cons name).travels
      (by simp [payloadLimit])
  obtain ⟨wire, messages, now, receives, carry⟩ :=
    synced_default.deliver (List.forall_mem_singleton.mpr travels)
  obtain ⟨message, rest, carries, last, rfl⟩ := List.forall₂_cons_right_iff.mp carry
  obtain rfl := List.forall₂_nil_right_iff.mp last
  have refused : (⟨connectReply, 1⟩ : Reply).judge message =
      .stopped (.rtmpException .netstreamConnection) := by
    have numbered : Binary64.EqualsInt (Binary64.ofInt 1) 1 :=
      (Binary64.equalsInt_ofInt (by decide)).mpr rfl
    have other : ascii "_error" ≠ ascii "_result" := by decide
    simp only [Reply.judge, replyTo_carried carries, matchReply, connectReply, statusReply, begin,
      next, deref, getNumber, getString, AMFValue.ofInt, bind, Except.bind, pure, Except.pure,
      numbered, other, if_true, if_false]
  obtain ⟨-, answers⟩ := publisher_in_turn {} fits {} {} synced_default
  obtain ⟨front, back, output, ⟨state, prog⟩, after, -, run, reads, stands⟩ :=
    answers wire [message] now receives
  simp only [publishScript, Script.requested, Script.ending, awaited, refused] at reads stands
  obtain rfl : prog = .fail (.rtmpException .netstreamConnection) := stands
  exact ⟨front, output, state, after, run, _, reads, rfl⟩

end EasyRtmp
