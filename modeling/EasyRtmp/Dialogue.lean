import EasyRtmp.Exchange
import EasyRtmp.Handshake

/-!
# A client publishes to a server

Each side constructs its endpoint; then the client runs `SendClientParameters`
and the server calls `GetRTMPMessage` again and again.
-/

set_option autoImplicit false

namespace EasyRtmp

open Lib Lib.ByteCodec AMFValue

def clientMain (params : ClientParameters) : ClientProg Unit := do
  RTMPClientSession.onEndpoint constructEndpoint
  RTMPClientSession.sendClientParameters params

/-- A server that asks for messages forever. -/
def serverLoop : ServerProg Unit :=
  Prog.repeatUntil
    (fun _ => do
      let _ ← RTMPServerSession.getRTMPMessage
      pure (.inl ()))
    ()

def serverMain : ServerProg Unit := do
  RTMPServerSession.onEndpoint constructEndpoint
  serverLoop

def dialogue (params : ClientParameters) : Dialogue :=
  ⟨⟨{}, clientMain params⟩, ⟨{}, serverMain⟩, [], []⟩

/-! ## The server's answers -/

section Server
open RTMPServerSession
variable {held : ClientParameters} {payload : Bytes}

theorem readCommand_numbered (name : Bytes) (id : Int32) (rest : List AMFValue) :
    readCommand (.root (.string name :: .ofInt id.toInt :: rest)) = .ok ⟨name, id, rest⟩ := by
  have number : doubleToInt (Binary64.ofInt id.toInt) = id := doubleToInt_ofInt id
  simp only [readCommand, begin, deref, getString, next, AMFValue.ofInt, AMFValue.type, getNumber,
    bind, Except.bind, pure, Except.pure, if_true, number]

theorem answers_command {root : AMFValue} (travels : Travels root payload) {id : UInt8}
    (idBound : id.toNat < 64) {messageStreamId : Nat} (streamBound : messageStreamId < 2 ^ 24) :
    Answers (onEndpoint (sendCommand root id messageStreamId .amf0)) held
      [⟨.amf0, messageStreamId, id, payload⟩] held := by
  refine Answers.send 0 travels.serialized
    ⟨idBound, streamBound, travels.nonempty, travels.limited⟩ ?_ held
  intro message endpoint isAmf0 _
  exact handleMessage_idle isAmf0 (by decide) endpoint

/-- The three control messages that precede the reply to `connect`. -/
def connectPreamble : List Delivery :=
  [⟨.windowAcknowledgementSize, 0, 2, [0, 38, 37, 160]⟩,
    ⟨.setPeerBandwith, 0, 2, [0, 152, 150, 128, 2, 0, 0, 0]⟩,
    ⟨.userControlMessage, 0, 2, [0, 0, 0, 0, 0, 0]⟩]

theorem answers_window : Answers (onEndpoint (sendWindowsAcknowledgementSize 2500000)) held
    [⟨.windowAcknowledgementSize, 0, 2, [0, 38, 37, 160]⟩] held := by
  refine Answers.send 0 (by decide) (by decide) ?_ held
  intro message endpoint isWindow data
  exact handleMessage_window isWindow (by rw [data]; decide) (by rw [data]; decide) endpoint

theorem answers_bandwith : Answers (onEndpoint (sendSetPeerBandwith 10000000)) held
    [⟨.setPeerBandwith, 0, 2, [0, 152, 150, 128, 2, 0, 0, 0]⟩] held := by
  refine Answers.send 0 (by decide) (by decide) ?_ held
  intro message endpoint isBandwith data
  exact handleMessage_bandwith isBandwith (by rw [data]; decide) (by rw [data]; decide) endpoint

theorem answers_streamBegin :
    Answers (onEndpoint (sendUserControlMessage (UCMStreamBegin.mk 0 0).toSerializable)) held
      [⟨.userControlMessage, 0, 2, [0, 0, 0, 0, 0, 0]⟩] held := by
  refine Answers.send 0 (by decide) (by decide) ?_ held
  intro message endpoint isControl _
  exact handleMessage_idle isControl (by decide) endpoint

theorem modifyParameters_returns (change : ClientParameters → ClientParameters)
    (endpoint : RTMPEndpoint) :
    Returns (modifyParameters change) ⟨endpoint, held⟩ [] [] () ⟨endpoint, change held⟩ :=
  Returns.modifyState _ _

theorem connect_answered (app url : Bytes) (travels : Travels (amfResult connectResult 1) payload) :
    Answers (handleAMF (connectCommand app url)) held
      (connectPreamble ++ [⟨.amf0, 0, 3, payload⟩]) { held with app := app } := by
  have command := readCommand_numbered (ascii "connect") 1 [.object (AMFValue.assigned
    [(ascii "app", .string app),
      (ascii "type", .string (ascii "nonprivate")),
      (ascii "flashVer", .string (ascii "FMLE/3.0 (compatible; FMSc/1.0)")),
      (ascii "swfUrl", .string url),
      (ascii "tcUrl", .string url)])]
  have read : readApp [.object (AMFValue.assigned
      [(ascii "app", .string app),
        (ascii "type", .string (ascii "nonprivate")),
        (ascii "flashVer", .string (ascii "FMLE/3.0 (compatible; FMSc/1.0)")),
        (ascii "swfUrl", .string url),
        (ascii "tcUrl", .string url)])] = .ok app := by
    simp [readApp, deref, atKey, find?_assigned, OrdMap.last?, getString, bind, Except.bind]
  refine Answers.silent (fun endpoint => Returns.ofExcept command _) ?_
  simp only [if_true]
  refine Answers.silent (fun endpoint => Returns.ofExcept read _) ?_
  refine Answers.silent (fun endpoint => modifyParameters_returns _ endpoint) ?_
  exact answers_window.bind (answers_bandwith.bind (answers_streamBegin.bind
    (answers_command travels (by decide) (by decide))))

theorem createStream_answered (travels : Travels (amfResult createStreamResult 4) payload) :
    Answers (handleAMF createStreamCommand) held [⟨.amf0, 0, 3, payload⟩] held := by
  have command := readCommand_numbered (ascii "createStream") 4 [.nul]
  refine Answers.silent (fun endpoint => Returns.ofExcept command _) ?_
  simp only [ascii_inj, String.reduceEq, if_true, if_false]
  exact answers_command travels (by decide) (by decide)

theorem publish_answered (key : Bytes) (travels : Travels (publishStatus 0) payload) :
    Answers (handleAMF (publishCommand key)) held [⟨.amf0, 1, 3, payload⟩]
      { held with key := key } := by
  have command := readCommand_numbered (ascii "publish") 0
    [.nul, .string key, .string (ascii "live")]
  refine Answers.silent (fun endpoint => Returns.ofExcept command _) ?_
  simp only [ascii_inj, String.reduceEq, if_true, if_false]
  have read : readKey [.nul, .string key, .string (ascii "live")] = .ok key := rfl
  refine Answers.silent (fun endpoint => Returns.ofExcept read _) ?_
  refine Answers.silent (fun endpoint => modifyParameters_returns _ endpoint) ?_
  exact answers_command travels (by decide) (by decide)

/-- The two commands that the server does not know. -/
theorem keyCommand_ignored (name : String) (id : Int32) (key : Bytes)
    (unknown : name ∉ ["connect", "createStream", "publish", "@setDataFrame", "onMetaData"]) :
    Answers (handleAMF (.root [.string (ascii name), .ofInt id.toInt, .nul, .string key])) held []
      held := by
  have command := readCommand_numbered (ascii name) id [.nul, .string key]
  simp only [List.mem_cons, List.not_mem_nil, or_false, not_or] at unknown
  obtain ⟨notConnect, notCreate, notPublish, notFrame, notMetadata⟩ := unknown
  refine Answers.silent (fun endpoint => Returns.ofExcept command _) ?_
  simp only [ascii_inj, notConnect, notCreate, notPublish, notFrame, if_false]
  rw [handleMetadata, if_neg (mt ascii_inj.mp notMetadata)]
  exact Answers.quiet fun endpoint => .pure () _

theorem dataFrame_answered {params left : ClientParameters}
    (applied : applyMetadata (metadataProps params) held = (.ok (), left)) :
    Answers (handleAMF (dataFrame params)) held [] left := by
  have command : readCommand (dataFrame params) = .ok ⟨ascii "@setDataFrame", 0,
      [.string (ascii "onMetaData"), metadataProps params]⟩ := rfl
  have frame : readDataFrame [.string (ascii "onMetaData"), metadataProps params] =
      .ok (ascii "onMetaData", [metadataProps params]) := rfl
  refine Answers.silent (fun endpoint => Returns.ofExcept command _) ?_
  simp only [ascii_inj, String.reduceEq, if_true, if_false]
  refine Answers.silent (fun endpoint => Returns.ofExcept frame _) ?_
  rw [handleMetadata, if_pos rfl]
  apply Answers.quiet
  intro endpoint
  have obj : deref [metadataProps params] = .ok (metadataProps params) := rfl
  refine (Returns.ofExcept obj _).silent_bind ((Returns.getState _).silent_bind ?_)
  simp only [applied]
  exact (Returns.putState _ _).silent_bind (.pure () _)

end Server

/-! ## The first steps -/

section Start
variable {client : RTMPClientSession} {server : RTMPServerSession}
  {clientRest : Unit → ClientProg Unit} {serverRest : Unit → ServerProg Unit}

/-- Either side sends its packets before it waits for those of the other. -/
theorem handshake_reaches : Duplex.Reaches
    ⟨⟨client, RTMPClientSession.onEndpoint constructEndpoint >>= clientRest⟩,
      ⟨server, RTMPServerSession.onEndpoint constructEndpoint >>= serverRest⟩, [], []⟩
    ⟨⟨client, RTMPClientSession.onEndpoint (changeChunkSizeOutput 4096) >>= clientRest⟩,
      ⟨server, RTMPServerSession.onEndpoint (changeChunkSizeOutput 4096) >>= serverRest⟩,
      [], []⟩ := by
  obtain ⟨clientHello, clientEcho, clientDone⟩ := doHandshake_segments client.endpoint
  obtain ⟨serverHello, serverEcho, serverDone⟩ := doHandshake_segments server.endpoint
  have left := fun {program final : EndpointProg Unit} {input output : Bytes}
    (run : Runs ⟨client.endpoint, program⟩ input output ⟨client.endpoint, final⟩) =>
      run.inside RTMPClientSession.endpointLens client (fun _ => changeChunkSizeOutput 4096)
        clientRest
  have right := fun {program final : EndpointProg Unit} {input output : Bytes}
    (run : Runs ⟨server.endpoint, program⟩ input output ⟨server.endpoint, final⟩) =>
      run.inside RTMPServerSession.endpointLens server (fun _ => changeChunkSizeOutput 4096)
        serverRest
  exact Duplex.reaches_greeting (left clientHello) (right serverHello) (left clientEcho)
    (right serverEcho) (left clientDone) (right serverDone)

theorem serverLoop_enters (session : RTMPServerSession) : ∃ return_,
    Runs ⟨session, serverLoop⟩ [] []
      ⟨session, .loop (fun _ => RTMPServerSession.serverPass) () return_⟩ :=
  ⟨_, Runs.loop (.refl _)⟩

/-- Either side changes its chunk size, and the server takes note of the client's. -/
theorem chunkSizes_changed : ∃ (client : RTMPClientSession) (opened server : RTMPServerSession)
    (stream channel : Bytes),
    Dialogue.Linked client server channel [⟨.setChunkSize, 0, 2, beBytes 4 4096⟩] ∧
      Clocked (fun _ => none) client.endpoint server.endpoint ∧
      Returns (RTMPClientSession.onEndpoint (changeChunkSizeOutput 4096)) {} [] stream () client ∧
      Returns (RTMPServerSession.onEndpoint (changeChunkSizeOutput 4096)) {} [] channel () opened ∧
      Returns RTMPServerSession.serverPass opened stream [] (.inl ()) server := by
  have positive : 0 < 4096 := by omega
  have signed : 4096 < 2 ^ 31 := by omega
  obtain ⟨stream, server₁, serverSends⟩ : ∃ stream after,
      Returns (changeChunkSizeOutput 4096) {} [] stream () after := by
    obtain ⟨stream, -, sends, -⟩ := synced_default.changeChunkSize positive signed
    exact ⟨stream, _, sends⟩
  have serverSame := sending_frame (fun _ => changeChunkSizeOutput_lockstep 4096) serverSends
  have clocked := clocked_default.receiver_congr serverSame.symm
  obtain ⟨stream', client₁, message, middle, server₂, clientSends, receives, type, handled⟩ :
      ∃ stream' client₁ message middle server₂,
      Returns (changeChunkSizeOutput 4096) {} [] stream' () client₁ ∧
      Returns getRTMPMessage server₁ stream' [] message middle ∧
      message.messageType = .setChunkSize ∧
      Returns (handleMessage message) middle [] [] () server₂ := by
    obtain ⟨stream', buffer, sends, receives, handled, -⟩ :=
      clocked.synced.changeChunkSize positive signed
    exact ⟨stream', _, _, _, _, sends, receives, rfl, handled⟩
  have clocked' := clocked.resized ⟨positive, signed⟩ clientSends receives handled
  have clientSame := sending_frame (fun _ => changeChunkSizeOutput_lockstep 4096) clientSends
  have received := (receiving_frame (fun _ => handleMessage_lockstep message) handled).trans
    (receiving_frame (fun _ => getRTMPMessage_lockstep) receives)
  have flight := ((synced_default.chunkSize positive signed serverSends).sender_congr
    received.symm).receiver_congr clientSame.symm
  exact ⟨⟨client₁, false⟩, ⟨server₁, {}⟩, ⟨server₂, {}⟩, stream', stream,
    ⟨clocked'.synced, flight⟩, clocked', RTMPClientSession.onEndpoint_returns clientSends,
    RTMPServerSession.onEndpoint_returns serverSends,
    Dialogue.serverPass_other receives type (by decide) handled⟩

end Start

/-! ## The replies are those the client waits for -/

section Replies
variable {clb : AMFValue → Except Stop Bool} {cmdId : Int} {payload : Bytes}

theorem replyTo_travels {root : AMFValue} (travels : Travels root payload) :
    replyTo clb cmdId .amf0 payload = matchReply clb cmdId root := by
  rw [replyTo, if_pos rfl, travels.parsed]
  rfl

theorem connect_replied (travels : Travels (amfResult connectResult 1) payload) :
    replyTo connectReply 1 .amf0 payload = .ok (some true) := by
  rw [replyTo_travels travels]
  apply matchReply_status
  · exact (Binary64.equalsInt_ofInt (by decide)).mpr rfl
  · simp [index, find?_assigned, OrdMap.last?]

theorem createStream_replied (travels : Travels (amfResult createStreamResult 4) payload) :
    replyTo createStreamReply 4 .amf0 payload = .ok (some true) := by
  have numbered : Binary64.EqualsInt (Binary64.ofInt (Int32.toInt 4)) 4 :=
    (Binary64.equalsInt_ofInt (by decide)).mpr rfl
  rw [replyTo_travels travels]
  simp only [matchReply, createStreamReply, amfResult, createStreamResult, AMFValue.ofInt, begin,
    next, deref, getNumber, getString, List.cons_append, List.nil_append, bind, Except.bind, pure,
    Except.pure, numbered, if_true, decide_true]

theorem publish_replied (travels : Travels (publishStatus 0) payload) :
    replyTo publishReply 0 .amf0 payload = .ok (some true) := by
  rw [replyTo_travels travels]
  apply matchReply_status
  · exact (Binary64.equalsInt_ofInt (by decide)).mpr rfl
  · simp [index, find?_assigned, OrdMap.last?]

end Replies

/-! ## The dialogue -/

/-- What the server is to know of the client's parameters. -/
structure ClientParameters.Received (held params : ClientParameters) : Prop where
  app : held.app = params.app
  key : held.key = params.key
  stream : held.SameStream params

/-- `SendClientParameters` in rounds, whatever the client does next. -/
theorem publish_rounds (params : ClientParameters) (appFits : FitsString params.app)
    (urlFits : FitsString params.url) (keyFits : FitsString params.key)
    {client₀ : RTMPClientSession} {server₀ : RTMPServerSession} {channel₀ : Bytes} {clock₀ : Clock}
    (linked₀ : Dialogue.Linked client₀ server₀ channel₀ [⟨.setChunkSize, 0, 2, beBytes 4 4096⟩])
    (clocked₀ : Clocked clock₀ client₀.endpoint server₀.endpoint) :
    ∃ client server clock, client.sentParams = true ∧ server.clientParameters.Received params ∧
      Dialogue.Linked client server [] [] ∧ Clocked clock client.endpoint server.endpoint ∧
      clock 4 = some (1, 0) ∧
      ∀ rest : Unit → ClientProg Unit, Rounds RTMPServerSession.serverPass
        ⟨⟨client₀, RTMPClientSession.sendClientParameters params >>= rest⟩, server₀, channel₀⟩
        ⟨⟨client, rest ()⟩, server, []⟩ := by
  obtain ⟨connectBytes, connect⟩ := connectCommand_travels appFits urlFits
  obtain ⟨resultBytes, result⟩ := connectResult_travels 1
  obtain ⟨client₁, server₁, channel₁, round₁, linked₁, sent₁, held₁, clocks₁⟩ :=
    linked₀.command_round connect 3 (by decide) 0 (by decide) (.inl rfl)
      (connect_answered params.app params.url result)
  rw [← List.append_assoc] at linked₁
  have preamble : ∀ earlier ∈ [⟨.setChunkSize, 0, 2, beBytes 4 4096⟩] ++ connectPreamble,
      replyTo connectReply 1 earlier.messageType earlier.data = .ok none := by
    intro earlier member
    have other : ∀ earlier ∈ [⟨.setChunkSize, 0, 2, beBytes 4 4096⟩] ++ connectPreamble,
        Delivery.messageType earlier ≠ .amf0 := by decide
    exact replyTo_other (other earlier member)
  obtain ⟨client₂, round₂, linked₂, sent₂, same₂⟩ :=
    linked₁.response_round preamble (connect_replied result)
  obtain ⟨releaseBytes, release⟩ := releaseStreamCommand_travels keyFits
  obtain ⟨client₃, server₃, channel₃, round₃, linked₃, sent₃, held₃, clocks₃⟩ :=
    linked₂.command_round release 3 (by decide) 0 (by decide) (.inl rfl)
      (keyCommand_ignored "releaseStream" 2 params.key (by decide))
  obtain ⟨fcPublishBytes, fcPublish⟩ := fcPublishCommand_travels keyFits
  obtain ⟨client₄, server₄, channel₄, round₄, linked₄, sent₄, held₄, clocks₄⟩ :=
    linked₃.command_round fcPublish 3 (by decide) 0 (by decide) (.inl rfl)
      (keyCommand_ignored "FCPublish" 3 params.key (by decide))
  obtain ⟨createBytes, create⟩ := createStreamCommand_travels
  obtain ⟨createdBytes, created⟩ := createStreamResult_travels 4
  obtain ⟨client₅, server₅, channel₅, round₅, linked₅, sent₅, held₅, clocks₅⟩ :=
    linked₄.command_round create 3 (by decide) 0 (by decide) (.inl rfl)
      (createStream_answered created)
  obtain ⟨client₆, round₆, linked₆, sent₆, same₆⟩ := linked₅.response_round (by simp)
    (createStream_replied created)
  obtain ⟨publishBytes, publish⟩ := publishCommand_travels keyFits
  obtain ⟨statusBytes, status⟩ := publishStatus_travels 0
  obtain ⟨client₇, server₇, channel₇, round₇, linked₇, sent₇, held₇, clocks₇⟩ :=
    linked₆.command_round publish 4 (by decide) 1 (by decide) (.inl rfl)
      (publish_answered params.key status)
  obtain ⟨client₈, round₈, linked₈, sent₈, same₈⟩ :=
    linked₇.response_round (by simp) (publish_replied status)
  obtain ⟨frameBytes, frame⟩ := dataFrame_travels params
  obtain ⟨left, applied, app, key, stream⟩ := applyMetadata_sent params server₇.clientParameters
  obtain ⟨client₉, server₉, channel₉, round₉, linked₉, sent₉, held₉, clocks₉⟩ :=
    linked₈.command_round frame 4 (by decide) 1 (by decide) (.inr rfl)
      (dataFrame_answered applied)
  obtain rfl : channel₉ = [] := linked₉.toClient.of_nil
  have clocked₂ := (clocks₁ _ clocked₀).sender_congr same₂.symm
  have clocked₆ := (clocks₅ _ (clocks₄ _ (clocks₃ _ clocked₂))).sender_congr same₆.symm
  have clocked₉ := clocks₉ _ ((clocks₇ _ clocked₆).sender_congr same₈.symm)
  have finish : ∀ rest : Unit → ClientProg Unit, Rounds RTMPServerSession.serverPass
      ⟨⟨client₉, (Prog.modifyState fun session => { session with sentParams := true }) >>= rest⟩,
        server₉, []⟩ ⟨⟨{ client₉ with sentParams := true }, rest ()⟩, server₉, []⟩ :=
    fun rest => .single (.reply server₉ [] ((Returns.modifyState _ client₉).before rest))
  refine ⟨{ client₉ with sentParams := true }, server₉, _, rfl, ?_, ⟨linked₉.toServer,
    linked₉.toClient⟩, clocked₉, Function.update_self _ _ _, ?_⟩
  · have appKept : server₇.clientParameters.app = params.app := by
      rw [held₇, held₅, held₄, held₃, held₁]
    have keyKept : server₇.clientParameters.key = params.key := by rw [held₇]
    rw [held₉]
    exact ⟨app.trans appKept, key.trans keyKept, stream⟩
  · intro rest
    rw [RTMPClientSession.sendClientParameters_eq]
    simp only [bind_assoc]
    exact .head (round₁ _) (.head (round₂ _) (.head (round₃ _) (.head (round₄ _)
      (.head (round₅ _) (.head (round₆ _) (.head (round₇ _) (.head (round₈ _)
        (.head (round₉ _) (finish rest)))))))))

/-- One schedule of the dialogue: a side runs until it waits for the other. -/
theorem dialogue_completes (params : ClientParameters) (appFits : FitsString params.app)
    (urlFits : FitsString params.url) (keyFits : FitsString params.key) :
    ∃ client server return_, Duplex.Reaches (dialogue params)
        (Dialogue.between client (.ret ()) server return_ []) ∧
      client.sentParams = true ∧ server.clientParameters.Received params := by
  obtain ⟨client₀, opened, server₀, stream, channel₀, linked₀, clocked₀, clientSends, serverSends,
    pass⟩ := chunkSizes_changed
  obtain ⟨client, server, clock, sent, received, -, -, -, rounds⟩ :=
    publish_rounds params appFits urlFits keyFits linked₀ clocked₀
  obtain ⟨return_, enters⟩ := serverLoop_enters opened
  have whole : RTMPClientSession.sendClientParameters params =
      RTMPClientSession.sendClientParameters params >>= fun _ => .ret () :=
    (bind_pure _).symm
  have asks := Duplex.reaches_left
    (clientSends.before fun _ => RTMPClientSession.sendClientParameters params)
    ⟨{}, RTMPServerSession.onEndpoint (changeChunkSizeOutput 4096) >>= fun _ => serverLoop⟩ [] []
  have answers := Duplex.reaches_right ((serverSends.before fun _ => serverLoop).trans enters)
    ⟨client₀, RTMPClientSession.sendClientParameters params⟩ [] stream
  have taken : Runs ⟨opened, .loop (fun _ => RTMPServerSession.serverPass) () return_⟩ stream []
      ⟨server₀, .loop (fun _ => RTMPServerSession.serverPass) () return_⟩ := Runs.loop_again pass
  have takes := Duplex.reaches_right taken
    ⟨client₀, RTMPClientSession.sendClientParameters params⟩ channel₀ []
  simp only [List.append_nil] at asks answers takes
  refine ⟨client, server, return_, ?_, sent, received⟩
  rw [dialogue, clientMain, serverMain]
  refine handshake_reaches.trans (asks.trans (answers.trans (takes.trans ?_)))
  rw [whole]
  exact Dialogue.between_reaches (rounds fun _ => .ret ()) return_

namespace Dialogue

def Throws (net : Dialogue) : Prop :=
  (∃ stop, net.left.prog = .fail stop) ∨ ∃ stop, net.right.prog = .fail stop

/-- `SendClientParameters` has returned and the server waits for more with the
parameters it was told. -/
structure Done (params : ClientParameters) (net : Dialogue) : Prop where
  returned : net.left.prog = .ret ()
  sentParams : net.left.state.sentParams = true
  emptied : net.toRight = [] ∧ net.toLeft = []
  received : net.right.state.clientParameters.Received params

end Dialogue

/-- In every interleaving: neither side throws, nobody waits in vain before
`SendClientParameters` has returned, and when both sides rest the server knows the
parameters. -/
theorem sessions_agree (params : ClientParameters) (appFits : FitsString params.app)
    (urlFits : FitsString params.url) (keyFits : FitsString params.key) (net : Dialogue)
    (path : (dialogue params).Reaches net) :
    ¬ net.Throws ∧ (net.AtRest → net.Done params) ∧
      ∃ final : Dialogue, net.Reaches final ∧ final.AtRest := by
  obtain ⟨client, server, return_, schedule, sent, received⟩ :=
    dialogue_completes params appFits urlFits keyFits
  obtain ⟨wait, waits⟩ := serverLoop_waits server return_
  have settles := Duplex.reaches_right waits ⟨client, .ret ()⟩ [] []
  obtain ⟨final, isFinal⟩ : ∃ final : Dialogue,
      final = ⟨⟨client, .ret ()⟩, ⟨server, .recv 1 wait⟩, [], []⟩ := ⟨_, rfl⟩
  have whole : (dialogue params).Reaches final := isFinal ▸ schedule.trans settles
  have rest : final.AtRest := by
    subst isFinal
    exact ⟨rfl, rfl⟩
  have done : final.Done params := by
    subst isFinal
    exact ⟨rfl, sent, ⟨rfl, rfl⟩, received⟩
  have onward : net.Reaches final := whole.completes rest path
  refine ⟨?_, ?_, final, onward, rest⟩
  · intro throws
    rcases throws with ⟨stop, failed⟩ | ⟨stop, failed⟩
    · have stays := Duplex.left_finished (Or.inr ⟨stop, failed⟩) onward
      rw [← stays, done.returned] at failed
      cases failed
    · have stays := Duplex.right_finished (Or.inr ⟨stop, failed⟩) onward
      rw [← stays, isFinal] at failed
      cases failed
  · intro atRest
    have same : final = net := atRest.reaches onward
    exact same ▸ done

theorem sessions_agree_on_audio :
    ¬ (dialogue { app := [97], key := [107], hasAudio := true }).Throws ∧
      ((dialogue { app := [97], key := [107], hasAudio := true }).AtRest →
        (dialogue { app := [97], key := [107], hasAudio := true }).Done
          { app := [97], key := [107], hasAudio := true }) ∧
      ∃ final : Dialogue,
        (dialogue { app := [97], key := [107], hasAudio := true }).Reaches final ∧ final.AtRest :=
  sessions_agree _ (by decide) (by decide) (by decide) _ .refl

end EasyRtmp
