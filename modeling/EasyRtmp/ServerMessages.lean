import EasyRtmp.Aborts
import EasyRtmp.CommandSafety
import EasyRtmp.PacketFields

/-!
# What the server makes of a message

One pass of the server's loop handles the message that the endpoint hands over.
Either the message is rejected, and the pass ends in an exception with nothing
written and nothing sent, or it is accepted.
-/

set_option autoImplicit false

namespace EasyRtmp

open Lib Lib.ByteCodec AMFValue

/-! ## Messages -/

def RTMPMessage.IsAMF (message : RTMPMessage) : Prop :=
  message.messageType = .amf0 ∨ message.messageType = .metadataAmf0

instance (message : RTMPMessage) : Decidable message.IsAMF :=
  inferInstanceAs (Decidable (_ ∨ _))

/-- The bytes that the structure of a payload takes at least. -/
def RTMPMessageType.leastLength (type : RTMPMessageType) : Nat :=
  if type = .audio then 2
  else if type = .video then 5
  else if type = .setChunkSize then 4
  else if type = .windowAcknowledgementSize then 4
  else if type = .setPeerBandwith then 5
  else 0

/-- A `connect` whose object lacks `app`. -/
def lacksApp (root : AMFValue) : Bool :=
  match readCommand root with
  | .ok command =>
      command.cmdName = ascii "connect" &&
        match command.it with
        | conObj :: _ => !(conObj.atKey (ascii "app")).isOk
        | [] => false
  | .error _ => false

/-- The value that an AMF message hands to `HandleAMF`. -/
def RTMPMessage.command? (message : RTMPMessage) : Option AMFValue :=
  if message.IsAMF then (parseBuffer (parseRoot []) message.data).toOption else none

def RTMPMessage.rejected (message : RTMPMessage) : Bool :=
  if message.IsAMF then message.command?.all lacksApp
  else message.data.length < message.messageType.leastLength

def RTMPMessage.isMedia (message : RTMPMessage) : Bool :=
  message.messageType = .audio ∨ message.messageType = .video

/-- A message whose handling is defined.  An AMF parser that leaves its payload and an
`ABORT` without a chunk stream are left out. -/
structure RTMPMessage.Readable (message : RTMPMessage) : Prop where
  parses : message.IsAMF → ∀ stop, parseBuffer (parseRoot []) message.data = .error stop →
    ¬ stop.IsFault
  shaped : ∀ root, message.command? = some root → ∃ values, root = .root values ∧
    CommandShape True values
  aborts : message.messageType = .abort → 4 ≤ message.data.length

/-- The media message that an audio or video message is returned as. -/
structure Carries (message : RTMPMessage) (media : RTMPMediaMessage) : Prop where
  messageType : media.messageType = message.messageType
  messageStreamId : media.messageStreamId = message.messageStreamId
  timestamp : media.timestamp = message.timestamp
  audio : if message.messageType = .audio then
      parseBuffer AudioPacketAAC.parseRef message.data = .ok media.audio
    else media.audio = {}
  video : if message.messageType = .video then
      parseBuffer VideoPacket.parseRef message.data = .ok media.video
    else media.video = {}

/-! ## Short payloads -/

section Short
variable {data : Bytes}

theorem parseUint32_refuses (short : data.length < 4) : Refuses parseUint32 data .runtimeError :=
  readDataType_refuses _ _ short

theorem SetPeerBandwith.parse_short (short : data.length < 5) :
    Refuses parseRef data .runtimeError := by
  by_cases four : data.length = 4
  · have refused : Refuses (readDataType 1 1 false 0) [] .runtimeError :=
      readDataType_refuses _ _ Nat.zero_lt_one
    have refuses : Refuses parseRef (data ++ []) .runtimeError :=
      (read4_be four).bindRefuses (refused.bind _)
    rwa [List.append_nil] at refuses
  · exact (readDataType_refuses _ _ (by omega)).bind _

theorem AudioPacketAAC.parse_short (short : data.length < 2) :
    Refuses parseRef data .runtimeError := by
  rcases data with _ | ⟨first, _ | ⟨second, rest⟩⟩
  · exact (readDataType_refuses _ _ Nat.zero_lt_one).bind _
  · exact (read1 first).bindRefuses ((readDataType_refuses _ _ Nat.zero_lt_one).bind _)
  · simp only [List.length_cons] at short
    omega

theorem VideoPacket.parse_short (short : data.length < 5) :
    Refuses parseRef data .runtimeError := by
  rcases data with _ | ⟨first, _ | ⟨second, time⟩⟩
  · exact (readDataType_refuses _ _ Nat.zero_lt_one).bind _
  · exact (read1 first).bindRefuses ((readDataType_refuses _ _ Nat.zero_lt_one).bind _)
  · have three : time.length < 3 := by
      rw [List.length_cons, List.length_cons] at short
      omega
    exact (read1 first).bindRefuses
      ((read1 second).bindRefuses ((readDataType_refuses _ _ three).bind _))

theorem AudioPacketAAC.parses (enough : 2 ≤ data.length) (fits : data.length < 2 ^ 31) :
    ∃ packet, parseBuffer parseRef data = .ok packet := by
  rcases data with _ | ⟨first, _ | ⟨second, rest⟩⟩
  · simp at enough
  · simp at enough
  · exact ⟨_, parse_data first second rest fits⟩

theorem VideoPacket.parses (enough : 5 ≤ data.length) (fits : data.length < 2 ^ 31) :
    ∃ packet, parseBuffer parseRef data = .ok packet := by
  rcases data with _ | ⟨first, _ | ⟨second, rest⟩⟩
  · simp at enough
  · simp at enough
  · have three : (rest.take 3).length = 3 := by
      simp only [List.length_cons] at enough
      exact List.length_take_of_le (by omega)
    rw [← List.take_append_drop 3 rest] at fits ⊢
    exact ⟨_, parse_data first second three _ fits⟩

end Short

/-! ## The endpoint's messages -/

section Control
variable {message : RTMPMessage} {endpoint : RTMPEndpoint}

/-- `HandleMessage` throws on a payload shorter than the structure it parses. -/
theorem handleMessage_ends (delivered : Delivered message endpoint)
    (fits : message.data.length < 2 ^ 31) (notMedia : message.isMedia = false) :
    if message.data.length < message.messageType.leastLength then
      Fails (handleMessage message) endpoint [] [] .runtimeError endpoint
    else ∃ after, Returns (handleMessage message) endpoint [] [] () after := by
  have notAudio : message.messageType ≠ .audio := by
    intro audio
    simp [RTMPMessage.isMedia, audio] at notMedia
  have notVideo : message.messageType ≠ .video := by
    intro video
    simp [RTMPMessage.isMedia, video] at notMedia
  rw [RTMPMessageType.leastLength, if_neg notAudio, if_neg notVideo]
  by_cases isSize : message.messageType = .setChunkSize
  · rw [if_pos isSize]
    split
    · rename_i short
      have refused := parseBuffer_of_refuses
        ((parseUint32_refuses short).bind fun chunkSize => pure (SetChunkSize.mk chunkSize)) fits
      rw [handleMessage, if_pos isSize]
      exact (Fails.ofExcept refused endpoint).bind _
    · rename_i enough
      exact ⟨_, handleMessage_setChunkSize isSize (List.take_append_drop 4 _).symm
        (List.length_take_of_le (Nat.le_of_not_lt enough)) fits endpoint⟩
  rw [if_neg isSize]
  by_cases isWindow : message.messageType = .windowAcknowledgementSize
  · rw [if_pos isWindow]
    split
    · rename_i short
      have refused := parseBuffer_of_refuses ((parseUint32_refuses short).bind fun size =>
        pure (WindowsAcknowledgementSize.mk size)) fits
      rw [handleMessage, if_neg isSize, if_neg (by rw [isWindow]; decide), if_pos isWindow]
      exact (Fails.ofExcept refused endpoint).bind _
    · rename_i enough
      exact ⟨_, handleMessage_window isWindow (Nat.le_of_not_lt enough) fits endpoint⟩
  rw [if_neg isWindow]
  by_cases isBandwith : message.messageType = .setPeerBandwith
  · rw [if_pos isBandwith]
    split
    · rename_i short
      have refused := parseBuffer_of_refuses (SetPeerBandwith.parse_short short) fits
      rw [handleMessage, if_neg isSize, if_neg (by rw [isBandwith]; decide), if_neg isWindow,
        if_pos isBandwith]
      exact (Fails.ofExcept refused endpoint).bind _
    · rename_i enough
      exact ⟨_, handleMessage_bandwith isBandwith (Nat.le_of_not_lt enough) fits endpoint⟩
  rw [if_neg isBandwith, if_neg (Nat.not_lt_zero _)]
  by_cases isAbort : message.messageType = .abort
  · exact ⟨endpoint, handleMessage_abort isAbort delivered⟩
  · exact ⟨endpoint, handleMessage_other isSize isAbort isWindow isBandwith endpoint⟩

end Control

/-! ## Commands -/

namespace RTMPServerSession

/-- `HandleAMF` behind the head of the command. -/
def handleCommand (command : Command) : ServerProg Unit :=
  if command.cmdName = ascii "connect" then handleConnect command.cmdId command.it
  else if command.cmdName = ascii "createStream" then
    sendAMFResult createStreamResult command.cmdId
  else if command.cmdName = ascii "publish" then handlePublish command.cmdId command.it
  else if command.cmdName = ascii "@setDataFrame" then do
    let frame ← Prog.ofExcept (readDataFrame command.it)
    handleMetadata frame.1 frame.2
  else handleMetadata command.cmdName command.it

section Commands
variable {session : RTMPServerSession} {it values : List AMFValue}

theorem modifyParameters_before {change : ClientParameters → ClientParameters}
    {answer : ServerProg Unit} (sends : SendsChunks answer)
    (positive : 0 < session.endpoint.chunkSizeSend) :
    ∃ output after,
      Returns (modifyParameters change >>= fun _ => answer) session [] output () after := by
  have written : Returns (modifyParameters change) session [] [] ()
      { session with clientParameters := change session.clientParameters } := .modifyState _ _
  obtain ⟨output, after, call, -⟩ := sends.returns
    { session with clientParameters := change session.clientParameters } positive
  exact ⟨output, after, written.silent_bind call⟩

theorem handleConnect_returns {app : Bytes} (read : readApp it = .ok app) (cmdId : Int32)
    (positive : 0 < session.endpoint.chunkSizeSend) :
    ∃ output after, Returns (handleConnect cmdId it) session [] output () after := by
  obtain ⟨output, after, call⟩ := @modifyParameters_before session
    (fun params => { params with app := app }) _ (connect_sends cmdId) positive
  exact ⟨output, after, (Returns.ofExcept read session).silent_bind call⟩

theorem handlePublish_returns (shape : PublishShape True it) (cmdId : Int32)
    (positive : 0 < session.endpoint.chunkSizeSend) :
    ∃ output after, Returns (handlePublish cmdId it) session [] output () after := by
  obtain ⟨-, first, key, rest, rfl⟩ := shape
  obtain ⟨payload, travels⟩ := publishStatus_travels cmdId
  obtain ⟨output, after, call⟩ := @modifyParameters_before session
    (fun params => { params with key := key }) _ (sendsChunks_command travels 3 1) positive
  have read : readKey (first :: .string key :: rest) = .ok key := rfl
  exact ⟨output, after, (Returns.ofExcept read session).silent_bind call⟩

theorem handleMetadata_returns {cmdName : Bytes} (shape : MetadataShape cmdName it) :
    ∃ output after, Returns (handleMetadata cmdName it) session [] output () after := by
  unfold handleMetadata
  split
  · rename_i isMetadata
    obtain ⟨obj, rest, rfl, shapes⟩ := shape isMetadata
    obtain ⟨params, applied⟩ := applyMetadata_done shapes session.clientParameters
    have read : deref (obj :: rest) = .ok obj := rfl
    refine ⟨[], { session with clientParameters := params },
      (Returns.ofExcept read session).silent_bind ((Returns.getState session).silent_bind ?_)⟩
    rw [applied]
    exact (Returns.putState session _).silent_bind (.ofExcept rfl _)
  · exact ⟨[], session, .pure () session⟩

/-- `connect` reads `app` before it writes or sends anything. -/
theorem handleConnect_fails {conObj : AMFValue} {rest : List AMFValue}
    (lacks : (conObj.atKey (ascii "app")).isOk = false) (cmdId : Int32) :
    ∃ stop, ¬ stop.IsFault ∧
      Fails (handleConnect cmdId (conObj :: rest)) session [] [] stop session := by
  cases found : conObj.atKey (ascii "app") with
  | ok app =>
      rw [found] at lacks
      cases lacks
  | error stop =>
      have thrown := Outcome.of_ne_fault.mp (atKey_outcome conObj (ascii "app")) stop found
      have read : readApp (conObj :: rest) = .error stop := by
        show (conObj.atKey (ascii "app") >>= getString) = .error stop
        rw [found]
        rfl
      exact ⟨stop, thrown, (Fails.ofExcept read session).bind _⟩

/-- The name and the arguments of a command. -/
theorem readCommand_shape (shape : CommandShape True values) :
    ∃ command, readCommand (.root values) = .ok command ∧
      ArgumentsShape True command.cmdName command.it := by
  obtain ⟨cmdName, second, rest, rfl, arguments⟩ := shape
  rcases readCommand_cases (.string cmdName :: second :: rest) with
    ⟨name, other, tail, cmdId, same, read⟩ | ⟨-, shapeless⟩
  · simp only [List.cons.injEq, AMFValue.string.injEq] at same
    obtain ⟨rfl, rfl, rfl⟩ := same
    exact ⟨_, read, arguments⟩
  · exact absurd rfl (shapeless cmdName second rest)

theorem handleAMF_then (root : AMFValue) :
    handleAMF root = Prog.ofExcept (readCommand root) >>= handleCommand := rfl

theorem handleCommand_returns {command : Command}
    (arguments : ArgumentsShape True command.cmdName command.it)
    (present : command.cmdName = ascii "connect" → ∃ app, readApp command.it = .ok app)
    (positive : 0 < session.endpoint.chunkSizeSend) :
    ∃ output after, Returns (handleCommand command) session [] output () after := by
  unfold handleCommand
  unfold ArgumentsShape at arguments
  by_cases connect : command.cmdName = ascii "connect"
  · obtain ⟨app, read⟩ := present connect
    rw [if_pos connect]
    exact handleConnect_returns read _ positive
  rw [if_neg connect] at arguments ⊢
  by_cases create : command.cmdName = ascii "createStream"
  · obtain ⟨payload, travels⟩ := createStreamResult_travels command.cmdId
    obtain ⟨output, after, call, -⟩ := (sendsChunks_command travels 3 0).returns session positive
    rw [if_pos create]
    exact ⟨output, after, call⟩
  rw [if_neg create] at arguments ⊢
  by_cases publish : command.cmdName = ascii "publish"
  · rw [if_pos publish] at arguments ⊢
    exact handlePublish_returns arguments _ positive
  rw [if_neg publish] at arguments ⊢
  by_cases frame : command.cmdName = ascii "@setDataFrame"
  · rw [if_pos frame] at arguments ⊢
    obtain ⟨name, rest, framed, shape⟩ := arguments
    obtain ⟨output, after, call⟩ := @handleMetadata_returns session _ _ shape
    have read : readDataFrame command.it = .ok (name, rest) := by
      rw [framed]
      rfl
    exact ⟨output, after, (Returns.ofExcept read session).silent_bind call⟩
  · rw [if_neg frame] at arguments ⊢
    exact handleMetadata_returns arguments

theorem lacksApp_iff {root : AMFValue} {command : Command} (read : readCommand root = .ok command) :
    lacksApp root = true ↔ command.cmdName = ascii "connect" ∧
      ∃ conObj rest, command.it = conObj :: rest ∧
        (conObj.atKey (ascii "app")).isOk = false := by
  obtain ⟨cmdName, cmdId, it⟩ := command
  rw [lacksApp, read]
  cases it <;> simp

/-- What `at` finds under `app` is a text. -/
theorem readApp_present {conObj : AMFValue} {rest : List AMFValue}
    (present : (conObj.atKey (ascii "app")).isOk = true) (typed : conObj.TypedAt "app" .string) :
    ∃ app, readApp (conObj :: rest) = .ok app := by
  cases found : conObj.atKey (ascii "app") with
  | ok value =>
      obtain ⟨app, rfl⟩ := type_string.mp (typed value found)
      refine ⟨app, ?_⟩
      show (conObj.atKey (ascii "app") >>= getString) = .ok app
      rw [found]
      rfl
  | error stop =>
      rw [found] at present
      cases present

theorem handleAMF_ends (shape : CommandShape True values)
    (positive : 0 < session.endpoint.chunkSizeSend) :
    if lacksApp (.root values) then
      ∃ stop, ¬ stop.IsFault ∧ Fails (handleAMF (.root values)) session [] [] stop session
    else ∃ output after, Returns (handleAMF (.root values)) session [] output () after := by
  obtain ⟨command, read, arguments⟩ := readCommand_shape shape
  have start := Returns.ofExcept read session
  have lacks := lacksApp_iff read
  rw [handleAMF_then]
  split
  · rename_i lacking
    obtain ⟨connect, conObj, rest, carried, absent⟩ := lacks.mp lacking
    obtain ⟨stop, thrown, failed⟩ :=
      @handleConnect_fails session conObj rest absent command.cmdId
    refine ⟨stop, thrown, Fails.after_silent start ?_⟩
    rw [handleCommand, if_pos connect, carried]
    exact failed
  · rename_i complete
    have present : command.cmdName = ascii "connect" → ∃ app, readApp command.it = .ok app := by
      intro connect
      have connects := arguments
      rw [connect] at connects
      obtain ⟨conObj, rest, carried, typed, -⟩ := connects
      rw [carried]
      apply readApp_present _ typed
      by_contra absent
      exact complete (lacks.mpr ⟨connect, conObj, rest, carried, by simpa using absent⟩)
    obtain ⟨output, after, call⟩ := handleCommand_returns arguments present positive
    exact ⟨output, after, start.silent_bind call⟩

end Commands

/-! ## What an answer depends on -/

/-- The sending halves agree; the rest of the second endpoint is that of `fixed`. -/
def Answering (fixed endpoint other : RTMPEndpoint) : Prop :=
  RTMPEndpoint.Sending fixed endpoint other ∧ other.chunkSizeSend = fixed.chunkSizeSend

def SameAnswers (fixed : RTMPEndpoint) (session other : RTMPServerSession) : Prop :=
  session.clientParameters = other.clientParameters ∧
    Answering fixed session.endpoint other.endpoint

section Answers
variable {fixed : RTMPEndpoint}

theorem onEndpoint_lockstep (data : Serializable) (id : UInt8) (messageStreamId : Nat)
    (messageType : RTMPMessageType) (timestamp : Nat) :
    Lockstep (SameAnswers fixed)
      (onEndpoint (sendRTMPMessage data id messageStreamId messageType timestamp))
      (onEndpoint (sendRTMPMessage data id messageStreamId messageType timestamp)) := by
  have sends : Lockstep (Answering fixed)
      (sendRTMPMessage data id messageStreamId messageType timestamp)
      (sendRTMPMessage data id messageStreamId messageType timestamp) :=
    sendRTMPMessage_alike (fun related => sending_relation.same related.1)
      (fun related id cs => ⟨sending_relation.setOutput related.1 id cs, related.2⟩) _ _ _ _ _
  exact sends.zoom (fun _ _ same => same.2) fun _ _ _ _ same related => ⟨same.1, related⟩

theorem modifyParameters_lockstep (change : ClientParameters → ClientParameters) :
    Lockstep (SameAnswers fixed) (modifyParameters change) (modifyParameters change) :=
  .modifyState fun _ _ same => ⟨congrArg change same.1, same.2⟩

theorem sendAMFResult_lockstep (data : List AMFValue) (id : Int32) :
    Lockstep (SameAnswers fixed) (sendAMFResult data id) (sendAMFResult data id) :=
  onEndpoint_lockstep _ _ _ _ _

theorem handleConnect_lockstep (cmdId : Int32) (it : List AMFValue) :
    Lockstep (SameAnswers fixed) (handleConnect cmdId it) (handleConnect cmdId it) := by
  refine .bind (.ofExcept _) fun app => ?_
  refine .bind (modifyParameters_lockstep _) fun _ => ?_
  refine .bind (onEndpoint_lockstep _ _ _ _ _) fun _ => ?_
  refine .bind (onEndpoint_lockstep _ _ _ _ _) fun _ => ?_
  refine .bind (onEndpoint_lockstep _ _ _ _ _) fun _ => ?_
  exact sendAMFResult_lockstep _ _

theorem handlePublish_lockstep (cmdId : Int32) (it : List AMFValue) :
    Lockstep (SameAnswers fixed) (handlePublish cmdId it) (handlePublish cmdId it) := by
  refine .bind (.ofExcept _) fun key => ?_
  refine .bind (modifyParameters_lockstep _) fun _ => ?_
  exact onEndpoint_lockstep _ _ _ _ _

theorem handleMetadata_lockstep (cmdName : Bytes) (it : List AMFValue) :
    Lockstep (SameAnswers fixed) (handleMetadata cmdName it) (handleMetadata cmdName it) := by
  refine .ite (.bind (.ofExcept _) fun obj => ?_) (.ret ())
  refine .getState fun session other same => ?_
  rw [same.1]
  exact .put ⟨rfl, same.2⟩ (.ofExcept _)

theorem handleAMF_lockstep (root : AMFValue) :
    Lockstep (SameAnswers fixed) (handleAMF root) (handleAMF root) := by
  refine .bind (.ofExcept _) fun command => ?_
  refine .ite (handleConnect_lockstep _ _) (.ite (sendAMFResult_lockstep _ _)
    (.ite (handlePublish_lockstep _ _) (.ite ?_ (handleMetadata_lockstep _ _))))
  exact .bind (.ofExcept _) fun frame => handleMetadata_lockstep _ _

/-- A command is answered alike wherever the parameters and the sending half are the
same, and leaves the receiving half alone. -/
theorem handleAMF_alike {root : AMFValue} {session other after : RTMPServerSession}
    {output : Bytes} (call : Returns (handleAMF root) session [] output () after)
    (parameters : session.clientParameters = other.clientParameters)
    (sending : session.endpoint.SameSending other.endpoint) :
    ∃ after', Returns (handleAMF root) other [] output () after' ∧
      after.clientParameters = after'.clientParameters ∧
      after.endpoint.SameSending after'.endpoint ∧
      after'.endpoint.SameReceiving other.endpoint ∧
      after'.endpoint.chunkSizeSend = other.endpoint.chunkSizeSend := by
  obtain ⟨after', call', same, ⟨sending', receiving⟩, size⟩ :=
    (handleAMF_lockstep root).returns ⟨parameters, ⟨sending, .refl _⟩, rfl⟩ call
  exact ⟨after', call', same, sending', receiving, size⟩

theorem handleAMF_frame {root : AMFValue} {session after : RTMPServerSession} {output : Bytes}
    (call : Returns (handleAMF root) session [] output () after) :
    after.endpoint.SameReceiving session.endpoint ∧
      after.endpoint.chunkSizeSend = session.endpoint.chunkSizeSend := by
  obtain ⟨after', call', -, -, frame⟩ := handleAMF_alike call rfl (.refl _)
  obtain ⟨-, rfl, -, -⟩ := call.unique call' (Eq.refl ([] ++ []))
  exact frame

end Answers

/-! ## One message -/

/-- What a pass of the loop does with the message that the endpoint hands it. -/
def dispatch (message : RTMPMessage) : ServerProg (Unit ⊕ RTMPMediaMessage) :=
  if message.IsAMF then do
    let root ← Prog.ofExcept (parseBuffer (parseRoot []) message.data)
    handleAMF root
    pure (.inl ())
  else if message.messageType = .audio then do
    let audio ← Prog.ofExcept (parseBuffer AudioPacketAAC.parseRef message.data)
    pure (.inr ⟨message.messageType, message.messageStreamId, message.timestamp, audio, {}⟩)
  else if message.messageType = .video then do
    let video ← Prog.ofExcept (parseBuffer VideoPacket.parseRef message.data)
    pure (.inr ⟨message.messageType, message.messageStreamId, message.timestamp, {}, video⟩)
  else do
    onEndpoint (handleMessage message)
    pure (.inl ())

theorem serverPass_dispatches :
    serverPass = (onEndpoint EasyRtmp.getRTMPMessage >>= dispatch) := rfl

section Message
variable {session : RTMPServerSession} {message : RTMPMessage}

theorem dispatch_rejected_command (isAMF : message.IsAMF) (rejected : message.rejected = true)
    (readable : message.Readable) (positive : 0 < session.endpoint.chunkSizeSend) :
    ∃ stop, ¬ stop.IsFault ∧ Fails (dispatch message) session [] [] stop session := by
  rw [RTMPMessage.rejected, if_pos isAMF] at rejected
  rw [dispatch, if_pos isAMF]
  cases parsed : parseBuffer (parseRoot []) message.data with
  | error stop =>
      exact ⟨stop, readable.parses isAMF stop parsed, (Fails.ofExcept rfl session).bind _⟩
  | ok root =>
      have command : message.command? = some root := by
        rw [RTMPMessage.command?, if_pos isAMF, parsed]
        rfl
      obtain ⟨values, rfl, shape⟩ := readable.shaped root command
      have ends := handleAMF_ends shape positive
      rw [command, Option.all_some] at rejected
      rw [if_pos rejected] at ends
      obtain ⟨stop, thrown, failed⟩ := ends
      exact ⟨stop, thrown, Fails.after_silent (.ofExcept rfl session) (failed.bind _)⟩

theorem dispatch_command (isAMF : message.IsAMF) (accepted : message.rejected = false)
    (readable : message.Readable) (positive : 0 < session.endpoint.chunkSizeSend) :
    ∃ root output after, message.command? = some root ∧
      Returns (handleAMF root) session [] output () after ∧
      Returns (dispatch message) session [] output (.inl ()) after := by
  rw [RTMPMessage.rejected, if_pos isAMF] at accepted
  rw [dispatch, if_pos isAMF]
  cases command : message.command? with
  | none =>
      rw [command] at accepted
      cases accepted
  | some root =>
      have parsed : parseBuffer (parseRoot []) message.data = .ok root := by
        rw [RTMPMessage.command?, if_pos isAMF] at command
        generalize parseBuffer (parseRoot []) message.data = result at command
        cases result with
        | ok value => exact congrArg Except.ok (Option.some.inj command)
        | error stop => cases command
      obtain ⟨values, rfl, shape⟩ := readable.shaped root command
      have ends := handleAMF_ends shape positive
      rw [command, Option.all_some] at accepted
      rw [if_neg (by rw [accepted]; exact Bool.false_ne_true)] at ends
      obtain ⟨output, after, call⟩ := ends
      refine ⟨_, output, after, rfl, call, (Returns.ofExcept parsed session).silent_bind ?_⟩
      exact call.bind_silent (.pure _ _)

theorem isMedia_not_AMF (isMedia : message.isMedia = true) : ¬ message.IsAMF := by
  simp only [RTMPMessage.isMedia, decide_eq_true_eq] at isMedia
  rintro (isAMF | isAMF) <;> rw [isAMF] at isMedia <;> exact absurd isMedia (by decide)

theorem dispatch_media (isMedia : message.isMedia = true) (fits : message.data.length < 2 ^ 31) :
    if message.rejected then Fails (dispatch message) session [] [] .runtimeError session
    else ∃ media, Carries message media ∧
      Returns (dispatch message) session [] [] (.inr media) session := by
  have notAMF := isMedia_not_AMF isMedia
  simp only [RTMPMessage.isMedia, decide_eq_true_eq] at isMedia
  rw [RTMPMessage.rejected, if_neg notAMF, dispatch, if_neg notAMF]
  simp only [decide_eq_true_eq]
  rcases isMedia with audio | video
  · rw [if_pos audio, audio]
    split
    · rename_i short
      exact (Fails.ofExcept (parseBuffer_of_refuses (AudioPacketAAC.parse_short short) fits)
        session).bind _
    · rename_i enough
      obtain ⟨packet, parsed⟩ := AudioPacketAAC.parses (Nat.le_of_not_lt enough) fits
      refine ⟨_, ⟨audio.symm, rfl, rfl, ?_, ?_⟩,
        (Returns.ofExcept parsed session).silent_bind (.pure _ _)⟩
      · rw [if_pos audio]
        exact parsed
      · rw [if_neg (by rw [audio]; decide)]
  · have notAudio : message.messageType ≠ .audio := by
      rw [video]
      decide
    rw [if_neg notAudio, if_pos video, video]
    split
    · rename_i short
      exact (Fails.ofExcept (parseBuffer_of_refuses (VideoPacket.parse_short short) fits)
        session).bind _
    · rename_i enough
      obtain ⟨packet, parsed⟩ := VideoPacket.parses (Nat.le_of_not_lt enough) fits
      refine ⟨_, ⟨video.symm, rfl, rfl, ?_, ?_⟩,
        (Returns.ofExcept parsed session).silent_bind (.pure _ _)⟩
      · rw [if_neg notAudio]
      · rw [if_pos video]
        exact parsed

theorem dispatch_control (notAMF : ¬ message.IsAMF) (notMedia : message.isMedia = false) :
    dispatch message = (onEndpoint (handleMessage message) >>= fun _ => pure (.inl ())) := by
  have types : ¬ (message.messageType = .audio ∨ message.messageType = .video) := by
    simpa only [RTMPMessage.isMedia, decide_eq_false_iff_not] using notMedia
  rw [dispatch, if_neg notAMF, if_neg fun audio => types (Or.inl audio),
    if_neg fun video => types (Or.inr video)]

end Message

end RTMPServerSession

end EasyRtmp
