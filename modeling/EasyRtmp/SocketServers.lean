import EasyRtmp.HeldMemory
import EasyRtmp.Lib.Asking
import EasyRtmp.SocketStreams

/-!
# A server over a socket, whatever is sent

What is known of a server on the ideal channel is meant for a server over a TCP socket.
Over the socket it does nothing else, but it does not outlive a chunk without a payload:
`receive_data` takes the answer to a request of no bytes for the end of the stream.
-/

set_option autoImplicit false

namespace EasyRtmp

open Lib Lib.ByteCodec

variable {K : Type}

/-! ## What a server asks for -/

namespace RTMPEndpoint

/-- A chunk stream whose next chunk has no payload: the `int` that `receive_data` is asked
for is 0. -/
def EmptyChunk (endpoint : RTMPEndpoint) : Prop :=
  ∃ id cs, endpoint.chunkStreamsInput id = some cs ∧
    toInt (toReceiveBytes cs endpoint.chunkSizeReceive) = 0

/-- Nothing is asked for at an empty chunk only. -/
def Wants (count : Nat) (endpoint : RTMPEndpoint) : Prop := count = 0 → endpoint.EmptyChunk

end RTMPEndpoint

open RTMPEndpoint (Wants)

section Endpoint

variable {endpoint : RTMPEndpoint} {β : Type}

theorem receiveSerializable_asks {α : Type} {len : Nat} {parseRef : Reader Stop α}
    (positive : 0 < len) : Asks Wants (receiveSerializable len parseRef) endpoint := by
  unfold receiveSerializable receiveData
  rw [if_neg (Int.natCast_nonneg len).not_gt, Int.toNat_natCast]
  exact (Asks.recvBytes fun none => absurd none positive.ne').bind fun data _ => Asks.ofExcept

theorem receiveMessageHeader_asks (fmt : Nat) (cs : ChunkStream) :
    Asks Wants (receiveMessageHeader fmt cs) endpoint := by
  unfold receiveMessageHeader
  split
  · exact (receiveSerializable_asks (by decide)).bind fun _ _ => Asks.pure
  · exact (receiveSerializable_asks (by decide)).bind fun _ _ => Asks.pure
  · exact (receiveSerializable_asks (by decide)).bind fun _ _ => Asks.pure
  · exact Asks.pure

theorem storeHeader_known (endpoint : RTMPEndpoint) (id : UInt8) (cs : ChunkStream) :
    ∃ stored, (endpoint.storeHeader id cs).chunkStreamsInput id = some stored := by
  unfold RTMPEndpoint.storeHeader RTMPEndpoint.setInput
  split
  · exact ⟨_, Function.update_self ..⟩
  · exact ⟨_, Function.update_self ..⟩

theorem receiveChunkPayload_asks {id : UInt8} {cs : ChunkStream}
    (known : endpoint.chunkStreamsInput id = some cs) :
    Asks Wants (receiveChunkPayload id) endpoint := by
  unfold receiveChunkPayload
  refine Asks.getState_bind (Asks.bind ?_ fun recData now => ?_)
  · unfold receiveData
    split
    · exact Asks.fail
    · rename_i nonnegative
      refine Asks.recvBytes fun nothing => ⟨id, cs, known, ?_⟩
      rw [RTMPEndpoint.inputStream_of_some known] at nothing nonnegative
      omega
  · split
    · exact Asks.fail
    · dsimp only
      split
      · refine Asks.modifyState.bind fun _ _ => ?_
        split
        · exact Asks.fail
        · exact Asks.pure
      · exact Asks.modifyState.bind fun _ _ => Asks.pure

theorem receiveChunk_asks : Asks Wants receiveChunk endpoint := by
  unfold receiveChunk receiveChunkHeader
  simp only [bind_assoc, pure_bind]
  refine (receiveSerializable_asks (by decide)).bind fun basicHeader _ => ?_
  refine Asks.modifyState.bind fun _ now => Asks.getState_bind ?_
  refine (receiveMessageHeader_asks _ _).bind fun cs now => Asks.modifyState_bind ?_
  obtain ⟨stored, known⟩ := storeHeader_known now (UInt8.ofNat basicHeader.csId) cs
  exact receiveChunkPayload_asks known

theorem getRTMPMessage_asks : Asks Wants getRTMPMessage endpoint :=
  Asks.repeatUntil fun _ _ => receiveChunk_asks

theorem handleMessage_asks (message : RTMPMessage) :
    Asks Wants (handleMessage message) endpoint := by
  unfold handleMessage
  split
  · exact Asks.ofExcept.bind fun _ _ => Asks.modifyState
  split
  · refine Asks.getState_bind ?_
    split
    · exact Asks.fail
    · exact Asks.putState
  split
  · exact Asks.ofExcept.bind fun _ _ => Asks.pure
  split
  · exact Asks.ofExcept.bind fun _ _ => Asks.pure
  · exact Asks.pure

theorem sendRTMPMessage_asks (data : Serializable) (id : UInt8) (messageStreamId : Nat)
    (messageType : RTMPMessageType) (timestamp : Nat) :
    Asks Wants (sendRTMPMessage data id messageStreamId messageType timestamp) endpoint := by
  have header : ∀ cs size bytesSent (now : RTMPEndpoint), Asks Wants (sendChunkHeader cs id
      messageStreamId messageType timestamp size bytesSent) now := by
    intro cs size bytesSent now
    unfold sendChunkHeader
    split
    · exact Asks.sendBytes
    split
    · exact Asks.sendBytes.bind fun _ _ => Asks.sendBytes
    split
    · exact Asks.sendBytes.bind fun _ _ => Asks.sendBytes
    · exact Asks.sendBytes.bind fun _ _ => Asks.sendBytes
  unfold sendRTMPMessage
  refine Asks.ofExcept.bind fun bb _ => Asks.modifyState.bind fun _ _ => ?_
  refine (Asks.repeatUntil fun bytesSent now => ?_).bind fun _ _ => Asks.modifyState
  unfold sendChunk
  split
  · exact Asks.pure
  · exact Asks.getState_bind ((header ..).bind fun _ _ =>
      Asks.sendBytes.bind fun _ _ => Asks.pure)

theorem constructEndpoint_asks : Asks Wants constructEndpoint endpoint := by
  have sends : ∀ (data : Serializable) (now : RTMPEndpoint),
      Asks Wants (sendSerializable data) now :=
    fun data now => Asks.ofExcept.bind fun _ _ => Asks.sendBytes
  unfold constructEndpoint doHandshake sendHello receiveHello answerHello awaitEcho
    changeChunkSizeOutput
  simp only [bind_assoc]
  refine (sends ..).bind fun _ _ => (sends ..).bind fun _ _ => ?_
  refine (receiveSerializable_asks (by decide)).bind fun s0 _ => ?_
  refine Asks.bind ?_ fun s1 _ => (sends ..).bind fun _ _ => ?_
  · split
    · exact Asks.fail
    · exact receiveSerializable_asks (by decide)
  refine (receiveSerializable_asks (by decide)).bind fun _ _ => Asks.pure.bind fun _ _ => ?_
  exact (sendRTMPMessage_asks ..).bind fun _ _ => Asks.modifyState

end Endpoint

namespace RTMPServerSession

variable {session : RTMPServerSession}

def Wants (count : Nat) (session : RTMPServerSession) : Prop :=
  RTMPEndpoint.Wants count session.endpoint

theorem onEndpoint_asks {α : Type} {program : EndpointProg α}
    (asks : ∀ endpoint, Asks RTMPEndpoint.Wants program endpoint) :
    Asks Wants (onEndpoint program) session := by
  refine Asks.zoom ?_ program session (asks session.endpoint)
  exact fun _ _ wants => wants

theorem sendCommand_asks (data : AMFValue) (id : UInt8) (messageStreamId : Nat)
    (messageType : RTMPMessageType) :
    Asks Wants (onEndpoint (sendCommand data id messageStreamId messageType)) session :=
  onEndpoint_asks fun _ => sendRTMPMessage_asks ..

theorem handleMetadata_asks (cmdName : Bytes) (it : List AMFValue) :
    Asks Wants (handleMetadata cmdName it) session := by
  unfold handleMetadata
  split
  · refine Asks.ofExcept.bind fun obj _ => Asks.getState_bind ?_
    split
    exact Asks.putState.bind fun _ _ => Asks.ofExcept
  · exact Asks.pure

theorem handleAMF_asks (data : AMFValue) : Asks Wants (handleAMF data) session := by
  unfold handleAMF
  refine Asks.ofExcept.bind fun command _ => ?_
  dsimp only
  split
  · refine Asks.ofExcept.bind fun app _ => Asks.modifyState.bind fun _ _ => ?_
    refine (onEndpoint_asks fun _ => sendRTMPMessage_asks ..).bind fun _ _ => ?_
    refine (onEndpoint_asks fun _ => sendRTMPMessage_asks ..).bind fun _ _ => ?_
    refine (onEndpoint_asks fun _ => sendRTMPMessage_asks ..).bind fun _ _ => ?_
    exact sendCommand_asks ..
  split
  · exact sendCommand_asks ..
  split
  · refine Asks.ofExcept.bind fun key _ => Asks.modifyState.bind fun _ _ => ?_
    exact sendCommand_asks ..
  split
  · exact Asks.ofExcept.bind fun inner _ => handleMetadata_asks ..
  · exact handleMetadata_asks ..

theorem getRTMPMessage_asks : Asks Wants RTMPServerSession.getRTMPMessage session := by
  refine Asks.repeatUntil fun _ now => ?_
  unfold serverPass
  refine (onEndpoint_asks fun _ => EasyRtmp.getRTMPMessage_asks).bind fun message _ => ?_
  split
  · exact Asks.ofExcept.bind fun root _ => (handleAMF_asks root).bind fun _ _ => Asks.pure
  split
  · exact Asks.ofExcept.bind fun _ _ => Asks.pure
  split
  · exact Asks.ofExcept.bind fun _ _ => Asks.pure
  · exact (onEndpoint_asks fun _ => handleMessage_asks message).bind fun _ _ => Asks.pure

end RTMPServerSession

namespace MediaServer

def Wants (count : Nat) (server : MediaServer) : Prop := RTMPEndpoint.Wants count server.endpoint

theorem main_asks (server : MediaServer) : Asks Wants main server := by
  have calls : ∀ {α : Type} {program : ServerProg α} (now : MediaServer),
      (∀ session, Asks RTMPServerSession.Wants program session) →
        Asks Wants (onSession program) now := by
    intro α program now asks
    refine Asks.zoom ?_ program now (asks now.session)
    exact fun _ _ wants => wants
  refine (calls server fun _ => RTMPServerSession.onEndpoint_asks fun _ =>
    constructEndpoint_asks).bind fun _ _ => Asks.repeatUntil fun _ now => ?_
  refine (calls now fun _ => RTMPServerSession.getRTMPMessage_asks).bind fun message _ => ?_
  exact Asks.modifyState.bind fun _ _ => Asks.pure

end MediaServer

/-! ## A message without a payload -/

/-- A header behind which a message on a stream between two messages is empty. -/
theorem receiveChunk_empty {endpoint : RTMPEndpoint} {id : UInt8} (named : id.toNat < 64)
    (between : (endpoint.inputStream id).messageBytesRead = 0) {header : MessageHeader}
    (empty : (header.received.apply (endpoint.inputStream id)).messageLength = 0) :
    ∃ after next, Runs ⟨endpoint, receiveChunk⟩ (chunkHeaderBytes id header) []
      ⟨after, .recv 0 next⟩ := by
  have arrives := receiveChunkHeader_returns endpoint named header
  have announcedRead := header.received.apply_messageBytesRead (endpoint.inputStream id)
  rw [between] at announcedRead
  generalize header.received.apply (endpoint.inputStream id) = announced
    at arrives empty announcedRead
  obtain ⟨storedLength, storedRead⟩ := endpoint.storeHeader_fields id announced
  generalize endpoint.storeHeader id announced = after at arrives storedLength storedRead
  have nothing : toInt (toReceiveBytes (after.inputStream id) after.chunkSizeReceive) = 0 := by
    rw [toReceiveBytes, storedLength, storedRead, empty, announcedRead]
    exact toInt_of_lt (Nat.lt_of_le_of_lt (Nat.min_le_left _ _) (by decide))
  have payload : ∃ next, Runs ⟨after, receiveChunkPayload id⟩ [] [] ⟨after, .recv 0 next⟩ := by
    unfold receiveChunkPayload
    refine Exists.imp (fun next waits => Runs.bind (Returns.getState after) waits) ?_
    dsimp only
    rw [nothing]
    exact ⟨_, .refl _⟩
  obtain ⟨next, waits⟩ := payload
  have run := (arrives.before receiveChunkPayload).trans waits
  rw [List.append_nil] at run
  exact ⟨after, next, run⟩

/-- What a chunk asks for the server's loop asks for. -/
theorem serverLoop_runs {session : RTMPServerSession} {input : Bytes} {after : RTMPEndpoint}
    {count : Nat} {next : Bytes → EndpointProg (Unit ⊕ RTMPMessage)}
    (run : Runs ⟨session.endpoint, receiveChunk⟩ input [] ⟨after, .recv count next⟩) :
    ∃ wait, Runs ⟨session, RTMPServerSession.getRTMPMessage⟩ input []
      ⟨{ session with endpoint := after }, .recv count wait⟩ := by
  have inner : ∀ rest : RTMPMessage → ServerProg RTMPMediaMessage, ∃ wait,
      Runs ⟨session, .loop (fun _ => receiveChunk.zoom RTMPServerSession.endpointLens) () rest⟩
        input [] ⟨{ session with endpoint := after }, .recv count wait⟩ := fun rest =>
    ⟨_, Runs.loop ((run.zoom RTMPServerSession.endpointLens session).bindLeft _)⟩
  obtain ⟨wait, loops⟩ := inner _
  exact ⟨wait, Runs.loop loops⟩

/-- An empty message, on any stream that is between two messages, ends a server that waits
for the next message. -/
theorem MediaServer.empty_message_ends {read : K → Nat → ReadAnswer K}
    {write : K → Bytes → Int × K} {left accepted : K → Bytes}
    (connected : TCPNetwork.Connected read write left accepted) {kernel : K}
    {server : MediaServer} {input output rest : Bytes}
    (run : Runs ⟨{}, main⟩ input output (waiting server)) {id : UInt8} (named : id.toNat < 64)
    (between : (server.endpoint.inputStream id).messageBytesRead = 0) {header : MessageHeader}
    (empty : (header.received.apply (server.endpoint.inputStream id)).messageLength = 0)
    (arrives : left kernel = input ++ chunkHeaderBytes id header ++ rest) :
    ∃ state after, (TCPNetwork.transport read write).Carries (.running ⟨{}, main⟩ kernel)
      (.thrown .receiving state after) := by
  obtain ⟨session, handled⟩ := server
  obtain ⟨endpoint, next, chunk⟩ := receiveChunk_empty named between empty
  obtain ⟨wait, loops⟩ := serverLoop_runs chunk
  have whole := run.trans (waiting_runs loops handled)
  rcases connected.reaches whole arrives with ⟨after, reached, -, -⟩ |
    ⟨state, _, after, _, _, _, _, -, -, -, -, reached⟩
  · obtain ⟨final, refused⟩ := connected.refuses_nothing _ _ after
    exact ⟨_, final, reached.tail refused⟩
  · exact ⟨state, after, reached⟩

/-! ## The server over the socket -/

/-- Whatever a peer sends and in whatever portions it arrives: a server over a socket is
always where the server on the ideal channel is after the same bytes.  An exception of the
socket ends it only where the bytes do not suffice or a chunk has no payload.  Conversely it
comes wherever the server on the channel comes, unless it ends at such a chunk before, and it
does end where it waits for a message and an empty one comes. -/
theorem server_over_sockets {read : K → Nat → ReadAnswer K} {write : K → Bytes → Int × K}
    {left accepted : K → Bytes} (connected : TCPNetwork.Connected read write left accepted)
    (kernel : K) :
    let main : Config MediaServer Stop Unit := ⟨{}, MediaServer.main⟩
    let Reaches := (TCPNetwork.transport read write).Carries (.running main kernel)
    (∀ final after, Reaches (.running final after) → ∃ input output,
        Runs main input output final ∧ left kernel = input ++ left after ∧
          accepted after = accepted kernel ++ output) ∧
      (∀ exception server after, Reaches (.thrown exception server after) →
        exception = .receiving ∧ ∃ input output rest count next,
          Runs main input output ⟨server, .recv count next⟩ ∧ left kernel = input ++ rest ∧
            accepted after = accepted kernel ++ output ∧
            (rest.length < count ∨ count = 0 ∧ server.endpoint.EmptyChunk)) ∧
      (∀ input output final rest, Runs main input output final → left kernel = input ++ rest →
        (∃ after, Reaches (.running final after) ∧ left after = rest ∧
          accepted after = accepted kernel ++ output) ∨
        ∃ server next after front back early late,
          Runs main front early ⟨server, .recv 0 next⟩ ∧ server.endpoint.EmptyChunk ∧
            input = front ++ back ∧ output = early ++ late ∧
            Reaches (.thrown .receiving server after) ∧
            accepted after = accepted kernel ++ early) ∧
      ∀ input output server rest (id : UInt8) (header : MessageHeader),
        Runs main input output (MediaServer.waiting server) → id.toNat < 64 →
        (server.endpoint.inputStream id).messageBytesRead = 0 →
        (header.received.apply (server.endpoint.inputStream id)).messageLength = 0 →
        left kernel = input ++ chunkHeaderBytes id header ++ rest →
        ∃ state after, Reaches (.thrown .receiving state after) := by
  intro main Reaches
  have asks : Asks MediaServer.Wants MediaServer.main {} := MediaServer.main_asks {}
  refine ⟨fun final after reached => connected.runs reached,
    fun exception server after reached => ?_, fun input output final rest run arrives => ?_,
    fun input output server rest id header run named between empty arrives => ?_⟩
  · obtain ⟨receives, input, output, rest, count, next, run, arrived, written, refused⟩ :=
      connected.throws reached
    refine ⟨receives, input, output, rest, count, next, run, arrived, written, ?_⟩
    rcases refused with nothing | few
    · exact .inr ⟨nothing, asks.demanded run nothing⟩
    · exact .inl few
  · rcases connected.reaches run arrives with reached |
      ⟨server, next, after, front, back, early, late, waits, read, written, taken, reached⟩
    · exact .inl reached
    · exact .inr ⟨server, next, after, front, back, early, late, waits, asks.demanded waits rfl,
        read, written, reached, taken⟩
  · exact MediaServer.empty_message_ends connected run named between empty arrives

/-- The peer's `C1` and `C2` are zeros, and an audio message without bytes follows. -/
theorem empty_audio_ends_server : ∃ server after,
    (TCPNetwork.transport BytePipe.read BytePipe.write).Carries
      (.running ⟨{}, MediaServer.main⟩
        (3 :: List.replicate 1536 0 ++ List.replicate 1536 0 ++
          [4, 0, 0, 5, 0, 0, 0, 8, 1, 0, 0, 0], []))
      (.thrown .receiving server after) := by
  have zeros : (List.replicate 1536 (0 : UInt8)).length = 1536 := List.length_replicate
  obtain ⟨output, session, run, fresh⟩ := MediaServer.greeted zeros zeros
  have unheard : session.endpoint.chunkStreamsInput 4 = none := by
    rw [fresh.chunkStreamsInput]
  have between : (session.endpoint.inputStream 4).messageBytesRead = 0 := by
    rw [RTMPEndpoint.inputStream_of_none unheard]
  have header : chunkHeaderBytes 4 (.full ⟨5, 0, 8, 1⟩) = [4, 0, 0, 5, 0, 0, 0, 8, 1, 0, 0, 0] := by
    decide +kernel
  obtain ⟨-, -, -, ends⟩ := server_over_sockets BytePipe.connected
    (3 :: List.replicate 1536 0 ++ List.replicate 1536 0 ++
      [4, 0, 0, 5, 0, 0, 0, 8, 1, 0, 0, 0], [])
  refine ends _ output ⟨session, []⟩ [] 4 (.full ⟨5, 0, 8, 1⟩) run (by decide) between rfl ?_
  rw [header, List.append_nil]

end EasyRtmp
