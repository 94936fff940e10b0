import EasyRtmp.Conformance
import EasyRtmp.FailedSends
import EasyRtmp.Handshake
import EasyRtmp.Lib.Transport

/-!
# The calls behind a message

An endpoint hands its data layer the basic header, the message header and the payload of
a chunk in calls of their own, and asks for them in the same portions.  What is proved
elsewhere of the bytes is proved here of the calls: `EncodesBy` is `Encodes` with the
calls of the peer kept apart.
-/

set_option autoImplicit false

namespace EasyRtmp

open Lib Lib.ByteCodec

/-! ## The calls of a chunk -/

def MessageHeader.calls : MessageHeader → List Bytes
  | .full header => [header.serialize]
  | .sameStream header => [header.serialize]
  | .timeOnly header => [header.serialize]
  | .continuation => []

def chunkHeaderCalls (id : UInt8) (header : MessageHeader) : List Bytes :=
  (ChunkBasicHeader.mk id.toNat header.fmt).serialize :: header.calls

theorem MessageHeader.calls_flatten (header : MessageHeader) :
    header.calls.flatten = header.bytes := by
  cases header <;> simp [calls, bytes]

theorem chunkHeaderCalls_flatten (id : UInt8) (header : MessageHeader) :
    (chunkHeaderCalls id header).flatten = chunkHeaderBytes id header := by
  rw [chunkHeaderCalls, List.flatten_cons, header.calls_flatten, chunkHeaderBytes]

/-- A header is never empty, and eleven bytes at most. -/
theorem chunkHeaderCalls_bounds {id : UInt8} {header : MessageHeader} :
    ∀ call ∈ chunkHeaderCalls id header, 0 < call.length ∧ call.length ≤ 11 := by
  refine List.forall_mem_cons.mpr ⟨?_, ?_⟩
  · simp [ChunkBasicHeader.serialize_eq]
  · cases header <;>
      simp [MessageHeader.calls, ChunkMessageHeader0.serialize_eq,
        ChunkMessageHeader1.serialize_eq, ChunkMessageHeader2.serialize_eq]

/-! ## Receiving -/

section Receiving
variable {α : Type} {endpoint after : RTMPEndpoint} {data output : Bytes}

/-- One request, of which the rest of the program asks no more. -/
theorem receiveData_by {len : Int} {store : Bytes → EndpointProg α} {value : α}
    (quiet : ∀ data, Quiet (store data))
    (call : Returns (receiveData len >>= store) endpoint data output value after) :
    ReturnsBy (receiveData len >>= store) endpoint [data] [] value after := by
  obtain ⟨received, middle, front, back, sent, later, first, rest, rfl, -⟩ := call.bind_inv
  obtain ⟨rest', rfl, -⟩ := (quiet received).run rest
  rw [List.append_nil]
  by_cases negative : len < 0
  · rw [receiveData, if_pos negative] at first
    obtain ⟨same, -, -⟩ := Runs.of_finished (Or.inr ⟨_, rfl⟩) first
    cases same
  · have asked : receiveData len = Prog.recvBytes len.toNat := if_neg negative
    rw [asked] at first ⊢
    cases first with
    | step moved remaining =>
        cases Config.advance_cases moved with
        | recv _ _ enough =>
            obtain ⟨ended, none, -⟩ := Runs.of_finished (Or.inl ⟨_, rfl⟩) remaining
            have whole : front.length ≤ len.toNat := by
              rwa [List.drop_eq_nil_iff] at none
            rw [List.take_of_length_le whole] at ended
            cases ended
            exact .recv (Nat.le_antisymm whole enough) rest'

theorem receiveSerializable_by {parseRef : Reader Stop α} {value : α}
    (parsed : parseBuffer parseRef data = .ok value) (endpoint : RTMPEndpoint) :
    ReturnsBy (receiveSerializable data.length parseRef) endpoint [data] [] value endpoint :=
  receiveData_by (fun _ => .ofExcept _) (receiveSerializable_returns parsed endpoint)

/-- A header is received and then applied. -/
theorem receiveHeader_by {getLength : Nat} {parseRef : Reader Stop α} {apply : α → ChunkStream}
    {value : ChunkStream} (call : Returns (do
        let header ← receiveSerializable getLength parseRef
        pure (apply header)) endpoint data output value after) :
    ReturnsBy (do
      let header ← receiveSerializable getLength parseRef
      pure (apply header)) endpoint [data] [] value after := by
  simp only [receiveSerializable, bind_assoc] at call ⊢
  exact receiveData_by (fun _ => (Quiet.ofExcept _).bind fun _ => .pure _) call

theorem receiveMessageHeader_by (header : MessageHeader) (cs : ChunkStream)
    (endpoint : RTMPEndpoint) :
    ReturnsBy (receiveMessageHeader header.fmt cs) endpoint header.calls []
      (header.received.apply cs) endpoint := by
  have call := receiveMessageHeader_returns header cs endpoint
  cases header with
  | full header => exact receiveHeader_by call
  | sameStream header => exact receiveHeader_by call
  | timeOnly header => exact receiveHeader_by call
  | continuation => exact .pure _ endpoint

theorem receiveChunkHeader_by (endpoint : RTMPEndpoint) {id : UInt8} (idBound : id.toNat < 64)
    (header : MessageHeader) :
    ReturnsBy receiveChunkHeader endpoint (chunkHeaderCalls id header) [] id
      (endpoint.storeHeader id (header.received.apply (endpoint.inputStream id))) := by
  have parsed := ChunkBasicHeader.parse_serialize ⟨id.toNat, header.fmt⟩ idBound header.fmt_lt
  have length : (ChunkBasicHeader.mk id.toNat header.fmt).serialize.length =
      ChunkBasicHeader.getLength := by
    simp [ChunkBasicHeader.serialize_eq, ChunkBasicHeader.getLength]
  have basic := receiveSerializable_by parsed endpoint
  rw [length] at basic
  have created := endpoint.inputStream_setInput id (endpoint.inputStream id)
  have message := receiveMessageHeader_by header (endpoint.inputStream id)
    (endpoint.setInput id (endpoint.inputStream id))
  unfold receiveChunkHeader chunkHeaderCalls
  refine basic.bind ?_
  simp only [UInt8.ofNat_toNat]
  refine (ReturnsBy.modifyState _ _).silent_bind ((ReturnsBy.getState _).silent_bind ?_)
  rw [created, ← endpoint.storeHeader_setInput id (endpoint.inputStream id)]
  exact message.bind_silent ((ReturnsBy.modifyState _ _).silent_bind (.pure id _))

theorem receiveChunkPayload_by {id : UInt8} {result : Unit ⊕ RTMPMessage}
    (call : Returns (receiveChunkPayload id) endpoint data output result after) :
    ReturnsBy (receiveChunkPayload id) endpoint [data] [] result after := by
  unfold receiveChunkPayload at call ⊢
  obtain ⟨_, _, front, back, sent, later, first, rest, rfl, -⟩ := call.bind_inv
  have stream : [] ++ (front ++ []) = front ++ [] := rfl
  obtain ⟨rfl, rfl, rfl, -⟩ := (Returns.getState endpoint).unique first stream
  refine (ReturnsBy.getState endpoint).silent_bind (receiveData_by (fun recData => ?_) rest)
  dsimp only
  split
  · exact .fail _
  · split
    · refine (Quiet.modifyState _).bind fun _ => ?_
      split
      · exact .fail _
      · exact .pure _
    · exact (Quiet.modifyState _).bind fun _ => .pure _

/-- A chunk is received in two calls or three. -/
theorem receiveChunk_by {id : UInt8} (idBound : id.toNat ≤ 63) {header : MessageHeader}
    {result : Unit ⊕ RTMPMessage}
    (pass : Returns receiveChunk endpoint (chunkHeaderLayout id header ++ data) [] result after) :
    ReturnsBy receiveChunk endpoint (chunkHeaderCalls id header ++ [data]) [] result after := by
  obtain ⟨id', middle, front, back, sent, later, head, body, split, -⟩ := pass.bind_inv
  have known := receiveChunkHeader_returns endpoint (show id.toNat < 64 by omega) header
  rw [← chunkHeaderLayout_eq idBound] at known
  obtain ⟨rfl, rfl, rfl, rfl⟩ := head.unique known split.symm
  obtain rfl := List.append_cancel_left split
  exact (receiveChunkHeader_by endpoint (by omega) header).bind (receiveChunkPayload_by body)

end Receiving

/-! ## Any number of messages -/

/-- A chunk of the peer whose headers and payload are calls of their own. -/
inductive EmitsBy (peer : Peer) : List Bytes → List RTMPMessage → Peer → Prop where
  | chunk {id : UInt8} {header : MessageHeader} {data : Bytes} {messages : List RTMPMessage}
      {peer' : Peer} (idBound : id.toNat ≤ 63) (nonempty : data ≠ [])
      (emits : Emits peer (chunkHeaderLayout id header ++ data) messages peer') :
      EmitsBy peer (chunkHeaderCalls id header ++ [data]) messages peer'

/-- A conforming byte stream, in the calls that made it. -/
inductive EncodesBy : List Bytes → List RTMPMessage → Peer → Prop where
  | none : EncodesBy [] [] {}
  | chunk {peer peer' : Peer} {calls more : List Bytes} {messages done : List RTMPMessage}
      (encodes : EncodesBy calls messages peer) (emits : EmitsBy peer more done peer') :
      EncodesBy (calls ++ more) (messages ++ done) peer'

theorem EmitsBy.emits {peer peer' : Peer} {calls : List Bytes} {messages : List RTMPMessage}
    (emits : EmitsBy peer calls messages peer') : Emits peer calls.flatten messages peer' := by
  obtain ⟨idBound, nonempty, emits⟩ := emits
  rwa [List.flatten_append, List.flatten_singleton, chunkHeaderCalls_flatten,
    ← chunkHeaderLayout_eq idBound]

theorem EncodesBy.encodes {calls : List Bytes} {messages : List RTMPMessage} {peer : Peer}
    (encodes : EncodesBy calls messages peer) : Encodes calls.flatten messages peer := by
  induction encodes with
  | none => exact .none
  | chunk _ emits ih =>
      rw [List.flatten_append]
      exact ih.chunk emits.emits

theorem EncodesBy.nonempty {calls : List Bytes} {messages : List RTMPMessage} {peer : Peer}
    (encodes : EncodesBy calls messages peer) : ∀ call ∈ calls, call ≠ [] := by
  induction encodes with
  | none => exact List.forall_mem_nil _
  | chunk _ emits ih =>
      obtain ⟨idBound, nonempty, emits⟩ := emits
      refine List.forall_mem_append.mpr ⟨ih, List.forall_mem_append.mpr
        ⟨fun call member => ?_, List.forall_mem_singleton.mpr nonempty⟩⟩
      exact List.ne_nil_of_length_pos (chunkHeaderCalls_bounds call member).1

/-- The chunks of a conforming peer, which carry at least one byte. -/
theorem Emits.inCalls {peer peer' : Peer} {bytes : Bytes} {messages : List RTMPMessage}
    (positive : 0 < peer.chunkSize) (emits : Emits peer bytes messages peer') :
    ∃ calls, EmitsBy peer calls messages peer' ∧ calls.flatten = bytes := by
  have taken : ∀ rest : Bytes, rest ≠ [] → rest.take peer.chunkSize ≠ [] := by
    intro rest nonempty
    rw [ne_eq, List.take_eq_nil_iff]
    rintro (none | empty)
    · omega
    · exact nonempty empty
  have split : ∀ {id : UInt8} {header : MessageHeader} {data : Bytes}, id.toNat ≤ 63 → data ≠ [] →
      Emits peer (chunkHeaderLayout id header ++ data) messages peer' →
      ∃ calls, EmitsBy peer calls messages peer' ∧
        calls.flatten = chunkHeaderLayout id header ++ data := by
    intro id header data idBound nonempty emits
    refine ⟨_, .chunk idBound nonempty emits, ?_⟩
    rw [List.flatten_append, List.flatten_singleton, chunkHeaderCalls_flatten,
      chunkHeaderLayout_eq idBound]
  cases emits with
  | first idBounds idle valid admissible =>
      exact split idBounds.2 (taken _ valid.nonempty) (.first idBounds idle valid admissible)
  | next idBounds partly current =>
      exact split idBounds.2 (taken _ partly) (.next idBounds partly current)

/-- A conforming byte stream is made by calls. -/
theorem Encodes.inCalls {bytes : Bytes} {messages : List RTMPMessage} {peer : Peer}
    (encodes : Encodes bytes messages peer) :
    ∃ calls, EncodesBy calls messages peer ∧ calls.flatten = bytes := by
  induction encodes with
  | none => exact ⟨[], .none, rfl⟩
  | chunk encodes emits ih =>
      obtain ⟨calls, encodes', rfl⟩ := ih
      obtain ⟨-, -, -, endpoint, -, -, -, agrees, -⟩ := encodes.received
      obtain ⟨more, emits', rfl⟩ := emits.inCalls agrees.positive
      exact ⟨calls ++ more, encodes'.chunk emits', List.flatten_append⟩

/-- Calls of `GetRTMPMessage`, each result passed to `HandleMessage`. -/
def receiveMessages : Nat → EndpointProg (List RTMPMessage)
  | 0 => pure []
  | count + 1 => do
      let messages ← receiveMessages count
      let message ← getRTMPMessage
      handleMessage message
      pure (messages ++ [message])

theorem handleMessage_quiet (message : RTMPMessage) : Quiet (handleMessage message) := by
  unfold handleMessage
  split
  · exact (Quiet.ofExcept _).bind fun _ => .modifyState _
  · split
    · refine Quiet.getState.bind fun endpoint => ?_
      split
      · exact .fail _
      · exact .putState _
    · split
      · exact (Quiet.ofExcept _).bind fun _ => .pure _
      · split
        · exact (Quiet.ofExcept _).bind fun _ => .pure _
        · exact .pure _

theorem receiveMessages_last {start endpoint middle after : RTMPEndpoint} {count : Nat}
    {messages : List RTMPMessage} {message : RTMPMessage} {whole calls : List Bytes}
    (received : ReturnsBy (receiveMessages count) start whole [] messages endpoint)
    (call : ReturnsBy getRTMPMessage endpoint calls [] message middle)
    (handled : Returns (handleMessage message) middle [] [] () after) :
    ReturnsBy (receiveMessages (count + 1)) start (whole ++ calls) [] (messages ++ [message])
      after := by
  have quiet : ReturnsBy (handleMessage message) middle [] [] () after :=
    ((handleMessage_quiet message).run handled).1
  have stored : ReturnsBy (handleMessage message >>= fun _ => pure (messages ++ [message])) middle
      [] [] (messages ++ [message]) after := quiet.bind_silent (.pure _ after)
  have last : ReturnsBy (getRTMPMessage >>= fun message => do
      handleMessage message
      pure (messages ++ [message])) endpoint calls [] (messages ++ [message]) after :=
    call.bind_silent stored
  exact received.bind last

/-- The receiver behind the whole calls for `messages`, inside the next one. -/
theorem EncodesBy.received {calls : List Bytes} {messages : List RTMPMessage} {peer : Peer}
    (encodes : EncodesBy calls messages peer) {start : RTMPEndpoint} (agrees : Agrees {} start) :
    ∃ whole part endpoint endpoint', calls = whole ++ part ∧
      ReturnsBy (receiveMessages messages.length) start whole [] messages endpoint ∧
      RunsBy ⟨endpoint, getRTMPMessage⟩ part [] ⟨endpoint', getRTMPMessage⟩ ∧
      Agrees peer endpoint' ∧ (part ≠ [] → ∃ id, (peer.streams id).rest ≠ []) := by
  induction encodes with
  | none =>
      exact ⟨[], [], start, start, rfl, .refl _, .refl _, agrees, fun more => absurd rfl more⟩
  | @chunk peer peer' calls more messages done encodes emits ih =>
      obtain ⟨whole, part, endpoint, endpoint', rfl, received, within, agrees', -⟩ := ih
      obtain ⟨idBound, nonempty, emits⟩ := emits
      rcases agrees'.emits emits with ⟨rfl, after, pass, agrees''⟩ |
        ⟨message, middle, after, rfl, pass, handled, agrees''⟩
      · refine ⟨whole, _, endpoint, after, by rw [List.append_assoc], ?_,
          within.trans (RunsBy.loop_again (receiveChunk_by idBound pass)), agrees'',
          fun _ => emits.leaves rfl⟩
        rwa [List.append_nil]
      · have call : ReturnsBy getRTMPMessage endpoint (part ++ _) [] message middle :=
          within.trans (RunsBy.loop_done (receiveChunk_by idBound pass))
        refine ⟨_, [], after, after, by rw [List.append_nil, List.append_assoc], ?_, .refl _,
          agrees'', fun more => absurd rfl more⟩
        rw [List.length_append, List.length_singleton]
        exact receiveMessages_last received call handled

/-- If no message is left open, the calls are those for the messages. -/
theorem EncodesBy.received_closed {calls : List Bytes} {messages : List RTMPMessage} {peer : Peer}
    (encodes : EncodesBy calls messages peer) (closed : ∀ id, (peer.streams id).rest = [])
    {start : RTMPEndpoint} (agrees : Agrees {} start) :
    ∃ endpoint, ReturnsBy (receiveMessages messages.length) start calls [] messages endpoint := by
  obtain ⟨whole, part, endpoint, endpoint', rfl, received, -, -, openPart⟩ :=
    encodes.received agrees
  obtain rfl : part = [] := by
    by_contra more
    obtain ⟨id, partly⟩ := openPart more
    exact partly (closed id)
  rw [List.append_nil]
  exact ⟨endpoint, received⟩

/-! ## Sending -/

/-- What is left of a message's chunks, in calls; compare `Chunked`. -/
inductive ChunkedBy (id : UInt8) (chunkSize : Nat) :
    MessageHeader → Bytes → List Bytes → Prop where
  | last {header : MessageHeader} {rest : Bytes} (nonempty : rest ≠ [])
      (short : rest.length ≤ chunkSize) :
      ChunkedBy id chunkSize header rest (chunkHeaderCalls id header ++ [rest])
  | more {header : MessageHeader} {rest : Bytes} {calls : List Bytes}
      (long : chunkSize < rest.length)
      (chunked : ChunkedBy id chunkSize .continuation (rest.drop chunkSize) calls) :
      ChunkedBy id chunkSize header rest
        (chunkHeaderCalls id header ++ [rest.take chunkSize] ++ calls)

/-- The longest call is the first chunk's payload, unless that is shorter than a header. -/
theorem ChunkedBy.within_iff {id : UInt8} {chunkSize limit : Nat} (header_fits : 11 ≤ limit)
    {header : MessageHeader} {rest : Bytes} {calls : List Bytes}
    (chunked : ChunkedBy id chunkSize header rest calls) :
    (∀ call ∈ calls, call.length ≤ limit) ↔ min chunkSize rest.length ≤ limit := by
  have headers : ∀ header : MessageHeader, ∀ call ∈ chunkHeaderCalls id header,
      call.length ≤ limit := by
    intro header call member
    have bound := (chunkHeaderCalls_bounds call member).2
    omega
  induction chunked with
  | @last header rest nonempty short =>
      rw [Nat.min_eq_right short]
      constructor
      · intro all
        exact all rest (by simp)
      · intro fits
        exact List.forall_mem_append.mpr ⟨headers header, List.forall_mem_singleton.mpr fits⟩
  | @more header rest calls long _ ih =>
      have size : (rest.take chunkSize).length = chunkSize := List.length_take_of_le (by omega)
      rw [Nat.min_eq_left (by omega)]
      constructor
      · intro all
        have fits := all (rest.take chunkSize) (by simp)
        omega
      · intro fits
        refine List.forall_mem_append.mpr ⟨List.forall_mem_append.mpr ⟨headers header,
          List.forall_mem_singleton.mpr (by omega)⟩, ih.mpr (by omega)⟩

section Sending
variable {endpoint : RTMPEndpoint}

theorem sendSerializable_by {data : Serializable} {bytes : Bytes}
    (serialized : data.serializeToBuffer = .ok bytes) (endpoint : RTMPEndpoint) :
    ReturnsBy (sendSerializable data) endpoint [] [bytes] () endpoint :=
  (ReturnsBy.ofExcept serialized endpoint).silent_bind (.sendBytes bytes endpoint)

theorem sendChunkHeader_by (cs : ChunkStream) (id : UInt8) (messageStreamId : Nat)
    (messageType : RTMPMessageType) (timestamp size bytesSent : Nat) (endpoint : RTMPEndpoint) :
    ReturnsBy (sendChunkHeader cs id messageStreamId messageType timestamp size bytesSent) endpoint
      [] (chunkHeaderCalls id
        (if bytesSent = 0 then cs.nextHeader messageStreamId messageType timestamp size
          else .continuation)) () endpoint := by
  unfold sendChunkHeader ChunkStream.nextHeader chunkHeaderCalls
  by_cases first : bytesSent = 0
  · rw [if_neg (not_not_intro first), if_pos first]
    split
    · exact (ReturnsBy.sendBytes _ _).bind (.sendBytes _ _)
    · split
      · exact (ReturnsBy.sendBytes _ _).bind (.sendBytes _ _)
      · exact (ReturnsBy.sendBytes _ _).bind (.sendBytes _ _)
  · rw [if_pos first, if_neg first]
    exact .sendBytes _ _

theorem sendChunk_by (endpoint : RTMPEndpoint) {bb : Bytes} (id : UInt8) (messageStreamId : Nat)
    (messageType : RTMPMessageType) (timestamp : Nat) {bytesSent : Nat}
    (more : bytesSent ≠ bb.length) :
    ReturnsBy (sendChunk bb id messageStreamId messageType timestamp bytesSent) endpoint []
      (chunkHeaderCalls id
        (if bytesSent = 0 then
          (endpoint.outputStream id).nextHeader messageStreamId messageType timestamp bb.length
        else .continuation) ++
        [(bb.drop bytesSent).take (min endpoint.chunkSizeSend (bb.length - bytesSent))])
      (.inl (bytesSent + min endpoint.chunkSizeSend (bb.length - bytesSent))) endpoint := by
  unfold sendChunk
  rw [if_neg more]
  refine (ReturnsBy.getState endpoint).silent_bind ?_
  exact (sendChunkHeader_by _ _ _ _ _ _ _ endpoint).bind
    ((ReturnsBy.sendBytes _ _).bind_silent (.pure _ _))

/-- The loop of `SendRTMPMessage` from `bytesSent` on. -/
theorem sendChunks_by (endpoint : RTMPEndpoint) (bb : Bytes) (id : UInt8) (messageStreamId : Nat)
    (messageType : RTMPMessageType) (timestamp : Nat) (positive : 0 < endpoint.chunkSizeSend)
    (left : Nat) :
    ∀ bytesSent, bytesSent + left = bb.length → 0 < left →
      ∃ calls, ChunkedBy id endpoint.chunkSizeSend
          (if bytesSent = 0 then
            (endpoint.outputStream id).nextHeader messageStreamId messageType timestamp bb.length
          else .continuation) (bb.drop bytesSent) calls ∧
        ReturnsBy (Prog.repeatUntil (sendChunk bb id messageStreamId messageType timestamp)
          bytesSent) endpoint [] calls () endpoint := by
  induction left using Nat.strong_induction_on with
  | _ left ih =>
      intro bytesSent total remaining
      have rest : (bb.drop bytesSent).length = left := by
        rw [List.length_drop]
        omega
      have pass := sendChunk_by endpoint id messageStreamId messageType timestamp
        (show bytesSent ≠ bb.length by omega)
      by_cases short : left ≤ endpoint.chunkSizeSend
      · have size : min endpoint.chunkSizeSend (bb.length - bytesSent) = left := by omega
        have finish : ReturnsBy (sendChunk bb id messageStreamId messageType timestamp
            (bytesSent + left)) endpoint [] [] (.inr ()) endpoint := by
          unfold sendChunk
          rw [if_pos total]
          exact .pure _ _
        rw [size, ← rest, List.take_length, rest] at pass
        refine ⟨_, .last (List.ne_nil_of_length_pos (by omega)) (by omega), ?_⟩
        rw [← List.append_nil (_ ++ [_])]
        exact (RunsBy.loop_again pass).trans (RunsBy.loop_done finish)
      · have size : min endpoint.chunkSizeSend (bb.length - bytesSent) =
            endpoint.chunkSizeSend := by omega
        rw [size] at pass
        obtain ⟨calls, chunked, run⟩ := ih (left - endpoint.chunkSizeSend) (by omega)
          (bytesSent + endpoint.chunkSizeSend) (by omega) (by omega)
        rw [if_neg (by omega), ← List.drop_drop] at chunked
        exact ⟨_, .more (by omega) chunked, (RunsBy.loop_again pass).trans run⟩

theorem sendRTMPMessage_by {data : Serializable} {payload : Bytes}
    (serialized : data.serializeToBuffer = .ok payload) (nonempty : payload ≠ [])
    (positive : 0 < endpoint.chunkSizeSend) (id : UInt8) (messageStreamId : Nat)
    (messageType : RTMPMessageType) (timestamp : Nat) :
    ∃ calls, ChunkedBy id endpoint.chunkSizeSend
        ((endpoint.outputStream id).nextHeader messageStreamId messageType timestamp payload.length)
        payload calls ∧
      ReturnsBy (sendRTMPMessage data id messageStreamId messageType timestamp) endpoint [] calls ()
        (endpoint.recordSent id messageStreamId messageType timestamp payload.length) := by
  have length := List.length_pos_of_ne_nil nonempty
  obtain ⟨calls, chunked, run⟩ := sendChunks_by
    (endpoint.setOutput id (endpoint.outputStream id)) payload id messageStreamId
    messageType timestamp positive payload.length 0 (Nat.zero_add _) length
  rw [if_pos rfl, endpoint.outputStream_setOutput, List.drop_zero] at chunked
  have created : (endpoint.setOutput id (endpoint.outputStream id)).outputStream id =
      endpoint.outputStream id := endpoint.outputStream_setOutput id _
  refine ⟨calls, chunked, ?_⟩
  unfold sendRTMPMessage
  refine (ReturnsBy.ofExcept serialized endpoint).silent_bind ?_
  refine (ReturnsBy.modifyState _ _).silent_bind ?_
  refine run.bind_silent ?_
  have last := ReturnsBy.modifyState (E := Stop) (fun endpoint : RTMPEndpoint =>
    endpoint.recordSent id messageStreamId messageType timestamp payload.length)
    (endpoint.setOutput id (endpoint.outputStream id))
  rwa [RTMPEndpoint.recordSent, created, RTMPEndpoint.setOutput_setOutput] at last

theorem changeChunkSizeOutput_by {chunkSize : Nat} {calls : List Bytes}
    (sent : ReturnsBy (sendRTMPMessage (SetChunkSize.mk chunkSize).toSerializable 2 0 .setChunkSize
      0) endpoint [] calls () (endpoint.recordSent 2 0 .setChunkSize 0 4)) :
    ReturnsBy (changeChunkSizeOutput chunkSize) endpoint [] calls ()
      { endpoint.recordSent 2 0 .setChunkSize 0 4 with chunkSizeSend := chunkSize } :=
  sent.bind_silent (.modifyState _ _)

end Sending

end EasyRtmp
