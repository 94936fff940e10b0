import EasyRtmp.Endpoint

/-!
# What one chunk does to either endpoint

`MessageHeader` names the four header forms.  For each method of the endpoint
there is one lemma on the calls that return, in terms of a header's bytes and
of pure functions of the stream's record, and one on every call whatever bytes
arrive.  Later modules use these and never open the programs again.
-/

set_option autoImplicit false

namespace EasyRtmp

open Lib Lib.ByteCodec

inductive MessageHeader where
  | full (header : ChunkMessageHeader0)
  | sameStream (header : ChunkMessageHeader1)
  | timeOnly (header : ChunkMessageHeader2)
  | continuation
  deriving DecidableEq, Repr

namespace MessageHeader

def fmt : MessageHeader → Nat
  | .full _ => 0
  | .sameStream _ => 1
  | .timeOnly _ => 2
  | .continuation => 3

def bytes : MessageHeader → Bytes
  | .full header => header.serialize
  | .sameStream header => header.serialize
  | .timeOnly header => header.serialize
  | .continuation => []

def apply (cs : ChunkStream) : MessageHeader → ChunkStream
  | .full header => cs.applyHeader0 header
  | .sameStream header => cs.applyHeader1 header
  | .timeOnly header => cs.applyHeader2 header
  | .continuation => cs.applyHeader3

/-- The message length a header announces. -/
def announced : MessageHeader → Option Nat
  | .full header => some header.messageLength
  | .sameStream header => some header.messageLength
  | .timeOnly _ => none
  | .continuation => none

/-- The header as the receiver parses it: three bytes of each number. -/
def received : MessageHeader → MessageHeader
  | .full header => .full ⟨header.timestamp % 2 ^ 24, header.messageLength % 2 ^ 24,
      header.messageTypeId, header.messageStreamId % 2 ^ 24⟩
  | .sameStream header => .sameStream ⟨header.timestampDelta % 2 ^ 24,
      header.messageLength % 2 ^ 24, header.messageTypeId⟩
  | .timeOnly header => .timeOnly ⟨header.timestampDelta % 2 ^ 24⟩
  | .continuation => .continuation

theorem fmt_lt (header : MessageHeader) : header.fmt < 4 := by
  cases header <;> simp [fmt]

theorem announced_received_lt {header : MessageHeader} {length : Nat}
    (announces : header.received.announced = some length) : length < 2 ^ 24 := by
  cases header <;> simp only [received, announced, Option.some.injEq, reduceCtorEq] at announces
  all_goals
    subst announces
    exact Nat.mod_lt _ (by norm_num)

end MessageHeader

/-- The basic header and the message header of a chunk. -/
def chunkHeaderBytes (chunkStreamId : UInt8) (header : MessageHeader) : Bytes :=
  (ChunkBasicHeader.mk chunkStreamId.toNat header.fmt).serialize ++ header.bytes

namespace RTMPEndpoint

variable (endpoint : RTMPEndpoint) (id other : UInt8) (cs cs' : ChunkStream)

@[simp] theorem inputStream_setInput : (endpoint.setInput id cs).inputStream id = cs := by
  simp [inputStream, setInput]

theorem inputStream_setInput_of_ne {id other : UInt8} (ne : other ≠ id) :
    (endpoint.setInput id cs).inputStream other = endpoint.inputStream other := by
  simp [inputStream, setInput, ne]

@[simp] theorem setInput_setInput :
    (endpoint.setInput id cs).setInput id cs' = endpoint.setInput id cs' := by
  simp [setInput]

@[simp] theorem chunkSizeReceive_setInput :
    (endpoint.setInput id cs).chunkSizeReceive = endpoint.chunkSizeReceive := rfl

@[simp] theorem maxMessageSize_setInput :
    (endpoint.setInput id cs).maxMessageSize = endpoint.maxMessageSize := rfl

@[simp] theorem storeHeader_setInput :
    (endpoint.setInput id cs).storeHeader id cs' = endpoint.storeHeader id cs' := by
  unfold storeHeader
  rw [maxMessageSize_setInput]
  by_cases larger : endpoint.maxMessageSize < cs'.messageLength
  · rw [if_pos larger, if_pos larger, setInput_setInput]
  · rw [if_neg larger, if_neg larger, setInput_setInput]

theorem storeHeader_of_le {cs : ChunkStream} (fits : cs.messageLength ≤ endpoint.maxMessageSize) :
    endpoint.storeHeader id cs = endpoint.setInput id cs := if_neg (by omega)

@[simp] theorem outputStream_setOutput : (endpoint.setOutput id cs).outputStream id = cs := by
  simp [outputStream, setOutput]

theorem outputStream_setOutput_of_ne {id other : UInt8} (ne : other ≠ id) :
    (endpoint.setOutput id cs).outputStream other = endpoint.outputStream other := by
  simp [outputStream, setOutput, ne]

@[simp] theorem setOutput_setOutput :
    (endpoint.setOutput id cs).setOutput id cs' = endpoint.setOutput id cs' := by
  simp [setOutput]

end RTMPEndpoint

/-! ## Receiving a chunk -/

theorem receiveData_returns (data : Bytes) (endpoint : RTMPEndpoint) :
    Returns (receiveData data.length) endpoint data [] data endpoint := by
  have nonnegative : ¬ (data.length : Int) < 0 := by omega
  rw [receiveData, if_neg nonnegative, Int.toNat_natCast]
  exact .recvBytes data endpoint

theorem receiveSerializable_returns {α : Type} {parseRef : Reader Stop α} {data : Bytes}
    {value : α} (parsed : parseBuffer parseRef data = .ok value) (endpoint : RTMPEndpoint) :
    Returns (receiveSerializable data.length parseRef) endpoint data [] value endpoint :=
  (receiveData_returns data endpoint).bind_silent (.ofExcept parsed endpoint)

/-- A header is received and then applied. -/
theorem receiveHeader_returns {α : Type} {parseRef : Reader Stop α} {data : Bytes}
    {value : α} {getLength : Nat} (length : data.length = getLength)
    (parsed : parseBuffer parseRef data = .ok value)
    (apply : α → ChunkStream) (endpoint : RTMPEndpoint) :
    Returns (do let header ← receiveSerializable getLength parseRef; pure (apply header))
      endpoint data [] (apply value) endpoint := by
  subst length
  exact (receiveSerializable_returns parsed endpoint).bind_silent (.pure _ endpoint)

theorem receiveMessageHeader_returns (header : MessageHeader) (cs : ChunkStream)
    (endpoint : RTMPEndpoint) :
    Returns (receiveMessageHeader header.fmt cs) endpoint header.bytes []
      (header.received.apply cs) endpoint := by
  cases header with
  | full header =>
      have parsed := ChunkMessageHeader0.parse_layout header.timestamp header.messageLength
        header.messageStreamId header.messageTypeId
      rw [← ChunkMessageHeader0.serialize_eq] at parsed
      have length : header.serialize.length = ChunkMessageHeader0.getLength := by
        simp [ChunkMessageHeader0.serialize_eq, ChunkMessageHeader0.getLength]
      exact receiveHeader_returns length parsed cs.applyHeader0 endpoint
  | sameStream header =>
      have parsed := ChunkMessageHeader1.parse_layout header.timestampDelta header.messageLength
        header.messageTypeId
      rw [← ChunkMessageHeader1.serialize_eq] at parsed
      have length : header.serialize.length = ChunkMessageHeader1.getLength := by
        simp [ChunkMessageHeader1.serialize_eq, ChunkMessageHeader1.getLength]
      exact receiveHeader_returns length parsed cs.applyHeader1 endpoint
  | timeOnly header =>
      have parsed := ChunkMessageHeader2.parse_layout header.timestampDelta
      rw [← ChunkMessageHeader2.serialize_eq] at parsed
      have length : header.serialize.length = ChunkMessageHeader2.getLength := by
        simp [ChunkMessageHeader2.serialize_eq, ChunkMessageHeader2.getLength]
      exact receiveHeader_returns length parsed cs.applyHeader2 endpoint
  | continuation => exact .pure _ endpoint

theorem receiveChunkHeaderFrom_returns (sentinels : Sentinels) (endpoint : RTMPEndpoint)
    {id : UInt8} (idBound : id.toNat < 64) (header : MessageHeader) :
    Returns (receiveChunkHeaderFrom sentinels) endpoint (chunkHeaderBytes id header) [] id
      (endpoint.storeHeader id
        (header.received.apply (endpoint.inputStreamFrom sentinels id))) := by
  have parsed := ChunkBasicHeader.parse_serialize ⟨id.toNat, header.fmt⟩ idBound header.fmt_lt
  have length : (ChunkBasicHeader.mk id.toNat header.fmt).serialize.length =
      ChunkBasicHeader.getLength := by
    simp [ChunkBasicHeader.serialize_eq, ChunkBasicHeader.getLength]
  have basic := receiveSerializable_returns parsed endpoint
  rw [length] at basic
  have created := endpoint.inputStream_setInput id (endpoint.inputStreamFrom sentinels id)
  have message := receiveMessageHeader_returns header (endpoint.inputStreamFrom sentinels id)
    (endpoint.setInput id (endpoint.inputStreamFrom sentinels id))
  unfold receiveChunkHeaderFrom chunkHeaderBytes
  refine basic.bind ?_
  simp only [UInt8.ofNat_toNat]
  refine (Returns.modifyState _ _).silent_bind ((Returns.getState _).silent_bind ?_)
  rw [created, ← endpoint.storeHeader_setInput id (endpoint.inputStreamFrom sentinels id)]
  exact message.bind_silent ((Returns.modifyState _ _).silent_bind (.pure id _))

theorem receiveChunkHeader_returns (endpoint : RTMPEndpoint) {id : UInt8} (idBound : id.toNat < 64)
    (header : MessageHeader) :
    Returns receiveChunkHeader endpoint (chunkHeaderBytes id header) [] id
      (endpoint.storeHeader id (header.received.apply (endpoint.inputStream id))) := by
  rw [← receiveChunkHeaderFrom_default, ← inputStreamFrom_default]
  exact receiveChunkHeaderFrom_returns {} endpoint idBound header

/-! ## Receiving a payload -/

namespace ChunkStream

/-- `data` is stored behind what was read of the current message. -/
def accept (cs : ChunkStream) (data : Bytes) : ChunkStream :=
  { cs with
    chunksBuffer := cs.chunksBuffer.write cs.messageBytesRead data
    messageBytesRead := cs.messageBytesRead + data.length }

def message (cs : ChunkStream) (id : UInt8) : RTMPMessage :=
  ⟨cs.messageType, cs.messageStreamId, cs.messageLength, id, cs.timestamp,
    cs.chunksBuffer.contents cs.messageLength⟩

/-- The message read so far is complete. -/
def Complete (cs : ChunkStream) : Prop := cs.messageBytesRead = cs.messageLength

instance (cs : ChunkStream) : Decidable cs.Complete := by
  unfold Complete
  infer_instance

/-- What a pass of the loop answers on the record it stored. -/
def outcome (cs : ChunkStream) (id : UInt8) : Unit ⊕ RTMPMessage :=
  if cs.Complete then .inr (cs.message id) else .inl ()

/-- A complete message is given away. -/
def settle (cs : ChunkStream) : ChunkStream :=
  if cs.Complete then { cs with messageBytesRead := 0 } else cs

/-- The record once the message in `buffer` was given away. -/
def delivered (cs : ChunkStream) (buffer : GrowBuffer) : ChunkStream :=
  { cs with
    messageBytesRead := 0
    chunksBuffer := buffer }

@[simp] theorem accept_messageLength (cs : ChunkStream) (data : Bytes) :
    (cs.accept data).messageLength = cs.messageLength := rfl

@[simp] theorem accept_messageBytesRead (cs : ChunkStream) (data : Bytes) :
    (cs.accept data).messageBytesRead = cs.messageBytesRead + data.length := rfl

@[simp] theorem accept_size (cs : ChunkStream) (data : Bytes) :
    (cs.accept data).chunksBuffer.size = cs.chunksBuffer.size := rfl

theorem accept_contents (cs : ChunkStream) (data : Bytes) :
    (cs.accept data).chunksBuffer.contents (cs.accept data).messageBytesRead =
      cs.chunksBuffer.contents cs.messageBytesRead ++ data :=
  cs.chunksBuffer.contents_write _ _

/-- A continuation header says nothing while a message is partly read. -/
theorem continuation_partly {cs : ChunkStream} (partly : cs.messageBytesRead ≠ 0) :
    MessageHeader.continuation.received.apply cs = cs := by
  simp [MessageHeader.received, MessageHeader.apply, applyHeader3, applyDelta, partly]

end ChunkStream

theorem receiveChunkPayload_returns {endpoint : RTMPEndpoint} {id : UInt8} {cs : ChunkStream}
    {data : Bytes} (record : endpoint.inputStream id = cs)
    (length : data.length = toReceiveBytes cs endpoint.chunkSizeReceive)
    (signed : data.length < 2 ^ 31)
    (fits : cs.messageBytesRead + data.length ≤ cs.chunksBuffer.size) :
    Returns (receiveChunkPayload id) endpoint data [] ((cs.accept data).outcome id)
      (endpoint.setInput id (cs.accept data).settle) := by
  subst record
  unfold receiveChunkPayload
  refine (Returns.getState endpoint).silent_bind ?_
  simp only
  rw [← length, toInt_of_lt signed]
  refine (receiveData_returns data endpoint).bind_silent ?_
  simp only [GrowBuffer.write?_of_le _ _ _ fits]
  by_cases complete : ((endpoint.inputStream id).accept data).Complete
  · have done : (endpoint.inputStream id).messageBytesRead + data.length =
        (endpoint.inputStream id).messageLength := complete
    have inside : (endpoint.inputStream id).messageLength ≤
        ((endpoint.inputStream id).chunksBuffer.write
          (endpoint.inputStream id).messageBytesRead data).size := by
      rw [GrowBuffer.write_size]
      omega
    rw [if_pos done, ChunkStream.outcome, if_pos complete, ChunkStream.settle, if_pos complete,
      GrowBuffer.read?_of_le _ inside]
    exact (Returns.modifyState _ _).silent_bind (.pure _ _)
  · have more : ¬ (endpoint.inputStream id).messageBytesRead + data.length =
        (endpoint.inputStream id).messageLength := complete
    rw [if_neg more, ChunkStream.outcome, if_neg complete, ChunkStream.settle, if_neg complete]
    exact (Returns.modifyState _ _).silent_bind (.pure _ _)

/-- One chunk whose message fits the buffers. -/
theorem receiveChunk_returns {endpoint : RTMPEndpoint} {id : UInt8} (idBound : id.toNat < 64)
    {header : MessageHeader} {cs : ChunkStream} {data : Bytes}
    (applied : header.received.apply (endpoint.inputStream id) = cs)
    (small : cs.messageLength ≤ endpoint.maxMessageSize)
    (length : data.length = toReceiveBytes cs endpoint.chunkSizeReceive)
    (signed : data.length < 2 ^ 31)
    (fits : cs.messageBytesRead + data.length ≤ cs.chunksBuffer.size) :
    Returns receiveChunk endpoint (chunkHeaderBytes id header ++ data) []
      ((cs.accept data).outcome id) (endpoint.setInput id (cs.accept data).settle) := by
  have head := receiveChunkHeader_returns endpoint idBound header
  rw [applied, endpoint.storeHeader_of_le id small] at head
  have body := receiveChunkPayload_returns (endpoint.inputStream_setInput id cs) length signed fits
  rw [RTMPEndpoint.setInput_setInput] at body
  exact head.bind body

/-! ## Chunked messages -/

/-- `stream` is what is left of a message's chunks when `rest` is left of its
payload and its next chunk has the header `header`. -/
inductive Chunked (id : UInt8) (chunkSize : Nat) : MessageHeader → Bytes → Bytes → Prop where
  | last {header : MessageHeader} {rest : Bytes} (nonempty : rest ≠ [])
      (short : rest.length ≤ chunkSize) :
      Chunked id chunkSize header rest (chunkHeaderBytes id header ++ rest)
  | more {header : MessageHeader} {rest stream : Bytes} (long : chunkSize < rest.length)
      (chunked : Chunked id chunkSize .continuation (rest.drop chunkSize) stream) :
      Chunked id chunkSize header rest (chunkHeaderBytes id header ++ rest.take chunkSize ++ stream)

theorem toReceiveBytes_of_rest {cs : ChunkStream} {rest : Bytes} {chunkSize : Nat}
    (announced : cs.messageBytesRead + rest.length = cs.messageLength)
    (small : cs.messageLength < 2 ^ 24) :
    toReceiveBytes cs chunkSize = min rest.length chunkSize := by
  have missing : subSize cs.messageLength cs.messageBytesRead = rest.length := by
    unfold subSize
    omega
  rw [toReceiveBytes, missing]

/-- A chunk that leaves some of its message for later. -/
theorem receiveChunk_partly {id : UInt8} (idBound : id.toNat < 64) {header : MessageHeader}
    {endpoint : RTMPEndpoint} {cs : ChunkStream} {rest : Bytes}
    (applied : header.received.apply (endpoint.inputStream id) = cs)
    (announced : cs.messageBytesRead + rest.length = cs.messageLength)
    (small : cs.messageLength < 2 ^ 24) (maximum : cs.messageLength ≤ endpoint.maxMessageSize)
    (inside : cs.messageLength ≤ cs.chunksBuffer.size)
    (signed : endpoint.chunkSizeReceive < 2 ^ 31)
    (long : endpoint.chunkSizeReceive < rest.length) :
    Returns receiveChunk endpoint
      (chunkHeaderBytes id header ++ rest.take endpoint.chunkSizeReceive) [] (.inl ())
      (endpoint.setInput id (cs.accept (rest.take endpoint.chunkSizeReceive))) := by
  have taken : (rest.take endpoint.chunkSizeReceive).length = endpoint.chunkSizeReceive :=
    List.length_take_of_le (by omega)
  have length : (rest.take endpoint.chunkSizeReceive).length =
      toReceiveBytes cs endpoint.chunkSizeReceive := by
    rw [toReceiveBytes_of_rest announced small]
    omega
  have pass := receiveChunk_returns idBound applied maximum length (by omega) (by omega)
  have incomplete : ¬ (cs.accept (rest.take endpoint.chunkSizeReceive)).Complete := by
    simp only [ChunkStream.Complete, ChunkStream.accept_messageBytesRead,
      ChunkStream.accept_messageLength]
    omega
  rwa [ChunkStream.outcome, if_neg incomplete, ChunkStream.settle, if_neg incomplete] at pass

/-- A chunked message is received whole; `cs` is the stream's record after the
first header. -/
theorem Chunked.receive {id : UInt8} (idBound : id.toNat < 64) {chunkSize : Nat}
    (positive : 0 < chunkSize) (signed : chunkSize < 2 ^ 31) {header : MessageHeader}
    {rest stream : Bytes} (chunked : Chunked id chunkSize header rest stream) :
    ∀ (endpoint : RTMPEndpoint) (cs : ChunkStream), endpoint.chunkSizeReceive = chunkSize →
      header.received.apply (endpoint.inputStream id) = cs →
      cs.messageBytesRead + rest.length = cs.messageLength → cs.messageLength < 2 ^ 24 →
      cs.messageLength ≤ endpoint.maxMessageSize → cs.messageLength ≤ cs.chunksBuffer.size →
      ∃ buffer : GrowBuffer, buffer.size = cs.chunksBuffer.size ∧
        Returns getRTMPMessage endpoint stream []
          ⟨cs.messageType, cs.messageStreamId, cs.messageLength, id, cs.timestamp,
            cs.chunksBuffer.contents cs.messageBytesRead ++ rest⟩
          (endpoint.setInput id (cs.delivered buffer)) := by
  induction chunked with
  | @last header rest nonempty short =>
      intro endpoint cs sizes applied announced small maximum inside
      have length : rest.length = toReceiveBytes cs endpoint.chunkSizeReceive := by
        rw [toReceiveBytes_of_rest announced small, sizes]
        omega
      have pass := receiveChunk_returns idBound applied maximum length (by omega) (by omega)
      have complete : (cs.accept rest).Complete := announced
      have contents := cs.accept_contents rest
      rw [ChunkStream.accept_messageBytesRead, announced] at contents
      rw [ChunkStream.outcome, if_pos complete, ChunkStream.settle, if_pos complete,
        ChunkStream.message, ChunkStream.accept_messageLength, contents] at pass
      exact ⟨cs.chunksBuffer.write cs.messageBytesRead rest, rfl, Runs.loop_done pass⟩
  | @more header rest stream long _ ih =>
      intro endpoint cs sizes applied announced small maximum inside
      have taken : (rest.take chunkSize).length = chunkSize := List.length_take_of_le (by omega)
      have left : (rest.drop chunkSize).length = rest.length - chunkSize := List.length_drop
      have pass := receiveChunk_partly idBound applied announced small maximum inside
        (by omega) (by omega)
      rw [sizes] at pass
      have stored := endpoint.inputStream_setInput id (cs.accept (rest.take chunkSize))
      have resumed : MessageHeader.continuation.received.apply
          ((endpoint.setInput id (cs.accept (rest.take chunkSize))).inputStream id) =
            cs.accept (rest.take chunkSize) := by
        rw [stored]
        apply ChunkStream.continuation_partly
        rw [ChunkStream.accept_messageBytesRead]
        omega
      obtain ⟨buffer, size, call⟩ := ih (endpoint.setInput id (cs.accept (rest.take chunkSize)))
        (cs.accept (rest.take chunkSize)) sizes resumed (by
          rw [ChunkStream.accept_messageBytesRead, ChunkStream.accept_messageLength]
          omega)
        small maximum inside
      refine ⟨buffer, size, ?_⟩
      rw [ChunkStream.accept_contents, List.append_assoc, List.take_append_drop,
        RTMPEndpoint.setInput_setInput] at call
      exact (Runs.loop_again pass).trans call

/-! ## Sending -/

/-- The header of a message's first chunk. -/
def ChunkStream.nextHeader (cs : ChunkStream) (messageStreamId : Nat)
    (messageType : RTMPMessageType) (timestamp size : Nat) : MessageHeader :=
  if cs.messageLength = size ∧ cs.messageType = messageType ∧
      cs.messageStreamId = messageStreamId ∧ cs.timestamp ≤ timestamp then
    .timeOnly ⟨timestamp - cs.timestamp⟩
  else if cs.messageStreamId = messageStreamId ∧ cs.timestamp ≤ timestamp then
    .sameStream ⟨timestamp - cs.timestamp, size, messageType.value⟩
  else .full ⟨timestamp, size, messageType.value, messageStreamId⟩

theorem sendChunkHeader_returns (cs : ChunkStream) (id : UInt8) (messageStreamId : Nat)
    (messageType : RTMPMessageType) (timestamp size bytesSent : Nat) (endpoint : RTMPEndpoint) :
    Returns (sendChunkHeader cs id messageStreamId messageType timestamp size bytesSent) endpoint []
      (chunkHeaderBytes id
        (if bytesSent = 0 then cs.nextHeader messageStreamId messageType timestamp size
          else .continuation)) () endpoint := by
  unfold sendChunkHeader ChunkStream.nextHeader chunkHeaderBytes
  by_cases first : bytesSent = 0
  · rw [if_neg (not_not_intro first), if_pos first]
    split
    · exact (Returns.sendBytes _ _).bind (.sendBytes _ _)
    · split
      · exact (Returns.sendBytes _ _).bind (.sendBytes _ _)
      · exact (Returns.sendBytes _ _).bind (.sendBytes _ _)
  · rw [if_pos first, if_neg first, MessageHeader.bytes, List.append_nil]
    exact .sendBytes _ _

/-- The record `SendRTMPMessage` leaves behind. -/
def RTMPEndpoint.recordSent (endpoint : RTMPEndpoint) (id : UInt8) (messageStreamId : Nat)
    (messageType : RTMPMessageType) (timestamp size : Nat) : RTMPEndpoint :=
  endpoint.setOutput id { endpoint.outputStream id with
    timestamp := timestamp
    messageLength := size
    messageType := messageType
    messageStreamId := messageStreamId }

theorem sendChunk_returns (endpoint : RTMPEndpoint) {bb : Bytes} (id : UInt8)
    (messageStreamId : Nat) (messageType : RTMPMessageType) (timestamp : Nat) {bytesSent : Nat}
    (more : bytesSent ≠ bb.length) :
    Returns (sendChunk bb id messageStreamId messageType timestamp bytesSent) endpoint []
      (chunkHeaderBytes id
        (if bytesSent = 0 then
          (endpoint.outputStream id).nextHeader messageStreamId messageType timestamp bb.length
        else .continuation) ++
        (bb.drop bytesSent).take (min endpoint.chunkSizeSend (bb.length - bytesSent)))
      (.inl (bytesSent + min endpoint.chunkSizeSend (bb.length - bytesSent))) endpoint := by
  unfold sendChunk
  rw [if_neg more]
  refine (Returns.getState endpoint).silent_bind ?_
  exact (sendChunkHeader_returns _ _ _ _ _ _ _ endpoint).bind
    ((Returns.sendBytes _ _).bind_silent (.pure _ _))

/-- The loop of `SendRTMPMessage` from `bytesSent` on. -/
theorem sendChunks_returns (endpoint : RTMPEndpoint) (bb : Bytes) (id : UInt8)
    (messageStreamId : Nat) (messageType : RTMPMessageType) (timestamp : Nat)
    (positive : 0 < endpoint.chunkSizeSend) (left : Nat) :
    ∀ bytesSent, bytesSent + left = bb.length → 0 < left →
      ∃ stream, Chunked id endpoint.chunkSizeSend
          (if bytesSent = 0 then
            (endpoint.outputStream id).nextHeader messageStreamId messageType timestamp bb.length
          else .continuation) (bb.drop bytesSent) stream ∧
        Returns (Prog.repeatUntil (sendChunk bb id messageStreamId messageType timestamp) bytesSent)
          endpoint [] stream () endpoint := by
  induction left using Nat.strong_induction_on with
  | _ left ih =>
      intro bytesSent total remaining
      have rest : (bb.drop bytesSent).length = left := by
        rw [List.length_drop]
        omega
      have pass := sendChunk_returns endpoint id messageStreamId messageType timestamp
        (show bytesSent ≠ bb.length by omega)
      by_cases short : left ≤ endpoint.chunkSizeSend
      · have size : min endpoint.chunkSizeSend (bb.length - bytesSent) = left := by omega
        have finish : Returns (sendChunk bb id messageStreamId messageType timestamp
            (bytesSent + left)) endpoint [] [] (.inr ()) endpoint := by
          unfold sendChunk
          rw [if_pos total]
          exact .pure _ _
        rw [size, ← rest, List.take_length, rest] at pass
        refine ⟨_, .last (List.ne_nil_of_length_pos (by omega)) (by omega), ?_⟩
        rw [← List.append_nil (_ ++ _)]
        exact (Runs.loop_again pass).trans (Runs.loop_done finish)
      · have size : min endpoint.chunkSizeSend (bb.length - bytesSent) =
            endpoint.chunkSizeSend := by omega
        rw [size] at pass
        obtain ⟨stream, chunked, run⟩ := ih (left - endpoint.chunkSizeSend) (by omega)
          (bytesSent + endpoint.chunkSizeSend) (by omega) (by omega)
        rw [if_neg (by omega), ← List.drop_drop] at chunked
        exact ⟨_, .more (by omega) chunked, (Runs.loop_again pass).trans run⟩

/-- The record is created before the chunks are sent and filled in behind them. -/
theorem sendRTMPMessage_records {endpoint : RTMPEndpoint} {data : Serializable} {payload : Bytes}
    (serialized : data.serializeToBuffer = .ok payload) {id : UInt8} {messageStreamId : Nat}
    {messageType : RTMPMessageType} {timestamp : Nat} {stream : Bytes}
    (chunks : Returns
      (Prog.repeatUntil (sendChunk payload id messageStreamId messageType timestamp) 0)
      (endpoint.setOutput id (endpoint.outputStream id)) [] stream ()
      (endpoint.setOutput id (endpoint.outputStream id))) :
    Returns (sendRTMPMessage data id messageStreamId messageType timestamp) endpoint [] stream ()
      (endpoint.recordSent id messageStreamId messageType timestamp payload.length) := by
  have created : (endpoint.setOutput id (endpoint.outputStream id)).outputStream id =
      endpoint.outputStream id := endpoint.outputStream_setOutput id _
  unfold sendRTMPMessage
  refine (Returns.ofExcept serialized endpoint).silent_bind ?_
  refine (Returns.modifyState _ _).silent_bind ?_
  refine chunks.bind_silent ?_
  have last := Returns.modifyState (E := Stop) (fun endpoint : RTMPEndpoint =>
    endpoint.recordSent id messageStreamId messageType timestamp payload.length)
    (endpoint.setOutput id (endpoint.outputStream id))
  rwa [RTMPEndpoint.recordSent, created, RTMPEndpoint.setOutput_setOutput] at last

theorem sendRTMPMessage_returns {endpoint : RTMPEndpoint} {data : Serializable} {payload : Bytes}
    (serialized : data.serializeToBuffer = .ok payload) (nonempty : payload ≠ [])
    (positive : 0 < endpoint.chunkSizeSend) (id : UInt8) (messageStreamId : Nat)
    (messageType : RTMPMessageType) (timestamp : Nat) :
    ∃ stream, Chunked id endpoint.chunkSizeSend
        ((endpoint.outputStream id).nextHeader messageStreamId messageType timestamp payload.length)
        payload stream ∧
      Returns (sendRTMPMessage data id messageStreamId messageType timestamp) endpoint [] stream ()
        (endpoint.recordSent id messageStreamId messageType timestamp payload.length) := by
  have length := List.length_pos_of_ne_nil nonempty
  obtain ⟨stream, chunked, run⟩ := sendChunks_returns
    (endpoint.setOutput id (endpoint.outputStream id)) payload id messageStreamId
    messageType timestamp positive payload.length 0 (Nat.zero_add _) length
  rw [if_pos rfl, endpoint.outputStream_setOutput, List.drop_zero] at chunked
  exact ⟨stream, chunked, sendRTMPMessage_records serialized run⟩

/-- An empty payload sends nothing and is recorded all the same. -/
theorem sendRTMPMessage_empty {endpoint : RTMPEndpoint} {data : Serializable}
    (serialized : data.serializeToBuffer = .ok []) (id : UInt8) (messageStreamId : Nat)
    (messageType : RTMPMessageType) (timestamp : Nat) :
    Returns (sendRTMPMessage data id messageStreamId messageType timestamp) endpoint [] [] ()
      (endpoint.recordSent id messageStreamId messageType timestamp 0) := by
  have finish : Returns (sendChunk [] id messageStreamId messageType timestamp 0)
      (endpoint.setOutput id (endpoint.outputStream id)) [] [] (.inr ())
      (endpoint.setOutput id (endpoint.outputStream id)) := by
    unfold sendChunk
    rw [if_pos List.length_nil.symm]
    exact .pure _ _
  exact sendRTMPMessage_records serialized (Runs.loop_done finish)

/-! ## Handling a message -/

theorem handleMessage_other {message : RTMPMessage} (notSize : message.messageType ≠ .setChunkSize)
    (notAbort : message.messageType ≠ .abort)
    (notWindow : message.messageType ≠ .windowAcknowledgementSize)
    (notBandwith : message.messageType ≠ .setPeerBandwith) (endpoint : RTMPEndpoint) :
    Returns (handleMessage message) endpoint [] [] () endpoint := by
  rw [handleMessage, if_neg notSize, if_neg notAbort, if_neg notWindow, if_neg notBandwith]
  exact .pure () endpoint

/-- A message of a type that `HandleMessage` has no work for. -/
theorem handleMessage_idle {message : RTMPMessage} {messageType : RTMPMessageType}
    (isType : message.messageType = messageType)
    (idle : ∀ handled ∈ ([.setChunkSize, .abort, .windowAcknowledgementSize, .setPeerBandwith] :
      List RTMPMessageType), messageType ≠ handled) (endpoint : RTMPEndpoint) :
    Returns (handleMessage message) endpoint [] [] () endpoint := by
  subst isType
  simp only [List.forall_mem_cons] at idle
  obtain ⟨notSize, notAbort, notWindow, notBandwith, -⟩ := idle
  exact handleMessage_other notSize notAbort notWindow notBandwith endpoint

theorem handleMessage_setChunkSize {message : RTMPMessage} {front back : Bytes}
    (isSize : message.messageType = .setChunkSize) (data : message.data = front ++ back)
    (four : front.length = 4) (fits : message.data.length < 2 ^ 31) (endpoint : RTMPEndpoint) :
    Returns (handleMessage message) endpoint [] [] ()
      { endpoint with chunkSizeReceive := beValue front } := by
  rw [data] at fits
  have parsed := SetChunkSize.parse_payload four back fits
  rw [← data] at parsed
  rw [handleMessage, if_pos isSize]
  exact (Returns.ofExcept parsed endpoint).silent_bind (.modifyState _ _)

theorem handleMessage_window {message : RTMPMessage}
    (isWindow : message.messageType = .windowAcknowledgementSize) (four : 4 ≤ message.data.length)
    (fits : message.data.length < 2 ^ 31) (endpoint : RTMPEndpoint) :
    Returns (handleMessage message) endpoint [] [] () endpoint := by
  have split : message.data = message.data.take 4 ++ message.data.drop 4 :=
    (List.take_append_drop 4 _).symm
  rw [split] at fits
  have parsed := WindowsAcknowledgementSize.parse_payload (List.length_take_of_le four) _ fits
  rw [← split] at parsed
  rw [handleMessage, if_neg (by rw [isWindow]; decide), if_neg (by rw [isWindow]; decide),
    if_pos isWindow]
  exact (Returns.ofExcept parsed endpoint).silent_bind (.pure _ _)

theorem handleMessage_bandwith {message : RTMPMessage}
    (isBandwith : message.messageType = .setPeerBandwith) (five : 5 ≤ message.data.length)
    (fits : message.data.length < 2 ^ 31) (endpoint : RTMPEndpoint) :
    Returns (handleMessage message) endpoint [] [] () endpoint := by
  have inside : 4 < message.data.length := by omega
  have split : message.data =
      (message.data.take 4 ++ [message.data[4]]) ++ message.data.drop 5 := by
    rw [List.append_assoc, List.singleton_append, List.getElem_cons_drop, List.take_append_drop]
  rw [split] at fits
  have four : (message.data.take 4).length = 4 := List.length_take_of_le (by omega)
  have parsed := SetPeerBandwith.parse_payload four _ _ fits
  rw [← split] at parsed
  rw [handleMessage, if_neg (by rw [isBandwith]; decide), if_neg (by rw [isBandwith]; decide),
    if_neg (by rw [isBandwith]; decide), if_pos isBandwith]
  exact (Returns.ofExcept parsed endpoint).silent_bind (.pure _ _)

theorem setChunkSize_payload (chunkSize : Nat) :
    (SetChunkSize.mk chunkSize).toSerializable.serializeToBuffer = .ok (beBytes 4 chunkSize) := by
  apply serializeToBuffer_exact
  · rw [beBytes_length]
    rfl
  · exact congrArg Except.ok (serializeUint32_eq chunkSize)

end EasyRtmp
