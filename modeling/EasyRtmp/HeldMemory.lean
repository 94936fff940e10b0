import Mathlib.Algebra.BigOperators.Group.Finset.Basic
import Mathlib.Algebra.Order.BigOperators.Group.Finset
import EasyRtmp.Connections
import EasyRtmp.Reassembly
import EasyRtmp.Streaming

/-!
# The memory that a peer can make an endpoint hold

A chunk stream that is heard of for the first time gets a buffer as large as the largest
length announced so far on any stream, and keeps it.  `Held` bounds the buffers, and
every write of an endpoint `Retains` them.
-/

set_option autoImplicit false

namespace EasyRtmp

open Lib Lib.ByteCodec

/-! ## What is held -/

namespace RTMPEndpoint

/-- The size of a chunk stream's buffer. -/
def buffered (endpoint : RTMPEndpoint) (id : UInt8) : Nat :=
  (endpoint.chunkStreamsInput id).elim 0 fun cs => cs.chunksBuffer.size

/-- All that `m_ChunkStreamsInput` has allocated for messages. -/
def bufferBytes (endpoint : RTMPEndpoint) : Nat :=
  ∑ id ∈ Finset.range 256, endpoint.buffered (UInt8.ofNat id)

end RTMPEndpoint

/-- Six bits name a chunk stream, and 24 bits a message's length. -/
structure Held (endpoint : RTMPEndpoint) : Prop where
  maximum : endpoint.maxMessageSize < 2 ^ 24
  known : ∀ id cs, endpoint.chunkStreamsInput id = some cs → id.toNat < 64 ∧
    cs.messageLength ≤ endpoint.maxMessageSize ∧ cs.chunksBuffer.size ≤ endpoint.maxMessageSize

/-- A write that keeps the bounds and gives no buffer back. -/
def Retains (before after : RTMPEndpoint) : Prop :=
  Held before → Held after ∧ ∀ id, before.buffered id ≤ after.buffered id

theorem held_default : Held {} := ⟨by decide, fun _ _ known => nomatch known⟩

theorem Retains.refl (endpoint : RTMPEndpoint) : Retains endpoint endpoint :=
  fun held => ⟨held, fun _ => Nat.le_refl _⟩

theorem Retains.trans {first second third : RTMPEndpoint} (before : Retains first second)
    (after : Retains second third) : Retains first third := by
  intro held
  obtain ⟨heldThen, grown⟩ := before held
  obtain ⟨heldNow, more⟩ := after heldThen
  exact ⟨heldNow, fun id => (grown id).trans (more id)⟩

/-- Sixty-four buffers of the largest size. -/
theorem Held.bufferBytes_le {endpoint : RTMPEndpoint} (held : Held endpoint) :
    endpoint.bufferBytes ≤ 64 * (2 ^ 24 - 1) := by
  have each : ∀ id ∈ Finset.range 256,
      endpoint.buffered (UInt8.ofNat id) ≤ if id < 64 then 2 ^ 24 - 1 else 0 := by
    intro id member
    rw [RTMPEndpoint.buffered]
    cases found : endpoint.chunkStreamsInput (UInt8.ofNat id) with
    | none => exact Nat.zero_le _
    | some cs =>
        obtain ⟨named, -, size⟩ := held.known _ cs found
        have maximum := held.maximum
        have byte := Finset.mem_range.mp member
        rw [UInt8.toNat_ofNat', Nat.mod_eq_of_lt byte] at named
        rw [if_pos named, Option.elim_some]
        omega
  calc endpoint.bufferBytes ≤ ∑ id ∈ Finset.range 256, if id < 64 then 2 ^ 24 - 1 else 0 :=
        Finset.sum_le_sum each
    _ = 64 * (2 ^ 24 - 1) := by decide +kernel

/-! ## Writes -/

section Writes

variable {endpoint : RTMPEndpoint} {id : UInt8} {cs : ChunkStream}

theorem RTMPEndpoint.buffered_setInput (endpoint : RTMPEndpoint) (id : UInt8) (cs : ChunkStream)
    (other : UInt8) : (endpoint.setInput id cs).buffered other =
      if other = id then cs.chunksBuffer.size else endpoint.buffered other := by
  unfold RTMPEndpoint.buffered RTMPEndpoint.setInput
  by_cases same : other = id
  · simp [same]
  · simp [same]

theorem Held.inputStream (held : Held endpoint) (id : UInt8) :
    (endpoint.inputStream id).messageLength ≤ endpoint.maxMessageSize ∧
      (endpoint.inputStream id).chunksBuffer.size ≤ endpoint.maxMessageSize := by
  unfold RTMPEndpoint.inputStream
  cases found : endpoint.chunkStreamsInput id with
  | none => exact ⟨Nat.zero_le _, Nat.le_refl _⟩
  | some cs => exact (held.known id cs found).2

/-- A record that is created has a buffer, one that is found keeps its own. -/
theorem RTMPEndpoint.buffered_le (endpoint : RTMPEndpoint) (id : UInt8) :
    endpoint.buffered id ≤ (endpoint.inputStream id).chunksBuffer.size := by
  unfold RTMPEndpoint.buffered RTMPEndpoint.inputStream
  cases endpoint.chunkStreamsInput id with
  | none => exact Nat.zero_le _
  | some cs => exact Nat.le_refl _

/-- A record is written that the bounds allow, under a maximum that may have grown. -/
theorem Held.record (held : Held endpoint) {maximum : Nat} (named : id.toNat < 64)
    (above : endpoint.maxMessageSize ≤ maximum) (small : maximum < 2 ^ 24)
    (length : cs.messageLength ≤ maximum) (size : cs.chunksBuffer.size ≤ maximum) :
    Held { endpoint.setInput id cs with maxMessageSize := maximum } := by
  refine ⟨small, ?_⟩
  intro other found known
  change Function.update endpoint.chunkStreamsInput id (some cs) other = some found at known
  by_cases same : other = id
  · subst same
    rw [Function.update_self] at known
    obtain rfl := Option.some.inj known
    exact ⟨named, length, size⟩
  · rw [Function.update_of_ne same] at known
    obtain ⟨namedOther, lengthOther, sizeOther⟩ := held.known other found known
    exact ⟨namedOther, lengthOther.trans above, sizeOther.trans above⟩

/-- Such a record keeps the bytes of every stream if its own buffer does not shrink. -/
theorem RTMPEndpoint.buffered_le_setInput
    (size : (endpoint.inputStream id).chunksBuffer.size ≤ cs.chunksBuffer.size) (other : UInt8) :
    endpoint.buffered other ≤ (endpoint.setInput id cs).buffered other := by
  rw [endpoint.buffered_setInput]
  split
  · rename_i same
    rw [same]
    exact (endpoint.buffered_le id).trans size
  · exact Nat.le_refl _

/-- A record is written whose buffer is that of the record found or created. -/
theorem Retains.setInput (named : id.toNat < 64)
    (length : Held endpoint → cs.messageLength ≤ endpoint.maxMessageSize)
    (buffer : cs.chunksBuffer.size = (endpoint.inputStream id).chunksBuffer.size) :
    Retains endpoint (endpoint.setInput id cs) := by
  intro held
  have size := buffer.trans_le (held.inputStream id).2
  exact ⟨held.record named (Nat.le_refl _) held.maximum (length held) size,
    endpoint.buffered_le_setInput buffer.ge⟩

/-- A header makes its stream's buffer grow, or no buffer. -/
theorem Retains.storeHeader (named : id.toNat < 64)
    (length : Held endpoint → cs.messageLength < 2 ^ 24)
    (buffer : cs.chunksBuffer = (endpoint.inputStream id).chunksBuffer) :
    Retains endpoint (endpoint.storeHeader id cs) := by
  by_cases larger : endpoint.maxMessageSize < cs.messageLength
  · intro held
    have size := (held.inputStream id).2.trans larger.le
    rw [RTMPEndpoint.storeHeader, if_pos larger]
    exact ⟨held.record named larger.le (length held) (Nat.le_refl _) (Nat.le_refl _),
      endpoint.buffered_le_setInput size⟩
  · rw [endpoint.storeHeader_of_le id (Nat.le_of_not_lt larger)]
    exact Retains.setInput named (fun _ => Nat.le_of_not_lt larger) (congrArg _ buffer)

/-- What leaves the receiving half alone. -/
theorem Retains.of_same {after : RTMPEndpoint}
    (streams : after.chunkStreamsInput = endpoint.chunkStreamsInput)
    (maximum : after.maxMessageSize = endpoint.maxMessageSize) : Retains endpoint after := by
  intro held
  refine ⟨⟨maximum ▸ held.maximum, ?_⟩, fun id => ?_⟩
  · rw [streams, maximum]
    exact held.known
  · rw [RTMPEndpoint.buffered, RTMPEndpoint.buffered, streams]

end Writes

/-! ## Lengths -/

theorem readDataType_lt {size newSize : Nat} {memory : Nat → UInt8} {cursor after : Cursor}
    {value : Nat} (sizes : size = 1 ∨ size = 2 ∨ size = 4 ∨ size = 8) (fits : newSize ≤ size)
    (read : readDataType size newSize false 0 memory cursor = .ok value after) :
    value < 256 ^ newSize := by
  rw [readDataType_apply] at read
  split at read
  · cases read
  · simp only [Reader.take] at read
    generalize bytes :
      (List.range newSize).map (fun index => memory (cursor.data + index)) = image at read
    have width : image.length = newSize := by
      rw [← bytes]
      simp
    have loaded := loadVariable_be image sizes (width.trans_le fits)
    rw [width] at loaded
    rw [loaded] at read
    cases read
    rw [← width]
    exact beValue_lt image

theorem ChunkMessageHeader0.parse_lt {data : Bytes} {header : ChunkMessageHeader0}
    (parsed : parseBuffer parseRef data = .ok header) : header.messageLength < 2 ^ 24 := by
  obtain ⟨after, reached, -⟩ := parseBuffer_ok_iff.mp parsed
  obtain ⟨timestamp, middle, -, rest⟩ := Reader.bind_inv reached
  obtain ⟨messageLength, middle, read, rest⟩ := Reader.bind_inv rest
  obtain ⟨messageTypeId, middle, -, rest⟩ := Reader.bind_inv rest
  obtain ⟨messageStreamId, middle, -, made⟩ := Reader.bind_inv rest
  cases made
  exact readDataType_lt (by decide) (by decide) read

theorem ChunkMessageHeader1.parse_lt {data : Bytes} {header : ChunkMessageHeader1}
    (parsed : parseBuffer parseRef data = .ok header) : header.messageLength < 2 ^ 24 := by
  obtain ⟨after, reached, -⟩ := parseBuffer_ok_iff.mp parsed
  obtain ⟨timestampDelta, middle, -, rest⟩ := Reader.bind_inv reached
  obtain ⟨messageLength, middle, read, rest⟩ := Reader.bind_inv rest
  obtain ⟨messageTypeId, middle, -, made⟩ := Reader.bind_inv rest
  cases made
  exact readDataType_lt (by decide) (by decide) read

theorem ChunkBasicHeader.parse_lt {data : Bytes} {header : ChunkBasicHeader}
    (parsed : parseBuffer parseRef data = .ok header) : header.csId < 64 := by
  obtain ⟨after, reached, -⟩ := parseBuffer_ok_iff.mp parsed
  obtain ⟨byte, middle, -, made⟩ := Reader.bind_inv reached
  cases made
  exact Nat.mod_lt _ (by decide)

/-! ## The endpoint's programs -/

section Endpoint

variable {endpoint : RTMPEndpoint} {β : Type}

theorem receiveData_grows {len : Int} {next : Bytes → EndpointProg β}
    (rest : ∀ data, Grows Retains (next data) endpoint) :
    Grows Retains (receiveData len >>= next) endpoint := by
  unfold receiveData
  split
  · exact Grows.fail_bind
  · exact Grows.recvBytes_bind rest

theorem receiveSerializable_grows {α : Type} {len : Nat} {parseRef : Reader Stop α}
    {next : α → EndpointProg β}
    (rest : ∀ data value, parseBuffer parseRef data = .ok value →
      Grows Retains (next value) endpoint) :
    Grows Retains (receiveSerializable len parseRef >>= next) endpoint := by
  rw [receiveSerializable, bind_assoc]
  exact receiveData_grows fun data => Grows.ofExcept_bind (rest data)

/-- A header changes neither the buffer nor, beyond 24 bits, the length. -/
theorem receiveMessageHeader_grows {fmt : Nat} {cs : ChunkStream}
    {next : ChunkStream → EndpointProg β} (length : Held endpoint → cs.messageLength < 2 ^ 24)
    (rest : ∀ after : ChunkStream, (Held endpoint → after.messageLength < 2 ^ 24) →
      after.chunksBuffer = cs.chunksBuffer → Grows Retains (next after) endpoint) :
    Grows Retains (receiveMessageHeader fmt cs >>= next) endpoint := by
  have delta : ∀ timestampDelta, (cs.applyDelta timestampDelta).messageLength = cs.messageLength ∧
      (cs.applyDelta timestampDelta).chunksBuffer = cs.chunksBuffer := by
    intro timestampDelta
    unfold ChunkStream.applyDelta
    split <;> exact ⟨rfl, rfl⟩
  unfold receiveMessageHeader
  split
  · rw [bind_assoc]
    exact receiveSerializable_grows fun data header parsed =>
      Grows.pure_bind (rest _ (fun _ => ChunkMessageHeader0.parse_lt parsed) rfl)
  · rw [bind_assoc]
    exact receiveSerializable_grows fun data header parsed =>
      Grows.pure_bind (rest _ (fun _ => ChunkMessageHeader1.parse_lt parsed) (delta _).2)
  · rw [bind_assoc]
    exact receiveSerializable_grows fun data header parsed =>
      Grows.pure_bind (rest _ (fun held => (delta _).1.trans_lt (length held)) (delta _).2)
  · exact Grows.pure_bind (rest _ (fun held => (delta _).1.trans_lt (length held)) (delta _).2)

theorem receiveChunkHeader_grows {next : UInt8 → EndpointProg β}
    (rest : ∀ (id : UInt8) after, id.toNat < 64 → Grows Retains (next id) after) :
    Grows Retains (receiveChunkHeader >>= next) endpoint := by
  unfold receiveChunkHeader
  simp only [bind_assoc, pure_bind]
  refine receiveSerializable_grows fun data basicHeader parsed => ?_
  have named : (UInt8.ofNat basicHeader.csId).toNat < 64 := by
    have small := ChunkBasicHeader.parse_lt parsed
    rw [UInt8.toNat_ofNat']
    omega
  generalize UInt8.ofNat basicHeader.csId = id at named
  refine Grows.modifyState_bind
    (Retains.setInput named (fun held => (held.inputStream id).1) rfl) ?_
  refine Grows.getState_bind (receiveMessageHeader_grows ?_ ?_)
  · intro held
    exact (held.inputStream id).1.trans_lt held.maximum
  · intro cs length buffer
    exact Grows.modifyState_bind (Retains.storeHeader named length buffer) (rest id _ named)

theorem receiveChunkPayload_grows {id : UInt8} (named : id.toNat < 64) :
    Grows Retains (receiveChunkPayload id) endpoint := by
  unfold receiveChunkPayload
  refine Grows.getState_bind (receiveData_grows fun data => ?_)
  split
  · exact Grows.fail
  · rename_i buffer written
    have size : buffer.size = (endpoint.inputStream id).chunksBuffer.size :=
      GrowBuffer.size_of_write? written
    dsimp only
    split
    · refine Grows.modifyState_bind
        (Retains.setInput named (fun held => (held.inputStream id).1) size) ?_
      split
      · exact Grows.fail
      · exact Grows.pure
    · exact Grows.modifyState_bind
        (Retains.setInput named (fun held => (held.inputStream id).1) size) Grows.pure

theorem getRTMPMessage_grows : Grows Retains getRTMPMessage endpoint :=
  Grows.repeatUntil fun _ _ =>
    receiveChunkHeader_grows fun _ _ named => receiveChunkPayload_grows named

theorem handleMessage_grows (message : RTMPMessage) :
    Grows Retains (handleMessage message) endpoint := by
  unfold handleMessage
  split
  · exact Grows.ofExcept_bind fun scz _ => Grows.modifyState (.of_same rfl rfl)
  split
  · refine Grows.getState_bind ?_
    split
    · exact Grows.fail
    · rename_i cs found
      have record : endpoint.inputStream message.chunkStreamId = cs :=
        RTMPEndpoint.inputStream_of_some found
      refine Grows.putState fun held => ?_
      have known := held.known _ cs found
      exact Retains.setInput known.1 (fun _ => known.2.1) (by rw [record]) held
  split
  · exact Grows.ofExcept_bind fun _ _ => Grows.pure
  split
  · exact Grows.ofExcept_bind fun _ _ => Grows.pure
  · exact Grows.pure

theorem sendChunk_grows (bb : Bytes) (id : UInt8) (messageStreamId : Nat)
    (messageType : RTMPMessageType) (timestamp bytesSent : Nat) :
    Grows Retains (sendChunk bb id messageStreamId messageType timestamp bytesSent) endpoint := by
  have header : ∀ cs size, Grows Retains (sendChunkHeader cs id messageStreamId messageType
      timestamp size bytesSent) endpoint := by
    intro cs size
    unfold sendChunkHeader
    split
    · exact Grows.sendBytes
    split
    · exact Grows.sendBytes.bind fun _ _ => Grows.sendBytes
    split
    · exact Grows.sendBytes.bind fun _ _ => Grows.sendBytes
    · exact Grows.sendBytes.bind fun _ _ => Grows.sendBytes
  unfold sendChunk
  split
  · exact Grows.pure
  · exact Grows.getState_bind ((header _ _).bind fun _ _ =>
      Grows.sendBytes.bind fun _ _ => Grows.pure)

theorem sendRTMPMessage_grows (data : Serializable) (id : UInt8) (messageStreamId : Nat)
    (messageType : RTMPMessageType) (timestamp : Nat) :
    Grows Retains (sendRTMPMessage data id messageStreamId messageType timestamp) endpoint := by
  have writes : ∀ (now : RTMPEndpoint) cs, Retains now (now.setOutput id cs) :=
    fun _ _ => .of_same rfl rfl
  unfold sendRTMPMessage
  refine Grows.ofExcept_bind fun bb _ => Grows.modifyState_bind (writes _ _) ?_
  refine (Grows.repeatUntil fun _ _ => sendChunk_grows ..).bind fun _ now => ?_
  exact Grows.modifyState (writes now _)

theorem constructEndpoint_grows : Grows Retains constructEndpoint endpoint := by
  have sends : ∀ (data : Serializable) (now : RTMPEndpoint),
      Grows Retains (sendSerializable data) now :=
    fun data now => Grows.ofExcept_bind fun _ _ => Grows.sendBytes
  unfold constructEndpoint doHandshake sendHello receiveHello answerHello awaitEcho
    changeChunkSizeOutput
  simp only [bind_assoc]
  refine (sends _ _).bind fun _ now => (sends _ now).bind fun _ now => ?_
  refine receiveSerializable_grows fun _ s0 _ => ?_
  split
  · exact Grows.fail_bind
  refine receiveSerializable_grows fun _ s1 _ => (sends _ now).bind fun _ now => ?_
  refine receiveSerializable_grows fun _ _ _ => Grows.pure_bind ?_
  exact (sendRTMPMessage_grows ..).bind fun _ _ => Grows.modifyState (.of_same rfl rfl)

end Endpoint

/-! ## The sessions' programs -/

namespace RTMPServerSession

variable {session : RTMPServerSession}

theorem onEndpoint_grows {α : Type} {program : EndpointProg α}
    (grows : ∀ endpoint, Grows Retains program endpoint) :
    Grows (InvImage Retains endpoint) (onEndpoint program) session :=
  Grows.component (fun _ _ written => written) program session (grows _)

theorem sendAMFResult_grows (data : List AMFValue) (id : Int32) :
    Grows (InvImage Retains endpoint) (sendAMFResult data id) session :=
  onEndpoint_grows fun _ => sendRTMPMessage_grows ..

theorem handleMetadata_grows (cmdName : Bytes) (it : List AMFValue) :
    Grows (InvImage Retains endpoint) (handleMetadata cmdName it) session := by
  unfold handleMetadata
  split
  · refine Grows.ofExcept_bind fun obj _ => Grows.getState_bind ?_
    split
    refine Grows.bind (Grows.putState ?_) fun _ _ => Grows.ofExcept
    exact Retains.refl session.endpoint
  · exact Grows.pure

theorem handleAMF_grows (data : AMFValue) :
    Grows (InvImage Retains endpoint) (handleAMF data) session := by
  have parameters : ∀ change (now : RTMPServerSession),
      Grows (InvImage Retains endpoint) (modifyParameters change) now :=
    fun _ now => Grows.modifyState (Retains.refl now.endpoint)
  unfold handleAMF
  refine Grows.ofExcept_bind fun command _ => ?_
  dsimp only
  split
  · unfold handleConnect
    refine Grows.ofExcept_bind fun app _ => (parameters _ _).bind fun _ _ => ?_
    refine (onEndpoint_grows fun _ => sendRTMPMessage_grows ..).bind fun _ _ => ?_
    refine (onEndpoint_grows fun _ => sendRTMPMessage_grows ..).bind fun _ _ => ?_
    refine (onEndpoint_grows fun _ => sendRTMPMessage_grows ..).bind fun _ _ => ?_
    exact sendAMFResult_grows ..
  split
  · exact sendAMFResult_grows ..
  split
  · unfold handlePublish
    refine Grows.ofExcept_bind fun key _ => (parameters _ _).bind fun _ _ => ?_
    exact onEndpoint_grows fun _ => sendRTMPMessage_grows ..
  split
  · exact Grows.ofExcept_bind fun inner _ => handleMetadata_grows ..
  · exact handleMetadata_grows ..

theorem getRTMPMessage_grows :
    Grows (InvImage Retains endpoint) RTMPServerSession.getRTMPMessage session := by
  refine Grows.repeatUntil fun _ now => ?_
  unfold serverPass
  refine (onEndpoint_grows fun _ => EasyRtmp.getRTMPMessage_grows).bind fun message now => ?_
  split
  · exact Grows.ofExcept_bind fun root _ => (handleAMF_grows root).bind fun _ _ => Grows.pure
  split
  · exact Grows.ofExcept_bind fun _ _ => Grows.pure
  split
  · exact Grows.ofExcept_bind fun _ _ => Grows.pure
  · exact (onEndpoint_grows fun _ => handleMessage_grows message).bind fun _ _ => Grows.pure

end RTMPServerSession

namespace RTMPClientSession

variable {session : RTMPClientSession}

theorem onEndpoint_grows {α : Type} {program : EndpointProg α}
    (grows : ∀ endpoint, Grows Retains program endpoint) :
    Grows (InvImage Retains endpoint) (onEndpoint program) session :=
  Grows.component (fun _ _ written => written) program session (grows _)

theorem expectSuccess_grows (clb : AMFValue → Except Stop Bool) (cmdId : Int) :
    Grows (InvImage Retains endpoint) (expectSuccess clb cmdId) session := by
  have waits : Grows (InvImage Retains endpoint) (getCommandResponse clb cmdId) session := by
    refine Grows.repeatUntil fun _ now => ?_
    unfold responsePass
    refine (onEndpoint_grows fun _ => EasyRtmp.getRTMPMessage_grows).bind fun message now => ?_
    split
    · refine Grows.ofExcept_bind fun _ _ => Grows.ofExcept_bind fun answer _ => ?_
      split
      · exact Grows.pure
      · exact Grows.pure
    · exact (onEndpoint_grows fun _ => handleMessage_grows message).bind fun _ _ => Grows.pure
  refine waits.bind fun result now => ?_
  split
  · exact Grows.fail
  · exact Grows.pure

theorem sendClientParameters_grows (params : ClientParameters) :
    Grows (InvImage Retains endpoint) (sendClientParameters params) session := by
  have sends : ∀ (data : AMFValue) (id : UInt8) (messageStreamId : Nat)
      (messageType : RTMPMessageType) (now : RTMPClientSession), Grows (InvImage Retains endpoint)
        (onEndpoint (sendCommand data id messageStreamId messageType)) now :=
    fun _ _ _ _ _ => onEndpoint_grows fun _ => sendRTMPMessage_grows ..
  rw [sendClientParameters_eq]
  refine (sends ..).bind fun _ _ => (expectSuccess_grows ..).bind fun _ _ => ?_
  refine (sends ..).bind fun _ _ => (sends ..).bind fun _ _ => ?_
  refine (sends ..).bind fun _ _ => (expectSuccess_grows ..).bind fun _ _ => ?_
  refine (sends ..).bind fun _ _ => (expectSuccess_grows ..).bind fun _ _ => ?_
  exact (sends ..).bind fun _ now => Grows.modifyState (Retains.refl now.endpoint)

theorem sendMedia_grows (media : List Broadcast) :
    ∀ session, Grows (InvImage Retains endpoint) (sendMedia media) session := by
  induction media with
  | nil => exact fun _ => Grows.pure
  | cons broadcast media ih =>
      intro session
      refine Grows.bind ?_ fun _ now => ih now
      unfold RTMPClientSession.sendRTMPMessage
      split
      · exact onEndpoint_grows fun _ => sendRTMPMessage_grows ..
      split
      · exact onEndpoint_grows fun _ => sendRTMPMessage_grows ..
      · exact Grows.pure

theorem streamingClient_grows (params : ClientParameters) (media : List Broadcast) :
    Grows (InvImage Retains endpoint) (streamingClient params media) session := by
  unfold streamingClient
  refine (onEndpoint_grows fun _ => constructEndpoint_grows).bind fun _ now => ?_
  exact (sendClientParameters_grows params).bind fun _ now => sendMedia_grows media now

end RTMPClientSession

namespace MediaServer

/-- The endpoint of the server's session. -/
def endpoint (server : MediaServer) : RTMPEndpoint := server.session.endpoint

theorem main_retains (server : MediaServer) : Grows (InvImage Retains endpoint) main server := by
  have calls : ∀ {α : Type} {program : ServerProg α} (now : MediaServer),
      (∀ session, Grows (InvImage Retains RTMPServerSession.endpoint) program session) →
        Grows (InvImage Retains endpoint) (onSession program) now :=
    fun now grows => Grows.component (fun _ _ written => written) _ now (grows _)
  refine (calls server fun _ => RTMPServerSession.onEndpoint_grows fun _ =>
    constructEndpoint_grows).bind fun _ now => Grows.repeatUntil fun _ now => ?_
  refine (calls now fun _ => RTMPServerSession.getRTMPMessage_grows).bind fun message now => ?_
  exact (Grows.modifyState (Retains.refl now.endpoint)).bind fun _ _ => Grows.pure

end MediaServer

/-- On the way of a run the bounds are kept and no buffer shrinks. -/
theorem Retains.run {S α : Type} {view : S → RTMPEndpoint} {config final : Config S Stop α}
    {input output : Bytes} (runs : Runs config input output final)
    (grows : Grows (InvImage Retains view) config.prog config.state) :
    Retains (view config.state) (view final.state) ∧
      Grows (InvImage Retains view) final.prog final.state :=
  Grows.run (R := InvImage Retains view) (fun state => Retains.refl (view state))
    (fun before after => Retains.trans before after) runs grows

/-! ## The most that can be held -/

/-- The chunk of one stream that announces a message of `length` bytes and carries its
first `count`. -/
def occupying (id : UInt8) (length count : Nat) : Bytes :=
  chunkHeaderBytes id (.full ⟨0, length, 3, 0⟩) ++ List.replicate count 0

theorem occupying_length (id : UInt8) (length count : Nat) :
    (occupying id length count).length = 12 + count := by
  rw [occupying, chunkHeaderBytes, MessageHeader.bytes, ChunkBasicHeader.serialize_eq,
    ChunkMessageHeader0.serialize_eq]
  simp
  omega

/-- The first `count` chunk streams are known, and each holds as much as it can. -/
structure Occupied (count : Nat) (endpoint : RTMPEndpoint) : Prop where
  chunkSize : endpoint.chunkSizeReceive = 128
  maximum : endpoint.maxMessageSize = 2 ^ 24 - 1
  full : ∀ id : UInt8, id.toNat < count → endpoint.buffered id = 2 ^ 24 - 1
  unknown : ∀ id : UInt8, count ≤ id.toNat → endpoint.chunkStreamsInput id = none

theorem Occupied.bufferBytes {endpoint : RTMPEndpoint} (occupied : Occupied 64 endpoint) :
    endpoint.bufferBytes = 64 * (2 ^ 24 - 1) := by
  have each : ∀ id ∈ Finset.range 256,
      endpoint.buffered (UInt8.ofNat id) = if id < 64 then 2 ^ 24 - 1 else 0 := by
    intro id member
    have byte : (UInt8.ofNat id).toNat = id := by
      rw [UInt8.toNat_ofNat', Nat.mod_eq_of_lt (Finset.mem_range.mp member)]
    split
    · rename_i known
      exact occupied.full _ (byte.trans_lt known)
    · rename_i unknown
      rw [RTMPEndpoint.buffered, occupied.unknown _ ((Nat.le_of_not_lt unknown).trans_eq byte.symm)]
      rfl
  rw [RTMPEndpoint.bufferBytes, Finset.sum_congr rfl each]
  decide +kernel

section Occupying

variable {endpoint : RTMPEndpoint}

/-- A new stream gets a buffer as large as any length announced so far. -/
theorem occupying_received (id : UInt8) (length count : Nat) (named : id.toNat < 64)
    (unknown : endpoint.chunkStreamsInput id = none) (small : length < 2 ^ 24)
    (first : count = min length endpoint.chunkSizeReceive) :
    ∃ (cs : ChunkStream) (after : RTMPEndpoint),
      Returns receiveChunk endpoint (occupying id length count) [] (cs.outcome id) after ∧
      (cs.Complete ↔ count = length) ∧ cs.messageType = .acknowledgement ∧
      after.chunkSizeReceive = endpoint.chunkSizeReceive ∧
      after.maxMessageSize = max endpoint.maxMessageSize length ∧
      after.buffered id = max endpoint.maxMessageSize length ∧
      ∀ other, other ≠ id → after.chunkStreamsInput other = endpoint.chunkStreamsInput other := by
  have head := receiveChunkHeader_returns endpoint named (.full ⟨0, length, 3, 0⟩)
  rw [RTMPEndpoint.inputStream_of_none unknown] at head
  generalize applied : (MessageHeader.full ⟨0, length, 3, 0⟩).received.apply
    { chunksBuffer := .ofSize endpoint.maxMessageSize } = announced at head
  have announcedLength : announced.messageLength = length := by
    rw [← applied]
    exact Nat.mod_eq_of_lt small
  have announcedRead : announced.messageBytesRead = 0 := by
    rw [← applied]
    rfl
  have announcedType : announced.messageType = .acknowledgement := by
    rw [← applied]
    rfl
  have announcedSize : announced.chunksBuffer.size = endpoint.maxMessageSize := by
    rw [← applied]
    rfl
  generalize stored : (endpoint.storeHeader id announced).inputStream id = cs
  have size : cs.chunksBuffer.size = max endpoint.maxMessageSize length := by
    rw [← stored, RTMPEndpoint.storeHeader_inputStream, announcedLength]
    split
    · rw [GrowBuffer.resize_size]
      omega
    · omega
  have fields := endpoint.storeHeader_fields id announced
  rw [stored, announcedLength, announcedRead] at fields
  obtain ⟨csLength, csRead⟩ := fields
  have csType : cs.messageType = .acknowledgement := by
    rw [← stored, RTMPEndpoint.storeHeader_inputStream]
    split <;> exact announcedType
  have asked : (List.replicate count (0 : UInt8)).length =
      toReceiveBytes cs (endpoint.storeHeader id announced).chunkSizeReceive := by
    have missing : subSize length 0 = length := by
      rw [subSize, Nat.sub_zero, Nat.add_mod_right]
      exact Nat.mod_eq_of_lt (small.trans (by norm_num))
    rw [List.length_replicate, toReceiveBytes, csLength, csRead, missing,
      RTMPEndpoint.storeHeader_chunkSizeReceive, first]
  have body := receiveChunkPayload_returns stored asked (by rw [List.length_replicate]; omega)
    (by rw [List.length_replicate, csRead, size]; omega)
  refine ⟨cs.accept (List.replicate count 0), _, head.bind body, ?_, csType, ?_, ?_, ?_, ?_⟩
  · rw [ChunkStream.Complete, ChunkStream.accept_messageBytesRead,
      ChunkStream.accept_messageLength, csRead, csLength, List.length_replicate, Nat.zero_add]
  · exact endpoint.storeHeader_chunkSizeReceive id announced
  · rw [RTMPEndpoint.maxMessageSize_setInput, RTMPEndpoint.storeHeader_maxMessageSize,
      announcedLength]
  · rw [RTMPEndpoint.buffered_setInput, if_pos rfl, ChunkStream.settle_chunksBuffer,
      ChunkStream.accept_size, size]
  · intro other ne
    exact (Function.update_of_ne ne ..).trans (endpoint.storeHeader_other id _ ne)

/-- The largest length is announced on stream 0. -/
theorem occupied_first (fresh : endpoint.SameReceiving {}) :
    ∃ after, Returns receiveChunk endpoint (occupying 0 (2 ^ 24 - 1) 128) [] (.inl ()) after ∧
      Occupied 1 after := by
  have unknown : ∀ id, endpoint.chunkStreamsInput id = none := fun id => by
    rw [fresh.chunkStreamsInput]
  obtain ⟨cs, after, call, complete, -, chunkSize, maximum, buffered, others⟩ :=
    occupying_received 0 (2 ^ 24 - 1) 128 (by decide) (unknown 0) (by decide)
      (by rw [fresh.chunkSizeReceive]; decide)
  have partly : cs.outcome 0 = .inl () := if_neg (complete.not.mpr (by decide))
  have largest : max endpoint.maxMessageSize (2 ^ 24 - 1) = 2 ^ 24 - 1 := by
    rw [fresh.maxMessageSize]
    decide
  rw [partly] at call
  refine ⟨after, call, chunkSize.trans fresh.chunkSizeReceive, maximum.trans largest, ?_, ?_⟩
  · intro id zero
    obtain rfl : id = 0 := UInt8.toNat.inj (by simpa using zero)
    exact buffered.trans largest
  · intro id positive
    rw [others id (fun zero => by simp [zero] at positive)]
    exact unknown id

/-- A message of one byte arrives on the next stream. -/
theorem Occupied.next {count : Nat} (occupied : Occupied count endpoint) (more : count < 64) :
    ∃ message after,
      Returns getRTMPMessage endpoint (occupying (UInt8.ofNat count) 1 1) [] message after ∧
      message.messageType = .acknowledgement ∧ Occupied (count + 1) after := by
  have byte : (UInt8.ofNat count).toNat = count := by
    rw [UInt8.toNat_ofNat']
    omega
  obtain ⟨cs, after, call, complete, type, chunkSize, maximum, buffered, others⟩ :=
    occupying_received (UInt8.ofNat count) 1 1 (byte.trans_lt more) (occupied.unknown _ byte.ge)
      (by decide) (by rw [occupied.chunkSize]; decide)
  have whole : cs.outcome (UInt8.ofNat count) = .inr (cs.message (UInt8.ofNat count)) :=
    if_pos (complete.mpr rfl)
  have largest : max endpoint.maxMessageSize 1 = 2 ^ 24 - 1 := by
    rw [occupied.maximum]
    decide
  rw [whole] at call
  refine ⟨_, after, Runs.loop_done call, type, chunkSize.trans occupied.chunkSize,
    maximum.trans largest, ?_, ?_⟩
  · intro id known
    by_cases same : id = UInt8.ofNat count
    · rw [same]
      exact buffered.trans largest
    · have before : id.toNat < count := by
        have distinct : id.toNat ≠ count := fun equal =>
          same (UInt8.toNat.inj (equal.trans byte.symm))
        omega
      rw [RTMPEndpoint.buffered, others id same]
      exact occupied.full id before
  · intro id later
    rw [others id (fun same => by rw [same, byte] at later; omega)]
    exact occupied.unknown id (by omega)

end Occupying

/-! ## Runs of a server -/

namespace MediaServer

/-- Behind any greeting the server waits for the first message. -/
theorem greeted {c1 c2 : Bytes} (c1Length : c1.length = 1536) (c2Length : c2.length = 1536) :
    ∃ output session, Runs ⟨{}, main⟩ (3 :: c1 ++ c2) output (waiting ⟨session, []⟩) ∧
      session.endpoint.SameReceiving {} := by
  obtain ⟨announcement, start, announced, announces, -⟩ := announces_chunkSize
  have constructs : ReturnsBy constructEndpoint {} (greeting c1 c2 ++ [])
      (greeting ({} : C1).serialize (echoOf c1) ++ announcement) () start :=
    (doHandshake_by c1Length c2Length {}).bind announces
  have same := sending_frame (fun _ => changeChunkSizeOutput_lockstep 4096) announces.returns
  have call := constructs.returns
  rw [List.append_nil, greeting_flatten] at call
  have returned := (call.zoom RTMPServerSession.endpointLens {}).zoom sessionLens {}
  have run := (returned.bindLeft fun _ => mediaLoop).trans (mediaLoop_waits _)
  rw [List.append_nil] at run
  exact ⟨_, ⟨start, {}⟩, run, same⟩

/-- Streams 0 and 1 are heard of first, in one call of the session. -/
theorem occupies_two {session : RTMPServerSession} (fresh : session.endpoint.SameReceiving {}) :
    ∃ session', Occupied 2 session'.endpoint ∧
      Runs (waiting ⟨session, []⟩) (occupying 0 (2 ^ 24 - 1) 128 ++ occupying 1 1 1) []
        (waiting ⟨session', []⟩) := by
  obtain ⟨first, partly, occupied⟩ := occupied_first fresh
  obtain ⟨message, after, call, type, occupied'⟩ := occupied.next (by decide)
  have both : Returns getRTMPMessage session.endpoint
      (occupying 0 (2 ^ 24 - 1) 128 ++ occupying (UInt8.ofNat 1) 1 1) ([] ++ []) message after :=
    Runs.trans (Runs.loop_again partly) call
  have pass := Dialogue.serverPass_other both type (by decide)
    (handleMessage_idle type (by decide) after)
  exact ⟨_, occupied', waiting_passes pass []⟩

/-- A message of one byte on each of the streams that are left. -/
theorem occupies (remaining : Nat) : ∀ {count : Nat} {session : RTMPServerSession},
    count + remaining = 64 → Occupied count session.endpoint →
      ∃ input session', input.length = 13 * remaining ∧ Occupied 64 session'.endpoint ∧
        Runs (waiting ⟨session, []⟩) input [] (waiting ⟨session', []⟩) := by
  induction remaining with
  | zero =>
      intro count session last occupied
      obtain rfl : count = 64 := last
      exact ⟨[], session, rfl, occupied, .refl _⟩
  | succ remaining ih =>
      intro count session last occupied
      obtain ⟨message, after, call, type, occupied'⟩ := occupied.next (by omega)
      have pass := Dialogue.serverPass_other call type (by decide)
        (handleMessage_idle type (by decide) after)
      obtain ⟨input, session', length, full, run⟩ :=
        @ih (count + 1) { session with endpoint := after } (by omega) occupied'
      refine ⟨_, session', ?_, full, (waiting_passes pass []).trans run⟩
      rw [List.length_append, occupying_length, length]
      omega

end MediaServer

/-- What the buffers of a server hold at some time, when it has read no more than
`limit` bytes. -/
def heldWithin (limit : Nat) : Set Nat :=
  { bytes | ∃ input output final, Runs ⟨{}, MediaServer.main⟩ input output final ∧
      input.length ≤ limit ∧ bytes = final.state.endpoint.bufferBytes }

/-- However much a server reads, its buffers never hold more than 64 times the largest
length, for which a peer needs no more than 4032 bytes, and none of them shrinks.
The bound is that of a client too. -/
theorem held_peak (more : Nat) :
    IsGreatest (heldWithin (4032 + more)) (64 * (2 ^ 24 - 1)) ∧
      (∀ input output later written middle final,
        Runs ⟨{}, MediaServer.main⟩ input output middle → Runs middle later written final →
          ∀ id, middle.state.endpoint.buffered id ≤ final.state.endpoint.buffered id) ∧
      ∀ params media input output final,
        Runs ⟨{}, streamingClient params media⟩ input output final →
          final.state.endpoint.bufferBytes ≤ 64 * (2 ^ 24 - 1) := by
  refine ⟨⟨?_, ?_⟩, ?_, ?_⟩
  · have length : (List.replicate 1536 (0 : UInt8)).length = 1536 := List.length_replicate
    obtain ⟨output, session, greets, fresh⟩ := MediaServer.greeted length length
    obtain ⟨session', occupied, two⟩ := MediaServer.occupies_two fresh
    obtain ⟨input, last, rest, full, run⟩ := MediaServer.occupies 62 (Eq.refl (2 + 62)) occupied
    refine ⟨_, _, _, greets.trans (two.trans run), ?_, full.bufferBytes.symm⟩
    simp only [List.length_append, List.length_cons, List.length_replicate, occupying_length, rest]
    omega
  · intro bytes ⟨input, output, final, run, _, held⟩
    obtain ⟨retains, -⟩ := Retains.run run (MediaServer.main_retains {})
    rw [held]
    exact (retains held_default).1.bufferBytes_le
  · intro input output later written middle final first second
    obtain ⟨retains, rest⟩ := Retains.run first (MediaServer.main_retains {})
    obtain ⟨kept, -⟩ := Retains.run second rest
    exact (kept (retains held_default).1).2
  · intro params media input output final run
    obtain ⟨retains, -⟩ := Retains.run run (RTMPClientSession.streamingClient_grows params media)
    exact (retains held_default).1.bufferBytes_le

end EasyRtmp
