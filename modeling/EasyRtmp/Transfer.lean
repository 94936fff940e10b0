import EasyRtmp.Chunk

/-!
# One message from a sender to a receiver

`Synced` ties the sending half of one endpoint to the receiving half of its
peer, when nothing is under way between them: the chunk sizes agree, and each
stream's record at the receiver repeats the one from which the sender picks its
next header.  Sending a message and receiving it lead from `Synced` to `Synced`.
`InStep` asks less, and stays true of a sender that records messages without
payload, which it never sends.
-/

set_option autoImplicit false

namespace EasyRtmp

open Lib Lib.ByteCodec

/-- The default of `m_MaxMessageSize`, the largest payload considered. -/
def payloadLimit : Nat := 512000

/-- The two records of one chunk stream.  A sender that never used the stream
has a message stream id that no message has. -/
structure StreamsAgree (output input : ChunkStream) : Prop where
  idle : input.messageBytesRead = 0
  roomy : payloadLimit ≤ input.chunksBuffer.size
  record : output.messageStreamId = 2 ^ 32 - 1 ∨
    (output.messageLength = input.messageLength ∧ output.messageType = input.messageType ∧
      output.messageStreamId = input.messageStreamId)

/-- The two records of one chunk stream where the sender may have recorded messages
that it did not send, in buffers of `room` bytes. -/
structure RecordsAgree (room : Nat) (output input : ChunkStream) : Prop where
  idle : input.messageBytesRead = 0
  roomy : room ≤ input.chunksBuffer.size
  known : output.messageLength = 0 ∨ output.messageStreamId = 2 ^ 32 - 1 ∨
    (output.messageLength = input.messageLength ∧ output.messageType = input.messageType)

structure InStep (room : Nat) (sender receiver : RTMPEndpoint) : Prop where
  positive : 0 < sender.chunkSizeSend
  signed : sender.chunkSizeSend < 2 ^ 31
  sizes : receiver.chunkSizeReceive = sender.chunkSizeSend
  maximum : room ≤ receiver.maxMessageSize
  streams : ∀ id, RecordsAgree room (sender.outputStream id) (receiver.inputStream id)

structure Synced (sender receiver : RTMPEndpoint) : Prop where
  positive : 0 < sender.chunkSizeSend
  signed : sender.chunkSizeSend < 2 ^ 31
  sizes : receiver.chunkSizeReceive = sender.chunkSizeSend
  maximum : payloadLimit ≤ receiver.maxMessageSize
  streams : ∀ id, StreamsAgree (sender.outputStream id) (receiver.inputStream id)

theorem synced_default : Synced {} {} where
  positive := by decide
  signed := by decide
  sizes := rfl
  maximum := Nat.le_refl _
  streams := fun _ => ⟨rfl, Nat.le_refl _, Or.inl rfl⟩

/-- What a caller may ask `SendRTMPMessage` to send. -/
@[mk_iff]
structure Sendable (id : UInt8) (messageStreamId : Nat) (payload : Bytes) : Prop where
  idBound : id.toNat < 64
  streamBound : messageStreamId < 2 ^ 24
  nonempty : payload ≠ []
  limited : payload.length ≤ payloadLimit

instance (id : UInt8) (messageStreamId : Nat) (payload : Bytes) :
    Decidable (Sendable id messageStreamId payload) :=
  decidable_of_iff' _ (sendable_iff id messageStreamId payload)

/-- The receiver's record of a stream once the header of a new message came. -/
def ChunkStream.announce (output input : ChunkStream) (messageStreamId : Nat)
    (messageType : RTMPMessageType) (timestamp size : Nat) : ChunkStream :=
  (output.nextHeader messageStreamId messageType timestamp size).received.apply input

@[simp] theorem ChunkStream.applyDelta_messageLength (cs : ChunkStream) (delta : Nat) :
    (cs.applyDelta delta).messageLength = cs.messageLength := by
  unfold applyDelta
  split <;> rfl

@[simp] theorem ChunkStream.applyDelta_messageBytesRead (cs : ChunkStream) (delta : Nat) :
    (cs.applyDelta delta).messageBytesRead = cs.messageBytesRead := by
  unfold applyDelta
  split <;> rfl

@[simp] theorem ChunkStream.applyDelta_messageType (cs : ChunkStream) (delta : Nat) :
    (cs.applyDelta delta).messageType = cs.messageType := by
  unfold applyDelta
  split <;> rfl

@[simp] theorem ChunkStream.applyDelta_messageStreamId (cs : ChunkStream) (delta : Nat) :
    (cs.applyDelta delta).messageStreamId = cs.messageStreamId := by
  unfold applyDelta
  split <;> rfl

@[simp] theorem ChunkStream.applyDelta_chunksBuffer (cs : ChunkStream) (delta : Nat) :
    (cs.applyDelta delta).chunksBuffer = cs.chunksBuffer := by
  unfold applyDelta
  split <;> rfl

theorem MessageHeader.apply_messageBytesRead (header : MessageHeader) (cs : ChunkStream) :
    (header.apply cs).messageBytesRead = cs.messageBytesRead := by
  cases header <;>
    simp [apply, ChunkStream.applyHeader0, ChunkStream.applyHeader1, ChunkStream.applyHeader2,
      ChunkStream.applyHeader3]

theorem MessageHeader.apply_chunksBuffer (header : MessageHeader) (cs : ChunkStream) :
    (header.apply cs).chunksBuffer = cs.chunksBuffer := by
  cases header <;>
    simp [apply, ChunkStream.applyHeader0, ChunkStream.applyHeader1, ChunkStream.applyHeader2,
      ChunkStream.applyHeader3]

/-- The headers that name no message stream leave the receiver with the one it has. -/
theorem ChunkStream.announce_messageStreamId (output input : ChunkStream) (messageStreamId : Nat)
    (messageType : RTMPMessageType) (timestamp size : Nat) :
    (output.announce input messageStreamId messageType timestamp size).messageStreamId =
      if output.messageStreamId = messageStreamId ∧ output.timestamp ≤ timestamp then
        input.messageStreamId
      else messageStreamId % 2 ^ 24 := by
  unfold announce nextHeader
  by_cases same : output.messageStreamId = messageStreamId ∧ output.timestamp ≤ timestamp
  · rw [if_pos same, if_pos same]
    split <;> simp [MessageHeader.received, MessageHeader.apply, applyHeader1, applyHeader2]
  · rw [if_neg same, if_neg same, if_neg (fun all => same all.2.2)]
    rfl

/-- Whichever header form the sender picks, the receiver learns length and type. -/
theorem RecordsAgree.announce {room : Nat} {output input : ChunkStream}
    (agree : RecordsAgree room output input) {messageStreamId size : Nat}
    (streamBound : messageStreamId < 2 ^ 24) (nonempty : 0 < size) (small : size < 2 ^ 24)
    (messageType : RTMPMessageType) (timestamp : Nat) :
    (output.announce input messageStreamId messageType timestamp size).messageLength = size ∧
    (output.announce input messageStreamId messageType timestamp size).messageType =
      messageType := by
  have lengthCut : size % 2 ^ 24 = size := Nat.mod_eq_of_lt small
  unfold ChunkStream.announce ChunkStream.nextHeader
  split
  · rename_i same
    obtain ⟨sameLength, sameType, sameStream, -⟩ := same
    have known : output.messageLength = input.messageLength ∧
        output.messageType = input.messageType := by
      rcases agree.known with empty | fresh | known
      · omega
      · omega
      · exact known
    simp only [MessageHeader.received, MessageHeader.apply, ChunkStream.applyHeader2,
      ChunkStream.applyDelta_messageLength, ChunkStream.applyDelta_messageType]
    exact ⟨known.1.symm.trans sameLength, known.2.symm.trans sameType⟩
  · split
    · exact ⟨lengthCut, rfl⟩
    · exact ⟨lengthCut, rfl⟩

/-- The message arrives with its payload, and sender and receiver are in step again. -/
theorem InStep.transfer {room : Nat} {sender receiver : RTMPEndpoint}
    (inStep : InStep room sender receiver) {data : Serializable} {payload : Bytes}
    (serialized : data.serializeToBuffer = .ok payload) (nonempty : payload ≠ []) {id : UInt8}
    (idBound : id.toNat < 64) {messageStreamId : Nat} (streamBound : messageStreamId < 2 ^ 24)
    (limited : payload.length ≤ room) (short : payload.length < 2 ^ 24)
    (messageType : RTMPMessageType) (timestamp : Nat) :
    ∃ stream receiver',
      Returns (sendRTMPMessage data id messageStreamId messageType timestamp) sender [] stream ()
        (sender.recordSent id messageStreamId messageType timestamp payload.length) ∧
      Returns getRTMPMessage receiver stream []
        ⟨messageType, ((sender.outputStream id).announce (receiver.inputStream id) messageStreamId
            messageType timestamp payload.length).messageStreamId, payload.length, id,
          ((sender.outputStream id).announce (receiver.inputStream id) messageStreamId messageType
            timestamp payload.length).timestamp, payload⟩ receiver' ∧
      (∃ buffer, receiver' = receiver.setInput id
        (((sender.outputStream id).announce (receiver.inputStream id) messageStreamId messageType
          timestamp payload.length).delivered buffer)) ∧
      InStep room (sender.recordSent id messageStreamId messageType timestamp payload.length)
        receiver' := by
  have agree := inStep.streams id
  obtain ⟨stream, chunked, sends⟩ := sendRTMPMessage_returns serialized nonempty inStep.positive id
    messageStreamId messageType timestamp
  obtain ⟨length, type⟩ := agree.announce streamBound (List.length_pos_of_ne_nil nonempty) short
    messageType timestamp
  have read : ((sender.outputStream id).announce (receiver.inputStream id) messageStreamId
      messageType timestamp payload.length).messageBytesRead = 0 := by
    rw [ChunkStream.announce, MessageHeader.apply_messageBytesRead, agree.idle]
  have roomy : room ≤ ((sender.outputStream id).announce (receiver.inputStream id)
      messageStreamId messageType timestamp payload.length).chunksBuffer.size := by
    rw [ChunkStream.announce, MessageHeader.apply_chunksBuffer]
    exact agree.roomy
  have maximum := inStep.maximum
  generalize announced : (sender.outputStream id).announce (receiver.inputStream id)
    messageStreamId messageType timestamp payload.length = cs at length type read roomy
  obtain ⟨buffer, size, receives⟩ := chunked.receive idBound inStep.positive inStep.signed
    receiver cs inStep.sizes announced (by omega) (by omega) (by omega) (by omega)
  rw [type, length, read, GrowBuffer.contents_zero, List.nil_append] at receives
  refine ⟨stream, _, sends, receives, ⟨buffer, rfl⟩, ?_⟩
  refine ⟨inStep.positive, inStep.signed, inStep.sizes, inStep.maximum, fun other => ?_⟩
  by_cases same : other = id
  · subst same
    rw [RTMPEndpoint.recordSent, RTMPEndpoint.outputStream_setOutput,
      RTMPEndpoint.inputStream_setInput]
    exact ⟨rfl, Nat.le_trans roomy (Nat.le_of_eq size.symm),
      Or.inr (Or.inr ⟨length.symm, type.symm⟩)⟩
  · rw [RTMPEndpoint.recordSent, RTMPEndpoint.outputStream_setOutput_of_ne _ _ same,
      RTMPEndpoint.inputStream_setInput_of_ne _ _ same]
    exact inStep.streams other

theorem InStep.skip {room : Nat} {sender receiver : RTMPEndpoint}
    (inStep : InStep room sender receiver) (id : UInt8) (messageStreamId : Nat)
    (messageType : RTMPMessageType) (timestamp : Nat) :
    InStep room (sender.recordSent id messageStreamId messageType timestamp 0) receiver := by
  refine ⟨inStep.positive, inStep.signed, inStep.sizes, inStep.maximum, fun other => ?_⟩
  have agree := inStep.streams other
  by_cases same : other = id
  · subst same
    rw [RTMPEndpoint.recordSent, RTMPEndpoint.outputStream_setOutput]
    exact ⟨agree.idle, agree.roomy, Or.inl rfl⟩
  · rw [RTMPEndpoint.recordSent, RTMPEndpoint.outputStream_setOutput_of_ne _ _ same]
    exact agree

/-! ## No record without a message -/

theorem StreamsAgree.records {output input : ChunkStream} (agree : StreamsAgree output input) :
    RecordsAgree payloadLimit output input := by
  refine ⟨agree.idle, agree.roomy, Or.inr ?_⟩
  rcases agree.record with fresh | known
  · exact Or.inl fresh
  · exact Or.inr ⟨known.1, known.2.1⟩

theorem Synced.inStep {sender receiver : RTMPEndpoint} (synced : Synced sender receiver) :
    InStep payloadLimit sender receiver :=
  ⟨synced.positive, synced.signed, synced.sizes, synced.maximum,
    fun id => (synced.streams id).records⟩

/-- Where both records agree the message stream is learnt as well. -/
theorem StreamsAgree.announce {output input : ChunkStream} (agree : StreamsAgree output input)
    {messageStreamId : Nat} (streamBound : messageStreamId < 2 ^ 24) (messageType : RTMPMessageType)
    (timestamp size : Nat) :
    (output.announce input messageStreamId messageType timestamp size).messageStreamId =
      messageStreamId := by
  rw [ChunkStream.announce_messageStreamId]
  split
  · rename_i same
    rcases agree.record with fresh | known
    · omega
    · exact known.2.2.symm.trans same.1
  · exact Nat.mod_eq_of_lt streamBound

theorem Synced.transfer {sender receiver : RTMPEndpoint} (synced : Synced sender receiver)
    {data : Serializable} {payload : Bytes} (serialized : data.serializeToBuffer = .ok payload)
    {id : UInt8} {messageStreamId : Nat} (sendable : Sendable id messageStreamId payload)
    (messageType : RTMPMessageType) (timestamp : Nat) :
    ∃ stream receiver',
      Returns (sendRTMPMessage data id messageStreamId messageType timestamp) sender [] stream ()
        (sender.recordSent id messageStreamId messageType timestamp payload.length) ∧
      Returns getRTMPMessage receiver stream []
        ⟨messageType, messageStreamId, payload.length, id,
          ((sender.outputStream id).announce (receiver.inputStream id) messageStreamId messageType
            timestamp payload.length).timestamp, payload⟩ receiver' ∧
      (∃ buffer, receiver' = receiver.setInput id
        (((sender.outputStream id).announce (receiver.inputStream id) messageStreamId messageType
          timestamp payload.length).delivered buffer)) ∧
      Synced (sender.recordSent id messageStreamId messageType timestamp payload.length)
        receiver' := by
  obtain ⟨idBound, streamBound, nonempty, limited⟩ := sendable
  have agree := synced.streams id
  have short : payload.length < 2 ^ 24 := by
    simp only [payloadLimit] at limited
    omega
  obtain ⟨length, type⟩ := agree.records.announce streamBound (List.length_pos_of_ne_nil nonempty)
    short messageType timestamp
  have messageStream := agree.announce streamBound messageType timestamp payload.length
  obtain ⟨stream, _, sends, receives, ⟨buffer, rfl⟩, inStep⟩ := synced.inStep.transfer serialized
    nonempty idBound streamBound limited short messageType timestamp
  rw [messageStream] at receives
  refine ⟨stream, _, sends, receives, ⟨buffer, rfl⟩, ?_⟩
  refine ⟨inStep.positive, inStep.signed, inStep.sizes, inStep.maximum, fun other => ?_⟩
  have known := inStep.streams other
  refine ⟨known.idle, known.roomy, ?_⟩
  by_cases same : other = id
  · subst same
    rw [RTMPEndpoint.recordSent, RTMPEndpoint.outputStream_setOutput,
      RTMPEndpoint.inputStream_setInput]
    exact Or.inr ⟨length.symm, type.symm, messageStream.symm⟩
  · rw [RTMPEndpoint.recordSent, RTMPEndpoint.outputStream_setOutput_of_ne _ _ same,
      RTMPEndpoint.inputStream_setInput_of_ne _ _ same]
    exact (synced.streams other).record

theorem Synced.resize {sender receiver : RTMPEndpoint} (synced : Synced sender receiver)
    {chunkSize : Nat} (positive : 0 < chunkSize) (signed : chunkSize < 2 ^ 31) :
    Synced { sender with chunkSizeSend := chunkSize }
      { receiver with chunkSizeReceive := chunkSize } :=
  ⟨positive, signed, rfl, synced.maximum, synced.streams⟩

theorem changeChunkSizeOutput_returns {endpoint : RTMPEndpoint} {chunkSize : Nat} {stream : Bytes}
    (call : Returns (sendRTMPMessage (SetChunkSize.mk chunkSize).toSerializable 2 0 .setChunkSize 0)
      endpoint [] stream () (endpoint.recordSent 2 0 .setChunkSize 0 4)) :
    Returns (changeChunkSizeOutput chunkSize) endpoint [] stream ()
      { endpoint.recordSent 2 0 .setChunkSize 0 4 with chunkSizeSend := chunkSize } := by
  exact call.bind_silent (.modifyState _ _)

/-- The receiver's record of stream 2 after `SET_CHUNK_SIZE`, before `HandleMessage`. -/
def RTMPEndpoint.afterSetChunkSize (sender receiver : RTMPEndpoint) (buffer : GrowBuffer) :
    RTMPEndpoint :=
  receiver.setInput 2 (((sender.outputStream 2).announce (receiver.inputStream 2) 0
    .setChunkSize 0 4).delivered buffer)

/-- The receiver stores the chunk size that the message announces. -/
theorem handleMessage_resizes {chunkSize : Nat} (signed : chunkSize < 2 ^ 31)
    {message : RTMPMessage} (type : message.messageType = .setChunkSize)
    (data : message.data = beBytes 4 chunkSize) (endpoint : RTMPEndpoint) :
    Returns (handleMessage message) endpoint [] [] ()
      { endpoint with chunkSizeReceive := chunkSize } := by
  have size : beValue (beBytes 4 chunkSize) = chunkSize := by
    apply beValue_beBytes_of_lt
    have wide : 2 ^ 31 ≤ 256 ^ 4 := by norm_num
    omega
  have handled := handleMessage_setChunkSize type (data.trans (List.append_nil _).symm)
    (beBytes_length 4 chunkSize) (by simp [data]) endpoint
  rwa [size] at handled

theorem InStep.changeChunkSize {room : Nat} {sender receiver : RTMPEndpoint}
    (inStep : InStep room sender receiver) (control : 4 ≤ room) {chunkSize : Nat}
    (positive : 0 < chunkSize) (signed : chunkSize < 2 ^ 31) :
    ∃ stream message middle,
      Returns (EasyRtmp.changeChunkSizeOutput chunkSize) sender [] stream ()
        { sender.recordSent 2 0 .setChunkSize 0 4 with chunkSizeSend := chunkSize } ∧
      Returns getRTMPMessage receiver stream [] message middle ∧
      Returns (handleMessage message) middle [] [] ()
        { middle with chunkSizeReceive := chunkSize } ∧
      InStep room { sender.recordSent 2 0 .setChunkSize 0 4 with chunkSizeSend := chunkSize }
        { middle with chunkSizeReceive := chunkSize } := by
  have four : (beBytes 4 chunkSize).length = 4 := beBytes_length 4 chunkSize
  obtain ⟨stream, middle, sends, receives, -, after⟩ :=
    inStep.transfer (setChunkSize_payload chunkSize) (List.ne_nil_of_length_pos (by omega))
      (show (2 : UInt8).toNat < 64 by decide) (show 0 < 2 ^ 24 by decide) (by omega) (by omega)
      .setChunkSize 0
  rw [four] at sends after
  exact ⟨stream, _, middle, changeChunkSizeOutput_returns sends, receives,
    handleMessage_resizes signed rfl rfl middle,
    ⟨positive, signed, rfl, after.maximum, after.streams⟩⟩

/-- A change of the chunk size takes effect on both sides. -/
theorem Synced.changeChunkSize {sender receiver : RTMPEndpoint} (synced : Synced sender receiver)
    {chunkSize : Nat} (positive : 0 < chunkSize) (signed : chunkSize < 2 ^ 31) :
    ∃ stream buffer,
      Returns (changeChunkSizeOutput chunkSize) sender [] stream ()
        { sender.recordSent 2 0 .setChunkSize 0 4 with chunkSizeSend := chunkSize } ∧
      Returns getRTMPMessage receiver stream []
        ⟨.setChunkSize, 0, 4, 2, ((sender.outputStream 2).announce (receiver.inputStream 2) 0
          .setChunkSize 0 4).timestamp, beBytes 4 chunkSize⟩
        (sender.afterSetChunkSize receiver buffer) ∧
      Returns (handleMessage ⟨.setChunkSize, 0, 4, 2, ((sender.outputStream 2).announce
          (receiver.inputStream 2) 0 .setChunkSize 0 4).timestamp, beBytes 4 chunkSize⟩)
        (sender.afterSetChunkSize receiver buffer) [] [] ()
        { sender.afterSetChunkSize receiver buffer with chunkSizeReceive := chunkSize } ∧
      Synced { sender.recordSent 2 0 .setChunkSize 0 4 with chunkSizeSend := chunkSize }
        { sender.afterSetChunkSize receiver buffer with chunkSizeReceive := chunkSize } := by
  have four : (beBytes 4 chunkSize).length = 4 := beBytes_length 4 chunkSize
  have sendable : Sendable 2 0 (beBytes 4 chunkSize) :=
    ⟨by decide, by decide, List.ne_nil_of_length_pos (by omega), by simp [payloadLimit]⟩
  obtain ⟨stream, receiver', sends, receives, ⟨buffer, rfl⟩, synced'⟩ :=
    synced.transfer (setChunkSize_payload chunkSize) sendable .setChunkSize 0
  rw [four] at sends synced' receives
  exact ⟨stream, buffer, changeChunkSizeOutput_returns sends, receives,
    handleMessage_resizes signed rfl rfl _, synced'.resize positive signed⟩

end EasyRtmp
