import EasyRtmp.Chunk
import EasyRtmp.Lib.Lockstep

/-!
# The sending and the receiving half of an endpoint

The class keeps the fields of both directions side by side.  No method of one
direction reads or writes the fields of the other.
-/

set_option autoImplicit false

namespace EasyRtmp

open Lib Lib.ByteCodec

namespace RTMPEndpoint

structure SameReceiving (endpoint other : RTMPEndpoint) : Prop where
  maxMessageSize : endpoint.maxMessageSize = other.maxMessageSize
  chunkSizeReceive : endpoint.chunkSizeReceive = other.chunkSizeReceive
  chunkStreamsInput : endpoint.chunkStreamsInput = other.chunkStreamsInput

structure SameSending (endpoint other : RTMPEndpoint) : Prop where
  chunkSizeSend : endpoint.chunkSizeSend = other.chunkSizeSend
  chunkStreamsOutput : endpoint.chunkStreamsOutput = other.chunkStreamsOutput

theorem SameReceiving.refl (endpoint : RTMPEndpoint) : endpoint.SameReceiving endpoint :=
  ⟨rfl, rfl, rfl⟩

theorem SameSending.refl (endpoint : RTMPEndpoint) : endpoint.SameSending endpoint := ⟨rfl, rfl⟩

theorem SameReceiving.symm {endpoint other : RTMPEndpoint} (same : endpoint.SameReceiving other) :
    other.SameReceiving endpoint :=
  ⟨same.maxMessageSize.symm, same.chunkSizeReceive.symm, same.chunkStreamsInput.symm⟩

theorem SameSending.symm {endpoint other : RTMPEndpoint} (same : endpoint.SameSending other) :
    other.SameSending endpoint := ⟨same.chunkSizeSend.symm, same.chunkStreamsOutput.symm⟩

theorem SameReceiving.trans {endpoint other third : RTMPEndpoint}
    (first : endpoint.SameReceiving other) (second : other.SameReceiving third) :
    endpoint.SameReceiving third :=
  ⟨first.maxMessageSize.trans second.maxMessageSize,
    first.chunkSizeReceive.trans second.chunkSizeReceive,
    first.chunkStreamsInput.trans second.chunkStreamsInput⟩

theorem SameSending.trans {endpoint other third : RTMPEndpoint}
    (first : endpoint.SameSending other) (second : other.SameSending third) :
    endpoint.SameSending third :=
  ⟨first.chunkSizeSend.trans second.chunkSizeSend,
    first.chunkStreamsOutput.trans second.chunkStreamsOutput⟩

theorem SameReceiving.inputStream {endpoint other : RTMPEndpoint}
    (same : endpoint.SameReceiving other) (id : UInt8) :
    endpoint.inputStream id = other.inputStream id := by
  simp only [RTMPEndpoint.inputStream, same.chunkStreamsInput, same.maxMessageSize]

theorem SameSending.outputStream {endpoint other : RTMPEndpoint} (same : endpoint.SameSending other)
    (id : UInt8) : endpoint.outputStream id = other.outputStream id := by
  simp only [RTMPEndpoint.outputStream, same.chunkStreamsOutput]

/-- The receiving halves agree and the second sending half is that of `fixed`. -/
def Receiving (fixed endpoint other : RTMPEndpoint) : Prop :=
  endpoint.SameReceiving other ∧ other.SameSending fixed

/-- The sending halves agree and the second receiving half is that of `fixed`. -/
def Sending (fixed endpoint other : RTMPEndpoint) : Prop :=
  endpoint.SameSending other ∧ other.SameReceiving fixed

end RTMPEndpoint

/-! ## Receiving -/

section Receiving
variable {fixed : RTMPEndpoint}

open RTMPEndpoint

theorem Receiving.setInput {endpoint other : RTMPEndpoint}
    (related : Receiving fixed endpoint other) (id : UInt8) (cs : ChunkStream) :
    Receiving fixed (endpoint.setInput id cs) (other.setInput id cs) := by
  obtain ⟨same, sending⟩ := related
  refine ⟨⟨same.maxMessageSize, same.chunkSizeReceive, ?_⟩, ⟨sending.chunkSizeSend,
    sending.chunkStreamsOutput⟩⟩
  simp only [RTMPEndpoint.setInput, same.chunkStreamsInput]

theorem Receiving.storeHeader {endpoint other : RTMPEndpoint}
    (related : Receiving fixed endpoint other) (id : UInt8) (cs : ChunkStream) :
    Receiving fixed (endpoint.storeHeader id cs) (other.storeHeader id cs) := by
  unfold RTMPEndpoint.storeHeader
  rw [related.1.maxMessageSize]
  split
  · obtain ⟨same, sending⟩ := Receiving.setInput related id
      { cs with chunksBuffer := cs.chunksBuffer.resize cs.messageLength }
    exact ⟨⟨rfl, same.chunkSizeReceive, same.chunkStreamsInput⟩,
      ⟨sending.chunkSizeSend, sending.chunkStreamsOutput⟩⟩
  · exact Receiving.setInput related id cs

theorem receiveData_lockstep {R : RTMPEndpoint → RTMPEndpoint → Prop} (len : Int) :
    Lockstep R (receiveData len) (receiveData len) :=
  .ite (.fail _) (.recvBytes _)

theorem receiveSerializable_lockstep {R : RTMPEndpoint → RTMPEndpoint → Prop} {α : Type}
    (getLength : Nat) (parseRef : Reader Stop α) :
    Lockstep R (receiveSerializable getLength parseRef) (receiveSerializable getLength parseRef) :=
  .bind (receiveData_lockstep _) fun _ => .ofExcept _

theorem receiveMessageHeader_lockstep {R : RTMPEndpoint → RTMPEndpoint → Prop} (fmt : Nat)
    (cs : ChunkStream) :
    Lockstep R (receiveMessageHeader fmt cs) (receiveMessageHeader fmt cs) := by
  unfold receiveMessageHeader
  split
  · exact .bind (receiveSerializable_lockstep _ _) fun _ => .ret _
  · exact .bind (receiveSerializable_lockstep _ _) fun _ => .ret _
  · exact .bind (receiveSerializable_lockstep _ _) fun _ => .ret _
  · exact .ret _

theorem receiveChunkHeader_lockstep :
    Lockstep (Receiving fixed) receiveChunkHeader receiveChunkHeader := by
  refine .bind (receiveSerializable_lockstep _ _) fun basicHeader => ?_
  refine .bind (.modifyState fun state state' related => ?_) fun _ => ?_
  · rw [related.1.inputStream]
    exact Receiving.setInput related _ _
  · refine .getState fun state state' related => ?_
    rw [related.1.inputStream]
    refine .bind (receiveMessageHeader_lockstep _ _) fun cs => ?_
    exact .bind (.modifyState fun _ _ related => Receiving.storeHeader related _ _) fun _ => .ret _

theorem receiveChunkPayload_lockstep (id : UInt8) :
    Lockstep (Receiving fixed) (receiveChunkPayload id) (receiveChunkPayload id) := by
  refine .getState fun state state' related => ?_
  rw [related.1.inputStream, related.1.chunkSizeReceive]
  refine .bind (receiveData_lockstep _) fun recData => ?_
  split
  · exact .fail _
  · refine .ite ?_ ?_
    · refine .bind (.modifyState fun _ _ related => Receiving.setInput related _ _) fun _ => ?_
      split
      · exact .fail _
      · exact .ret _
    · exact .bind (.modifyState fun _ _ related => Receiving.setInput related _ _) fun _ => .ret _

theorem receiveChunk_lockstep : Lockstep (Receiving fixed) receiveChunk receiveChunk :=
  .bind receiveChunkHeader_lockstep fun id => receiveChunkPayload_lockstep id

theorem getRTMPMessage_lockstep : Lockstep (Receiving fixed) getRTMPMessage getRTMPMessage :=
  .repeatUntil () fun _ => receiveChunk_lockstep

theorem handleMessage_lockstep (message : RTMPMessage) :
    Lockstep (Receiving fixed) (handleMessage message) (handleMessage message) := by
  refine .ite ?_ (.ite ?_ (.ite ?_ (.ite ?_ (.ret _))))
  · refine .bind (.ofExcept _) fun scz => .modifyState fun state state' related => ?_
    obtain ⟨same, sending⟩ := related
    exact ⟨⟨same.maxMessageSize, rfl, same.chunkStreamsInput⟩,
      ⟨sending.chunkSizeSend, sending.chunkStreamsOutput⟩⟩
  · refine .getState fun state state' related => ?_
    rw [related.1.chunkStreamsInput]
    split
    · exact .fail _
    · exact .put (Receiving.setInput related _ _) (.ret _)
  · exact .bind (.ofExcept _) fun _ => .ret _
  · exact .bind (.ofExcept _) fun _ => .ret _

end Receiving

/-! ## Sending -/

/-- Sending finds the same chunk size and the same records.  Whether a stream that
was never used has an entry of its own makes no difference. -/
structure RTMPEndpoint.SameOutput (endpoint other : RTMPEndpoint) : Prop where
  chunkSizeSend : endpoint.chunkSizeSend = other.chunkSizeSend
  outputStream : ∀ id, endpoint.outputStream id = other.outputStream id

/-- A relation that no call of the sending half can leave. -/
structure SendingRelation (R : RTMPEndpoint → RTMPEndpoint → Prop) : Prop where
  same : ∀ {endpoint other}, R endpoint other → endpoint.SameOutput other
  setOutput : ∀ {endpoint other}, R endpoint other → ∀ id cs,
    R (endpoint.setOutput id cs) (other.setOutput id cs)
  resize : ∀ {endpoint other : RTMPEndpoint}, R endpoint other → ∀ chunkSize,
    R { endpoint with chunkSizeSend := chunkSize } { other with chunkSizeSend := chunkSize }

section Sending
variable {R : RTMPEndpoint → RTMPEndpoint → Prop} {fixed : RTMPEndpoint}

open RTMPEndpoint

theorem sendChunkHeader_lockstep (cs : ChunkStream) (id : UInt8) (messageStreamId : Nat)
    (messageType : RTMPMessageType) (timestamp size bytesSent : Nat) :
    Lockstep R (sendChunkHeader cs id messageStreamId messageType timestamp size bytesSent)
      (sendChunkHeader cs id messageStreamId messageType timestamp size bytesSent) := by
  refine .ite (.sendBytes _) (.ite ?_ (.ite ?_ ?_))
  all_goals exact .bind (.sendBytes _) fun _ => .sendBytes _

theorem sendChunk_lockstep
    (same : ∀ {endpoint other}, R endpoint other → endpoint.SameOutput other) (bb : Bytes)
    (id : UInt8) (messageStreamId : Nat) (messageType : RTMPMessageType)
    (timestamp bytesSent : Nat) :
    Lockstep R (sendChunk bb id messageStreamId messageType timestamp bytesSent)
      (sendChunk bb id messageStreamId messageType timestamp bytesSent) := by
  refine .ite (.ret _) (.getState fun state state' related => ?_)
  rw [(same related).outputStream, (same related).chunkSizeSend]
  refine .bind (sendChunkHeader_lockstep _ _ _ _ _ _ _) fun _ => ?_
  exact .bind (.sendBytes _) fun _ => .ret _

theorem sendRTMPMessage_alike
    (same : ∀ {endpoint other}, R endpoint other → endpoint.SameOutput other)
    (setOutput : ∀ {endpoint other}, R endpoint other → ∀ id cs,
      R (endpoint.setOutput id cs) (other.setOutput id cs))
    (data : Serializable) (id : UInt8) (messageStreamId : Nat) (messageType : RTMPMessageType)
    (timestamp : Nat) :
    Lockstep R (sendRTMPMessage data id messageStreamId messageType timestamp)
      (sendRTMPMessage data id messageStreamId messageType timestamp) := by
  refine .bind (.ofExcept _) fun bb => ?_
  refine .bind (.modifyState fun state state' related => ?_) fun _ => ?_
  · rw [(same related).outputStream]
    exact setOutput related _ _
  · refine .bind (.repeatUntil 0 fun sent => sendChunk_lockstep same _ _ _ _ _ sent) fun _ => ?_
    refine .modifyState fun state state' related => ?_
    rw [(same related).outputStream]
    exact setOutput related _ _

theorem SendingRelation.message (relation : SendingRelation R) (data : Serializable) (id : UInt8)
    (messageStreamId : Nat) (messageType : RTMPMessageType) (timestamp : Nat) :
    Lockstep R (sendRTMPMessage data id messageStreamId messageType timestamp)
      (sendRTMPMessage data id messageStreamId messageType timestamp) :=
  sendRTMPMessage_alike relation.same relation.setOutput data id messageStreamId messageType
    timestamp

theorem SendingRelation.changeChunkSize (relation : SendingRelation R) (chunkSize : Nat) :
    Lockstep R (changeChunkSizeOutput chunkSize) (changeChunkSizeOutput chunkSize) :=
  .bind (relation.message _ _ _ _ _) fun _ =>
    .modifyState fun _ _ related => relation.resize related chunkSize

theorem sameOutput_relation : SendingRelation SameOutput where
  same related := related
  setOutput {endpoint other} related id cs := by
    refine ⟨related.chunkSizeSend, fun other' => ?_⟩
    by_cases same : other' = id
    · rw [same, endpoint.outputStream_setOutput, other.outputStream_setOutput]
    · rw [endpoint.outputStream_setOutput_of_ne cs same, other.outputStream_setOutput_of_ne cs same,
        related.outputStream]
  resize related _ := ⟨rfl, related.outputStream⟩

theorem sending_relation : SendingRelation (Sending fixed) where
  same related := ⟨related.1.chunkSizeSend, related.1.outputStream⟩
  setOutput related id cs := by
    obtain ⟨same, receiving⟩ := related
    refine ⟨⟨same.chunkSizeSend, ?_⟩, ⟨receiving.maxMessageSize, receiving.chunkSizeReceive,
      receiving.chunkStreamsInput⟩⟩
    simp only [RTMPEndpoint.setOutput, same.chunkStreamsOutput]
  resize related _ := by
    obtain ⟨same, receiving⟩ := related
    exact ⟨⟨rfl, same.chunkStreamsOutput⟩, ⟨receiving.maxMessageSize, receiving.chunkSizeReceive,
      receiving.chunkStreamsInput⟩⟩

theorem sendRTMPMessage_lockstep (data : Serializable) (id : UInt8) (messageStreamId : Nat)
    (messageType : RTMPMessageType) (timestamp : Nat) :
    Lockstep (Sending fixed) (sendRTMPMessage data id messageStreamId messageType timestamp)
      (sendRTMPMessage data id messageStreamId messageType timestamp) :=
  sending_relation.message data id messageStreamId messageType timestamp

theorem changeChunkSizeOutput_lockstep (chunkSize : Nat) :
    Lockstep (Sending fixed) (changeChunkSizeOutput chunkSize) (changeChunkSizeOutput chunkSize) :=
  sending_relation.changeChunkSize chunkSize

end Sending

/-! ## Frames -/

section Frames
variable {α : Type} {program : EndpointProg α} {before after other : RTMPEndpoint} {value : α}
  {input output : Bytes}

open RTMPEndpoint

/-- A receiving program runs alike whatever the sending half, and keeps it. -/
theorem receiving_returns (lockstep : ∀ fixed, Lockstep (Receiving fixed) program program)
    (call : Returns program before input output value after) (same : before.SameReceiving other) :
    ∃ after', Returns program other input output value after' ∧ after.SameReceiving after' ∧
      after'.SameSending other := by
  obtain ⟨after', call', related⟩ := (lockstep other).returns ⟨same, .refl other⟩ call
  exact ⟨after', call', related⟩

theorem sending_returns (lockstep : ∀ fixed, Lockstep (Sending fixed) program program)
    (call : Returns program before input output value after) (same : before.SameSending other) :
    ∃ after', Returns program other input output value after' ∧ after.SameSending after' ∧
      after'.SameReceiving other := by
  obtain ⟨after', call', related⟩ := (lockstep other).returns ⟨same, .refl other⟩ call
  exact ⟨after', call', related⟩

theorem receiving_frame (lockstep : ∀ fixed, Lockstep (Receiving fixed) program program)
    (call : Returns program before input output value after) : after.SameSending before := by
  obtain ⟨after', call', -, kept⟩ := receiving_returns lockstep call (.refl before)
  obtain ⟨-, rfl, -, -⟩ := call.unique call' (Eq.refl (input ++ []))
  exact kept

theorem sending_frame (lockstep : ∀ fixed, Lockstep (Sending fixed) program program)
    (call : Returns program before input output value after) : after.SameReceiving before := by
  obtain ⟨after', call', -, kept⟩ := sending_returns lockstep call (.refl before)
  obtain ⟨-, rfl, -, -⟩ := call.unique call' (Eq.refl (input ++ []))
  exact kept

end Frames

end EasyRtmp
