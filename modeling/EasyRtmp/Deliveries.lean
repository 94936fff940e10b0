import EasyRtmp.Reassembly

/-!
# What `GetRTMPMessage` hands to its caller

The loop leaves an endpoint whose record of the message's stream begins anew.
Whatever no chunk can end still holds there.
-/

set_option autoImplicit false

namespace EasyRtmp

open Lib Lib.ByteCodec

/-- A property of endpoints that no chunk can end. -/
structure ChunkInvariant (invariant : RTMPEndpoint → Prop) : Prop where
  header : ∀ now id (header : MessageHeader), invariant now →
    invariant (now.storeHeader id (header.received.apply (now.inputStream id)))
  payload : ∀ now id (data : Bytes), invariant now →
    invariant (now.setInput id ((now.inputStream id).accept data).settle)

/-- The message is whole, and its record waits for the next one. -/
structure Delivered (message : RTMPMessage) (endpoint : RTMPEndpoint) : Prop where
  idBound : message.chunkStreamId.toNat < 64
  whole : message.data.length = message.messageLength
  record : ∃ cs, endpoint.chunkStreamsInput message.chunkStreamId = some cs ∧
    cs.messageBytesRead = 0 ∧ cs.messageLength = message.messageLength

theorem receiveChunkHeader_post (endpoint : RTMPEndpoint) :
    Post receiveChunkHeader endpoint
      (fun id after => id.toNat < 64 ∧ ∃ header : MessageHeader,
        after = endpoint.storeHeader id (header.received.apply (endpoint.inputStream id)))
      fun _ _ => True := by
  refine (Post.strongest receiveChunkHeader endpoint).mono ?_ fun _ _ _ => trivial
  rintro id after ⟨input, output, call⟩
  obtain ⟨header, -, idBound, rfl⟩ := receiveChunkHeader_encoded call
  exact ⟨idBound, header, rfl⟩

theorem ChunkStream.outcome_delivers {cs : ChunkStream} {id : UInt8} {message : RTMPMessage}
    (outcome : cs.outcome id = .inr message) (idBound : id.toNat < 64) (endpoint : RTMPEndpoint) :
    Delivered message (endpoint.setInput id cs.settle) := by
  unfold ChunkStream.outcome at outcome
  split at outcome
  · rename_i complete
    obtain rfl := Sum.inr.inj outcome
    refine ⟨idBound, GrowBuffer.contents_length _ _, cs.settle, ?_, ?_, cs.settle_messageLength⟩
    · simp [RTMPEndpoint.setInput, message]
    · rw [settle, if_pos complete]
  · cases outcome

theorem getRTMPMessage_post {endpoint : RTMPEndpoint} {invariant : RTMPEndpoint → Prop}
    (small : endpoint.chunkSizeReceive < 2 ^ 32) (kept : ChunkInvariant invariant)
    (begins : invariant endpoint) :
    Post getRTMPMessage endpoint
      (fun message after => invariant after ∧ after.chunkSizeReceive = endpoint.chunkSizeReceive ∧
        Delivered message after)
      fun _ _ => True := by
  refine Post.repeatUntil
    (fun _ now => invariant now ∧ now.chunkSizeReceive = endpoint.chunkSizeReceive)
    ⟨begins, rfl⟩ ?_
  rintro _ now ⟨holds, size⟩
  refine Post.seq ((receiveChunkHeader_post now).mono ?_ fun _ _ _ => trivial)
  rintro id middle ⟨idBound, header, rfl⟩
  have announced := kept.header now id header holds
  generalize reached : now.storeHeader id (header.received.apply (now.inputStream id)) = middle
    at announced
  have size' : middle.chunkSizeReceive = endpoint.chunkSizeReceive := by
    rw [← reached, RTMPEndpoint.storeHeader_chunkSizeReceive, size]
  refine (receiveChunkPayload_post middle id (by omega)).mono ?_ fun _ _ _ => trivial
  rintro result after ⟨data, -, -, -, rfl, rfl⟩
  have stored := kept.payload middle id data announced
  cases outcome : ((middle.inputStream id).accept data).outcome id with
  | inl again => exact ⟨stored, size'⟩
  | inr message => exact ⟨stored, size', ChunkStream.outcome_delivers outcome idBound middle⟩

theorem chunkInvariant_true : ChunkInvariant fun _ => True :=
  ⟨fun _ _ _ _ => trivial, fun _ _ _ _ => trivial⟩

/-- Lengths come in three bytes. -/
def ShortLengths (endpoint : RTMPEndpoint) : Prop :=
  ∀ id, (endpoint.inputStream id).messageLength < 2 ^ 24

theorem shortLengths_setInput {endpoint : RTMPEndpoint} {id : UInt8} {cs : ChunkStream}
    (short : ShortLengths endpoint) (length : cs.messageLength < 2 ^ 24) :
    ShortLengths (endpoint.setInput id cs) := by
  intro other
  by_cases same : other = id
  · rw [same, endpoint.inputStream_setInput]
    exact length
  · rw [endpoint.inputStream_setInput_of_ne cs same]
    exact short other

theorem shortLengths_invariant : ChunkInvariant ShortLengths where
  header now id header short := by
    have length : (header.received.apply (now.inputStream id)).messageLength < 2 ^ 24 := by
      rw [MessageHeader.apply_messageLength]
      cases announces : header.received.announced with
      | none => exact short id
      | some announced => exact MessageHeader.announced_received_lt announces
    intro other
    by_cases same : other = id
    · rw [same, (now.storeHeader_fields id _).1]
      exact length
    · obtain ⟨buffer, kept⟩ := now.storeHeader_inputStream_other id
        (header.received.apply (now.inputStream id)) same
      rw [kept]
      exact short other
  payload now id data short := by
    apply shortLengths_setInput short
    rw [ChunkStream.settle_messageLength]
    exact short id

end EasyRtmp
