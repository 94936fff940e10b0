import EasyRtmp.Deliveries

/-!
# What an `ABORT` discards

The payload of an `ABORT` names the chunk stream whose message is given up.
`HandleMessage` never parses it and starts anew the stream that the `ABORT` itself
came on, where nothing is partly read.
-/

set_option autoImplicit false

namespace EasyRtmp

open Lib Lib.ByteCodec

def Partly (endpoint : RTMPEndpoint) (chunkStreamId : Nat) : Prop :=
  ∃ id : UInt8, id.toNat = chunkStreamId ∧ (endpoint.inputStream id).messageBytesRead ≠ 0

/-- A message that begins now and fits the buffers is delivered without older bytes. -/
def DeliversAnew (endpoint : RTMPEndpoint) (id : UInt8) : Prop :=
  ∀ (header : MessageHeader) (payload stream : Bytes),
    Chunked id endpoint.chunkSizeReceive header payload stream →
      header.received.announced = some payload.length →
        payload.length ≤ endpoint.maxMessageSize →
          payload.length ≤ (endpoint.inputStream id).chunksBuffer.size →
            ∃ message after, Returns getRTMPMessage endpoint stream [] message after ∧
              message.chunkStreamId = id ∧ message.data = payload

/-- What an `ABORT` that names a chunk stream is for. -/
structure Discards (before after : RTMPEndpoint) (chunkStreamId : Nat) : Prop where
  gone : ¬ Partly after chunkStreamId
  anew : ∀ id : UInt8, id.toNat = chunkStreamId → id.toNat < 64 → 0 < after.chunkSizeReceive →
    after.chunkSizeReceive < 2 ^ 31 → DeliversAnew after id
  others : ∀ id : UInt8, id.toNat ≠ chunkStreamId →
    after.chunkStreamsInput id = before.chunkStreamsInput id

theorem Chunked.receive_idle {endpoint : RTMPEndpoint} {id : UInt8} {header : MessageHeader}
    {payload stream : Bytes} (chunked : Chunked id endpoint.chunkSizeReceive header payload stream)
    (idBound : id.toNat < 64) (positive : 0 < endpoint.chunkSizeReceive)
    (signed : endpoint.chunkSizeReceive < 2 ^ 31)
    (idle : (endpoint.inputStream id).messageBytesRead = 0)
    (announces : header.received.announced = some payload.length)
    (maximum : payload.length ≤ endpoint.maxMessageSize)
    (inside : payload.length ≤ (endpoint.inputStream id).chunksBuffer.size) :
    ∃ message cs, Returns getRTMPMessage endpoint stream [] message (endpoint.setInput id cs) ∧
      message.messageType = (header.received.apply (endpoint.inputStream id)).messageType ∧
      message.chunkStreamId = id ∧ message.data = payload := by
  have length := header.received.apply_messageLength (endpoint.inputStream id)
  have read := header.received.apply_messageBytesRead (endpoint.inputStream id)
  have buffer := header.received.apply_chunksBuffer (endpoint.inputStream id)
  have small := MessageHeader.announced_received_lt announces
  rw [announces, Option.getD_some] at length
  rw [idle] at read
  obtain ⟨_, -, delivers⟩ := chunked.receive idBound positive signed endpoint _ rfl rfl
    (by omega) (by omega) (by omega) (by rw [buffer]; omega)
  rw [read, GrowBuffer.contents_zero, List.nil_append] at delivers
  exact ⟨_, _, delivers, rfl, rfl, rfl⟩

theorem deliversAnew_of_idle {endpoint : RTMPEndpoint} {id : UInt8} (idBound : id.toNat < 64)
    (positive : 0 < endpoint.chunkSizeReceive) (signed : endpoint.chunkSizeReceive < 2 ^ 31)
    (idle : (endpoint.inputStream id).messageBytesRead = 0) : DeliversAnew endpoint id := by
  intro header payload stream chunked announces maximum inside
  obtain ⟨message, _, delivers, -, onStream, whole⟩ :=
    chunked.receive_idle idBound positive signed idle announces maximum inside
  exact ⟨message, _, delivers, onStream, whole⟩

theorem Arrives.chunkSize_lt {trace : List Arrival} {phase : Option UInt8} {endpoint : RTMPEndpoint}
    (arrives : Arrives trace phase endpoint) : endpoint.chunkSizeReceive < 2 ^ 32 := by
  induction arrives with
  | start => decide
  | header _ call ih =>
      rw [receiveChunkHeader_after call, RTMPEndpoint.storeHeader_chunkSizeReceive]
      exact ih
  | payload _ call ih =>
      obtain ⟨data, -, -, -, -, rfl⟩ := (receiveChunkPayload_post _ _ ih).returns call
      exact ih
  | @payloadFails trace endpoint after id input output stop _ call ih =>
      rw [(receiveChunkPayload_post endpoint id ih).fails call]
      exact ih
  | @handle trace endpoint after message input output _ call ih =>
      rcases (handleMessage_post message endpoint).returns call with rfl | ⟨_, bound, rfl⟩ |
        ⟨_, -, rfl⟩
      · exact ih
      · exact bound
      · exact ih
  | @handleFails trace endpoint after message input output stop _ call ih =>
      rw [(handleMessage_post message endpoint).fails call]
      exact ih

theorem handleMessage_abort {message : RTMPMessage} {endpoint : RTMPEndpoint}
    (isAbort : message.messageType = .abort) (delivered : Delivered message endpoint) :
    Returns (handleMessage message) endpoint [] [] () endpoint := by
  obtain ⟨cs, found, idle, -⟩ := delivered.record
  have same : endpoint.setInput message.chunkStreamId { cs with messageBytesRead := 0 } =
      endpoint := by
    rw [← idle, RTMPEndpoint.setInput, Function.update_eq_self_iff.mpr found.symm]
  rw [handleMessage, if_neg (by rw [isAbort]; decide), if_pos isAbort]
  refine (Returns.getState endpoint).silent_bind ?_
  rw [found]
  show Returns (Prog.putState (endpoint.setInput message.chunkStreamId
    { cs with messageBytesRead := 0 })) endpoint [] [] () endpoint
  rw [same]
  exact .putState endpoint endpoint

/-- In every state that a receiver can reach, an `ABORT` discards what it names exactly
if there is nothing to discard. -/
theorem abort_discards_iff {trace : List Arrival} {start endpoint : RTMPEndpoint}
    {message : RTMPMessage} {input output : Bytes} {named : Nat}
    (arrives : Arrives trace none start)
    (delivers : Returns getRTMPMessage start input output message endpoint)
    (isAbort : message.messageType = .abort)
    (_names : parseBuffer AbortMessage.parseRef message.data = .ok ⟨named⟩) :
    ∃ after, Returns (handleMessage message) endpoint [] [] () after ∧
      (Discards endpoint after named ↔ ¬ Partly endpoint named) := by
  have delivered := ((getRTMPMessage_post arrives.chunkSize_lt chunkInvariant_true trivial).returns
    delivers).2.2
  refine ⟨endpoint, handleMessage_abort isAbort delivered, fun discards => discards.gone, ?_⟩
  intro nothing
  refine ⟨nothing, fun id number idBound positive signed => ?_, fun _ _ => rfl⟩
  apply deliversAnew_of_idle idBound positive signed
  by_contra partly
  exact nothing ⟨id, number, partly⟩

/-! ## Runs -/

theorem abort_arrives {endpoint : RTMPEndpoint} (unused : endpoint.chunkStreamsInput 2 = none)
    (size : endpoint.chunkSizeReceive = 128) (maximum : endpoint.maxMessageSize = 512000)
    (named : UInt8) : ∃ input message cs,
      Returns getRTMPMessage endpoint input [] message (endpoint.setInput 2 cs) ∧
      message.messageType = .abort ∧ message.data = [0, 0, 0, named] := by
  have fresh := RTMPEndpoint.inputStream_of_none unused
  have chunked : Chunked 2 endpoint.chunkSizeReceive (.full ⟨0, 4, 2, 0⟩) [0, 0, 0, named] _ :=
    .last (List.cons_ne_nil _ _) (by rw [size]; exact Nat.le_add_left 4 124)
  obtain ⟨message, cs, delivers, type, -, data⟩ := chunked.receive_idle (by decide)
    (by omega) (by omega) (by rw [fresh]) rfl (by rw [maximum]; exact Nat.le_add_left 4 511996)
    (by rw [fresh, maximum]; exact Nat.le_add_left 4 511996)
  exact ⟨_, message, cs, delivers, type, data⟩

theorem idle_abort_discards : ∃ endpoint after message,
    message.messageType = .abort ∧ Returns (handleMessage message) endpoint [] [] () after ∧
      Discards endpoint after 5 := by
  obtain ⟨input, message, cs, delivers, isAbort, data⟩ := @abort_arrives {} rfl rfl rfl 5
  have names : parseBuffer AbortMessage.parseRef message.data = .ok ⟨5⟩ := by
    rw [data]
    rfl
  obtain ⟨after, handled, discards⟩ := abort_discards_iff .start delivers isAbort names
  refine ⟨_, after, message, isAbort, handled, discards.mpr ?_⟩
  rintro ⟨id, number, partly⟩
  have other : id ≠ 2 := by
    rintro rfl
    cases number
  rw [RTMPEndpoint.inputStream_setInput_of_ne _ _ other] at partly
  exact partly rfl

/-- Chunk stream 4 has 128 of 200 bytes when it is named by an `ABORT`, and keeps them. -/
theorem abort_discards_nothing : ∃ trace start endpoint after input message,
    Arrives trace none start ∧ Returns getRTMPMessage start input [] message endpoint ∧
      message.messageType = .abort ∧ message.data = [0, 0, 0, 4] ∧
      Returns (handleMessage message) endpoint [] [] () after ∧
      (after.inputStream 4).messageBytesRead = 128 ∧ ¬ Discards endpoint after 4 := by
  obtain ⟨trace, start, partly, unused, size, maximum, read⟩ : ∃ trace start,
      Arrives trace none start ∧ start.chunkStreamsInput 2 = none ∧ start.chunkSizeReceive = 128 ∧
        start.maxMessageSize = 512000 ∧ (start.inputStream 4).messageBytesRead = 128 := by
    have begun := Arrives.start.announced (show (4 : UInt8).toNat < 64 by decide) (announcing 200)
      rfl (by decide +kernel)
    exact ⟨_, _, begun.stored (List.replicate 128 0) (by decide +kernel) (by decide +kernel)
      (by decide +kernel), rfl, rfl, rfl, by decide +kernel⟩
  obtain ⟨input, message, cs, delivers, isAbort, data⟩ := abort_arrives unused size maximum 4
  have delivered := ((getRTMPMessage_post partly.chunkSize_lt chunkInvariant_true trivial).returns
    delivers).2.2
  have kept : ((start.setInput 2 cs).inputStream 4).messageBytesRead = 128 := by
    rw [RTMPEndpoint.inputStream_setInput_of_ne _ _ (by decide)]
    exact read
  refine ⟨trace, start, _, _, input, message, partly, delivers, isAbort, data,
    handleMessage_abort isAbort delivered, kept, fun discards => discards.gone ⟨4, rfl, ?_⟩⟩
  rw [kept]
  decide

end EasyRtmp
