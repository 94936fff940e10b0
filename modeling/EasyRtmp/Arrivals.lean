import EasyRtmp.Transfer

/-!
# A receiver fed with any bytes

`Arrives` runs a receiver on whatever its peer sends, chunk by chunk, and hands
any messages to `HandleMessage` in between.  The trace keeps, for every chunk,
the stream's record before and after its header, at the point where
`GetRTMPMessage` computes `message_length - message_bytes_read`.
-/

set_option autoImplicit false

namespace EasyRtmp

open Lib Lib.ByteCodec

/-! ## Any bytes begin with a header -/

theorem ChunkBasicHeader.serialize_of_byte (byte : UInt8) :
    (ChunkBasicHeader.mk (UInt8.ofNat (byte.toNat % 64)).toNat (byte.toNat / 64)).serialize =
      [byte] := by
  have bound : byte.toNat < 256 := byte.toNat_lt
  have low : (UInt8.ofNat (byte.toNat % 64)).toNat = byte.toNat % 64 := by
    rw [UInt8.toNat_ofNat']
    omega
  rw [serialize_eq, low]
  simp only [List.cons.injEq, and_true]
  apply UInt8.toNat.inj
  rw [UInt8.toNat_ofNat']
  omega

theorem beBytes_take (bytes : Bytes) {count : Nat} (enough : count ≤ bytes.length) :
    beBytes count (beValue (bytes.take count)) = bytes.take count := by
  have same := beBytes_beValue (bytes.take count)
  rwa [List.length_take_of_le enough] at same

theorem leBytes_take_value (bytes : Bytes) {count : Nat} (enough : count ≤ bytes.length) :
    leBytes count (leValue (bytes.take count)) = bytes.take count := by
  have same := leBytes_leValue (bytes.take count)
  rwa [List.length_take_of_le enough] at same

theorem header_of_bytes {fmt : Nat} (fmtBound : fmt < 4) {bytes : Bytes}
    (enough : 11 ≤ bytes.length) :
    ∃ (header : MessageHeader) (rest : Bytes), header.fmt = fmt ∧ bytes = header.bytes ++ rest := by
  have third : (bytes.drop 3).length = bytes.length - 3 := List.length_drop
  have sixth : (bytes.drop 6).length = bytes.length - 6 := List.length_drop
  have inside : 6 < bytes.length := by omega
  have time : bytes = bytes.take 3 ++ bytes.drop 3 := (List.take_append_drop 3 bytes).symm
  have length : bytes.drop 3 = (bytes.drop 3).take 3 ++ bytes.drop 6 := by
    have split := (List.take_append_drop 3 (bytes.drop 3)).symm
    rwa [List.drop_drop] at split
  have type : bytes.drop 6 = [bytes[6]] ++ bytes.drop 7 := by
    rw [List.singleton_append, List.getElem_cons_drop]
  have stream : bytes.drop 7 = (bytes.drop 7).take 4 ++ bytes.drop 11 := by
    have split := (List.take_append_drop 4 (bytes.drop 7)).symm
    rwa [List.drop_drop] at split
  have seventh : (bytes.drop 7).length = bytes.length - 7 := List.length_drop
  have timeBytes := beBytes_take bytes (show 3 ≤ bytes.length by omega)
  have lengthBytes := beBytes_take (bytes.drop 3) (show 3 ≤ (bytes.drop 3).length by omega)
  have streamBytes := leBytes_take_value (bytes.drop 7) (show 4 ≤ (bytes.drop 7).length by omega)
  rcases (by omega : fmt = 0 ∨ fmt = 1 ∨ fmt = 2 ∨ fmt = 3) with rfl | rfl | rfl | rfl
  · refine ⟨.full ⟨beValue (bytes.take 3), beValue ((bytes.drop 3).take 3), bytes[6],
      leValue ((bytes.drop 7).take 4)⟩, bytes.drop 11, rfl, ?_⟩
    rw [MessageHeader.bytes, ChunkMessageHeader0.serialize_eq]
    simp only [timeBytes, lengthBytes, streamBytes, List.append_assoc, ← stream, ← type, ← length,
      ← time]
  · refine ⟨.sameStream ⟨beValue (bytes.take 3), beValue ((bytes.drop 3).take 3), bytes[6]⟩,
      bytes.drop 7, rfl, ?_⟩
    rw [MessageHeader.bytes, ChunkMessageHeader1.serialize_eq]
    simp only [timeBytes, lengthBytes, List.append_assoc, ← type, ← length, ← time]
  · refine ⟨.timeOnly ⟨beValue (bytes.take 3)⟩, bytes.drop 3, rfl, ?_⟩
    rw [MessageHeader.bytes, ChunkMessageHeader2.serialize_eq]
    simp only [timeBytes, ← time]
  · exact ⟨.continuation, bytes, rfl, rfl⟩

/-- What is read ahead of a payload, whatever it is, is the two headers of a chunk. -/
theorem receiveChunkHeaderFrom_encoded {sentinels : Sentinels} {endpoint after : RTMPEndpoint}
    {input output : Bytes} {id : UInt8}
    (call : Returns (receiveChunkHeaderFrom sentinels) endpoint input output id after) :
    ∃ header : MessageHeader, input = chunkHeaderBytes id header ∧ id.toNat < 64 ∧ output = [] ∧
      after = endpoint.storeHeader id
        (header.received.apply (endpoint.inputStreamFrom sentinels id)) := by
  have padded : 12 ≤ (input ++ List.replicate 12 0).length := by simp
  obtain ⟨byte, tail, split⟩ := List.exists_cons_of_length_pos
    (show 0 < (input ++ List.replicate 12 0).length by omega)
  have tailLength : 11 ≤ tail.length := by
    rw [split, List.length_cons] at padded
    omega
  have byteBound : byte.toNat < 256 := byte.toNat_lt
  obtain ⟨header, rest, fmt, rfl⟩ :=
    header_of_bytes (show byte.toNat / 64 < 4 by omega) tailLength
  have idBound : (UInt8.ofNat (byte.toNat % 64)).toNat < 64 := by
    rw [UInt8.toNat_ofNat']
    omega
  have expected := receiveChunkHeaderFrom_returns sentinels endpoint idBound header
  have bytes : chunkHeaderBytes (UInt8.ofNat (byte.toNat % 64)) header = byte :: header.bytes := by
    rw [chunkHeaderBytes, fmt, ChunkBasicHeader.serialize_of_byte, List.singleton_append]
  have stream : input ++ List.replicate 12 0 =
      chunkHeaderBytes (UInt8.ofNat (byte.toNat % 64)) header ++ rest := by
    rw [bytes, split, List.cons_append]
  obtain ⟨rfl, rfl, rfl, sent⟩ := call.unique expected stream
  exact ⟨header, rfl, idBound, sent, rfl⟩

theorem receiveChunkHeader_encoded {endpoint after : RTMPEndpoint} {input output : Bytes}
    {id : UInt8} (call : Returns receiveChunkHeader endpoint input output id after) :
    ∃ header : MessageHeader, input = chunkHeaderBytes id header ∧ id.toNat < 64 ∧
      after = endpoint.storeHeader id (header.received.apply (endpoint.inputStream id)) := by
  rw [← receiveChunkHeaderFrom_default] at call
  obtain ⟨header, read, idBound, -, stored⟩ := receiveChunkHeaderFrom_encoded call
  rw [inputStreamFrom_default] at stored
  exact ⟨header, read, idBound, stored⟩

/-! ## Payloads and messages of any content -/

theorem toInt_of_ge {value : Nat} (large : 2 ^ 31 ≤ value) (bound : value < 2 ^ 32) :
    toInt value < 0 := by
  unfold toInt
  rw [Int.bmod_def]
  split <;> omega

theorem receiveData_post {len : Int} {endpoint : RTMPEndpoint}
    {done : Bytes → RTMPEndpoint → Prop} {failed : Stop → RTMPEndpoint → Prop}
    (received : 0 ≤ len → ∀ data : Bytes, data.length = len.toNat → done data endpoint)
    (refused : len < 0 → failed .lengthError endpoint) :
    Post (receiveData len) endpoint done failed := by
  unfold receiveData
  split
  · rename_i negative
    exact Post.fail (refused negative)
  · rename_i nonnegative
    exact Post.recvBytes (received (by omega))

/-- A payload of any content is stored, or an exception leaves the state alone. -/
theorem receiveChunkPayload_post (endpoint : RTMPEndpoint) (id : UInt8)
    (small : endpoint.chunkSizeReceive < 2 ^ 32) :
    Post (receiveChunkPayload id) endpoint
      (fun result after => ∃ data : Bytes,
        data.length = toReceiveBytes (endpoint.inputStream id) endpoint.chunkSizeReceive ∧
        data.length < 2 ^ 31 ∧
        (endpoint.inputStream id).messageBytesRead + data.length ≤
          (endpoint.inputStream id).chunksBuffer.size ∧
        result = ((endpoint.inputStream id).accept data).outcome id ∧
        after = endpoint.setInput id ((endpoint.inputStream id).accept data).settle)
      (fun _ after => after = endpoint) := by
  have bound : toReceiveBytes (endpoint.inputStream id) endpoint.chunkSizeReceive < 2 ^ 32 := by
    unfold toReceiveBytes
    omega
  unfold receiveChunkPayload
  refine Post.seq (Post.getState (Post.seq (receiveData_post ?_ fun _ => rfl)))
  intro nonnegative data length
  have signed : toReceiveBytes (endpoint.inputStream id) endpoint.chunkSizeReceive < 2 ^ 31 := by
    by_contra large
    have negative := toInt_of_ge (Nat.le_of_not_lt large) bound
    omega
  rw [toInt_of_lt signed, Int.toNat_natCast] at length
  have short : data.length < 2 ^ 31 := by omega
  rw [← length]
  split
  · exact Post.fail rfl
  · rename_i buffer written
    have fits : (endpoint.inputStream id).messageBytesRead + data.length ≤
        (endpoint.inputStream id).chunksBuffer.size := by
      by_contra overruns
      rw [GrowBuffer.write?_of_lt _ _ _ (Nat.lt_of_not_le overruns)] at written
      cases written
    rw [GrowBuffer.write?_of_le _ _ _ fits] at written
    obtain rfl := Option.some.inj written
    by_cases complete : ((endpoint.inputStream id).accept data).Complete
    · have done : (endpoint.inputStream id).messageBytesRead + data.length =
          (endpoint.inputStream id).messageLength := complete
      have inside : (endpoint.inputStream id).messageLength ≤
          ((endpoint.inputStream id).chunksBuffer.write
            (endpoint.inputStream id).messageBytesRead data).size := by
        rw [GrowBuffer.write_size]
        omega
      rw [if_pos done, GrowBuffer.read?_of_le _ inside]
      refine Post.seq (Post.modifyState (Post.pure ⟨data, rfl, short, fits, ?_, ?_⟩))
      · rw [ChunkStream.outcome, if_pos complete]
        rfl
      · rw [ChunkStream.settle, if_pos complete]
        rfl
    · have more : ¬ (endpoint.inputStream id).messageBytesRead + data.length =
          (endpoint.inputStream id).messageLength := complete
      rw [if_neg more]
      refine Post.seq (Post.modifyState (Post.pure ⟨data, rfl, short, fits, ?_, ?_⟩))
      · rw [ChunkStream.outcome, if_neg complete]
      · rw [ChunkStream.settle, if_neg complete]
        rfl

theorem receiveChunkPayload_inv {endpoint after : RTMPEndpoint} {id : UInt8}
    {input output : Bytes} {result : Unit ⊕ RTMPMessage}
    (small : endpoint.chunkSizeReceive < 2 ^ 32)
    (call : Returns (receiveChunkPayload id) endpoint input output result after) :
    input.length = toReceiveBytes (endpoint.inputStream id) endpoint.chunkSizeReceive ∧
      input.length < 2 ^ 31 ∧
      (endpoint.inputStream id).messageBytesRead + input.length ≤
        (endpoint.inputStream id).chunksBuffer.size ∧
      result = ((endpoint.inputStream id).accept input).outcome id ∧
      after = endpoint.setInput id ((endpoint.inputStream id).accept input).settle ∧
      output = [] := by
  obtain ⟨data, length, short, fits, -, -⟩ :=
    (receiveChunkPayload_post endpoint id small).returns call
  -- Enough bytes behind the input let the same call be made again.
  have padded : data.length ≤ (input ++ data).length := by
    rw [List.length_append]
    omega
  have taken : ((input ++ data).take data.length).length = data.length :=
    List.length_take_of_le padded
  have again := @receiveChunkPayload_returns endpoint id _ _ rfl (taken.trans length) (by omega)
    (by omega)
  obtain ⟨rfl, rfl, same, sent⟩ :=
    call.unique again (List.take_append_drop data.length (input ++ data)).symm
  rw [← same] at taken ⊢
  exact ⟨taken.trans length, by omega, by omega, rfl, rfl, sent⟩

theorem parseUint32_lt {memory : Nat → UInt8} {cursor after : Cursor} {value : Nat}
    (parsed : parseUint32 memory cursor = .ok value after) : value < 2 ^ 32 := by
  unfold parseUint32 at parsed
  rw [readDataType_apply] at parsed
  split at parsed
  · cases parsed
  · simp only [Reader.take] at parsed
    generalize bytes : (List.range 4).map (fun index => memory (cursor.data + index)) = image
      at parsed
    have four : image.length = 4 := by
      rw [← bytes]
      simp
    have loaded := loadVariable_be image (show 4 = 1 ∨ 4 = 2 ∨ 4 = 4 ∨ 4 = 8 by omega)
      (by omega)
    rw [four] at loaded
    rw [loaded] at parsed
    cases parsed
    have bound := beValue_lt image
    rw [four] at bound
    have width : 256 ^ 4 = 2 ^ 32 := by norm_num
    omega

theorem SetChunkSize.parse_lt {data : Bytes} {packet : SetChunkSize}
    (parsed : parseBuffer parseRef data = .ok packet) : packet.chunkSize < 2 ^ 32 := by
  obtain ⟨after, reached, -⟩ := parseBuffer_ok_iff.mp parsed
  unfold parseRef at reached
  obtain ⟨chunkSize, middle, read, made⟩ := Reader.bind_inv reached
  cases made
  exact parseUint32_lt read

/-- Any message passed to `HandleMessage` sets the chunk size, restarts one
stream's message or changes nothing. -/
theorem handleMessage_post (message : RTMPMessage) (endpoint : RTMPEndpoint) :
    Post (handleMessage message) endpoint
      (fun _ after => after = endpoint ∨
        (∃ chunkSize, chunkSize < 2 ^ 32 ∧
          after = { endpoint with chunkSizeReceive := chunkSize }) ∨
        ∃ cs, endpoint.chunkStreamsInput message.chunkStreamId = some cs ∧
          after = endpoint.setInput message.chunkStreamId { cs with messageBytesRead := 0 })
      (fun _ after => after = endpoint) := by
  unfold handleMessage
  split
  · refine Post.seq (Post.ofExcept ?_ fun _ _ => rfl)
    intro packet parsed
    exact Post.modifyState (Or.inr (Or.inl ⟨_, SetChunkSize.parse_lt parsed, rfl⟩))
  · split
    · refine Post.seq (Post.getState ?_)
      split
      · exact Post.fail rfl
      · rename_i cs found
        exact Post.putState (Or.inr (Or.inr ⟨cs, found, rfl⟩))
    · split
      · exact Post.seq (Post.ofExcept (fun _ _ => Post.pure (Or.inl rfl)) fun _ _ => rfl)
      · split
        · exact Post.seq (Post.ofExcept (fun _ _ => Post.pure (Or.inl rfl)) fun _ _ => rfl)
        · exact Post.pure (Or.inl rfl)

/-! ## Runs of a receiver -/

/-- One chunk, seen where its payload is about to be read. -/
structure Arrival where
  id : UInt8
  header : MessageHeader
  chunkSize : Nat
  before : ChunkStream
  current : ChunkStream

def Arrival.toReceive (arrival : Arrival) : Nat := toReceiveBytes arrival.current arrival.chunkSize

/-- A receiver after the chunks in `trace`, last first; `some id` while the
payload of the last one is still to be read. -/
inductive Arrives : List Arrival → Option UInt8 → RTMPEndpoint → Prop where
  | start : Arrives [] none {}
  | header {trace : List Arrival} {endpoint after : RTMPEndpoint} {id : UInt8}
      {header : MessageHeader} {output : Bytes} (arrives : Arrives trace none endpoint)
      (call : Returns receiveChunkHeader endpoint (chunkHeaderBytes id header) output id after) :
      Arrives (⟨id, header.received, after.chunkSizeReceive, endpoint.inputStream id,
        after.inputStream id⟩ :: trace) (some id) after
  | payload {trace : List Arrival} {endpoint after : RTMPEndpoint} {id : UInt8}
      {input output : Bytes} {result : Unit ⊕ RTMPMessage}
      (arrives : Arrives trace (some id) endpoint)
      (call : Returns (receiveChunkPayload id) endpoint input output result after) :
      Arrives trace none after
  | payloadFails {trace : List Arrival} {endpoint after : RTMPEndpoint} {id : UInt8}
      {input output : Bytes} {stop : Stop} (arrives : Arrives trace (some id) endpoint)
      (call : Fails (receiveChunkPayload id) endpoint input output stop after) :
      Arrives trace none after
  | handle {trace : List Arrival} {endpoint after : RTMPEndpoint} {message : RTMPMessage}
      {input output : Bytes} (arrives : Arrives trace none endpoint)
      (call : Returns (handleMessage message) endpoint input output () after) :
      Arrives trace none after
  | handleFails {trace : List Arrival} {endpoint after : RTMPEndpoint} {message : RTMPMessage}
      {input output : Bytes} {stop : Stop} (arrives : Arrives trace none endpoint)
      (call : Fails (handleMessage message) endpoint input output stop after) :
      Arrives trace none after

/-- Every call of `GetRTMPMessage`, on any bytes, is a series of such steps. -/
theorem Arrives.call {trace : List Arrival} {endpoint after : RTMPEndpoint}
    {message : RTMPMessage} {input output : Bytes} (arrives : Arrives trace none endpoint)
    (call : Returns getRTMPMessage endpoint input output message after) :
    ∃ more, Arrives (more ++ trace) none after := by
  have steps : Post getRTMPMessage endpoint
      (fun _ after => ∃ more, Arrives (more ++ trace) none after) fun _ _ => True := by
    refine Post.repeatUntil (fun _ now => ∃ more, Arrives (more ++ trace) none now)
      ⟨[], arrives⟩ ?_
    rintro _ now ⟨more, reached⟩
    refine Post.seq ((Post.strongest receiveChunkHeader now).mono ?_ fun _ _ _ => trivial)
    rintro id middle ⟨input, output, header⟩
    obtain ⟨form, rfl, -, -⟩ := receiveChunkHeader_encoded header
    refine (Post.strongest (receiveChunkPayload id) middle).mono ?_ fun _ _ _ => trivial
    rintro result final ⟨input, output, payload⟩
    have passed := (reached.header header).payload payload
    cases result with
    | inl _ => exact ⟨_ :: more, passed⟩
    | inr _ => exact ⟨_ :: more, passed⟩
  exact steps.returns call

end EasyRtmp
