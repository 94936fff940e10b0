import EasyRtmp.Proto

/-!
# Which fields of a packet arrive

A packet's `Serialize` and `ParseRef` agree on a field if they move it at the same
width.  `RoundTrips` asks for the value and for the place where the parser stops.
-/

set_option autoImplicit false

namespace EasyRtmp

open Lib Lib.ByteCodec

/-- `ParseRef` of a fresh packet on `bytes` with `suffix` behind them. -/
def parseAhead {α : Type} (parseRef : Reader Stop α) (bytes suffix : Bytes) : ReadResult Stop α :=
  parseRef (memoryOf (bytes ++ suffix) fun _ => 0) ⟨0, (bytes ++ suffix).length, 0⟩

def RoundTrips {α : Type} (parseRef : Reader Stop α) (bytes suffix : Bytes) (packet : α) : Prop :=
  ∃ after, parseAhead parseRef bytes suffix = .ok packet after ∧ after.data = bytes.length ∧
    after.dataLen = suffix.length

theorem parseAhead_of_reads {α : Type} {parseRef : Reader Stop α} {front : Bytes} {value : α}
    (reads : Reads parseRef front value) (back suffix : Bytes) :
    ∃ after, parseAhead parseRef (front ++ back) suffix = .ok value after ∧
      after.data = front.length ∧ after.dataLen = (back ++ suffix).length := by
  have held := (holds_append.mp (holds_memoryOf (front ++ (back ++ suffix)) fun _ => 0)).1
  have announced : (front.length : Int) ≤ (front ++ (back ++ suffix)).length := by
    rw [List.length_append]
    omega
  obtain ⟨readEnd, -, ok⟩ := reads _ ⟨0, (front ++ (back ++ suffix)).length, 0⟩ held announced
  rw [← List.append_assoc] at ok
  refine ⟨_, ok, ?_⟩
  simp only [List.length_append, Nat.cast_add]
  omega

/-! ## The full message header -/

namespace ChunkMessageHeader0

/-- Three of the four bytes of the stream id are read, the last one is left. -/
theorem leaves_top_byte (header : ChunkMessageHeader0) (suffix : Bytes) :
    ∃ after, parseAhead parseRef header.serialize suffix =
        .ok ⟨header.timestamp % 2 ^ 24, header.messageLength % 2 ^ 24, header.messageTypeId,
          header.messageStreamId % 2 ^ 24⟩ after ∧
      after.data = 10 ∧ after.dataLen = suffix.length + 1 := by
  have reads := parseRef_reads (beBytes_length 3 header.timestamp)
    (beBytes_length 3 header.messageLength) header.messageTypeId
    (leBytes_length 3 header.messageStreamId)
  obtain ⟨after, parsed, stops, left⟩ :=
    parseAhead_of_reads reads [UInt8.ofNat (header.messageStreamId / 256 ^ 3)] suffix
  rw [beValue_beBytes, beValue_beBytes, leValue_leBytes, threeBytes] at parsed
  refine ⟨after, ?_, ?_, ?_⟩
  · rw [serialize_eq, leBytes_succ_last]
    simp only [List.append_assoc] at parsed ⊢
    exact parsed
  · rw [stops]
    simp
  · rw [left]
    simp

/-- Whatever the fields and whatever follows, one byte of the header is taken for
the beginning of the suffix. -/
theorem never_round_trips (header : ChunkMessageHeader0) (suffix : Bytes) :
    ¬ RoundTrips parseRef header.serialize suffix header := by
  intro roundTrips
  obtain ⟨after, parsed, -, left⟩ := roundTrips
  obtain ⟨after', parsed', -, left'⟩ := header.leaves_top_byte suffix
  rw [parsed] at parsed'
  injection parsed' with _ same
  rw [← same] at left'
  omega

theorem session_header_misread :
    ¬ RoundTrips parseRef (mk 0 1 8 1).serialize [7] (mk 0 1 8 1) := by
  intro roundTrips
  obtain ⟨after, parsed, -, left⟩ := roundTrips
  obtain ⟨after', parsed', -, left'⟩ := leaves_top_byte ⟨0, 1, 8, 1⟩ [7]
  rw [parsed] at parsed'
  injection parsed' with _ same
  rw [← same, left] at left'
  exact absurd left' (by decide)

end ChunkMessageHeader0

/-! ## Media packets -/

namespace AudioPacketAAC

theorem parse_data (first second : UInt8) (rest : Bytes)
    (fits : (first :: second :: rest).length < 2 ^ 31) :
    parseBuffer parseRef (first :: second :: rest) =
      .ok ⟨first.toNat % 2, first.toNat / 2 % 2, first.toNat / 4 % 4, first.toNat / 16,
        second.toNat, rest⟩ := by
  apply parseBuffer_of_readsAll _ fits
  exact (read1 first).bindAll ((read1 second).bindAll (readDataBytes_readsAll rest _))

structure InRange (packet : AudioPacketAAC) : Prop where
  channels : packet.channels < 2
  sampleSize : packet.sampleSize < 2
  sampleRate : packet.sampleRate < 4
  format : packet.format < 16
  aacPacketType : packet.aacPacketType < 256

theorem serialize_eq {packet : AudioPacketAAC} (inRange : packet.InRange) :
    packet.serialize =
      UInt8.ofNat (packet.channels + 2 * packet.sampleSize + 4 * packet.sampleRate +
          16 * packet.format) :: UInt8.ofNat packet.aacPacketType :: packet.audioDataSend := by
  obtain ⟨channels, sampleSize, sampleRate, format, -⟩ := inRange
  simp only [serialize, Nat.mod_eq_of_lt channels, Nat.mod_eq_of_lt sampleSize,
    Nat.mod_eq_of_lt sampleRate, Nat.mod_eq_of_lt format,
    writeDataType_be _ (show 1 = 1 ∨ 1 = 2 ∨ 1 = 4 ∨ 1 = 8 by omega) (Nat.le_refl 1)]
  simp [beBytes, leBytes]

theorem produces {packet : AudioPacketAAC} (inRange : packet.InRange)
    (fits : packet.audioDataSend.length + 2 < 2 ^ 31) :
    packet.toSerializable.serializeToBuffer = .ok packet.serialize := by
  have length : packet.serialize.length = packet.audioDataSend.length + 2 := by
    rw [serialize_eq inRange]
    simp
  have whole : (1 * 2 + packet.audioDataSend.length : Int) =
      ((packet.serialize.length : Nat) : Int) := by omega
  apply serializeToBuffer_exact _ rfl
  rw [toSerializable, getLength, whole, toInt_of_lt (by omega)]

theorem parse_serialize {packet : AudioPacketAAC} (inRange : packet.InRange)
    (fits : packet.audioDataSend.length + 2 < 2 ^ 31) :
    parseBuffer parseRef packet.serialize = .ok packet := by
  rw [serialize_eq inRange, parse_data _ _ _ (by simp only [List.length_cons]; omega)]
  obtain ⟨channels, sampleSize, sampleRate, format, type⟩ := inRange
  have first : (UInt8.ofNat (packet.channels + 2 * packet.sampleSize + 4 * packet.sampleRate +
      16 * packet.format)).toNat = packet.channels + 2 * packet.sampleSize +
        4 * packet.sampleRate + 16 * packet.format := by
    rw [UInt8.toNat_ofNat']
    omega
  have second : (UInt8.ofNat packet.aacPacketType).toNat = packet.aacPacketType := by
    rw [UInt8.toNat_ofNat']
    omega
  rw [first, second]
  congr 2 <;> omega

end AudioPacketAAC

namespace VideoPacket

theorem parse_data (first second : UInt8) {time : Bytes} (three : time.length = 3) (rest : Bytes)
    (fits : (first :: second :: (time ++ rest)).length < 2 ^ 31) :
    parseBuffer parseRef (first :: second :: (time ++ rest)) =
      .ok ⟨first.toNat % 16, first.toNat / 16, second.toNat, beValue time, rest⟩ := by
  apply parseBuffer_of_readsAll _ fits
  exact (read1 first).bindAll ((read1 second).bindAll ((read3_be three).bindAll
    (readDataBytes_readsAll rest _)))

structure InRange (packet : VideoPacket) : Prop where
  codecId : packet.codecId < 16
  frameType : packet.frameType < 16
  avcPacketType : packet.avcPacketType < 256
  compositionTime : packet.compositionTime < 2 ^ 24

/-- Two bytes of the composition time are not the packet's. -/
theorem serialize_eq (before : Nat → UInt8) {packet : VideoPacket} (inRange : packet.InRange) :
    packet.serialize before =
      UInt8.ofNat (packet.codecId + 16 * packet.frameType) :: UInt8.ofNat packet.avcPacketType ::
        ([before 1, before 0, UInt8.ofNat packet.compositionTime] ++ packet.videoDataSend) := by
  have low := Nat.mod_eq_of_lt inRange.codecId
  have high := Nat.mod_eq_of_lt inRange.frameType
  have front : (List.range (3 - 1)).reverse = [1, 0] := rfl
  have narrow : writeDataType 1 3 false packet.compositionTime =
      [UInt8.ofNat packet.compositionTime] := by
    simp [writeDataType, writeDataTypeOn, convertEndian, variableImage, swapVariable, leBytes]
  simp only [serialize, writeDataTypeBehind, front, narrow, low, high,
    writeDataType_be _ (show 1 = 1 ∨ 1 = 2 ∨ 1 = 4 ∨ 1 = 8 by omega) (Nat.le_refl 1)]
  simp [beBytes, leBytes]

theorem getLength_eq (before : Nat → UInt8) {packet : VideoPacket} (inRange : packet.InRange) :
    packet.getLength = toInt (packet.serialize before).length := by
  rw [serialize_eq before inRange, getLength]
  congr 1
  simp only [List.length_cons, List.length_append, List.length_nil]
  omega

theorem produced_eq {before : Nat → UInt8} {packet : VideoPacket} (inRange : packet.InRange)
    {bytes : Bytes} (produced : (packet.toSerializable before).serializeToBuffer = .ok bytes) :
    bytes = packet.serialize before ∧ bytes.length < 2 ^ 31 := by
  have length := packet.getLength_eq before inRange
  obtain ⟨fits, exact_⟩ := serializeToBuffer_produced rfl rfl produced
  rw [length] at fits exact_
  have signed : (packet.serialize before).length < 2 ^ 31 := by
    have bound := Int.bmod_lt (x := ((packet.serialize before).length : Int)) (m := 2 ^ 32)
      (by norm_num)
    unfold toInt at fits
    omega
  rw [toInt_of_lt signed, Int.toNat_natCast, Nat.sub_self, List.replicate_zero,
    List.append_nil] at exact_
  rw [exact_]
  exact ⟨rfl, signed⟩

theorem parse_produced {before : Nat → UInt8} {packet : VideoPacket} (inRange : packet.InRange)
    {bytes : Bytes} (produced : (packet.toSerializable before).serializeToBuffer = .ok bytes) :
    parseBuffer parseRef bytes = .ok { packet with
      compositionTime := (before 1).toNat * 2 ^ 16 + (before 0).toNat * 2 ^ 8 +
        packet.compositionTime % 2 ^ 8 } := by
  obtain ⟨rfl, signed⟩ := produced_eq inRange produced
  rw [serialize_eq before inRange] at signed ⊢
  obtain ⟨codec, frame, type, -⟩ := inRange
  have first : (UInt8.ofNat (packet.codecId + 16 * packet.frameType)).toNat =
      packet.codecId + 16 * packet.frameType := by
    rw [UInt8.toNat_ofNat']
    omega
  have second : (UInt8.ofNat packet.avcPacketType).toNat = packet.avcPacketType := by
    rw [UInt8.toNat_ofNat']
    omega
  have low : (packet.codecId + 16 * packet.frameType) % 16 = packet.codecId := by omega
  have high : (packet.codecId + 16 * packet.frameType) / 16 = packet.frameType := by omega
  have time : beValue [before 1, before 0, UInt8.ofNat packet.compositionTime] =
      (before 1).toNat * 2 ^ 16 + (before 0).toNat * 2 ^ 8 + packet.compositionTime % 2 ^ 8 := by
    simp only [beValue, List.reverse_cons, List.reverse_nil, List.nil_append, List.cons_append,
      leValue, UInt8.toNat_ofNat']
    ring
  rw [parse_data _ _ rfl _ signed, first, second, low, high, time]

/-- The packet survives exactly if the memory in front of a local variable happens to
hold the two upper bytes of the composition time. -/
theorem round_trip_iff (before : Nat → UInt8) {packet : VideoPacket} (inRange : packet.InRange)
    {bytes : Bytes} (produced : (packet.toSerializable before).serializeToBuffer = .ok bytes) :
    parseBuffer parseRef bytes = .ok packet ↔
      (before 1).toNat = packet.compositionTime / 2 ^ 16 ∧
        (before 0).toNat = packet.compositionTime / 2 ^ 8 % 2 ^ 8 := by
  rw [parse_produced inRange produced]
  have near := (before 0).toNat_lt
  have far := (before 1).toNat_lt
  obtain ⟨codecId, frameType, avcPacketType, compositionTime, videoDataSend⟩ := packet
  simp only [Except.ok.injEq, mk.injEq, true_and, and_true]
  constructor
  · intro same
    omega
  · intro both
    omega

theorem produces (before : Nat → UInt8) {packet : VideoPacket} (inRange : packet.InRange)
    (fits : packet.videoDataSend.length + 5 < 2 ^ 31) :
    (packet.toSerializable before).serializeToBuffer = .ok (packet.serialize before) := by
  have length : (packet.serialize before).length = packet.videoDataSend.length + 5 := by
    rw [serialize_eq before inRange]
    simp
  apply serializeToBuffer_exact _ rfl
  rw [toSerializable, packet.getLength_eq before inRange, toInt_of_lt (by omega)]

/-- Of the composition time only the low byte is written. -/
theorem serialize_low_byte (before : Nat → UInt8) (packet : VideoPacket) :
    packet.serialize before =
      { packet with compositionTime := packet.compositionTime % 2 ^ 24 }.serialize before := by
  have low : ∀ time, writeDataType 1 3 false time = [UInt8.ofNat time] := by
    intro time
    simp [writeDataType, writeDataTypeOn, convertEndian, variableImage, swapVariable, leBytes]
  have same : UInt8.ofNat (packet.compositionTime % 2 ^ 24) =
      UInt8.ofNat packet.compositionTime := by
    apply UInt8.toNat.inj
    rw [UInt8.toNat_ofNat', UInt8.toNat_ofNat']
    omega
  simp only [serialize, writeDataTypeBehind, low, same]

theorem some_memory_breaks {packet : VideoPacket} (inRange : packet.InRange)
    (fits : packet.videoDataSend.length + 5 < 2 ^ 31) :
    ∃ before, parseBuffer parseRef (packet.serialize before) ≠ .ok packet := by
  have time : ∀ before, parseBuffer parseRef (packet.serialize before) = .ok packet →
      (before 1).toNat * 2 ^ 16 + (before 0).toNat * 2 ^ 8 + packet.compositionTime % 2 ^ 8 =
        packet.compositionTime := by
    intro before same
    rw [parse_produced inRange (produces before inRange fits)] at same
    exact congrArg compositionTime (Except.ok.inj same)
  by_cases zero : packet.compositionTime / 2 ^ 16 = 0
  · refine ⟨fun _ => 1, fun same => ?_⟩
    have value := time _ same
    simp only [UInt8.toNat_one] at value
    omega
  · refine ⟨fun _ => 0, fun same => ?_⟩
    have value := time _ same
    simp only [UInt8.toNat_zero] at value
    omega

def delayedKeyFrame : VideoPacket := ⟨7, 1, 1, 1000, [0x65]⟩

theorem delayedKeyFrame_inRange : delayedKeyFrame.InRange :=
  ⟨by decide, by decide, by decide, by decide⟩

theorem delayedKeyFrame_produced (before : Nat → UInt8) :
    (delayedKeyFrame.toSerializable before).serializeToBuffer =
      .ok (delayedKeyFrame.serialize before) :=
  produces before delayedKeyFrame_inRange (by decide)

theorem lucky_memory_round_trips :
    parseBuffer parseRef (delayedKeyFrame.serialize fun index => if index = 0 then 3 else 0) =
      .ok delayedKeyFrame :=
  (round_trip_iff _ delayedKeyFrame_inRange (delayedKeyFrame_produced _)).mpr ⟨rfl, rfl⟩

/-- With zeros in front of the local variable 1000 becomes 232. -/
theorem composition_time_lost :
    (delayedKeyFrame.toSerializable fun _ => 0).serializeToBuffer =
        .ok (delayedKeyFrame.serialize fun _ => 0) ∧
      parseBuffer parseRef (delayedKeyFrame.serialize fun _ => 0) =
        .ok { delayedKeyFrame with compositionTime := 232 } ∧
      parseBuffer parseRef (delayedKeyFrame.serialize fun _ => 0) ≠ .ok delayedKeyFrame := by
  have produced := delayedKeyFrame_produced fun _ => 0
  have parsed := parse_produced delayedKeyFrame_inRange produced
  refine ⟨produced, parsed, ?_⟩
  rw [parsed]
  exact fun same => absurd (congrArg compositionTime (Except.ok.inj same)) (by decide)

end VideoPacket

end EasyRtmp
