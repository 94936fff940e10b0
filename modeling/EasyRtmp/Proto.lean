import Mathlib.Tactic.NormNum
import EasyRtmp.Framework

/-!
# `rtmp_proto.h`: chunk headers and control messages

Every packet keeps its `Serialize`, `ParseRef` and `GetLength`.  The `_reads`
theorems say what `ParseRef` makes of any bytes of the right number; the layout
theorems say what `Serialize` writes.
-/

set_option autoImplicit false

namespace EasyRtmp

open Lib Lib.ByteCodec

/-! ## Chunk headers -/

/-- The bit fields `cs_id : 6` and `fmt : 2` of one byte, low bits first. -/
structure ChunkBasicHeader where
  csId : Nat
  fmt : Nat
  deriving DecidableEq, Repr

namespace ChunkBasicHeader

def getLength : Nat := 1

def serialize (header : ChunkBasicHeader) : Bytes :=
  writeDataType 1 1 false (header.csId % 64 + 64 * (header.fmt % 4))

def parseRef : Reader Stop ChunkBasicHeader := do
  let r ← readDataType 1 1 false 0
  pure ⟨r % 64, r / 64⟩

theorem parseRef_reads (byte : UInt8) :
    Reads parseRef [byte] ⟨byte.toNat % 64, byte.toNat / 64⟩ := by
  have read := readDataType_reads_be 1 [byte] (Or.inl rfl) (Nat.le_refl _)
  have value : beValue [byte] = byte.toNat := by simp [beValue, leValue]
  rw [value] at read
  exact read.map fun r => (⟨r % 64, r / 64⟩ : ChunkBasicHeader)

end ChunkBasicHeader

structure ChunkMessageHeader0 where
  timestamp : Nat := 0
  messageLength : Nat := 0
  messageTypeId : UInt8 := 0
  messageStreamId : Nat := 0
  deriving DecidableEq, Repr

namespace ChunkMessageHeader0

def getLength : Nat := 3 + 3 + 1 + 4

def serialize (header : ChunkMessageHeader0) : Bytes :=
  writeDataType 4 3 false header.timestamp ++ writeDataType 4 3 false header.messageLength ++
    writeDataType 1 1 false header.messageTypeId.toNat ++
    writeDataType 4 4 true header.messageStreamId

/-- The stream id is read from three of its four bytes. -/
def parseRef : Reader Stop ChunkMessageHeader0 := do
  let timestamp ← readDataType 4 3 false 0
  let messageLength ← readDataType 4 3 false 0
  let messageTypeId ← readDataType 1 1 false 0
  let messageStreamId ← readDataType 4 3 true 0
  pure ⟨timestamp, messageLength, UInt8.ofNat messageTypeId, messageStreamId⟩

end ChunkMessageHeader0

structure ChunkMessageHeader1 where
  timestampDelta : Nat := 0
  messageLength : Nat := 0
  messageTypeId : UInt8 := 0
  deriving DecidableEq, Repr

namespace ChunkMessageHeader1

def getLength : Nat := 3 + 3 + 1

def serialize (header : ChunkMessageHeader1) : Bytes :=
  writeDataType 4 3 false header.timestampDelta ++ writeDataType 4 3 false header.messageLength ++
    writeDataType 1 1 false header.messageTypeId.toNat

def parseRef : Reader Stop ChunkMessageHeader1 := do
  let timestampDelta ← readDataType 4 3 false 0
  let messageLength ← readDataType 4 3 false 0
  let messageTypeId ← readDataType 1 1 false 0
  pure ⟨timestampDelta, messageLength, UInt8.ofNat messageTypeId⟩

end ChunkMessageHeader1

structure ChunkMessageHeader2 where
  timestampDelta : Nat := 0
  deriving DecidableEq, Repr

namespace ChunkMessageHeader2

def getLength : Nat := 3

def serialize (header : ChunkMessageHeader2) : Bytes :=
  writeDataType 4 3 false header.timestampDelta

def parseRef : Reader Stop ChunkMessageHeader2 := do
  let timestampDelta ← readDataType 4 3 false 0
  pure ⟨timestampDelta⟩

end ChunkMessageHeader2

/-! ## What header bytes mean -/

section Reading

theorem read3_be {bytes : Bytes} (three : bytes.length = 3) :
    Reads (readDataType 4 3 false 0) bytes (beValue bytes) := by
  have read := readDataType_reads_be 4 bytes (by omega) (by omega)
  rwa [three] at read

theorem read3_le {bytes : Bytes} (three : bytes.length = 3) :
    Reads (readDataType 4 3 true 0) bytes (leValue bytes) := by
  have read := readDataType_reads_le 4 bytes
  rwa [three] at read

theorem read1 (byte : UInt8) : Reads (readDataType 1 1 false 0) [byte] byte.toNat := by
  have read := readDataType_reads_be 1 [byte] (Or.inl rfl) (Nat.le_refl _)
  simpa [beValue, leValue] using read

theorem read4_be {bytes : Bytes} (four : bytes.length = 4) :
    Reads (readDataType 4 4 false 0) bytes (beValue bytes) := by
  have read := readDataType_reads_be 4 bytes (by omega) (by omega)
  rwa [four] at read

variable {time length stream : Bytes}

theorem ChunkMessageHeader0.parseRef_reads (three : time.length = 3) (three' : length.length = 3)
    (byte : UInt8) (three'' : stream.length = 3) :
    Reads ChunkMessageHeader0.parseRef (time ++ (length ++ ([byte] ++ stream)))
      ⟨beValue time, beValue length, byte, leValue stream⟩ := by
  unfold ChunkMessageHeader0.parseRef
  refine (read3_be three).bind ((read3_be three').bind ((read1 byte).bind ?_))
  rw [UInt8.ofNat_toNat]
  exact (read3_le three'').map _

theorem ChunkMessageHeader1.parseRef_reads (three : time.length = 3) (three' : length.length = 3)
    (byte : UInt8) :
    Reads ChunkMessageHeader1.parseRef (time ++ (length ++ [byte]))
      ⟨beValue time, beValue length, byte⟩ := by
  unfold ChunkMessageHeader1.parseRef
  refine (read3_be three).bind ((read3_be three').bind ?_)
  have last := (read1 byte).map fun messageTypeId =>
    (⟨beValue time, beValue length, UInt8.ofNat messageTypeId⟩ : ChunkMessageHeader1)
  rwa [UInt8.ofNat_toNat] at last

theorem ChunkMessageHeader2.parseRef_reads (three : time.length = 3) :
    Reads ChunkMessageHeader2.parseRef time ⟨beValue time⟩ :=
  (read3_be three).map _

end Reading

/-! ## Parsing what was written -/

section RoundTrip

variable (timestamp messageLength messageStreamId : Nat) (messageTypeId : UInt8)

theorem ChunkBasicHeader.serialize_eq (header : ChunkBasicHeader) :
    header.serialize = [UInt8.ofNat (header.csId % 64 + 64 * (header.fmt % 4))] := by
  rw [serialize, writeDataType_be _ (Or.inl rfl) (Nat.le_refl _)]
  rfl

theorem ChunkBasicHeader.parse_serialize (header : ChunkBasicHeader) (id : header.csId < 64)
    (fmt : header.fmt < 4) : parseBuffer parseRef header.serialize = .ok header := by
  rw [serialize_eq]
  have parsed := parseBuffer_of_reads
    (parseRef_reads (UInt8.ofNat (header.csId % 64 + 64 * (header.fmt % 4)))) [] (by simp)
  rw [List.append_nil] at parsed
  rw [parsed, UInt8.toNat_ofNat']
  obtain ⟨csId, fmt'⟩ := header
  simp only at id fmt ⊢
  have low : (csId % 64 + 64 * (fmt' % 4)) % 2 ^ 8 % 64 = csId := by omega
  have high : (csId % 64 + 64 * (fmt' % 4)) % 2 ^ 8 / 64 = fmt' := by omega
  rw [low, high]

theorem ChunkMessageHeader0.serialize_eq (header : ChunkMessageHeader0) :
    header.serialize = beBytes 3 header.timestamp ++ (beBytes 3 header.messageLength ++
      ([header.messageTypeId] ++ leBytes 4 header.messageStreamId)) := by
  simp only [serialize, writeDataType_be _ (show 4 = 1 ∨ 4 = 2 ∨ 4 = 4 ∨ 4 = 8 by omega)
    (show 3 ≤ 4 by omega), writeDataType_be _ (show 1 = 1 ∨ 1 = 2 ∨ 1 = 4 ∨ 1 = 8 by omega)
    (Nat.le_refl 1), writeDataType_le, List.append_assoc]
  simp [beBytes, leBytes]

theorem ChunkMessageHeader1.serialize_eq (header : ChunkMessageHeader1) :
    header.serialize = beBytes 3 header.timestampDelta ++
      (beBytes 3 header.messageLength ++ [header.messageTypeId]) := by
  simp only [serialize, writeDataType_be _ (show 4 = 1 ∨ 4 = 2 ∨ 4 = 4 ∨ 4 = 8 by omega)
    (show 3 ≤ 4 by omega), writeDataType_be _ (show 1 = 1 ∨ 1 = 2 ∨ 1 = 4 ∨ 1 = 8 by omega)
    (Nat.le_refl 1), List.append_assoc]
  simp [beBytes, leBytes]

theorem ChunkMessageHeader2.serialize_eq (header : ChunkMessageHeader2) :
    header.serialize = beBytes 3 header.timestampDelta :=
  writeDataType_be _ (by omega) (by omega)

theorem threeBytes : 256 ^ 3 = 2 ^ 24 := by norm_num

/-- Twenty-four bits of the time, the length and the stream id arrive. -/
theorem ChunkMessageHeader0.parse_layout :
    parseBuffer parseRef (beBytes 3 timestamp ++ (beBytes 3 messageLength ++
      ([messageTypeId] ++ leBytes 4 messageStreamId))) =
      .ok ⟨timestamp % 2 ^ 24, messageLength % 2 ^ 24, messageTypeId,
        messageStreamId % 2 ^ 24⟩ := by
  have parsed := parseBuffer_of_reads (ChunkMessageHeader0.parseRef_reads
    (beBytes_length 3 timestamp) (beBytes_length 3 messageLength) messageTypeId
    (leBytes_length 3 messageStreamId)) [UInt8.ofNat (messageStreamId / 256 ^ 3)] (by simp)
  rw [leBytes_succ_last]
  simp only [List.append_assoc] at parsed ⊢
  rw [parsed, beValue_beBytes, beValue_beBytes, leValue_leBytes, threeBytes]

theorem ChunkMessageHeader1.parse_layout :
    parseBuffer parseRef (beBytes 3 timestamp ++ (beBytes 3 messageLength ++ [messageTypeId])) =
      .ok ⟨timestamp % 2 ^ 24, messageLength % 2 ^ 24, messageTypeId⟩ := by
  have parsed := parseBuffer_of_reads (ChunkMessageHeader1.parseRef_reads
    (beBytes_length 3 timestamp) (beBytes_length 3 messageLength) messageTypeId) [] (by simp)
  rw [List.append_nil] at parsed
  rw [parsed, beValue_beBytes, beValue_beBytes, threeBytes]

theorem ChunkMessageHeader2.parse_layout :
    parseBuffer parseRef (beBytes 3 timestamp) = .ok ⟨timestamp % 2 ^ 24⟩ := by
  have parsed := parseBuffer_of_reads (ChunkMessageHeader2.parseRef_reads
    (beBytes_length 3 timestamp)) [] (by simp)
  rw [List.append_nil] at parsed
  rw [parsed, beValue_beBytes, threeBytes]

end RoundTrip

/-! ## Control messages -/

/-- The packets that are one big-endian `uint32_t`. -/
def serializeUint32 (value : Nat) : Bytes := writeDataType 4 4 false value

def parseUint32 : Reader Stop Nat := readDataType 4 4 false 0

structure SetChunkSize where
  chunkSize : Nat := 0

namespace SetChunkSize

def getLength : Nat := 4

def serialize (packet : SetChunkSize) : Bytes := serializeUint32 packet.chunkSize

def parseRef : Reader Stop SetChunkSize := do
  let chunkSize ← parseUint32
  pure ⟨chunkSize⟩

def toSerializable (packet : SetChunkSize) : Serializable := ⟨.ok getLength, .ok packet.serialize⟩

end SetChunkSize

structure AbortMessage where
  chunkStreamId : Nat := 0

namespace AbortMessage

def getLength : Nat := 4

def serialize (packet : AbortMessage) : Bytes := serializeUint32 packet.chunkStreamId

def parseRef : Reader Stop AbortMessage := do
  let chunkStreamId ← parseUint32
  pure ⟨chunkStreamId⟩

def toSerializable (packet : AbortMessage) : Serializable := ⟨.ok getLength, .ok packet.serialize⟩

end AbortMessage

structure Acknowledgement where
  sequenceNumber : Nat := 0

namespace Acknowledgement

def getLength : Nat := 4

def serialize (packet : Acknowledgement) : Bytes := serializeUint32 packet.sequenceNumber

def parseRef : Reader Stop Acknowledgement := do
  let sequenceNumber ← parseUint32
  pure ⟨sequenceNumber⟩

end Acknowledgement

structure WindowsAcknowledgementSize where
  acknowledgementWindowSize : Nat := 0

namespace WindowsAcknowledgementSize

def getLength : Nat := 4

def serialize (packet : WindowsAcknowledgementSize) : Bytes :=
  serializeUint32 packet.acknowledgementWindowSize

def parseRef : Reader Stop WindowsAcknowledgementSize := do
  let acknowledgementWindowSize ← parseUint32
  pure ⟨acknowledgementWindowSize⟩

def toSerializable (packet : WindowsAcknowledgementSize) : Serializable :=
  ⟨.ok getLength, .ok packet.serialize⟩

end WindowsAcknowledgementSize

structure SetPeerBandwith where
  acknowledgementWindowSize : Nat := 0
  limitType : Nat := 0

namespace SetPeerBandwith

/-- `sizeof` of the two fields outside any `pack` region: three bytes of padding. -/
def getLength : Nat := 8

def serialize (packet : SetPeerBandwith) : Bytes :=
  writeDataType 4 4 false packet.acknowledgementWindowSize ++
    writeDataType 1 1 false packet.limitType

def parseRef : Reader Stop SetPeerBandwith := do
  let acknowledgementWindowSize ← readDataType 4 4 false 0
  let limitType ← readDataType 1 1 false 0
  pure ⟨acknowledgementWindowSize, limitType⟩

def toSerializable (packet : SetPeerBandwith) : Serializable :=
  ⟨.ok getLength, .ok packet.serialize⟩

end SetPeerBandwith

structure UCMStreamBegin where
  type : Nat := 0
  streamId : Nat := 0

namespace UCMStreamBegin

def getLength : Nat := 2 + 4

def serialize (packet : UCMStreamBegin) : Bytes :=
  writeDataType 2 2 false packet.type ++ writeDataType 4 4 true packet.streamId

def parseRef : Reader Stop UCMStreamBegin := do
  let type ← readDataType 2 2 false 0
  let streamId ← readDataType 4 4 true 0
  pure ⟨type, streamId⟩

def toSerializable (packet : UCMStreamBegin) : Serializable := ⟨.ok getLength, .ok packet.serialize⟩

end UCMStreamBegin

/-! ## Media packets -/

/-- The bit fields of the first byte are `channels : 1`, `sample_size : 1`,
`sample_rate : 2` and `format : 4`, low bits first. -/
structure AudioPacketAAC where
  channels : Nat := 0
  sampleSize : Nat := 0
  sampleRate : Nat := 0
  format : Nat := 0
  aacPacketType : Nat := 0
  audioDataSend : Bytes := []
  deriving DecidableEq, Repr

namespace AudioPacketAAC

/-- Added up in `size_t` and returned as an `int`. -/
def getLength (packet : AudioPacketAAC) : Int := toInt (1 * 2 + packet.audioDataSend.length)

def serialize (packet : AudioPacketAAC) : Bytes :=
  writeDataType 1 1 false (packet.channels % 2 + 2 * (packet.sampleSize % 2) +
      4 * (packet.sampleRate % 4) + 16 * (packet.format % 16)) ++
    writeDataType 1 1 false packet.aacPacketType ++ packet.audioDataSend

def parseRef : Reader Stop AudioPacketAAC := do
  let d ← readDataType 1 1 false 0
  let aacPacketType ← readDataType 1 1 false 0
  let dataLen ← Reader.dataLen
  let audioDataSend ← readDataBytes dataLen.toNat
  pure ⟨d % 2, d / 2 % 2, d / 4 % 4, d / 16, aacPacketType, audioDataSend⟩

def toSerializable (packet : AudioPacketAAC) : Serializable :=
  ⟨.ok packet.getLength, .ok packet.serialize⟩

end AudioPacketAAC

/-- The bit fields of the first byte are `codec_id : 4` and `frame_type : 4`. -/
structure VideoPacket where
  codecId : Nat := 0
  frameType : Nat := 0
  avcPacketType : Nat := 0
  compositionTime : Nat := 0
  videoDataSend : Bytes := []
  deriving DecidableEq, Repr

namespace VideoPacket

/-- Added up in `size_t` and returned as an `int`. -/
def getLength (packet : VideoPacket) : Int := toInt (2 * 1 + 3 + packet.videoDataSend.length)

/-- `before` is the memory in front of the parameter of `WriteDataType<uint8_t>` that
holds the composition time. -/
def serialize (before : Nat → UInt8) (packet : VideoPacket) : Bytes :=
  writeDataType 1 1 false (packet.codecId % 16 + 16 * (packet.frameType % 16)) ++
    writeDataType 1 1 false packet.avcPacketType ++
    writeDataTypeBehind before 1 3 false packet.compositionTime ++ packet.videoDataSend

def toSerializable (before : Nat → UInt8) (packet : VideoPacket) : Serializable :=
  ⟨.ok packet.getLength, .ok (packet.serialize before)⟩

end VideoPacket

def VideoPacket.parseRef : Reader Stop VideoPacket := do
  let d ← readDataType 1 1 false 0
  let avcPacketType ← readDataType 1 1 false 0
  let compositionTime ← readDataType 4 3 false 0
  let dataLen ← Reader.dataLen
  let videoDataSend ← readDataBytes dataLen.toNat
  pure ⟨d % 16, d / 16, avcPacketType, compositionTime, videoDataSend⟩

section Control

theorem parseUint32_reads {bytes : Bytes} (four : bytes.length = 4) :
    Reads parseUint32 bytes (beValue bytes) := read4_be four

theorem serializeUint32_eq (value : Nat) : serializeUint32 value = beBytes 4 value :=
  writeDataType_be value (by omega) (by omega)

theorem SetChunkSize.parse_payload {front : Bytes} (four : front.length = 4) (back : Bytes)
    (fits : (front ++ back).length < 2 ^ 31) :
    parseBuffer parseRef (front ++ back) = .ok ⟨beValue front⟩ :=
  parseBuffer_of_reads ((parseUint32_reads four).map _) back fits

theorem WindowsAcknowledgementSize.parse_payload {front : Bytes} (four : front.length = 4)
    (back : Bytes) (fits : (front ++ back).length < 2 ^ 31) :
    parseBuffer parseRef (front ++ back) = .ok ⟨beValue front⟩ :=
  parseBuffer_of_reads ((parseUint32_reads four).map _) back fits

theorem SetPeerBandwith.parse_payload {front : Bytes} (four : front.length = 4) (byte : UInt8)
    (back : Bytes) (fits : ((front ++ [byte]) ++ back).length < 2 ^ 31) :
    parseBuffer parseRef ((front ++ [byte]) ++ back) = .ok ⟨beValue front, byte.toNat⟩ :=
  parseBuffer_of_reads ((read4_be four).bind ((read1 byte).map _)) back fits

end Control

end EasyRtmp
