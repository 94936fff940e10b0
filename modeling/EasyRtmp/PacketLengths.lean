import EasyRtmp.Handshake
import EasyRtmp.PacketFields

/-!
# Announced and written lengths of packets

`Packet` is any packet whose parser takes what its `Serialize` writes.  The parsers
of the packets without a payload take a number of bytes that depends on nothing.
-/

set_option autoImplicit false

namespace EasyRtmp

open Lib Lib.ByteCodec

/-! ## Widths -/

theorem readDataType_width (size newSize : Nat) (littleEndian : Bool) :
    FixedWidth (readDataType size newSize littleEndian 0) newSize := by
  rintro bytes rfl
  exact ⟨_, readDataType_reads littleEndian bytes⟩

theorem readDataBytes_width (outLen : Nat) : FixedWidth (readDataBytes outLen) outLen := by
  rintro bytes rfl
  exact ⟨_, readDataBytes_reads bytes⟩

theorem writeDataType_length {size newSize : Nat} (littleEndian : Bool) (value : Nat)
    (fits : newSize ≤ size) : (writeDataType size newSize littleEndian value).length = newSize := by
  have image : ∀ converted : Bool, (if converted then swapVariable size (leBytes size value)
      else leBytes size value).length = size := by
    intro converted
    unfold swapVariable
    split_ifs <;> simp
  simp only [writeDataType, writeDataTypeOn, variableImage, Bool.false_eq_true, if_false,
    List.length_take, List.length_drop, image]
  omega

/-! ## Packets -/

/-- The arrays of the handshake hold 1528 bytes. -/
inductive Packet where
  | c0 (packet : C0)
  | c1 (packet : C1) (array : packet.randomBytes.length = 1528)
  | c2 (packet : C2) (array : packet.randomBytesEcho.length = 1528)
  | chunkBasicHeader (packet : ChunkBasicHeader)
  | setChunkSize (packet : SetChunkSize)
  | abortMessage (packet : AbortMessage)
  | acknowledgement (packet : Acknowledgement)
  | windowsAcknowledgementSize (packet : WindowsAcknowledgementSize)
  | setPeerBandwith (packet : SetPeerBandwith)
  | ucmStreamBegin (packet : UCMStreamBegin)
  | chunkMessageHeader1 (packet : ChunkMessageHeader1)
  | chunkMessageHeader2 (packet : ChunkMessageHeader2)
  | audioPacketAAC (packet : AudioPacketAAC)

/-- In front of any suffix `parseRef` takes `length` of the bytes. -/
def Consumes {α : Type} (parseRef : Reader Stop α) (bytes : Bytes) (length : Int) : Prop :=
  ∀ suffix, ∃ value after, parseAhead parseRef bytes suffix = .ok value after ∧
    (after.data : Int) = length ∧ after.dataLen = (bytes ++ suffix).length - length

namespace Packet

def getLength : Packet → Int
  | .c0 _ => C0.getLength
  | .c1 _ _ => C1.getLength
  | .c2 _ _ => C2.getLength
  | .chunkBasicHeader _ => ChunkBasicHeader.getLength
  | .setChunkSize _ => SetChunkSize.getLength
  | .abortMessage _ => AbortMessage.getLength
  | .acknowledgement _ => Acknowledgement.getLength
  | .windowsAcknowledgementSize _ => WindowsAcknowledgementSize.getLength
  | .setPeerBandwith _ => SetPeerBandwith.getLength
  | .ucmStreamBegin _ => UCMStreamBegin.getLength
  | .chunkMessageHeader1 _ => ChunkMessageHeader1.getLength
  | .chunkMessageHeader2 _ => ChunkMessageHeader2.getLength
  | .audioPacketAAC packet => packet.getLength

def serialize : Packet → Bytes
  | .c0 packet => packet.serialize
  | .c1 packet _ => packet.serialize
  | .c2 packet _ => packet.serialize
  | .chunkBasicHeader packet => packet.serialize
  | .setChunkSize packet => packet.serialize
  | .abortMessage packet => packet.serialize
  | .acknowledgement packet => packet.serialize
  | .windowsAcknowledgementSize packet => packet.serialize
  | .setPeerBandwith packet => packet.serialize
  | .ucmStreamBegin packet => packet.serialize
  | .chunkMessageHeader1 packet => packet.serialize
  | .chunkMessageHeader2 packet => packet.serialize
  | .audioPacketAAC packet => packet.serialize

/-- The parser of the packet's type on its own bytes.  One that has a payload takes all
the bytes there are. -/
def ParsesItself (packet : Packet) : Prop :=
  match packet with
  | .c0 _ => Consumes C0.parseRef packet.serialize packet.getLength
  | .c1 _ _ => Consumes C1.parseRef packet.serialize packet.getLength
  | .c2 _ _ => Consumes C2.parseRef packet.serialize packet.getLength
  | .chunkBasicHeader _ => Consumes ChunkBasicHeader.parseRef packet.serialize packet.getLength
  | .setChunkSize _ => Consumes SetChunkSize.parseRef packet.serialize packet.getLength
  | .abortMessage _ => Consumes AbortMessage.parseRef packet.serialize packet.getLength
  | .acknowledgement _ => Consumes Acknowledgement.parseRef packet.serialize packet.getLength
  | .windowsAcknowledgementSize _ =>
      Consumes WindowsAcknowledgementSize.parseRef packet.serialize packet.getLength
  | .setPeerBandwith _ => Consumes SetPeerBandwith.parseRef packet.serialize packet.getLength
  | .ucmStreamBegin _ => Consumes UCMStreamBegin.parseRef packet.serialize packet.getLength
  | .chunkMessageHeader1 _ =>
      Consumes ChunkMessageHeader1.parseRef packet.serialize packet.getLength
  | .chunkMessageHeader2 _ =>
      Consumes ChunkMessageHeader2.parseRef packet.serialize packet.getLength
  | .audioPacketAAC _ => True

/-- As many bytes are written, and read back, as are announced. -/
structure LengthExact (packet : Packet) : Prop where
  written : (packet.serialize.length : Int) = packet.getLength
  parsed : packet.ParsesItself

end Packet

/-! ## Packets of one width -/

/-- The packet's writer and its parser have the announced width. -/
theorem exact_of_width {α : Type} {parseRef : Reader Stop α} {bytes : Bytes} {length : Nat}
    (written : bytes.length = length) (width : FixedWidth parseRef length) :
    (bytes.length : Int) = length ∧ Consumes parseRef bytes length := by
  refine ⟨by rw [written], fun suffix => ?_⟩
  obtain ⟨value, reads⟩ := width bytes written
  obtain ⟨after, parsed, stops, left⟩ := parseAhead_of_reads reads [] suffix
  rw [List.append_nil] at parsed
  refine ⟨value, after, parsed, by rw [stops, written], ?_⟩
  rw [left, List.nil_append, List.length_append, written]
  omega

theorem parseUint32_width : FixedWidth parseUint32 4 := readDataType_width 4 4 false

theorem serializeUint32_length (value : Nat) : (serializeUint32 value).length = 4 :=
  writeDataType_length false value (Nat.le_refl 4)

/-- The layout that `C1` and `C2` share. -/
theorem twoTimes_width {α : Type} (make : Nat → Nat → Bytes → α) :
    FixedWidth (do
      let first ← readDataType 4 4 false 0
      let second ← readDataType 4 4 false 0
      let random ← readDataBytes 1528
      pure (make first second random)) (4 + (4 + 1528)) :=
  (readDataType_width 4 4 false).bind fun _ =>
    (readDataType_width 4 4 false).bind fun _ => (readDataBytes_width 1528).map _

theorem twoTimes_length (first second : Nat) {random : Bytes} (array : random.length = 1528) :
    (writeDataType 4 4 false first ++ writeDataType 4 4 false second ++ random).length =
      4 + 4 + 1528 := by
  simp only [List.length_append, writeDataType_length _ _ (Nat.le_refl 4), array]

theorem ChunkBasicHeader.parseRef_width : FixedWidth parseRef getLength :=
  (readDataType_width 1 1 false).map _

theorem SetPeerBandwith.serialize_length (packet : SetPeerBandwith) :
    packet.serialize.length = 5 := by
  simp only [serialize, List.length_append, writeDataType_length _ _ (Nat.le_refl 4),
    writeDataType_length _ _ (Nat.le_refl 1)]

theorem UCMStreamBegin.parseRef_width : FixedWidth parseRef getLength :=
  (readDataType_width 2 2 false).bind fun _ => (readDataType_width 4 4 true).map _

theorem UCMStreamBegin.serialize_length (packet : UCMStreamBegin) :
    packet.serialize.length = getLength := by
  simp only [serialize, List.length_append, writeDataType_length _ _ (Nat.le_refl 2),
    writeDataType_length _ _ (Nat.le_refl 4), getLength]

theorem ChunkMessageHeader1.parseRef_width : FixedWidth parseRef getLength :=
  (readDataType_width 4 3 false).bind fun _ => (readDataType_width 4 3 false).bind fun _ =>
    (readDataType_width 1 1 false).map _

theorem ChunkMessageHeader1.serialize_length (header : ChunkMessageHeader1) :
    header.serialize.length = getLength := by
  simp only [serialize, List.length_append, writeDataType_length _ _ (show 3 ≤ 4 by decide),
    writeDataType_length _ _ (Nat.le_refl 1), getLength]

theorem AudioPacketAAC.serialize_length (packet : AudioPacketAAC) :
    packet.serialize.length = 2 + packet.audioDataSend.length := by
  simp only [serialize, List.length_append, writeDataType_length _ _ (Nat.le_refl 1)]

/-! ## Every packet -/

namespace Packet

/-- No padding is counted, and a payload's length is an `int`. -/
def Unpadded : Packet → Prop
  | .setPeerBandwith _ => False
  | .audioPacketAAC packet => packet.audioDataSend.length + 2 < 2 ^ 31
  | .c0 _ | .c1 _ _ | .c2 _ _ | .chunkBasicHeader _ | .setChunkSize _ | .abortMessage _
  | .acknowledgement _ | .windowsAcknowledgementSize _ | .ucmStreamBegin _
  | .chunkMessageHeader1 _ | .chunkMessageHeader2 _ => True

theorem audio_exact_iff (packet : AudioPacketAAC) :
    (Packet.audioPacketAAC packet).LengthExact ↔ packet.audioDataSend.length + 2 < 2 ^ 31 := by
  have written := packet.serialize_length
  constructor
  · rintro ⟨same, -⟩
    have bound := Int.bmod_lt (x := (1 * 2 + packet.audioDataSend.length : Int))
      (m := 2 ^ 32) (by decide)
    simp only [Packet.serialize, Packet.getLength, AudioPacketAAC.getLength, toInt] at same
    omega
  · intro small
    refine ⟨?_, trivial⟩
    show (packet.serialize.length : Int) = toInt (1 * 2 + packet.audioDataSend.length)
    have whole : (1 * 2 + packet.audioDataSend.length : Int) =
        ((2 + packet.audioDataSend.length : Nat) : Int) := by push_cast; ring
    rw [written, whole, toInt_of_lt (by omega)]

theorem peer_never_exact (packet : SetPeerBandwith) :
    ¬ (Packet.setPeerBandwith packet).LengthExact := by
  rintro ⟨same, -⟩
  have written := packet.serialize_length
  simp only [Packet.serialize, Packet.getLength, SetPeerBandwith.getLength] at same
  omega

theorem packet_exact_iff (packet : Packet) : packet.LengthExact ↔ packet.Unpadded := by
  have fixed : ∀ {packet : Packet}, (packet.serialize.length : Int) = packet.getLength ∧
      packet.ParsesItself → packet.Unpadded → (packet.LengthExact ↔ packet.Unpadded) := by
    intro packet exact_ unpadded
    exact iff_of_true ⟨exact_.1, exact_.2⟩ unpadded
  have uint32 : ∀ {α : Type} (make : Nat → α) (value : Nat),
      ((serializeUint32 value).length : Int) = 4 ∧
        Consumes (do let number ← parseUint32; pure (make number)) (serializeUint32 value) 4 :=
    fun make value => exact_of_width (serializeUint32_length value) (parseUint32_width.map make)
  cases packet with
  | c0 packet =>
      exact fixed (exact_of_width packet.serialize_length
        ((readDataType_width 1 1 false).map C0.mk)) trivial
  | c1 packet array =>
      exact fixed (exact_of_width (twoTimes_length packet.time packet.zero array)
        (twoTimes_width C1.mk)) trivial
  | c2 packet array =>
      exact fixed (exact_of_width (twoTimes_length packet.time packet.time2 array)
        (twoTimes_width C2.mk)) trivial
  | chunkBasicHeader packet =>
      exact fixed (exact_of_width (writeDataType_length false _ (Nat.le_refl 1))
        ChunkBasicHeader.parseRef_width) trivial
  | setChunkSize packet => exact fixed (uint32 SetChunkSize.mk packet.chunkSize) trivial
  | abortMessage packet => exact fixed (uint32 AbortMessage.mk packet.chunkStreamId) trivial
  | acknowledgement packet => exact fixed (uint32 Acknowledgement.mk packet.sequenceNumber) trivial
  | windowsAcknowledgementSize packet =>
      exact fixed (uint32 WindowsAcknowledgementSize.mk packet.acknowledgementWindowSize) trivial
  | setPeerBandwith packet => exact iff_of_false (peer_never_exact packet) id
  | ucmStreamBegin packet =>
      exact fixed (exact_of_width packet.serialize_length UCMStreamBegin.parseRef_width) trivial
  | chunkMessageHeader1 packet =>
      exact fixed (exact_of_width packet.serialize_length ChunkMessageHeader1.parseRef_width)
        trivial
  | chunkMessageHeader2 packet =>
      exact fixed (exact_of_width (writeDataType_length false _ (by decide))
        ((readDataType_width 4 3 false).map ChunkMessageHeader2.mk)) trivial
  | audioPacketAAC packet => exact audio_exact_iff packet

/-- What a server session announces. -/
theorem bandwith_padded :
    (Packet.setPeerBandwith ⟨10000000, 2⟩).serialize = [0, 152, 150, 128, 2] ∧
    (Packet.setPeerBandwith ⟨10000000, 2⟩).getLength = 8 ∧
    ¬ (Packet.setPeerBandwith ⟨10000000, 2⟩).LengthExact :=
  ⟨by decide, rfl, peer_never_exact ⟨10000000, 2⟩⟩

end Packet

end EasyRtmp
