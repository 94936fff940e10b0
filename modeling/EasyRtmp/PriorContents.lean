import EasyRtmp.Handshake
import EasyRtmp.PacketFields

/-!
# Parsing into an object that has contents

`parseInto` is `ParseRef` of an object that holds `prior`, as one has after an earlier
`Parse`.  A number read at the width of its variable leaves nothing of it; one that is
narrower leaves a byte, and the entries of an AMF object stay.
-/

set_option autoImplicit false

namespace EasyRtmp

open Lib Lib.ByteCodec

/-! ## What a number leaves of its variable -/

section Reading
variable {size : Nat}

/-- A number of the variable's own width overwrites it. -/
theorem readDataType_overwrites (littleEndian : Bool) (out : Nat) :
    readDataType size size littleEndian out = readDataType size size littleEndian 0 := by
  have image : ∀ value, (variableImage false size value).take (size - size) = [] ∧
      (variableImage false size value).drop size = [] := by
    intro value
    rw [Nat.sub_self, List.take_zero, List.drop_eq_nil_iff, variableImage, if_neg (by decide),
      leBytes_length]
    exact ⟨rfl, le_refl _⟩
  funext memory cursor
  simp only [readDataType_apply, loadVariable, image]

theorem take_length {E : Type} {count : Nat} {memory : Nat → UInt8} {cursor after : Cursor}
    {bytes : Bytes} (taken : (Reader.take count : Reader E Bytes) memory cursor = .ok bytes after) :
    bytes.length = count := by
  cases taken
  rw [List.length_map, List.length_range]

theorem loadVariable_three (out : Nat) {bytes : Bytes} (three : bytes.length = 3) :
    loadVariable false 4 3 false out bytes = beValue bytes + out % 256 * 2 ^ 24 := by
  have image : (variableImage false 4 out).take (4 - 3) = [UInt8.ofNat out] := rfl
  have byte : leValue [UInt8.ofNat out] = out % 256 := by
    rw [leValue, leValue, UInt8.toNat_ofNat']
    omega
  show leValue (swapVariable 4 ((variableImage false 4 out).take (4 - 3) ++ bytes)) = _
  rw [image, swapVariable, if_pos (by decide), List.reverse_append, leValue_append,
    List.length_reverse, three, List.reverse_singleton, byte, beValue]
  omega

theorem loadVariable_three_le (out : Nat) {bytes : Bytes} (three : bytes.length = 3) :
    loadVariable false 4 3 true out bytes = leValue bytes + out / 2 ^ 24 % 256 * 2 ^ 24 := by
  have image : (variableImage false 4 out).drop 3 = [UInt8.ofNat (out / 2 ^ 24)] := by
    simp [variableImage, leBytes, Nat.div_div_eq_div_mul]
  show leValue (bytes ++ (variableImage false 4 out).drop 3) = _
  rw [image, leValue_append, three, leValue, leValue, UInt8.toNat_ofNat']
  omega

/-- A number of three bytes, where what is left of the variable is added to it. -/
theorem readDataType_leaves {littleEndian : Bool} {out extra : Nat}
    (leaves : ∀ bytes : Bytes, bytes.length = 3 → loadVariable false 4 3 littleEndian out bytes =
      loadVariable false 4 3 littleEndian 0 bytes + extra) :
    readDataType 4 3 littleEndian out = (do
      let value ← readDataType 4 3 littleEndian 0
      pure (value + extra)) := by
  funext memory cursor
  rw [Reader.bind_apply, readDataType_apply, readDataType_apply]
  split
  · rfl
  · cases taken : (Reader.take 3 : Reader Stop Bytes) memory cursor with
    | error stop after => cases taken
    | ok bytes after =>
        dsimp only
        rw [leaves bytes (take_length taken)]
        rfl

theorem readDataType_three (out : Nat) :
    readDataType 4 3 false out = (do
      let value ← readDataType 4 3 false 0
      pure (value + out % 256 * 2 ^ 24)) := by
  refine readDataType_leaves ?_
  intro bytes three
  rw [loadVariable_three out three, loadVariable_three 0 three]
  rfl

theorem readDataType_three_le (out : Nat) :
    readDataType 4 3 true out = (do
      let value ← readDataType 4 3 true 0
      pure (value + out / 2 ^ 24 % 256 * 2 ^ 24)) := by
  refine readDataType_leaves ?_
  intro bytes three
  rw [loadVariable_three_le out three, loadVariable_three_le 0 three]
  rfl

end Reading

/-! ## Objects that have contents -/

def C0.parseInto (prior : C0) : Reader Stop C0 := do
  let version ← readDataType 1 1 false prior.version
  pure ⟨version⟩

def C1.parseInto (prior : C1) : Reader Stop C1 := do
  let time ← readDataType 4 4 false prior.time
  let zeroField ← readDataType 4 4 false prior.zero
  let randomBytes ← readDataBytes 1528
  pure ⟨time, zeroField, randomBytes⟩

def C2.parseInto (prior : C2) : Reader Stop C2 := do
  let time ← readDataType 4 4 false prior.time
  let time2 ← readDataType 4 4 false prior.time2
  let randomBytesEcho ← readDataBytes 1528
  pure ⟨time, time2, randomBytesEcho⟩

/-- The byte is read into a variable of its own, without a value before. -/
def ChunkBasicHeader.parseInto (before : Nat) : Reader Stop ChunkBasicHeader := do
  let r ← readDataType 1 1 false before
  pure ⟨r % 64, r / 64⟩

def ChunkMessageHeader0.parseInto (prior : ChunkMessageHeader0) :
    Reader Stop ChunkMessageHeader0 := do
  let timestamp ← readDataType 4 3 false prior.timestamp
  let messageLength ← readDataType 4 3 false prior.messageLength
  let messageTypeId ← readDataType 1 1 false prior.messageTypeId.toNat
  let messageStreamId ← readDataType 4 3 true prior.messageStreamId
  pure ⟨timestamp, messageLength, UInt8.ofNat messageTypeId, messageStreamId⟩

def ChunkMessageHeader1.parseInto (prior : ChunkMessageHeader1) :
    Reader Stop ChunkMessageHeader1 := do
  let timestampDelta ← readDataType 4 3 false prior.timestampDelta
  let messageLength ← readDataType 4 3 false prior.messageLength
  let messageTypeId ← readDataType 1 1 false prior.messageTypeId.toNat
  pure ⟨timestampDelta, messageLength, UInt8.ofNat messageTypeId⟩

def ChunkMessageHeader2.parseInto (prior : ChunkMessageHeader2) :
    Reader Stop ChunkMessageHeader2 := do
  let timestampDelta ← readDataType 4 3 false prior.timestampDelta
  pure ⟨timestampDelta⟩

example : ChunkMessageHeader0.parseInto {} = ChunkMessageHeader0.parseRef := rfl

/-- The packets that are one big-endian `uint32_t`. -/
def parseUint32Into (prior : Nat) : Reader Stop Nat := readDataType 4 4 false prior

def SetChunkSize.parseInto (prior : SetChunkSize) : Reader Stop SetChunkSize := do
  let chunkSize ← parseUint32Into prior.chunkSize
  pure ⟨chunkSize⟩

def AbortMessage.parseInto (prior : AbortMessage) : Reader Stop AbortMessage := do
  let chunkStreamId ← parseUint32Into prior.chunkStreamId
  pure ⟨chunkStreamId⟩

def Acknowledgement.parseInto (prior : Acknowledgement) : Reader Stop Acknowledgement := do
  let sequenceNumber ← parseUint32Into prior.sequenceNumber
  pure ⟨sequenceNumber⟩

def WindowsAcknowledgementSize.parseInto (prior : WindowsAcknowledgementSize) :
    Reader Stop WindowsAcknowledgementSize := do
  let acknowledgementWindowSize ← parseUint32Into prior.acknowledgementWindowSize
  pure ⟨acknowledgementWindowSize⟩

def SetPeerBandwith.parseInto (prior : SetPeerBandwith) : Reader Stop SetPeerBandwith := do
  let acknowledgementWindowSize ← readDataType 4 4 false prior.acknowledgementWindowSize
  let limitType ← readDataType 1 1 false prior.limitType
  pure ⟨acknowledgementWindowSize, limitType⟩

def UCMStreamBegin.parseInto (prior : UCMStreamBegin) : Reader Stop UCMStreamBegin := do
  let type ← readDataType 2 2 false prior.type
  let streamId ← readDataType 4 4 true prior.streamId
  pure ⟨type, streamId⟩

/-- The byte of the bit fields. -/
def AudioPacketAAC.d (packet : AudioPacketAAC) : Nat :=
  packet.channels % 2 + 2 * (packet.sampleSize % 2) + 4 * (packet.sampleRate % 4) +
    16 * (packet.format % 16)

/-- The payload is resized to what is left. -/
def AudioPacketAAC.parseInto (prior : AudioPacketAAC) : Reader Stop AudioPacketAAC := do
  let d ← readDataType 1 1 false prior.d
  let aacPacketType ← readDataType 1 1 false prior.aacPacketType
  let dataLen ← Reader.dataLen
  let audioDataSend ← readDataBytes dataLen.toNat
  pure ⟨d % 2, d / 2 % 2, d / 4 % 4, d / 16, aacPacketType, audioDataSend⟩

def VideoPacket.d (packet : VideoPacket) : Nat :=
  packet.codecId % 16 + 16 * (packet.frameType % 16)

def VideoPacket.parseInto (prior : VideoPacket) : Reader Stop VideoPacket := do
  let d ← readDataType 1 1 false prior.d
  let avcPacketType ← readDataType 1 1 false prior.avcPacketType
  let compositionTime ← readDataType 4 3 false prior.compositionTime
  let dataLen ← Reader.dataLen
  let videoDataSend ← readDataBytes dataLen.toNat
  pure ⟨d % 16, d / 16, avcPacketType, compositionTime, videoDataSend⟩

/-- All fields of an `AMFValue`, whichever its type uses. -/
structure AMFContents where
  type : AMFType := .unknown
  dataString : Bytes := []
  dataNumber : UInt64 := 0
  dataBoolean : Bool := false
  dataArray : List AMFValue := []
  dataObject : List (Bytes × AMFValue) := []

namespace AMFContents

/-- The fields that the type uses. -/
def used (contents : AMFContents) : AMFValue :=
  match contents.type with
  | .string => .string contents.dataString
  | .number => .number contents.dataNumber
  | .boolean => .boolean contents.dataBoolean
  | .nul => .nul
  | .undefined => .undefined
  | .strictArray => .strictArray
  | .endOfObject => .endOfObject
  | .unknown => .unknown
  | .object => .object contents.dataObject
  | .ecmaArray => .ecmaArray contents.dataObject
  | .root => .root contents.dataArray

/-- The contents with the type and the fields of a value, and all others as before. -/
def store (prior : AMFContents) (value : AMFValue) : AMFContents :=
  match value with
  | .string dataString => { prior with type := .string, dataString }
  | .number dataNumber => { prior with type := .number, dataNumber }
  | .boolean dataBoolean => { prior with type := .boolean, dataBoolean }
  | .object dataObject => { prior with type := .object, dataObject }
  | .ecmaArray dataObject => { prior with type := .ecmaArray, dataObject }
  | .root dataArray => { prior with type := .root, dataArray }
  | .nul | .undefined | .strictArray | .endOfObject | .unknown => { prior with type := value.type }

/-- `ParseRef` of a value that is not a `ROOT`. -/
def parseInto (prior : AMFContents) : Reader Stop AMFContents := do
  let value ← AMFValue.parseRef prior.dataObject
  pure (prior.store value)

theorem used_store (prior : AMFContents) (value : AMFValue) : (prior.store value).used = value := by
  cases value <;> rfl

end AMFContents

/-! ## What the contents are overwritten with -/

theorem parseUint32Into_eq (prior : Nat) : parseUint32Into prior = parseUint32 :=
  readDataType_overwrites false prior

theorem C0.parseInto_eq (prior : C0) : prior.parseInto = C0.parseRef := by
  rw [parseInto, readDataType_overwrites, parseRef]

theorem C1.parseInto_eq (prior : C1) : prior.parseInto = C1.parseRef := by
  rw [parseInto, readDataType_overwrites _ prior.time, readDataType_overwrites _ prior.zero,
    parseRef]

theorem C2.parseInto_eq (prior : C2) : prior.parseInto = C2.parseRef := by
  rw [parseInto, readDataType_overwrites _ prior.time, readDataType_overwrites _ prior.time2,
    parseRef]

theorem ChunkBasicHeader.parseInto_eq (before : Nat) : parseInto before = parseRef := by
  rw [parseInto, readDataType_overwrites, parseRef]

theorem SetChunkSize.parseInto_eq (prior : SetChunkSize) :
    prior.parseInto = SetChunkSize.parseRef := by
  rw [parseInto, parseUint32Into_eq, parseRef]

theorem AbortMessage.parseInto_eq (prior : AbortMessage) :
    prior.parseInto = AbortMessage.parseRef := by
  rw [parseInto, parseUint32Into_eq, parseRef]

theorem Acknowledgement.parseInto_eq (prior : Acknowledgement) :
    prior.parseInto = Acknowledgement.parseRef := by
  rw [parseInto, parseUint32Into_eq, parseRef]

theorem WindowsAcknowledgementSize.parseInto_eq (prior : WindowsAcknowledgementSize) :
    prior.parseInto = WindowsAcknowledgementSize.parseRef := by
  rw [parseInto, parseUint32Into_eq, parseRef]

theorem SetPeerBandwith.parseInto_eq (prior : SetPeerBandwith) :
    prior.parseInto = SetPeerBandwith.parseRef := by
  rw [parseInto, readDataType_overwrites _ prior.acknowledgementWindowSize, parseRef,
    readDataType_overwrites _ prior.limitType]

theorem UCMStreamBegin.parseInto_eq (prior : UCMStreamBegin) :
    prior.parseInto = UCMStreamBegin.parseRef := by
  rw [parseInto, readDataType_overwrites _ prior.type, parseRef,
    readDataType_overwrites _ prior.streamId]

theorem AudioPacketAAC.parseInto_eq (prior : AudioPacketAAC) :
    prior.parseInto = AudioPacketAAC.parseRef := by
  rw [parseInto, readDataType_overwrites _ prior.d, readDataType_overwrites _ prior.aacPacketType,
    parseRef]

/-- The byte that a time or a length keeps of the variable in front of it. -/
def leftover (value : Nat) : Nat := value % 256 * 2 ^ 24

/-- The byte that a stream id keeps of the variable behind it. -/
def leftoverHigh (value : Nat) : Nat := value / 2 ^ 24 % 256 * 2 ^ 24

theorem leftover_eq_iff {left right : Nat} :
    leftover left = leftover right ↔ left % 256 = right % 256 := by
  unfold leftover
  omega

theorem leftoverHigh_eq_iff {left right : Nat} :
    leftoverHigh left = leftoverHigh right ↔ left / 2 ^ 24 % 256 = right / 2 ^ 24 % 256 := by
  unfold leftoverHigh
  omega

def ChunkMessageHeader0.mergeInto (prior header : ChunkMessageHeader0) : ChunkMessageHeader0 :=
  ⟨header.timestamp + leftover prior.timestamp, header.messageLength + leftover prior.messageLength,
    header.messageTypeId, header.messageStreamId + leftoverHigh prior.messageStreamId⟩

def ChunkMessageHeader1.mergeInto (prior header : ChunkMessageHeader1) : ChunkMessageHeader1 :=
  ⟨header.timestampDelta + leftover prior.timestampDelta,
    header.messageLength + leftover prior.messageLength, header.messageTypeId⟩

def ChunkMessageHeader2.mergeInto (prior header : ChunkMessageHeader2) : ChunkMessageHeader2 :=
  ⟨header.timestampDelta + leftover prior.timestampDelta⟩

def VideoPacket.mergeInto (prior packet : VideoPacket) : VideoPacket :=
  { packet with compositionTime := packet.compositionTime + leftover prior.compositionTime }

theorem ChunkMessageHeader0.parseInto_eq (prior : ChunkMessageHeader0) :
    prior.parseInto = (do let header ← parseRef; pure (prior.mergeInto header)) := by
  rw [parseInto, readDataType_three prior.timestamp, readDataType_three prior.messageLength,
    readDataType_three_le, readDataType_overwrites, parseRef]
  simp only [bind_assoc, pure_bind]
  rfl

theorem ChunkMessageHeader1.parseInto_eq (prior : ChunkMessageHeader1) :
    prior.parseInto = (do let header ← parseRef; pure (prior.mergeInto header)) := by
  rw [parseInto, readDataType_three prior.timestampDelta, readDataType_three prior.messageLength,
    readDataType_overwrites, parseRef]
  simp only [bind_assoc, pure_bind]
  rfl

theorem ChunkMessageHeader2.parseInto_eq (prior : ChunkMessageHeader2) :
    prior.parseInto = (do let header ← parseRef; pure (prior.mergeInto header)) := by
  rw [parseInto, readDataType_three, parseRef]
  simp only [bind_assoc, pure_bind]
  rfl

theorem VideoPacket.parseInto_eq (prior : VideoPacket) :
    prior.parseInto = (do let packet ← parseRef; pure (prior.mergeInto packet)) := by
  rw [parseInto, readDataType_three, readDataType_overwrites _ prior.d,
    readDataType_overwrites _ prior.avcPacketType, parseRef]
  simp only [bind_assoc, pure_bind]
  rfl

/-! ## Two objects and one buffer -/

/-- `Parse` throws for both or for neither, and then leaves the same in the fields
`used`. -/
def ParseAlike {α β : Type} (used : α → β) (parse parse' : Reader Stop α) (data : Bytes) : Prop :=
  match parseBuffer parse data, parseBuffer parse' data with
  | .ok value, .ok value' => used value = used value'
  | .error _, .error _ => True
  | _, _ => False

section Alike
variable {α β γ : Type} {used : α → β} {reader : Reader Stop γ} {data : Bytes}

theorem parseAlike_self (used : α → β) (parse : Reader Stop α) (data : Bytes) :
    ParseAlike used parse parse data := by
  unfold ParseAlike
  cases parseBuffer parse data with
  | ok value => rfl
  | error stop => trivial

theorem parseBuffer_map (f : γ → α) (reader : Reader Stop γ) (data : Bytes) :
    parseBuffer (do let value ← reader; pure (f value)) data =
      match parseBuffer reader data with
      | .ok value => .ok (f value)
      | .error stop => .error stop := by
  cases reached : reader (memoryOf data fun _ => 0) ⟨0, toInt data.length, 0⟩ with
  | ok value after =>
      have mapped : (do let value ← reader; pure (f value)) (memoryOf data fun _ => 0)
          ⟨0, toInt data.length, 0⟩ = .ok (f value) after := Reader.bind_ok reached _
      by_cases beyond : data.length < after.readEnd
      · simp only [parseBuffer, mapped, reached, ReadResult.cursor, if_pos beyond]
      · simp only [parseBuffer, mapped, reached, ReadResult.cursor, if_neg beyond]
  | error stop after =>
      have mapped := Reader.bind_error reached fun value => pure (f value)
      by_cases beyond : data.length < after.readEnd
      · simp only [parseBuffer, mapped, reached, ReadResult.cursor, if_pos beyond]
      · simp only [parseBuffer, mapped, reached, ReadResult.cursor, if_neg beyond]

/-- Two objects that differ in what they make of the same reading. -/
theorem parseAlike_map {f g : γ → α} :
    ParseAlike used (do let value ← reader; pure (f value)) (do let value ← reader; pure (g value))
      data ↔ ∀ value, parseBuffer reader data = .ok value → used (f value) = used (g value) := by
  rw [ParseAlike, parseBuffer_map, parseBuffer_map]
  cases parseBuffer reader data with
  | ok value =>
      constructor
      · rintro same value' ⟨rfl⟩
        exact same
      · exact fun same => same value rfl
  | error stop => exact iff_of_true trivial fun value parsed => by cases parsed

end Alike

end EasyRtmp
