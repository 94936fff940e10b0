import EasyRtmp.Lib.CursorReader

/-!
# `framework.h`: binary reading and writing

`readDataType` and `writeDataType` move an integer variable of `size` bytes
through `newSize` bytes of wire data.  A variable is its memory image, so both
byte orders of the wire and of the host are the source's own `memcpy` offsets
and byte swaps.  Asserts are compiled out, as in a release build.
-/

set_option autoImplicit false

namespace EasyRtmp

open Lib Lib.ByteCodec

inductive RTMPError where
  | network | badUrl | parsing | protocol | amf | netstreamConnection | endpointStatus
  | outOfBuffer | internal
  deriving DecidableEq, Repr

/-- What cuts a call short: an exception, or one of the faults that C++ leaves
undefined or an assert would catch. -/
inductive Stop where
  | rtmpException (code : RTMPError)
  | runtimeError
  | outOfRange
  | lengthError
  | outOfBounds
  | pastEnd
  | wrongType
  | endless
  deriving DecidableEq, Repr

def Stop.IsFault : Stop → Prop
  | .rtmpException _ | .runtimeError | .outOfRange | .lengthError => False
  | .outOfBounds | .pastEnd | .wrongType | .endless => True

instance (stop : Stop) : Decidable stop.IsFault := by
  cases stop <;> unfold Stop.IsFault <;> infer_instance

/-- Conversion to a 32-bit `int`. -/
def toInt (value : Int) : Int := Int.bmod value (2 ^ 32)

theorem toInt_of_lt {value : Nat} (fits : value < 2 ^ 31) : toInt value = value := by
  unfold toInt
  rw [Int.bmod_eq_of_le] <;> omega

theorem toInt_le (value : Nat) : toInt value ≤ value := by
  rw [toInt, Int.bmod_def]
  split <;> omega

/-! ## Integers -/

/-- The memory image of a variable of `size` bytes. -/
def variableImage (hostBigEndian : Bool) (size value : Nat) : Bytes :=
  if hostBigEndian then beBytes size value else leBytes size value

def variableValue (hostBigEndian : Bool) (image : Bytes) : Nat :=
  if hostBigEndian then beValue image else leValue image

def convertEndian (hostBigEndian littleEndian : Bool) : Bool :=
  if hostBigEndian then littleEndian else !littleEndian

def ntohs (t : UInt16) : UInt16 := (t >>> 8) ||| (t <<< 8)

def ntohll (t : UInt64) : UInt64 :=
  ((t <<< 56) &&& (0xff00000000000000 : UInt64)) |||
    ((t <<< 40) &&& (0x00ff000000000000 : UInt64)) |||
    ((t <<< 24) &&& (0x0000ff0000000000 : UInt64)) |||
    ((t <<< 8) &&& (0x000000ff00000000 : UInt64)) |||
    ((t >>> 8) &&& (0x00000000ff000000 : UInt64)) |||
    ((t >>> 24) &&& (0x0000000000ff0000 : UInt64)) |||
    ((t >>> 40) &&& (0x000000000000ff00 : UInt64)) |||
    ((t >>> 56) &&& (0x00000000000000ff : UInt64))

def ntohl (t : UInt32) : UInt32 :=
  ((t <<< 24) &&& (0xff000000 : UInt32)) ||| ((t <<< 8) &&& (0x00ff0000 : UInt32)) |||
    ((t >>> 8) &&& (0x0000ff00 : UInt32)) ||| ((t >>> 24) &&& (0x000000ff : UInt32))

/-- `_ntohs`, `_ntohl` and `_ntohll`, chosen by `sizeof(T)`, on the bytes of a variable. -/
def swapVariable (size : Nat) (image : Bytes) : Bytes :=
  if size = 2 ∨ size = 4 ∨ size = 8 then image.reverse else image

def loadVariable (hostBigEndian : Bool) (size newSize : Nat) (littleEndian : Bool) (out : Nat)
    (bytes : Bytes) : Nat :=
  let image := variableImage hostBigEndian size out
  if convertEndian hostBigEndian littleEndian then
    variableValue hostBigEndian (swapVariable size (image.take (size - newSize) ++ bytes))
  else variableValue hostBigEndian (bytes ++ image.drop newSize)

def readDataTypeOn (hostBigEndian : Bool) (size newSize : Nat) (littleEndian : Bool) (out : Nat) :
    Reader Stop Nat := do
  if (← Reader.dataLen) < newSize then Reader.fail .runtimeError
  else
    let bytes ← Reader.take newSize
    pure (loadVariable hostBigEndian size newSize littleEndian out bytes)

/-- For `newSize ≤ size`. -/
def writeDataTypeOn (hostBigEndian : Bool) (size newSize : Nat) (littleEndian : Bool)
    (value : Nat) : Bytes :=
  let image := variableImage hostBigEndian size value
  let image := if convertEndian hostBigEndian littleEndian then swapVariable size image else image
  (image.drop (size - newSize)).take newSize

/-- `ReadDataType` as built without `HOST_BIG_ENDIAN`. -/
def readDataType := readDataTypeOn false

/-- `WriteDataType` as built without `HOST_BIG_ENDIAN`. -/
def writeDataType := writeDataTypeOn false

/-- The same for any `newSize`.  What a wider number lacks is taken from the memory
in front of the variable, of which `before 0` is the byte next to it. -/
def writeDataTypeBehind (before : Nat → UInt8) (size newSize : Nat) (littleEndian : Bool)
    (value : Nat) : Bytes :=
  (List.range (newSize - size)).reverse.map before ++
    writeDataType size newSize littleEndian value

def readDataBytes (outLen : Nat) : Reader Stop Bytes := do
  if (← Reader.dataLen) < outLen then Reader.fail .runtimeError
  else Reader.take outLen

section Integers
variable {size newSize : Nat}

theorem swapVariable_reverse (sizes : size = 1 ∨ size = 2 ∨ size = 4 ∨ size = 8) {image : Bytes}
    (length : image.length = size) : swapVariable size image = image.reverse := by
  rcases sizes with rfl | sizes
  · obtain ⟨byte, rfl⟩ := List.length_eq_one_iff.mp length
    rfl
  · rw [swapVariable, if_pos sizes]

theorem loadVariable_be (bytes : Bytes) (sizes : size = 1 ∨ size = 2 ∨ size = 4 ∨ size = 8)
    (fits : bytes.length ≤ size) :
    loadVariable false size bytes.length false 0 bytes = beValue bytes := by
  have image : (variableImage false size 0).take (size - bytes.length) ++ bytes =
      List.replicate (size - bytes.length) 0 ++ bytes := by
    rw [variableImage, if_neg Bool.false_ne_true, leBytes_zero, List.take_replicate,
      Nat.min_eq_left (Nat.sub_le _ _)]
  have whole : (List.replicate (size - bytes.length) 0 ++ bytes).length = size := by
    rw [List.length_append, List.length_replicate]
    omega
  simp only [loadVariable, convertEndian, variableValue, image, Bool.false_eq_true, if_false,
    Bool.not_false, if_true, swapVariable_reverse sizes whole]
  exact beValue_zeros_append bytes (size - bytes.length)

theorem loadVariable_le (bytes : Bytes) :
    loadVariable false size bytes.length true 0 bytes = leValue bytes := by
  simp only [loadVariable, convertEndian, variableValue, variableImage, Bool.false_eq_true,
    if_false, Bool.not_true, leBytes_zero, List.drop_replicate, leValue_append_zeros]

theorem readDataTypeOn_apply (hostBigEndian littleEndian : Bool) (out : Nat)
    (memory : Nat → UInt8) (cursor : Cursor) :
    readDataTypeOn hostBigEndian size newSize littleEndian out memory cursor =
      if cursor.dataLen < newSize then .error .runtimeError cursor
      else
        match Reader.take newSize memory cursor with
        | .ok bytes after =>
            .ok (loadVariable hostBigEndian size newSize littleEndian out bytes) after
        | .error stop after => .error stop after := by
  simp only [readDataTypeOn, Reader.bind_apply, Reader.dataLen]
  split <;> rfl

theorem readDataType_apply (littleEndian : Bool) (out : Nat) (memory : Nat → UInt8)
    (cursor : Cursor) :
    readDataType size newSize littleEndian out memory cursor =
      if cursor.dataLen < newSize then .error .runtimeError cursor
      else
        match Reader.take newSize memory cursor with
        | .ok bytes after =>
            .ok (loadVariable false size newSize littleEndian out bytes) after
        | .error stop after => .error stop after :=
  readDataTypeOn_apply false littleEndian out memory cursor

theorem readDataBytes_apply (outLen : Nat) (memory : Nat → UInt8) (cursor : Cursor) :
    readDataBytes outLen memory cursor =
      if cursor.dataLen < outLen then .error .runtimeError cursor
      else Reader.take outLen memory cursor := by
  simp only [readDataBytes, Reader.bind_apply, Reader.dataLen]
  split <;> rfl

theorem readDataTypeOn_reads (hostBigEndian littleEndian : Bool) (bytes : Bytes) :
    Reads (readDataTypeOn hostBigEndian size bytes.length littleEndian 0) bytes
      (loadVariable hostBigEndian size bytes.length littleEndian 0 bytes) := by
  intro memory cursor holds announced
  have takes : Reads (Reader.take bytes.length : Reader Stop Bytes) bytes bytes := Reads.take bytes
  obtain ⟨readEnd, bound, taken⟩ := takes memory cursor holds announced
  refine ⟨readEnd, bound, ?_⟩
  rw [readDataTypeOn_apply, if_neg (by omega), taken]

theorem readDataType_reads (littleEndian : Bool) (bytes : Bytes) :
    Reads (readDataType size bytes.length littleEndian 0) bytes
      (loadVariable false size bytes.length littleEndian 0 bytes) :=
  readDataTypeOn_reads false littleEndian bytes

theorem readDataType_reads_be (size : Nat) (bytes : Bytes)
    (sizes : size = 1 ∨ size = 2 ∨ size = 4 ∨ size = 8) (fits : bytes.length ≤ size) :
    Reads (readDataType size bytes.length false 0) bytes (beValue bytes) := by
  rw [← loadVariable_be bytes sizes fits]
  exact readDataType_reads false bytes

theorem readDataType_reads_le (size : Nat) (bytes : Bytes) :
    Reads (readDataType size bytes.length true 0) bytes (leValue bytes) := by
  rw [← loadVariable_le bytes]
  exact readDataType_reads true bytes

theorem readDataBytes_reads (bytes : Bytes) : Reads (readDataBytes bytes.length) bytes bytes := by
  intro memory cursor holds announced
  have takes : Reads (Reader.take bytes.length : Reader Stop Bytes) bytes bytes := Reads.take bytes
  obtain ⟨readEnd, bound, taken⟩ := takes memory cursor holds announced
  refine ⟨readEnd, bound, ?_⟩
  rw [readDataBytes_apply, if_neg (by omega), taken]

theorem writeDataType_be (value : Nat) (sizes : size = 1 ∨ size = 2 ∨ size = 4 ∨ size = 8)
    (fits : newSize ≤ size) : writeDataType size newSize false value = beBytes newSize value := by
  have image : swapVariable size (leBytes size value) = beBytes size value :=
    swapVariable_reverse sizes (leBytes_length size value)
  simp only [writeDataType, writeDataTypeOn, convertEndian, variableImage, Bool.false_eq_true,
    if_false, Bool.not_false, if_true, image, beBytes_drop value fits]
  exact List.take_of_length_le (by simp)

/-- A number of the variable's own width is read back. -/
theorem readDataType_beBytes (size value : Nat)
    (sizes : size = 1 ∨ size = 2 ∨ size = 4 ∨ size = 8) (fits : value < 256 ^ size) :
    Reads (readDataType size size false 0) (beBytes size value) value := by
  have width := beBytes_length size value
  have reads := readDataType_reads_be size (beBytes size value) sizes width.le
  rwa [width, beValue_beBytes_of_lt fits] at reads

/-- A number that is too short announces its lack. -/
theorem readDataType_refuses (littleEndian : Bool) (out : Nat) {bytes : Bytes}
    (short : bytes.length < newSize) :
    Refuses (readDataType size newSize littleEndian out) bytes .runtimeError := by
  intro memory cursor _ whole
  have lacks : cursor.dataLen < newSize := by omega
  exact ⟨cursor, by rw [readDataType_apply, if_pos lacks], Nat.le_max_left _ _⟩

/-- The bytes that are left, however many. -/
theorem readDataBytes_readsAll {β : Type} (bytes : Bytes) (finish : Bytes → β) :
    ReadsAll (do
      let dataLen ← Reader.dataLen
      let data ← readDataBytes dataLen.toNat
      pure (finish data)) bytes (finish bytes) := by
  intro memory cursor holds whole
  obtain ⟨readEnd, bound, read⟩ :=
    (readDataBytes_reads bytes).map finish memory cursor holds whole.ge
  have asked : (Reader.dataLen : Reader Stop Int) memory cursor = .ok cursor.dataLen cursor := rfl
  rw [Reader.bind_ok asked, whole, Int.toNat_natCast]
  exact ⟨_, read, bound⟩

theorem writeDataType_le (value : Nat) :
    writeDataType size size true value = leBytes size value := by
  simp only [writeDataType, writeDataTypeOn, convertEndian, variableImage, Bool.false_eq_true,
    if_false, Bool.not_true, Nat.sub_self, List.drop_zero]
  exact List.take_of_length_le (by simp)

end Integers

/-! ## Serializable objects -/

/-- What the class `Serializable` asks of an object that is sent. -/
structure Serializable where
  getLength : Except Stop Int
  serialize : Except Stop Bytes

/-- A buffer of `GetLength()` zero bytes that `Serialize` writes into. -/
def Serializable.serializeToBuffer (object : Serializable) : Except Stop Bytes := do
  let length ← object.getLength
  if length < 0 then .error .lengthError
  else
    let written ← object.serialize
    if written.length ≤ length.toNat then
      .ok (written ++ List.replicate (length.toNat - written.length) 0)
    else .error .outOfBounds

/-- `Serializable::Parse` on a vector: a read past its end is a fault. -/
def parseBuffer {α : Type} (parseRef : Reader Stop α) (data : Bytes) : Except Stop α :=
  let result := parseRef (memoryOf data fun _ => 0) ⟨0, toInt data.length, 0⟩
  if data.length < result.cursor.readEnd then .error .outOfBounds
  else
    match result with
    | .ok value _ => .ok value
    | .error stop _ => .error stop

theorem parseBuffer_ok_iff {α : Type} {reader : Reader Stop α} {data : Bytes} {value : α} :
    parseBuffer reader data = .ok value ↔
      ∃ after, reader (memoryOf data fun _ => 0) ⟨0, toInt data.length, 0⟩ = .ok value after ∧
        after.readEnd ≤ data.length := by
  cases reached : reader (memoryOf data fun _ => 0) ⟨0, toInt data.length, 0⟩ with
  | ok found after =>
      by_cases beyond : data.length < after.readEnd
      · simp only [parseBuffer, reached, ReadResult.cursor, if_pos beyond]
        refine iff_of_false (fun none => by cases none) ?_
        rintro ⟨after', same, inside⟩
        cases same
        omega
      · simp only [parseBuffer, reached, ReadResult.cursor, if_neg beyond]
        constructor
        · rintro ⟨rfl⟩
          exact ⟨after, rfl, by omega⟩
        · rintro ⟨after', same, -⟩
          cases same
          rfl
  | error stop after =>
      refine iff_of_false ?_ ?_
      · intro parsed
        simp only [parseBuffer, reached] at parsed
        split at parsed <;> cases parsed
      · rintro ⟨after', same, -⟩
        cases same

/-- Bytes behind the ones a parser wants are ignored. -/
theorem parseBuffer_of_reads {α : Type} {parseRef : Reader Stop α} {front : Bytes} {value : α}
    (reads : Reads parseRef front value) (back : Bytes)
    (fits : (front ++ back).length < 2 ^ 31) :
    parseBuffer parseRef (front ++ back) = .ok value := by
  have held := (holds_append.mp (holds_memoryOf (front ++ back) fun _ => 0)).1
  have announced : (front.length : Int) ≤ (front ++ back).length := by
    rw [List.length_append]
    omega
  obtain ⟨readEnd, bound, ok⟩ := reads _ ⟨0, (front ++ back).length, 0⟩ held announced
  have inside : ¬ (front ++ back).length < readEnd := by
    rw [List.length_append]
    simp only [Nat.zero_add, Nat.zero_max] at bound
    omega
  simp only [parseBuffer, toInt_of_lt fits, ok, ReadResult.cursor, if_neg inside]

theorem parseBuffer_of_readsAll {α : Type} {parseRef : Reader Stop α} {data : Bytes} {value : α}
    (reads : ReadsAll parseRef data value) (fits : data.length < 2 ^ 31) :
    parseBuffer parseRef data = .ok value := by
  obtain ⟨after, ok, bound⟩ := reads _ ⟨0, data.length, 0⟩ (holds_memoryOf data fun _ => 0) rfl
  have inside : ¬ data.length < after.readEnd := by
    simp only [Nat.zero_add, Nat.zero_max] at bound
    omega
  simp only [parseBuffer, toInt_of_lt fits, ok, ReadResult.cursor, if_neg inside]

theorem parseBuffer_of_refuses {α : Type} {parseRef : Reader Stop α} {data : Bytes} {stop : Stop}
    (refuses : Refuses parseRef data stop) (fits : data.length < 2 ^ 31) :
    parseBuffer parseRef data = .error stop := by
  obtain ⟨after, failed, bound⟩ :=
    refuses _ ⟨0, data.length, 0⟩ (holds_memoryOf data fun _ => 0) rfl
  have inside : ¬ data.length < after.readEnd := by
    simp only [Nat.zero_add, Nat.zero_max] at bound
    omega
  simp only [parseBuffer, toInt_of_lt fits, failed, ReadResult.cursor, if_neg inside]

theorem serializeToBuffer_exact {object : Serializable} {bytes : Bytes}
    (length : object.getLength = .ok (bytes.length : Int))
    (written : object.serialize = .ok bytes) : object.serializeToBuffer = .ok bytes := by
  have nonnegative : ¬ (bytes.length : Int) < 0 := by omega
  simp [Serializable.serializeToBuffer, length, written, bind, Except.bind, nonnegative]

/-- A buffer that was produced has the announced length, and what was written fits. -/
theorem serializeToBuffer_produced {object : Serializable} {length : Int} {written bytes : Bytes}
    (announced : object.getLength = .ok length) (wrote : object.serialize = .ok written)
    (produced : object.serializeToBuffer = .ok bytes) :
    (written.length : Int) ≤ length ∧
      bytes = written ++ List.replicate (length.toNat - written.length) 0 := by
  simp only [Serializable.serializeToBuffer, announced, wrote, bind, Except.bind] at produced
  split at produced
  · cases produced
  · split at produced
    · cases produced
      exact ⟨by omega, rfl⟩
    · cases produced

end EasyRtmp
