import EasyRtmp.Framework
import EasyRtmp.Lib.OrdMap
import EasyRtmp.Lib.Binary64

/-!
# `amf.cpp`: AMF0 values

`AMFValue` is a value with the data that its type uses.  A `std::map` is the
list of its entries in key order, a `std::list` is a list.  `ParseRef` keeps the
entries an object already has, so the parser takes them as an argument.  Its
recursion is bounded by `fuel`, which `parseRef` takes from the announced length;
running out of it is the fault `endless`.
-/

set_option autoImplicit false

namespace EasyRtmp

open Lib Lib.ByteCodec

inductive AMFType where
  | string | number | boolean | nul | ecmaArray | strictArray | object | endOfObject | undefined
  | unknown | root
  deriving DecidableEq, Repr

/-- The enumerators' values, which are the tags on the wire. -/
def AMFType.code : AMFType → UInt8
  | .number => 0
  | .boolean => 1
  | .string => 2
  | .object => 3
  | .nul => 5
  | .undefined => 6
  | .ecmaArray => 8
  | .endOfObject => 9
  | .strictArray => 10
  | .unknown => 100
  | .root => 101

/-- A number is the bit pattern of a `double`. -/
inductive AMFValue where
  | string (dataString : Bytes)
  | number (dataNumber : UInt64)
  | boolean (dataBoolean : Bool)
  | nul
  | undefined
  | strictArray
  | endOfObject
  | unknown
  | object (dataObject : List (Bytes × AMFValue))
  | ecmaArray (dataObject : List (Bytes × AMFValue))
  | root (dataArray : List AMFValue)

namespace AMFValue

def type : AMFValue → AMFType
  | .string _ => .string
  | .number _ => .number
  | .boolean _ => .boolean
  | .nul => .nul
  | .undefined => .undefined
  | .strictArray => .strictArray
  | .endOfObject => .endOfObject
  | .unknown => .unknown
  | .object _ => .object
  | .ecmaArray _ => .ecmaArray
  | .root _ => .root

/-! ## Writing -/

mutual

/-- Lengths are added up in `int`. -/
def getLength : AMFValue → Except Stop Int
  | .string dataString => .ok (toInt (dataString.length + 2 + 1))
  | .number _ => .ok (8 + 1)
  | .boolean _ => .ok 2
  | .nul => .ok 1
  | .object dataObject => getLengthEntries (toInt (1 + dataObject.length * 2 + 3)) dataObject
  | .ecmaArray dataObject =>
      getLengthEntries (toInt (toInt (1 + dataObject.length * 2 + 3) + 4)) dataObject
  | .root dataArray => getLengthArray 0 dataArray
  | .strictArray | .undefined | .endOfObject | .unknown => .error (.rtmpException .amf)

def getLengthEntries (res : Int) : List (Bytes × AMFValue) → Except Stop Int
  | [] => .ok res
  | (key, value) :: entries => do
      let length ← value.getLength
      getLengthEntries (toInt (res + (key.length + length))) entries

def getLengthArray (res : Int) : List AMFValue → Except Stop Int
  | [] => .ok res
  | value :: values => do
      let length ← value.getLength
      getLengthArray (toInt (res + length)) values

end

/-- A length in two bytes and as much of the string as that length says. -/
def serializeString (text : Bytes) : Bytes :=
  writeDataType 2 2 false (text.length % 2 ^ 16) ++ text.take (text.length % 2 ^ 16)

mutual

def serialize : AMFValue → Except Stop Bytes
  | .string dataString => .ok (AMFType.string.code :: serializeString dataString)
  | .number dataNumber => .ok (AMFType.number.code :: writeDataType 8 8 false dataNumber.toNat)
  | .boolean dataBoolean => .ok [AMFType.boolean.code, if dataBoolean then 1 else 0]
  | .nul => .ok [AMFType.nul.code]
  | .object dataObject => do
      let entries ← serializeEntries dataObject
      .ok (AMFType.object.code :: entries ++ writeDataType 2 2 false 0 ++
        [AMFType.endOfObject.code])
  | .ecmaArray dataObject => do
      let entries ← serializeEntries dataObject
      .ok (AMFType.ecmaArray.code :: writeDataType 4 4 false dataObject.length ++ entries ++
        writeDataType 2 2 false 0 ++ [AMFType.endOfObject.code])
  | .unknown => .ok [AMFType.unknown.code]
  | .root dataArray => serializeArray dataArray
  | .strictArray | .undefined | .endOfObject => .error (.rtmpException .amf)

def serializeEntries : List (Bytes × AMFValue) → Except Stop Bytes
  | [] => .ok []
  | (key, value) :: entries => do
      let bytes ← value.serialize
      let rest ← serializeEntries entries
      .ok (serializeString key ++ bytes ++ rest)

def serializeArray : List AMFValue → Except Stop Bytes
  | [] => .ok []
  | value :: values => do
      let bytes ← value.serialize
      let rest ← serializeArray values
      .ok (bytes ++ rest)

end

def toSerializable (value : AMFValue) : Serializable := ⟨value.getLength, value.serialize⟩

/-! ## Parsing -/

/-- A C string ends at its first zero byte. -/
def cString (bytes : Bytes) : Bytes := bytes.takeWhile (· ≠ 0)

def typeOfTag (tag : UInt8) : Option AMFType :=
  if tag = 0 then some .number
  else if tag = 1 then some .boolean
  else if tag = 2 then some .string
  else if tag = 3 then some .object
  else if tag = 5 then some .nul
  else if tag = 8 then some .ecmaArray
  else if tag = 10 then some .strictArray
  else if tag = 6 then some .undefined
  else none

def parseString : Reader Stop Bytes := do
  let strLen ← readDataType 2 2 false 0
  let strData ← readDataBytes strLen
  pure (cString strData)

mutual

/-- `ParseRef` of a value other than a `ROOT`, which has the entries `dataObject`.
The tag is read and skipped whatever length is left. -/
def parseValue : Nat → List (Bytes × AMFValue) → Reader Stop AMFValue
  | 0, _ => Reader.fail .endless
  | fuel + 1, dataObject => do
      let tag ← Reader.peek
      match typeOfTag tag with
      | none => Reader.fail (.rtmpException .amf)
      | some type =>
          Reader.skip 1
          match type with
          | .string => do
              let dataString ← parseString
              pure (.string dataString)
          | .number => do
              let dataNumber ← readDataType 8 8 false 0
              pure (.number (UInt64.ofNat dataNumber))
          | .object => do
              let entries ← parseEntries fuel dataObject
              Reader.skip 1
              pure (.object entries)
          | .ecmaArray => do
              let _ ← readDataType 4 4 false 0
              let entries ← parseEntries fuel dataObject
              Reader.skip 1
              pure (.ecmaArray entries)
          | .boolean => do
              let dataBoolean ← readDataType 1 1 false 0
              pure (.boolean (dataBoolean ≠ 0))
          | .nul => pure .nul
          | .undefined => pure .undefined
          | _ => pure .strictArray

/-- The loop over the entries of an object, up to the empty key. -/
def parseEntries : Nat → List (Bytes × AMFValue) → Reader Stop (List (Bytes × AMFValue))
  | 0, _ => Reader.fail .endless
  | fuel + 1, dataObject => do
      let strLen ← readDataType 2 2 false 0
      if strLen = 0 then pure dataObject
      else
        let propName ← readDataBytes strLen
        let am ← parseValue fuel []
        parseEntries fuel (OrdMap.insert (cString propName) am dataObject)

end

def parseArray : Nat → List AMFValue → Reader Stop (List AMFValue)
  | 0, _ => Reader.fail .endless
  | fuel + 1, dataArray => do
      let dataLen ← Reader.dataLen
      if 0 < dataLen then
        let am ← parseValue fuel []
        parseArray fuel (dataArray ++ [am])
      else pure dataArray

/-- `ParseRef` of an object whose type is not `ROOT`. -/
def parseRef (dataObject : List (Bytes × AMFValue)) : Reader Stop AMFValue := do
  let dataLen ← Reader.dataLen
  parseValue (dataLen.toNat + 2) dataObject

/-- `ParseRef` of a `ROOT` that holds `dataArray`. -/
def parseRoot (dataArray : List AMFValue) : Reader Stop AMFValue := do
  let dataLen ← Reader.dataLen
  let values ← parseArray (dataLen.toNat + 3) dataArray
  pure (.root values)

/-! ## Access -/

/-- The getters assert the type. -/
def getString : AMFValue → Except Stop Bytes
  | .string dataString => .ok dataString
  | _ => .error .wrongType

def getNumber : AMFValue → Except Stop UInt64
  | .number dataNumber => .ok dataNumber
  | _ => .error .wrongType

def getBoolean : AMFValue → Except Stop Bool
  | .boolean dataBoolean => .ok dataBoolean
  | _ => .error .wrongType

/-- An iterator is the list of the values ahead of it, empty at `end()`. -/
def begin : AMFValue → Except Stop (List AMFValue)
  | .object dataObject | .ecmaArray dataObject => .ok (dataObject.map Prod.snd)
  | .root dataArray => .ok dataArray
  | _ => .error (.rtmpException .amf)

def deref : List AMFValue → Except Stop AMFValue
  | [] => .error .pastEnd
  | value :: _ => .ok value

def next : List AMFValue → Except Stop (List AMFValue)
  | [] => .error .pastEnd
  | _ :: rest => .ok rest

def atKey (value : AMFValue) (idx : Bytes) : Except Stop AMFValue :=
  match value with
  | .object dataObject | .ecmaArray dataObject =>
      match OrdMap.find? idx dataObject with
      | some found => .ok found
      | none => .error .outOfRange
  | _ => .error (.rtmpException .amf)

/-- `operator[]`, which finds a fresh value where there is none. -/
def index (value : AMFValue) (idx : Bytes) : Except Stop AMFValue :=
  match value with
  | .object dataObject | .ecmaArray dataObject =>
      .ok ((OrdMap.find? idx dataObject).getD .unknown)
  | _ => .error (.rtmpException .amf)

/-- A map after the assignments `object[key] = value`, in this order. -/
def assigned (assignments : List (Bytes × AMFValue)) : List (Bytes × AMFValue) :=
  assignments.foldl (fun entries entry => OrdMap.set entry.1 entry.2 entries) []

theorem find?_assigned (key : Bytes) (assignments : List (Bytes × AMFValue)) :
    OrdMap.find? key (assigned assignments) = OrdMap.last? key assignments := by
  rw [assigned, OrdMap.find?_foldl_set, OrdMap.find?, Option.or_none]

/-- A number set from an `int`. -/
def ofInt (number : Int) : AMFValue := .number (Binary64.ofInt number)

end AMFValue

def ascii (text : String) : Bytes := text.toByteArray.data.toList

@[simp] theorem ascii_inj {left right : String} : ascii left = ascii right ↔ left = right := by
  rw [ascii, ascii, Array.toList_inj, ← ByteArray.ext_iff, String.toByteArray_inj]

@[simp] theorem compare_ascii {left right : String} :
    compare (ascii left) (ascii right) = .eq ↔ left = right := by
  rw [Std.LawfulEqCmp.compare_eq_iff_eq, ascii_inj]

/-- Conversion of a `double` to an `int`.  Out of range it is undefined; the hosts
answer the least `int`. -/
def doubleToInt (bits : UInt64) : Int32 :=
  if Binary64.Finite bits ∧ -2 ^ 31 ≤ Binary64.truncate bits ∧ Binary64.truncate bits < 2 ^ 31 then
    Int32.ofInt (Binary64.truncate bits)
  else Int32.minValue

theorem doubleToInt_ofInt (number : Int32) :
    doubleToInt (Binary64.ofInt number.toInt) = number := by
  have low := number.le_toInt
  have high := number.toInt_lt
  have small : number.toInt.natAbs < 2 ^ 53 := by omega
  have exact_ := Binary64.truncate_ofInt small
  rw [doubleToInt, exact_, if_pos ⟨(Binary64.scaled_ofInt small).1, low, high⟩,
    Int32.ofInt_toInt]

end EasyRtmp
