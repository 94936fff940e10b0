import EasyRtmp.AmfRoundTrip

/-!
# Announced and written lengths of AMF values

`GetLength` counts a string in full, `Serialize` writes as many of its bytes as its
two length bytes say.  `texts` are the strings and keys of a value at every depth,
and `shortage` is what is not written of them.
-/

set_option autoImplicit false

namespace EasyRtmp.AMFValue

open Lib Lib.ByteCodec

def children : AMFValue → List AMFValue
  | .object dataObject | .ecmaArray dataObject => dataObject.map Prod.snd
  | .root dataArray => dataArray
  | _ => []

theorem sizeOf_child {value child : AMFValue} (member : child ∈ value.children) :
    sizeOf child < sizeOf value := by
  have inEntries : ∀ entries : List (Bytes × AMFValue), child ∈ entries.map Prod.snd →
      sizeOf child < sizeOf entries := by
    intro entries member
    obtain ⟨entry, inside, rfl⟩ := List.mem_map.mp member
    have smaller := List.sizeOf_lt_of_mem inside
    obtain ⟨key, value⟩ := entry
    simp only [Prod.mk.sizeOf_spec] at smaller ⊢
    omega
  cases value with
  | object dataObject | ecmaArray dataObject =>
      have smaller := inEntries dataObject member
      simp only [object.sizeOf_spec, ecmaArray.sizeOf_spec]
      omega
  | root dataArray =>
      have smaller := List.sizeOf_lt_of_mem (show child ∈ dataArray from member)
      simp only [root.sizeOf_spec]
      omega
  | _ => cases member

/-- Induction over a value, with a hypothesis for each value directly inside. -/
theorem induction_on_children {P : AMFValue → Prop}
    (step : ∀ value, (∀ child ∈ value.children, P child) → P value) (value : AMFValue) :
    P value := by
  induction value using WellFounded.induction (measure (sizeOf (α := AMFValue))).wf with
  | h value inductionHypothesis =>
      exact step value fun child member => inductionHypothesis child (sizeOf_child member)

mutual

/-- What `getLength` adds up, as a number without bound. -/
def fullLength : AMFValue → Nat
  | .string dataString => 1 + 2 + dataString.length
  | .number _ => 1 + 8
  | .boolean _ => 2
  | .nul => 1
  | .object dataObject => 1 + fullLengthEntries dataObject + 3
  | .ecmaArray dataObject => 1 + 4 + fullLengthEntries dataObject + 3
  | .root dataArray => fullLengthArray dataArray
  | .strictArray | .undefined | .endOfObject | .unknown => 0

def fullLengthEntries : List (Bytes × AMFValue) → Nat
  | [] => 0
  | (key, value) :: entries => 2 + key.length + value.fullLength + fullLengthEntries entries

def fullLengthArray : List AMFValue → Nat
  | [] => 0
  | value :: values => value.fullLength + fullLengthArray values

end

mutual

/-- The strings and the keys of a value, at every depth. -/
def texts : AMFValue → List Bytes
  | .string dataString => [dataString]
  | .object dataObject | .ecmaArray dataObject => textsEntries dataObject
  | .root dataArray => textsArray dataArray
  | .number _ | .boolean _ | .nul | .strictArray | .undefined | .endOfObject | .unknown => []

def textsEntries : List (Bytes × AMFValue) → List Bytes
  | [] => []
  | (key, value) :: entries => key :: value.texts ++ textsEntries entries

def textsArray : List AMFValue → List Bytes
  | [] => []
  | value :: values => value.texts ++ textsArray values

end

/-- The bytes of the texts that their two length bytes do not count. -/
def shortage (texts : List Bytes) : Nat :=
  (texts.map fun text => text.length - text.length % 2 ^ 16).sum

theorem shortage_append (texts others : List Bytes) :
    shortage (texts ++ others) = shortage texts + shortage others := by
  simp only [shortage, List.map_append, List.sum_append]

theorem shortage_cons (text : Bytes) (texts : List Bytes) :
    shortage (text :: texts) = text.length - text.length % 2 ^ 16 + shortage texts := rfl

theorem shortage_eq_zero {texts : List Bytes} :
    shortage texts = 0 ↔ ∀ text ∈ texts, text.length < 2 ^ 16 := by
  rw [shortage, List.sum_eq_zero_iff_forall_eq_nat, List.forall_mem_map]
  refine forall₂_congr fun text _ => ?_
  have remainder := Nat.mod_lt text.length (show 0 < 2 ^ 16 by decide)
  constructor
  · intro none
    omega
  · intro short
    rw [Nat.mod_eq_of_lt short, Nat.sub_self]

/-- A string is written with what its length bytes count. -/
theorem serializeString_length (text : Bytes) :
    (serializeString text).length + (text.length - text.length % 2 ^ 16) = 2 + text.length := by
  have fewer := Nat.mod_le text.length (2 ^ 16)
  rw [serializeString, writeDataType_be _ (by omega) (Nat.le_refl 2), List.length_append,
    beBytes_length, List.length_take, Nat.min_eq_left fewer]
  omega

/-! ## Both recursions -/

/-- What `getLength` and `serialize` make of a value they accept. -/
structure Measured (value : AMFValue) : Prop where
  announced : value.getLength = .ok (toInt value.fullLength)
  written : ∃ bytes, value.serialize = .ok bytes ∧
    bytes.length + shortage value.texts = value.fullLength

theorem getLengthEntries_measured : ∀ entries : List (Bytes × AMFValue),
    (∀ entry ∈ entries, Measured entry.2) → ∀ start : Int,
      getLengthEntries (toInt (start + entries.length * 2)) entries =
        .ok (toInt (start + fullLengthEntries entries)) := by
  intro entries
  induction entries with
  | nil =>
      intro _ start
      simp [getLengthEntries, fullLengthEntries]
  | cons entry entries inductionHypothesis =>
      intro each start
      obtain ⟨key, value⟩ := entry
      obtain ⟨first, others⟩ := List.forall_mem_cons.mp each
      have next := inductionHypothesis others (start + (2 + key.length + value.fullLength))
      rw [getLengthEntries, first.announced]
      show getLengthEntries (toInt (toInt _ + (key.length + toInt value.fullLength))) _ = _
      have sum : toInt (toInt (start + ↑((key, value) :: entries).length * 2) +
          (key.length + toInt value.fullLength)) =
          toInt (start + (2 + key.length + value.fullLength) + entries.length * 2) := by
        rw [toInt_toInt_add, ← Int.add_assoc, Int.add_comm, toInt_toInt_add]
        congr 1
        rw [List.length_cons]
        push_cast
        ring
      rw [sum, next, fullLengthEntries]
      congr 2
      push_cast
      ring

theorem serializeEntries_measured : ∀ entries : List (Bytes × AMFValue),
    (∀ entry ∈ entries, Measured entry.2) → ∃ bytes, serializeEntries entries = .ok bytes ∧
      bytes.length + shortage (textsEntries entries) = fullLengthEntries entries := by
  intro entries
  induction entries with
  | nil => exact fun _ => ⟨[], by rw [serializeEntries], rfl⟩
  | cons entry entries inductionHypothesis =>
      intro each
      obtain ⟨key, value⟩ := entry
      obtain ⟨first, others⟩ := List.forall_mem_cons.mp each
      obtain ⟨bytes, written, length⟩ := first.written
      obtain ⟨rest, writtenRest, lengthRest⟩ := inductionHypothesis others
      dsimp only at written length
      refine ⟨serializeString key ++ bytes ++ rest, ?_, ?_⟩
      · rw [serializeEntries, written, writtenRest]
        rfl
      · have text := serializeString_length key
        simp only [textsEntries, fullLengthEntries, List.cons_append, shortage_cons,
          shortage_append, List.length_append]
        omega

theorem array_measured : ∀ values : List AMFValue, (∀ value ∈ values, Measured value) →
    (∀ start : Int, getLengthArray (toInt start) values =
      .ok (toInt (start + fullLengthArray values))) ∧
    ∃ bytes, serializeArray values = .ok bytes ∧
      bytes.length + shortage (textsArray values) = fullLengthArray values := by
  intro values
  induction values with
  | nil =>
      intro _
      refine ⟨fun start => ?_, [], by rw [serializeArray], rfl⟩
      simp [getLengthArray, fullLengthArray]
  | cons value values inductionHypothesis =>
      intro each
      obtain ⟨first, others⟩ := List.forall_mem_cons.mp each
      obtain ⟨bytes, written, length⟩ := first.written
      obtain ⟨next, rest, writtenRest, lengthRest⟩ := inductionHypothesis others
      refine ⟨fun start => ?_, bytes ++ rest, ?_, ?_⟩
      · rw [getLengthArray, first.announced]
        show getLengthArray (toInt (toInt start + toInt value.fullLength)) _ = _
        rw [toInt_toInt_add, Int.add_comm, toInt_toInt_add, next, fullLengthArray]
        congr 2
        push_cast
        ring
      · rw [serializeArray, written, writtenRest]
        rfl
      · simp only [textsArray, fullLengthArray, shortage_append, List.length_append]
        omega

theorem getLengthEntries_ok : ∀ entries : List (Bytes × AMFValue), ∀ res length : Int,
    getLengthEntries res entries = .ok length →
      ∀ entry ∈ entries, ∃ length, entry.2.getLength = .ok length := by
  intro entries
  induction entries with
  | nil => exact fun _ _ _ entry member => absurd member List.not_mem_nil
  | cons entry entries inductionHypothesis =>
      intro res length announced
      obtain ⟨key, value⟩ := entry
      rw [getLengthEntries] at announced
      cases first : value.getLength with
      | error stop =>
          rw [first] at announced
          cases announced
      | ok here =>
          rw [first] at announced
          exact List.forall_mem_cons.mpr ⟨⟨here, first⟩, inductionHypothesis _ _ announced⟩

theorem getLengthArray_ok : ∀ values : List AMFValue, ∀ res length : Int,
    getLengthArray res values = .ok length →
      ∀ value ∈ values, ∃ length, value.getLength = .ok length := by
  intro values
  induction values with
  | nil => exact fun _ _ _ value member => absurd member List.not_mem_nil
  | cons value values inductionHypothesis =>
      intro res length announced
      rw [getLengthArray] at announced
      cases first : value.getLength with
      | error stop =>
          rw [first] at announced
          cases announced
      | ok here =>
          rw [first] at announced
          exact List.forall_mem_cons.mpr ⟨⟨here, first⟩, inductionHypothesis _ _ announced⟩

/-- A value of a length without strings in it. -/
theorem Measured.fixed {value : AMFValue} {bytes : Bytes} (small : value.fullLength < 2 ^ 31)
    (announced : value.getLength = .ok (value.fullLength : Int))
    (written : value.serialize = .ok bytes) (length : bytes.length = value.fullLength)
    (none : value.texts = []) : Measured value := by
  refine ⟨by rw [announced, toInt_of_lt small], bytes, written, ?_⟩
  rw [none, length]
  rfl

theorem Measured.string (dataString : Bytes) : Measured (.string dataString) := by
  have whole := serializeString_length dataString
  refine ⟨?_, _, rfl, ?_⟩
  · rw [getLength, fullLength]
    congr 2
    push_cast
    ring
  · rw [texts, fullLength, List.length_cons, shortage_cons, shortage, List.map_nil, List.sum_nil]
    omega

/-- The bytes around the entries of an object. -/
theorem Measured.object {dataObject : List (Bytes × AMFValue)}
    (each : ∀ entry ∈ dataObject, Measured entry.2) : Measured (.object dataObject) := by
  obtain ⟨bytes, written, total⟩ := serializeEntries_measured dataObject each
  refine ⟨?_, _, by rw [serialize, written]; rfl, ?_⟩
  · have sum := getLengthEntries_measured dataObject each 4
    rw [getLength, fullLength]
    convert sum using 3 <;> push_cast <;> ring
  · rw [writeDataType_be _ (by omega) (Nat.le_refl 2), texts, fullLength]
    simp only [List.length_append, List.length_cons, List.length_nil, beBytes_length]
    omega

theorem Measured.ecmaArray {dataObject : List (Bytes × AMFValue)}
    (each : ∀ entry ∈ dataObject, Measured entry.2) : Measured (.ecmaArray dataObject) := by
  obtain ⟨bytes, written, total⟩ := serializeEntries_measured dataObject each
  refine ⟨?_, _, by rw [serialize, written]; rfl, ?_⟩
  · have sum := getLengthEntries_measured dataObject each 8
    rw [getLength, fullLength, toInt_toInt_add]
    convert sum using 3 <;> push_cast <;> ring
  · rw [writeDataType_be _ (by omega) (Nat.le_refl 2),
      writeDataType_be _ (by omega) (Nat.le_refl 4), texts, fullLength]
    simp only [List.length_append, List.length_cons, List.length_nil, beBytes_length]
    omega

theorem Measured.root {dataArray : List AMFValue} (each : ∀ value ∈ dataArray, Measured value) :
    Measured (.root dataArray) := by
  obtain ⟨sum, bytes, written, total⟩ := array_measured dataArray each
  refine ⟨?_, bytes, by rw [serialize, written], by rw [texts, fullLength, total]⟩
  have fromZero := sum 0
  rwa [Int.zero_add, show toInt 0 = 0 by decide] at fromZero

/-- Every value whose length is announced is measured. -/
theorem measured_of_getLength : ∀ value : AMFValue, ∀ length : Int,
    value.getLength = .ok length → Measured value := by
  intro value
  induction value using induction_on_children with
  | step value inductionHypothesis =>
      intro length announced
      cases value with
      | string dataString => exact .string dataString
      | number dataNumber =>
          refine .fixed (show 9 < 2 ^ 31 by decide) rfl rfl ?_ rfl
          rw [writeDataType_be _ (by omega) (Nat.le_refl 8), List.length_cons, beBytes_length]
          rfl
      | boolean dataBoolean => exact .fixed (show 2 < 2 ^ 31 by decide) rfl rfl rfl rfl
      | nul => exact .fixed (show 1 < 2 ^ 31 by decide) rfl rfl rfl rfl
      | object dataObject =>
          refine .object fun entry member => ?_
          obtain ⟨here, ok⟩ := getLengthEntries_ok dataObject _ length announced entry member
          exact inductionHypothesis entry.2 (List.mem_map_of_mem member) here ok
      | ecmaArray dataObject =>
          refine .ecmaArray fun entry member => ?_
          obtain ⟨here, ok⟩ := getLengthEntries_ok dataObject _ length announced entry member
          exact inductionHypothesis entry.2 (List.mem_map_of_mem member) here ok
      | root dataArray =>
          refine .root fun value member => ?_
          obtain ⟨here, ok⟩ := getLengthArray_ok dataArray _ length announced value member
          exact inductionHypothesis value member here ok
      | strictArray | undefined | endOfObject | unknown => cases announced

/-! ## Exact lengths -/

/-- `GetLength` announces what `Serialize` writes, and `SerializeToBuffer` returns that. -/
def LengthExact (value : AMFValue) : Prop :=
  ∃ bytes, value.serialize = .ok bytes ∧ value.getLength = .ok (bytes.length : Int) ∧
    value.toSerializable.serializeToBuffer = .ok bytes

theorem length_exact_iff {value : AMFValue} {length : Int}
    (announced : value.getLength = .ok length) (small : value.fullLength < 2 ^ 31) :
    LengthExact value ↔ ∀ text ∈ value.texts, text.length < 2 ^ 16 := by
  have measured := measured_of_getLength value length announced
  obtain ⟨bytes, written, total⟩ := measured.written
  have counted : value.getLength = .ok (value.fullLength : Int) := by
    rw [measured.announced, toInt_of_lt small]
  rw [← shortage_eq_zero]
  constructor
  · rintro ⟨bytes', written', counted', -⟩
    obtain rfl := Except.ok.inj (written.symm.trans written')
    have same := Except.ok.inj (counted.symm.trans counted')
    omega
  · intro none
    have same : value.fullLength = bytes.length := by omega
    rw [same] at counted
    exact ⟨bytes, written, counted, serializeToBuffer_exact counted written⟩

theorem string_in_object_exact : LengthExact (.object [([97], .string [98])]) := by
  have announced : (AMFValue.object [([97], .string [98])]).getLength = .ok 11 := by decide
  refine (length_exact_iff announced (by decide)).mpr ?_
  decide

/-- Of a string of 65536 bytes none is written. -/
theorem string_cut_to_nothing :
    (AMFValue.string (List.replicate 65536 97)).getLength = .ok 65539 ∧
    (AMFValue.string (List.replicate 65536 97)).fullLength < 2 ^ 31 ∧
    (AMFValue.string (List.replicate 65536 97)).serialize = .ok [2, 0, 0] ∧
    ¬ LengthExact (.string (List.replicate 65536 97)) := by
  have length : (List.replicate 65536 (97 : UInt8)).length = 65536 := List.length_replicate
  have announced : (AMFValue.string (List.replicate 65536 97)).getLength = .ok 65539 := by
    rw [getLength, length]
    rfl
  have written : (AMFValue.string (List.replicate 65536 97)).serialize = .ok [2, 0, 0] := by
    rw [serialize, serializeString, length]
    rfl
  refine ⟨announced, by rw [fullLength, length]; decide, written, ?_⟩
  rintro ⟨bytes, written', announced', -⟩
  obtain rfl := Except.ok.inj (written.symm.trans written')
  cases announced.symm.trans announced'

end EasyRtmp.AMFValue
