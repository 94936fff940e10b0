import EasyRtmp.Framework
import Mathlib.Tactic.IntervalCases

/-!
# Both byte orders of the host

`ReadDataType` and `WriteDataType` have a branch for each byte order of the host.  The
writers of the two builds agree.  A number that is narrower than its variable is read
back by the little-endian build alone, and only in big-endian order.
-/

set_option autoImplicit false

namespace EasyRtmp

open Lib Lib.ByteCodec

/-! ## Swapping -/

theorem ntohs_bytes (t : UInt16) : leBytes 2 (ntohs t).toNat = (leBytes 2 t.toNat).reverse := by
  refine leBytes_swapped ?_
  intro index inside bit small
  rw [← UInt16.toNat_toBitVec, ← UInt16.toNat_toBitVec, BitVec.testBit_toNat,
    BitVec.testBit_toNat]
  simp only [ntohs, UInt16.toBitVec_or, UInt16.toBitVec_shiftLeft, UInt16.toBitVec_shiftRight,
    UInt16.toBitVec_ofNat]
  interval_cases index <;> interval_cases bit <;> simp

theorem ntohl_bytes (t : UInt32) : leBytes 4 (ntohl t).toNat = (leBytes 4 t.toNat).reverse := by
  refine leBytes_swapped ?_
  intro index inside bit small
  rw [← UInt32.toNat_toBitVec, ← UInt32.toNat_toBitVec, BitVec.testBit_toNat,
    BitVec.testBit_toNat]
  simp only [ntohl, UInt32.toBitVec_or, UInt32.toBitVec_and, UInt32.toBitVec_shiftLeft,
    UInt32.toBitVec_shiftRight, UInt32.toBitVec_ofNat]
  interval_cases index <;> interval_cases bit <;> simp

theorem ntohll_bytes (t : UInt64) : leBytes 8 (ntohll t).toNat = (leBytes 8 t.toNat).reverse := by
  refine leBytes_swapped ?_
  intro index inside bit small
  rw [← UInt64.toNat_toBitVec, ← UInt64.toNat_toBitVec, BitVec.testBit_toNat,
    BitVec.testBit_toNat]
  simp only [ntohll, UInt64.toBitVec_or, UInt64.toBitVec_and, UInt64.toBitVec_shiftLeft,
    UInt64.toBitVec_shiftRight, UInt64.toBitVec_ofNat]
  interval_cases index <;> interval_cases bit <;> simp

theorem swapVariable_image (hostBigEndian : Bool) {size value swapped : Nat}
    (sizes : size = 2 ∨ size = 4 ∨ size = 8)
    (bytes : leBytes size swapped = (leBytes size value).reverse) :
    swapVariable size (variableImage hostBigEndian size value) =
      variableImage hostBigEndian size swapped := by
  rw [swapVariable, if_pos sizes]
  cases hostBigEndian with
  | false => exact bytes.symm
  | true =>
      show (leBytes size value).reverse.reverse = (leBytes size swapped).reverse
      rw [bytes]

/-- On either host the three functions reverse the bytes of their variable. -/
theorem swapVariable_ntoh (hostBigEndian : Bool) :
    (∀ t : UInt16, swapVariable 2 (variableImage hostBigEndian 2 t.toNat) =
      variableImage hostBigEndian 2 (ntohs t).toNat) ∧
    (∀ t : UInt32, swapVariable 4 (variableImage hostBigEndian 4 t.toNat) =
      variableImage hostBigEndian 4 (ntohl t).toNat) ∧
    ∀ t : UInt64, swapVariable 8 (variableImage hostBigEndian 8 t.toNat) =
      variableImage hostBigEndian 8 (ntohll t).toNat :=
  ⟨fun t => swapVariable_image hostBigEndian (by decide) (ntohs_bytes t),
    fun t => swapVariable_image hostBigEndian (by decide) (ntohl_bytes t),
    fun t => swapVariable_image hostBigEndian (by decide) (ntohll_bytes t)⟩

/-! ## Writing and reading on either host -/

/-- The bytes of a number in the order that the flag asks for. -/
def wireBytes (littleEndian : Bool) (width value : Nat) : Bytes :=
  if littleEndian then leBytes width value else beBytes width value

def wireValue (littleEndian : Bool) (bytes : Bytes) : Nat :=
  if littleEndian then leValue bytes else beValue bytes

section Hosts
variable {size newSize value : Nat}

theorem wireBytes_length (littleEndian : Bool) :
    (wireBytes littleEndian size value).length = size := by
  cases littleEndian with
  | false => exact beBytes_length size value
  | true => exact leBytes_length size value

/-- What is written is the end of the variable in wire order, whatever the host. -/
theorem writeDataTypeOn_eq (sizes : size = 1 ∨ size = 2 ∨ size = 4 ∨ size = 8)
    (fits : newSize ≤ size) (hostBigEndian littleEndian : Bool) :
    writeDataTypeOn hostBigEndian size newSize littleEndian value =
      (wireBytes littleEndian size value).drop (size - newSize) := by
  have image : (if convertEndian hostBigEndian littleEndian then
      swapVariable size (variableImage hostBigEndian size value)
      else variableImage hostBigEndian size value) = wireBytes littleEndian size value := by
    cases hostBigEndian with
    | false =>
        cases littleEndian with
        | false => exact swapVariable_reverse sizes (leBytes_length size value)
        | true => rfl
    | true =>
        cases littleEndian with
        | false => rfl
        | true =>
            have swapped := swapVariable_reverse sizes (beBytes_length size value)
            rw [beBytes, List.reverse_reverse] at swapped
            exact swapped
  rw [writeDataTypeOn]
  simp only [image]
  refine List.take_of_length_le ?_
  rw [List.length_drop, wireBytes_length]
  omega

theorem variableImage_zero (hostBigEndian : Bool) :
    variableImage hostBigEndian size 0 = List.replicate size 0 := by
  cases hostBigEndian with
  | false => exact leBytes_zero size
  | true =>
      show (leBytes size 0).reverse = _
      rw [leBytes_zero, List.reverse_replicate]

/-- A number that is narrower than its variable is shifted up by what it lacks where the
host is big-endian. -/
theorem loadVariable_zero (sizes : size = 1 ∨ size = 2 ∨ size = 4 ∨ size = 8)
    (hostBigEndian littleEndian : Bool) {bytes : Bytes} (fits : bytes.length ≤ size) :
    loadVariable hostBigEndian size bytes.length littleEndian 0 bytes =
      if hostBigEndian then wireValue littleEndian bytes * 256 ^ (size - bytes.length)
      else wireValue littleEndian bytes := by
  have front : (List.replicate size (0 : UInt8)).take (size - bytes.length) =
      List.replicate (size - bytes.length) 0 := by
    rw [List.take_replicate, Nat.min_eq_left (Nat.sub_le _ _)]
  have whole : (List.replicate (size - bytes.length) 0 ++ bytes).length = size := by
    rw [List.length_append, List.length_replicate]
    omega
  have swapped := swapVariable_reverse sizes whole
  cases hostBigEndian with
  | false =>
      cases littleEndian with
      | false => exact loadVariable_be bytes sizes fits
      | true => exact loadVariable_le bytes
  | true =>
      cases littleEndian with
      | false =>
          simp only [loadVariable, variableImage_zero, convertEndian, variableValue,
            Bool.false_eq_true, if_false, if_true, wireValue, List.drop_replicate]
          exact beValue_append_zeros bytes (size - bytes.length)
      | true =>
          simp only [loadVariable, variableImage_zero, front, convertEndian, variableValue,
            if_true, swapped, wireValue, beValue, List.reverse_reverse]
          exact leValue_zeros_append bytes (size - bytes.length)

/-- What is left of a number when `lack` bytes of its variable are not written. -/
def writtenValue (littleEndian : Bool) (lack value : Nat) : Nat :=
  if littleEndian then value / 256 ^ lack else value

theorem wireValue_written (fits : newSize ≤ size) (small : value < 256 ^ newSize)
    (littleEndian : Bool) :
    wireValue littleEndian ((wireBytes littleEndian size value).drop (size - newSize)) =
      writtenValue littleEndian (size - newSize) value := by
  have width : size - (size - newSize) = newSize := by omega
  cases littleEndian with
  | false =>
      show beValue ((beBytes size value).drop (size - newSize)) = value
      rw [beBytes_drop value fits, beValue_beBytes_of_lt small]
  | true =>
      show leValue ((leBytes size value).drop (size - newSize)) = value / 256 ^ (size - newSize)
      rw [leBytes_drop value (Nat.sub_le _ _), width, leValue_leBytes]
      exact Nat.mod_eq_of_lt ((Nat.div_le_self _ _).trans_lt small)

/-- What either build reads of the written bytes. -/
theorem readDataTypeOn_written (sizes : size = 1 ∨ size = 2 ∨ size = 4 ∨ size = 8)
    (fits : newSize ≤ size) (small : value < 256 ^ newSize) (hostBigEndian littleEndian : Bool) :
    Reads (readDataTypeOn hostBigEndian size newSize littleEndian 0)
      (writeDataTypeOn false size newSize littleEndian value)
      (if hostBigEndian then
        writtenValue littleEndian (size - newSize) value * 256 ^ (size - newSize)
      else writtenValue littleEndian (size - newSize) value) := by
  have written := @writeDataTypeOn_eq size newSize value sizes fits false littleEndian
  have width : (writeDataTypeOn false size newSize littleEndian value).length = newSize := by
    rw [written, List.length_drop, wireBytes_length]
    omega
  have reads := @readDataTypeOn_reads size hostBigEndian littleEndian
    (writeDataTypeOn false size newSize littleEndian value)
  have load := loadVariable_zero sizes hostBigEndian littleEndian
    (by rw [width]; exact fits)
  rw [load, width] at reads
  rw [written, wireValue_written fits small littleEndian, ← written] at reads
  exact reads

/-! ## One wire format -/

/-- Both builds write the same bytes, as many as asked for, and each of them reads the
value back from these into a variable that holds zero. -/
structure OneFormat (size newSize : Nat) (littleEndian : Bool) (value : Nat) : Prop where
  width : (writeDataTypeOn false size newSize littleEndian value).length = newSize
  written : writeDataTypeOn true size newSize littleEndian value =
    writeDataTypeOn false size newSize littleEndian value
  read : ∀ hostBigEndian, Reads (readDataTypeOn hostBigEndian size newSize littleEndian 0)
    (writeDataTypeOn false size newSize littleEndian value) value

theorem one_format_iff (sizes : size = 1 ∨ size = 2 ∨ size = 4 ∨ size = 8) (fits : newSize ≤ size)
    (littleEndian : Bool) (small : value < 2 ^ (8 * newSize)) :
    OneFormat size newSize littleEndian value ↔ newSize = size ∨ value = 0 := by
  rw [Nat.pow_mul] at small
  have written := fun hostBigEndian => @writeDataTypeOn_eq size newSize value sizes fits
    hostBigEndian littleEndian
  have reads := fun hostBigEndian => readDataTypeOn_written sizes fits small hostBigEndian
    littleEndian
  constructor
  · intro format
    have little := (reads false).unique (format.read false)
    have big := (reads true).unique (format.read true)
    simp only [Bool.false_eq_true, if_false] at little
    rw [if_pos rfl, little] at big
    by_contra neither
    obtain ⟨narrow, nonzero⟩ := not_or.mp neither
    have shift : 1 < 256 ^ (size - newSize) := Nat.one_lt_pow (by omega) (by decide)
    have more := Nat.mul_lt_mul_of_pos_left shift (Nat.pos_of_ne_zero nonzero)
    omega
  · intro condition
    have kept : writtenValue littleEndian (size - newSize) value = value ∧
        value * 256 ^ (size - newSize) = value := by
      rcases condition with rfl | rfl
      · rw [Nat.sub_self, pow_zero, Nat.mul_one, writtenValue, pow_zero, Nat.div_one, ite_self]
        exact ⟨rfl, rfl⟩
      · rw [Nat.zero_mul, writtenValue, Nat.zero_div, ite_self]
        exact ⟨rfl, rfl⟩
    refine ⟨?_, ?_, ?_⟩
    · rw [written, List.length_drop, wireBytes_length]
      omega
    · rw [written, written]
    · intro hostBigEndian
      have read := reads hostBigEndian
      rw [kept.1, kept.2, ite_self] at read
      exact read

end Hosts

theorem four_bytes_one_format : OneFormat 4 4 true 305419896 :=
  (one_format_iff (by decide) (le_refl 4) true (by decide)).mpr (Or.inl rfl)

/-- A number of three bytes.  In big-endian order the big-endian host reads 256 for 1; in
little-endian order the lowest byte is not written. -/
theorem three_bytes_two_formats :
    writeDataTypeOn true 4 3 false 1 = [0, 0, 1] ∧
    Reads (readDataTypeOn true 4 3 false 0) [0, 0, 1] 256 ∧ ¬ OneFormat 4 3 false 1 ∧
    writeDataTypeOn false 4 3 true 1 = [0, 0, 0] ∧ ¬ OneFormat 4 3 true 1 := by
  have read : Reads (readDataTypeOn true 4 3 false 0) [0, 0, 1] 256 :=
    @readDataTypeOn_reads 4 true false [0, 0, 1]
  have short : Reads (readDataTypeOn false 4 3 true 0) [0, 0, 0] 0 :=
    @readDataTypeOn_reads 4 false true [0, 0, 0]
  refine ⟨by decide, read, ?_, by decide, ?_⟩
  · intro format
    exact absurd (read.unique (format.read true)) (by decide)
  · intro format
    exact absurd (short.unique (format.read false)) (by decide)

end EasyRtmp
