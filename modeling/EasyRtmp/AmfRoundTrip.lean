import Mathlib.Tactic.NormNum
import Mathlib.Data.List.TakeWhile
import EasyRtmp.Amf

/-!
# AMF0 values survive the wire

`Encodes value bytes` collects what a caller needs of an encoding: `Serialize`
writes `bytes`, `GetLength` counts them, and `ParseRef` reads `value` back from
them, whatever follows.  Every value of the supported types has one, and so has
every list of them in a `ROOT`, as long as the bytes can be counted in an `int`.
-/

set_option autoImplicit false

namespace EasyRtmp

open Lib Lib.ByteCodec

namespace AMFValue

/-! ## Strings -/

/-- A string that a C string of at most 65535 bytes can carry. -/
structure FitsString (text : Bytes) : Prop where
  zeroFree : 0 ∉ text
  short : text.length < 2 ^ 16

theorem cString_zeroFree : ∀ {text : Bytes}, 0 ∉ text → cString text = text := by
  intro text zeroFree
  refine List.takeWhile_eq_self_iff.mpr ?_
  intro byte member
  have differs : byte ≠ 0 := by
    rintro rfl
    exact zeroFree member
  simpa using differs

theorem serializeString_fits : ∀ {text : Bytes}, FitsString text →
    serializeString text = beBytes 2 text.length ++ text := by
  intro text fits
  have whole : text.length % 2 ^ 16 = text.length := Nat.mod_eq_of_lt fits.short
  rw [serializeString, whole, List.take_length,
    writeDataType_be _ (Or.inr (Or.inl rfl)) (Nat.le_refl 2)]

theorem strLen_reads : ∀ {text : Bytes}, FitsString text →
    Reads (readDataType 2 2 false 0) (beBytes 2 text.length) text.length := by
  intro text fits
  have short := fits.short
  exact readDataType_beBytes 2 text.length (Or.inr (Or.inl rfl)) (by omega)

theorem parseString_reads : ∀ {text : Bytes}, FitsString text →
    Reads parseString (serializeString text) text := by
  intro text fits
  have body := (readDataBytes_reads text).map cString
  rw [cString_zeroFree fits.zeroFree] at body
  rw [serializeString_fits fits]
  exact (strLen_reads fits).bind body

/-! ## What an encoding is -/

structure Encodes (value : AMFValue) (bytes : Bytes) : Prop where
  serialized : value.serialize = .ok bytes
  counted : value.getLength = .ok (toInt bytes.length)
  nonempty : 0 < bytes.length
  parsed : ∀ fuel, bytes.length < fuel → Reads (parseValue fuel []) bytes value

theorem toInt_toInt_add (left right : Int) : toInt (toInt left + right) = toInt (left + right) := by
  simp [toInt]

theorem Encodes.parseRef_reads : ∀ {value : AMFValue} {bytes : Bytes}, Encodes value bytes →
    Reads (parseRef []) bytes value := by
  intro value bytes encodes memory cursor holds announced
  have enough : bytes.length < cursor.dataLen.toNat + 2 := by omega
  exact encodes.parsed _ enough memory cursor holds announced

theorem Encodes.string : ∀ {text : Bytes}, FitsString text →
    Encodes (.string text) (AMFType.string.code :: serializeString text) := by
  intro text fits
  have width : (AMFType.string.code :: serializeString text).length = text.length + 2 + 1 := by
    rw [serializeString_fits fits]
    simp
    omega
  refine ⟨rfl, ?_, by omega, ?_⟩
  · rw [width]
    simp [getLength]
  · intro fuel enough
    obtain ⟨fuel, rfl⟩ := Nat.exists_eq_succ_of_ne_zero (show fuel ≠ 0 by omega)
    exact Reads.tag rfl ((parseString_reads fits).map AMFValue.string)

theorem Encodes.number (bits : UInt64) :
    Encodes (.number bits) (AMFType.number.code :: beBytes 8 bits.toNat) := by
  refine ⟨?_, ?_, by simp, ?_⟩
  · rw [serialize, writeDataType_be _ (Or.inr (Or.inr (Or.inr rfl))) (Nat.le_refl 8)]
  · rw [List.length_cons, beBytes_length]
    rfl
  · intro fuel enough
    obtain ⟨fuel, rfl⟩ := Nat.exists_eq_succ_of_ne_zero (show fuel ≠ 0 by omega)
    have inRange : bits.toNat < 256 ^ 8 := by
      have small := bits.toNat_lt
      omega
    have read := (readDataType_beBytes 8 bits.toNat (Or.inr (Or.inr (Or.inr rfl))) inRange).map
      fun dataNumber => AMFValue.number (UInt64.ofNat dataNumber)
    rw [UInt64.ofNat_toNat] at read
    exact Reads.tag rfl read

theorem Encodes.boolean (flag : Bool) :
    Encodes (.boolean flag) [AMFType.boolean.code, if flag then 1 else 0] := by
  refine ⟨rfl, by rw [toInt_of_lt (by simp)]; rfl, by simp, ?_⟩
  intro fuel enough
  obtain ⟨fuel, rfl⟩ := Nat.exists_eq_succ_of_ne_zero (show fuel ≠ 0 by omega)
  have read := (readDataType_reads_be 1 [if flag then 1 else 0] (Or.inl rfl)
    (Nat.le_refl 1)).map fun dataBoolean => AMFValue.boolean (decide (dataBoolean ≠ 0))
  have decoded : decide (beValue [if flag then (1 : UInt8) else 0] ≠ 0) = flag := by
    cases flag <;> rfl
  rw [decoded] at read
  exact Reads.tag rfl read

theorem Encodes.nul : Encodes .nul [AMFType.nul.code] := by
  refine ⟨rfl, by rw [toInt_of_lt (by simp)]; rfl, by simp, ?_⟩
  intro fuel enough
  obtain ⟨fuel, rfl⟩ := Nat.exists_eq_succ_of_ne_zero (show fuel ≠ 0 by omega)
  exact Reads.tag rfl (Reads.pure AMFValue.nul)

/-! ## Objects -/

/-- What the loops over the entries of an object make of them. -/
structure EncodesEntries (entries : List (Bytes × AMFValue)) (bytes : Bytes) : Prop where
  serialized : serializeEntries entries = .ok bytes
  counted : ∀ start : Int, getLengthEntries (toInt (start + 2 * entries.length)) entries =
    .ok (toInt (start + bytes.length))
  parsed : ∀ fuel present, bytes.length < fuel → OrdMap.Sorted (present ++ entries) →
    Reads (parseEntries fuel present) (bytes ++ beBytes 2 0) (present ++ entries)

theorem EncodesEntries.nil : EncodesEntries [] [] := by
  refine ⟨rfl, ?_, ?_⟩
  · intro start
    simp [getLengthEntries]
  · intro fuel present enough _
    obtain ⟨fuel, rfl⟩ := Nat.exists_eq_succ_of_ne_zero (show fuel ≠ 0 by omega)
    have terminator := readDataType_beBytes 2 0 (Or.inr (Or.inl rfl)) (by norm_num)
    have read : Reads (parseEntries (fuel + 1) present) (beBytes 2 0 ++ []) present := by
      rw [parseEntries]
      exact terminator.bind (Reads.pure present)
    simpa using read

theorem EncodesEntries.cons : ∀ {key : Bytes} {value : AMFValue}
    {entries : List (Bytes × AMFValue)} {bytes rest : Bytes},
    key ≠ [] → FitsString key → Encodes value bytes → EncodesEntries entries rest →
      EncodesEntries ((key, value) :: entries) (serializeString key ++ bytes ++ rest) := by
  intro key value entries bytes rest nonempty fits head tail
  refine ⟨?_, ?_, ?_⟩
  · simp [serializeEntries, head.serialized, tail.serialized, bind, Except.bind]
  · intro start
    have next := tail.counted (start + 2 + key.length + bytes.length)
    have shifted : toInt (toInt (start + 2 * ((key, value) :: entries).length) +
        (key.length + toInt bytes.length)) =
        toInt (start + 2 + key.length + bytes.length + 2 * entries.length) := by
      rw [toInt_toInt_add, ← Int.add_assoc, Int.add_comm, toInt_toInt_add, List.length_cons]
      congr 1
      push_cast
      omega
    have total : start + 2 + key.length + bytes.length + rest.length =
        start + (serializeString key ++ bytes ++ rest).length := by
      rw [serializeString_fits fits]
      simp only [List.length_append, beBytes_length]
      push_cast
      omega
    rw [getLengthEntries, head.counted]
    show getLengthEntries (toInt (toInt _ + (key.length + toInt bytes.length))) entries = _
    rw [shifted, next, total]
  · intro fuel present enough sorted
    obtain ⟨fuel, rfl⟩ := Nat.exists_eq_succ_of_ne_zero (show fuel ≠ 0 by omega)
    have keyBytes := serializeString_fits fits
    simp only [keyBytes, List.length_append, beBytes_length] at enough
    have above : ∀ entry ∈ present, compare entry.1 key = .lt := by
      intro entry member
      exact (List.pairwise_append.mp sorted).2.2 entry member (key, value) (List.mem_cons_self ..)
    have regrouped : present ++ (key, value) :: entries =
        present ++ [(key, value)] ++ entries := by simp
    have later := tail.parsed fuel (present ++ [(key, value)]) (by omega) (regrouped ▸ sorted)
    rw [← OrdMap.insert_of_above above] at later
    have step : Reads (parseEntries (fuel + 1) present)
        (beBytes 2 key.length ++ (key ++ (bytes ++ (rest ++ beBytes 2 0))))
        (present ++ (key, value) :: entries) := by
      rw [parseEntries, regrouped, ← OrdMap.insert_of_above above]
      refine (strLen_reads fits).bind ?_
      rw [if_neg (List.length_pos_iff.mpr nonempty).ne']
      refine (readDataBytes_reads key).bind ?_
      rw [cString_zeroFree fits.zeroFree]
      exact (head.parsed fuel (by omega)).bind later
    simpa [keyBytes] using step

theorem Encodes.object : ∀ {entries : List (Bytes × AMFValue)} {bytes : Bytes},
    OrdMap.Sorted entries → EncodesEntries entries bytes →
      Encodes (.object entries)
        (AMFType.object.code :: bytes ++ beBytes 2 0 ++ [AMFType.endOfObject.code]) := by
  intro entries bytes sorted inner
  have width : (AMFType.object.code :: bytes ++ beBytes 2 0 ++
      [AMFType.endOfObject.code]).length = bytes.length + 4 := by simp
  refine ⟨?_, ?_, by omega, ?_⟩
  · rw [serialize, inner.serialized, ← writeDataType_be 0 (Or.inr (Or.inl rfl)) (Nat.le_refl 2)]
    rfl
  · have count := inner.counted 4
    rw [getLength, width]
    have start : (1 + (entries.length : Int) * 2 + 3) = 4 + 2 * entries.length := by omega
    rw [start, count, Nat.cast_add, Int.add_comm]
    rfl
  · intro fuel enough
    obtain ⟨fuel, rfl⟩ := Nat.exists_eq_succ_of_ne_zero (show fuel ≠ 0 by omega)
    have read : Reads (do
        let entries ← parseEntries fuel []
        Reader.skip 1
        pure (AMFValue.object entries))
        (bytes ++ beBytes 2 0 ++ ([AMFType.endOfObject.code] ++ [])) (.object entries) :=
      (inner.parsed fuel [] (by omega) sorted).bind
        ((Reads.skip [AMFType.endOfObject.code]).bind (Reads.pure _))
    exact Reads.tag rfl (by simpa using read)

theorem Encodes.ecmaArray : ∀ {entries : List (Bytes × AMFValue)} {bytes : Bytes},
    OrdMap.Sorted entries → EncodesEntries entries bytes →
      Encodes (.ecmaArray entries)
        (AMFType.ecmaArray.code :: beBytes 4 entries.length ++ bytes ++ beBytes 2 0 ++
          [AMFType.endOfObject.code]) := by
  intro entries bytes sorted inner
  have width : (AMFType.ecmaArray.code :: beBytes 4 entries.length ++ bytes ++ beBytes 2 0 ++
      [AMFType.endOfObject.code]).length = bytes.length + 8 := by
    simp
    omega
  refine ⟨?_, ?_, by omega, ?_⟩
  · rw [serialize, inner.serialized, ← writeDataType_be 0 (Or.inr (Or.inl rfl)) (Nat.le_refl 2),
      ← writeDataType_be entries.length (Or.inr (Or.inr (Or.inl rfl))) (Nat.le_refl 4)]
    rfl
  · have count := inner.counted 8
    rw [getLength, width]
    have start : (1 + (entries.length : Int) * 2 + 3 + 4) = 8 + 2 * entries.length := by omega
    rw [toInt_toInt_add, start, count, Nat.cast_add, Int.add_comm]
    rfl
  · intro fuel enough
    obtain ⟨fuel, rfl⟩ := Nat.exists_eq_succ_of_ne_zero (show fuel ≠ 0 by omega)
    have counter : Reads (readDataType 4 4 false 0) (beBytes 4 entries.length)
        (beValue (beBytes 4 entries.length)) := by
      have read := readDataType_reads_be 4 (beBytes 4 entries.length) (Or.inr (Or.inr (Or.inl rfl)))
        (by simp)
      rwa [beBytes_length] at read
    have read : Reads (do
        let _ ← readDataType 4 4 false 0
        let entries ← parseEntries fuel []
        Reader.skip 1
        pure (AMFValue.ecmaArray entries))
        (beBytes 4 entries.length ++ (bytes ++ beBytes 2 0 ++
          ([AMFType.endOfObject.code] ++ []))) (.ecmaArray entries) :=
      counter.bind ((inner.parsed fuel [] (by omega) sorted).bind
        ((Reads.skip [AMFType.endOfObject.code]).bind (Reads.pure _)))
    exact Reads.tag rfl (by simpa using read)

/-! ## The supported values -/

/-- Values nested to any depth, the entries of an object in the order of a map. -/
inductive Encodable : AMFValue → Prop where
  | string {text : Bytes} (fits : FitsString text) : Encodable (.string text)
  | number (bits : UInt64) : Encodable (.number bits)
  | boolean (flag : Bool) : Encodable (.boolean flag)
  | nul : Encodable .nul
  | object {entries : List (Bytes × AMFValue)} (sorted : OrdMap.Sorted entries)
      (keys : ∀ entry ∈ entries, entry.1 ≠ [] ∧ FitsString entry.1)
      (values : ∀ entry ∈ entries, Encodable entry.2) : Encodable (.object entries)
  | ecmaArray {entries : List (Bytes × AMFValue)} (sorted : OrdMap.Sorted entries)
      (keys : ∀ entry ∈ entries, entry.1 ≠ [] ∧ FitsString entry.1)
      (values : ∀ entry ∈ entries, Encodable entry.2) : Encodable (.ecmaArray entries)

theorem encodesEntries_of_each : ∀ (entries : List (Bytes × AMFValue)),
    (∀ entry ∈ entries, entry.1 ≠ [] ∧ FitsString entry.1) →
    (∀ entry ∈ entries, ∃ bytes, Encodes entry.2 bytes) →
      ∃ bytes, EncodesEntries entries bytes := by
  intro entries
  induction entries with
  | nil => exact fun _ _ => ⟨[], EncodesEntries.nil⟩
  | cons entry entries inductionHypothesis =>
      intro keys values
      obtain ⟨key, value⟩ := entry
      obtain ⟨nonempty, fits⟩ := keys _ (List.mem_cons_self ..)
      obtain ⟨bytes, head⟩ := values _ (List.mem_cons_self ..)
      obtain ⟨rest, tail⟩ := inductionHypothesis
        (fun other member => keys other (List.mem_cons_of_mem _ member))
        (fun other member => values other (List.mem_cons_of_mem _ member))
      exact ⟨_, EncodesEntries.cons nonempty fits head tail⟩

theorem Encodable.encodes : ∀ {value : AMFValue}, Encodable value →
    ∃ bytes, Encodes value bytes := by
  intro value encodable
  induction encodable with
  | string fits => exact ⟨_, Encodes.string fits⟩
  | number bits => exact ⟨_, Encodes.number bits⟩
  | boolean flag => exact ⟨_, Encodes.boolean flag⟩
  | nul => exact ⟨_, Encodes.nul⟩
  | object sorted keys _ inductionHypothesis =>
      obtain ⟨bytes, inner⟩ := encodesEntries_of_each _ keys inductionHypothesis
      exact ⟨_, Encodes.object sorted inner⟩
  | ecmaArray sorted keys _ inductionHypothesis =>
      obtain ⟨bytes, inner⟩ := encodesEntries_of_each _ keys inductionHypothesis
      exact ⟨_, Encodes.ecmaArray sorted inner⟩

/-! ## Lists of values -/

/-- What the loops of a `ROOT` make of the values it holds.  The loop that reads
them stops where the announced length does. -/
structure EncodesArray (values : List AMFValue) (bytes : Bytes) : Prop where
  serialized : serializeArray values = .ok bytes
  counted : ∀ start : Int, getLengthArray (toInt start) values = .ok (toInt (start + bytes.length))
  parsed : ∀ fuel present memory (cursor : Cursor), bytes.length + 1 < fuel →
    Holds memory cursor.data bytes → cursor.dataLen = bytes.length →
      ∃ readEnd, readEnd ≤ max cursor.readEnd (cursor.data + bytes.length) ∧
        parseArray fuel present memory cursor =
          .ok (present ++ values) ⟨cursor.data + bytes.length, 0, readEnd⟩

theorem EncodesArray.nil : EncodesArray [] [] := by
  refine ⟨rfl, ?_, ?_⟩
  · intro start
    simp [getLengthArray]
  · intro fuel present memory cursor enough _ announced
    obtain ⟨fuel, rfl⟩ := Nat.exists_eq_succ_of_ne_zero (show fuel ≠ 0 by omega)
    obtain ⟨data, dataLen, readEnd⟩ := cursor
    simp only [List.length_nil, Nat.cast_zero] at announced
    subst announced
    exact ⟨readEnd, Nat.le_max_left _ _, by rw [List.append_nil]; rfl⟩

/-- One pass of the loop of a `ROOT`, over a value that is read. -/
theorem parseArray_step {fuel : Nat} {bytes rest : Bytes} {value : AMFValue}
    (nonempty : 0 < bytes.length) (reads : Reads (parseValue fuel []) bytes value)
    (present : List AMFValue) {memory : Nat → UInt8} {cursor : Cursor}
    (holds : Holds memory cursor.data (bytes ++ rest))
    (announced : cursor.dataLen = (bytes ++ rest).length) :
    ∃ middle, middle ≤ max cursor.readEnd (cursor.data + bytes.length) ∧
      Holds memory (cursor.data + bytes.length) rest ∧
      parseArray (fuel + 1) present memory cursor = parseArray fuel (present ++ [value]) memory
        ⟨cursor.data + bytes.length, rest.length, middle⟩ := by
  rw [List.length_append, Nat.cast_add] at announced
  obtain ⟨frontHeld, backHeld⟩ := holds_append.mp holds
  obtain ⟨middle, bound, one⟩ := reads memory cursor frontHeld (by omega)
  have left : cursor.dataLen - bytes.length = rest.length := by omega
  rw [left] at one
  have more : 0 < cursor.dataLen := by omega
  refine ⟨middle, bound, backHeld, ?_⟩
  rw [parseArray, Reader.bind_apply]
  simp only [Reader.dataLen, if_pos more]
  exact Reader.bind_ok one _

theorem EncodesArray.cons : ∀ {value : AMFValue} {values : List AMFValue} {bytes rest : Bytes},
    Encodes value bytes → EncodesArray values rest →
      EncodesArray (value :: values) (bytes ++ rest) := by
  intro value values bytes rest head tail
  refine ⟨?_, ?_, ?_⟩
  · simp [serializeArray, head.serialized, tail.serialized, bind, Except.bind]
  · intro start
    have next := tail.counted (start + bytes.length)
    have shifted : toInt (toInt start + toInt bytes.length) = toInt (start + bytes.length) := by
      rw [toInt_toInt_add, Int.add_comm, toInt_toInt_add, Int.add_comm]
    rw [getLengthArray, head.counted]
    show getLengthArray (toInt (toInt start + toInt bytes.length)) values = _
    rw [shifted, next, List.length_append, Nat.cast_add, Int.add_assoc]
  · intro fuel present memory cursor enough holds announced
    obtain ⟨fuel, rfl⟩ := Nat.exists_eq_succ_of_ne_zero (show fuel ≠ 0 by omega)
    have positive := head.nonempty
    rw [List.length_append] at enough
    obtain ⟨middle, middleBound, backHeld, step⟩ :=
      parseArray_step positive (head.parsed fuel (by omega)) present holds announced
    obtain ⟨readEnd, bound, others⟩ := tail.parsed fuel (present ++ [value]) memory
      ⟨cursor.data + bytes.length, rest.length, middle⟩ (by omega) backHeld rfl
    refine ⟨readEnd, ?_, ?_⟩
    · rw [List.length_append]
      simp only at bound
      omega
    · rw [step, others, List.length_append, Nat.add_assoc, List.append_assoc]
      rfl

theorem encodesArray_of_each : ∀ (values : List AMFValue),
    (∀ value ∈ values, ∃ bytes, Encodes value bytes) → ∃ bytes, EncodesArray values bytes := by
  intro values
  induction values with
  | nil => exact fun _ => ⟨[], EncodesArray.nil⟩
  | cons value values inductionHypothesis =>
      intro each
      obtain ⟨bytes, head⟩ := each _ (List.mem_cons_self ..)
      obtain ⟨rest, tail⟩ := inductionHypothesis
        fun other member => each other (List.mem_cons_of_mem _ member)
      exact ⟨_, EncodesArray.cons head tail⟩

theorem EncodesArray.parseRoot_ok : ∀ {values : List AMFValue} {bytes : Bytes},
    EncodesArray values bytes → ∃ readEnd, readEnd ≤ bytes.length ∧
      parseRoot [] (memoryOf bytes fun _ => 0) ⟨0, bytes.length, 0⟩ =
        .ok (.root values) ⟨bytes.length, 0, readEnd⟩ := by
  intro values bytes encodes
  obtain ⟨readEnd, bound, parsed⟩ := encodes.parsed (bytes.length + 3) []
    (memoryOf bytes fun _ => 0) ⟨0, bytes.length, 0⟩ (by omega) (holds_memoryOf bytes _) rfl
  simp only [Nat.zero_add, Nat.zero_max, List.nil_append] at bound parsed
  refine ⟨readEnd, bound, ?_⟩
  rw [parseRoot, Reader.bind_apply]
  simp only [Reader.dataLen, Int.toNat_natCast]
  exact Reader.bind_ok parsed _

theorem EncodesArray.getLength_root : ∀ {values : List AMFValue} {bytes : Bytes},
    EncodesArray values bytes → (AMFValue.root values).getLength = .ok (toInt bytes.length) := by
  intro values bytes encodes
  have count := encodes.counted 0
  have zero : toInt 0 = 0 := by simp [toInt]
  rw [Int.zero_add, zero] at count
  rw [getLength, count]

/-- A `ROOT` of up to 2^31 - 1 bytes reaches a buffer and comes back from it. -/
theorem EncodesArray.buffer : ∀ {values : List AMFValue} {bytes : Bytes},
    EncodesArray values bytes → bytes.length < 2 ^ 31 →
      (toSerializable (.root values)).serializeToBuffer = .ok bytes ∧
        parseBuffer (parseRoot []) bytes = .ok (.root values) := by
  intro values bytes encodes fits
  constructor
  · have counted := encodes.getLength_root
    rw [toInt_of_lt fits] at counted
    exact serializeToBuffer_exact counted encodes.serialized
  · obtain ⟨readEnd, bound, ran⟩ := encodes.parseRoot_ok
    have inside : ¬ bytes.length < readEnd := Nat.not_lt.mpr bound
    unfold parseBuffer
    rw [toInt_of_lt fits, ran]
    exact if_neg inside

/-- Decoding undoes encoding: for one value in front of any further bytes, and for
a whole `ROOT`. -/
theorem amf_round_trip :
    (∀ value, Encodable value → ∃ bytes, value.serialize = .ok bytes ∧
      ∀ suffix memory start readEnd, (bytes ++ suffix).length < 2 ^ 31 →
        Holds memory start (bytes ++ suffix) →
        ∃ after, parseRef [] memory ⟨start, (bytes ++ suffix).length, readEnd⟩ =
          .ok value ⟨start + bytes.length, suffix.length, after⟩) ∧
    (∀ values, (∀ value ∈ values, Encodable value) →
      ∃ bytes, (AMFValue.root values).serialize = .ok bytes ∧
        (bytes.length < 2 ^ 31 →
          (toSerializable (.root values)).serializeToBuffer = .ok bytes ∧
            parseBuffer (parseRoot []) bytes = .ok (.root values))) := by
  constructor
  · intro value encodable
    obtain ⟨bytes, encodes⟩ := encodable.encodes
    refine ⟨bytes, encodes.serialized, ?_⟩
    intro suffix memory start readEnd _ holds
    have announced : (bytes.length : Int) ≤ (bytes ++ suffix).length := by
      rw [List.length_append]
      omega
    obtain ⟨after, -, parsed⟩ := encodes.parseRef_reads memory
      ⟨start, (bytes ++ suffix).length, readEnd⟩ (holds_append.mp holds).1 announced
    have left : ((bytes ++ suffix).length : Int) - bytes.length = suffix.length := by
      rw [List.length_append]
      omega
    exact ⟨after, left ▸ parsed⟩
  · intro values each
    obtain ⟨bytes, encodes⟩ := encodesArray_of_each values fun value member =>
      (each value member).encodes
    exact ⟨bytes, encodes.serialized, encodes.buffer⟩

theorem metadata_list_round_trip :
    (∃ bytes, (AMFValue.root [.string [97], .object [([107], .number 0)]]).serialize = .ok bytes ∧
      parseBuffer (parseRoot []) bytes =
        .ok (.root [.string [97], .object [([107], .number 0)]])) := by
  have fits : ∀ byte : UInt8, byte ≠ 0 → FitsString [byte] := by
    intro byte nonzero
    exact ⟨by simpa using nonzero.symm, by simp⟩
  have encodable : ∀ value ∈ [AMFValue.string [97], .object [([107], .number 0)]],
      Encodable value := by
    intro value member
    rcases List.mem_pair.mp member with rfl | rfl
    · exact .string (fits 97 (by decide))
    · exact .object (List.pairwise_singleton _ _) (by simpa using fits 107 (by decide))
        (by simpa using Encodable.number 0)
  obtain ⟨bytes, written, small⟩ := amf_round_trip.2 _ encodable
  have run : (AMFValue.root [.string [97], .object [([107], .number 0)]]).serialize =
      .ok [2, 0, 1, 97, 3, 0, 1, 107, 0, 0, 0, 0, 0, 0, 0, 0, 0, 0, 0, 9] := by decide +kernel
  obtain rfl := Except.ok.inj (written.symm.trans run)
  exact ⟨_, written, (small (by decide)).2⟩

/-! ## Lists whose length is not an `int` -/

theorem getLengthEntries_replicated : ∀ (keys : List Bytes) (value : AMFValue) (length : Int)
    (start : Int), (∀ key ∈ keys, key.length = 1) → value.getLength = .ok length →
      getLengthEntries (toInt start) (keys.map fun key => (key, value)) =
        .ok (toInt (start + keys.length * (1 + length))) := by
  intro keys value length
  induction keys with
  | nil =>
      intro start _ _
      simp [getLengthEntries]
  | cons key keys inductionHypothesis =>
      intro start single counted
      have next := inductionHypothesis (start + (1 + length))
        (fun other member => single other (List.mem_cons_of_mem _ member)) counted
      rw [List.map_cons, getLengthEntries, counted, single key (List.mem_cons_self ..)]
      show getLengthEntries (toInt (toInt start + (1 + length))) _ = _
      rw [toInt_toInt_add, next, List.length_cons]
      congr 2
      push_cast
      ring

/-- The 255 keys of one byte. -/
def oneByteKeys : List Bytes := (List.range 255).map fun index => [UInt8.ofNat (index + 1)]

theorem oneByteKeys_sorted : oneByteKeys.Pairwise fun left right => compare left right = .lt := by
  rw [oneByteKeys, List.pairwise_map]
  refine List.pairwise_lt_range.imp_of_mem ?_
  intro index other _ member less
  have bound := List.mem_range.mp member
  have bytes : compare (UInt8.ofNat (index + 1)) (UInt8.ofNat (other + 1)) = .lt := by
    rw [Std.compare_eq_lt, UInt8.lt_iff_toNat_lt, UInt8.toNat_ofNat', UInt8.toNat_ofNat']
    omega
  have first : compare [UInt8.ofNat (index + 1)] [UInt8.ofNat (other + 1)] =
      (compare (UInt8.ofNat (index + 1)) (UInt8.ofNat (other + 1))).then .eq :=
    List.compareLex_cons_cons
  rw [first, bytes]
  rfl

/-- An object with `value` under each of the 255 keys. -/
def wide (value : AMFValue) : AMFValue := .object (oneByteKeys.map fun key => (key, value))

theorem Encodable.wide : ∀ {value : AMFValue}, Encodable value → Encodable (wide value) := by
  intro value encodable
  have keys : ∀ key ∈ oneByteKeys, key ≠ [] ∧ 0 ∉ key ∧ key.length = 1 := by decide +kernel
  refine .object (List.pairwise_map.mpr oneByteKeys_sorted) ?_ ?_
  · intro entry member
    obtain ⟨key, inKeys, rfl⟩ := List.mem_map.mp member
    obtain ⟨nonempty, zeroFree, single⟩ := keys key inKeys
    exact ⟨nonempty, zeroFree, by simp [single]⟩
  · intro entry member
    obtain ⟨key, inKeys, rfl⟩ := List.mem_map.mp member
    exact encodable

theorem wide_getLength : ∀ {value : AMFValue} {length : Int}, value.getLength = .ok length →
    (wide value).getLength = .ok (toInt (514 + 255 * (1 + length))) := by
  intro value length counted
  have single : ∀ key ∈ oneByteKeys, key.length = 1 := by decide +kernel
  have count : oneByteKeys.length = 255 := by decide +kernel
  have sum := getLengthEntries_replicated oneByteKeys value length 514 single counted
  rw [count] at sum
  rw [wide, getLength, List.length_map, count]
  exact sum

/-- 255 objects with 255 strings of 65535 bytes each: 4261805314 bytes, which are
-33161982 in an `int`. -/
def overlongValue : AMFValue := wide (wide (.string (List.replicate 65535 97)))

theorem overlong_list_not_encoded : Encodable overlongValue ∧
    ¬ ∃ bytes, (toSerializable (.root [overlongValue])).serializeToBuffer = .ok bytes ∧
      parseBuffer (parseRoot []) bytes = .ok (.root [overlongValue]) := by
  constructor
  · refine Encodable.wide (Encodable.wide (.string ⟨?_, ?_⟩))
    · intro member
      exact absurd (List.eq_of_mem_replicate member) (by decide)
    · rw [List.length_replicate]
      norm_num
  · rintro ⟨bytes, written, -⟩
    have text : (AMFValue.string (List.replicate 65535 97)).getLength = .ok 65538 := by
      rw [getLength, List.length_replicate]
      exact congrArg Except.ok (toInt_of_lt (by norm_num : 65538 < 2 ^ 31))
    have inner := wide_getLength text
    have innerLength : toInt (514 + 255 * (1 + 65538)) = 16712959 :=
      toInt_of_lt (by norm_num : 16712959 < 2 ^ 31)
    rw [innerLength] at inner
    have outer := wide_getLength inner
    have outerLength : toInt (514 + 255 * (1 + 16712959)) = -33161982 := by decide +kernel
    rw [outerLength] at outer
    have rootLength : (AMFValue.root [overlongValue]).getLength = .ok (-33161982) := by
      rw [getLength, getLengthArray, overlongValue, outer]
      decide +kernel
    rw [Serializable.serializeToBuffer, toSerializable, rootLength] at written
    cases written

end AMFValue

end EasyRtmp
