import Mathlib.Tactic.NormNum
import EasyRtmp.Amf
import EasyRtmp.Lib.Scan

/-!
# Where `AMFValue::ParseRef` leaves its buffer

Two bytes are consumed without a look at the length left: the tag of a value and
the end byte of an object.  `IsValue`, `Cut` and `Unclosed` describe, in terms of
the bytes alone, the complete values, the buffers that end where a tag is due and
the ones that end where the end byte of the outermost object is due.  `ParseRef`
stays inside its buffer on all but the last two kinds.
-/

set_option autoImplicit false

namespace EasyRtmp

open Lib Lib.ByteCodec

/-! ## The bounded reads -/

def Stop.Thrown (stop : Stop) : Prop := ¬ stop.IsFault

theorem Stop.thrown_runtimeError : Stop.Thrown .runtimeError := by
  unfold Stop.Thrown
  decide

section Reads
variable {limit : Nat} {memory : Nat → UInt8} {cursor : Cursor}

theorem take_present : ∀ {rest : Bytes} {count : Nat}, Holds memory cursor.data rest →
    cursor.dataLen = rest.length → count ≤ rest.length →
      ∃ readEnd, readEnd ≤ max cursor.readEnd (cursor.data + rest.length) ∧
        (Reader.take count : Reader Stop Bytes) memory cursor =
          .ok (rest.take count) ⟨cursor.data + (rest.take count).length,
            (rest.drop count).length, readEnd⟩ := by
  intro rest count holds announced enough
  have width : (rest.take count).length = count := List.length_take_of_le enough
  rw [← List.take_append_drop count rest] at holds
  have front := (holds_append.mp holds).1
  have fits : ((rest.take count).length : Int) ≤ cursor.dataLen := by omega
  obtain ⟨readEnd, bound, taken⟩ := (Reads.take (rest.take count) :
    Reads (Reader.take _ : Reader Stop Bytes) _ _) memory cursor front fits
  have left : cursor.dataLen - (rest.take count).length = (rest.drop count).length := by
    rw [List.length_drop]
    omega
  refine ⟨readEnd, by omega, ?_⟩
  rw [← left, ← taken, width]

theorem readDataType_scans (size newSize : Nat) (littleEndian : Bool) (out : Nat) :
    Scans Stop.Thrown limit (readDataType size newSize littleEndian out)
      (fun bytes value => bytes.length = newSize ∧
        value = loadVariable false size newSize littleEndian out bytes) Never Never := by
  intro memory cursor rest _ holds announced before
  rw [readDataType_apply]
  split
  · exact .refused Stop.thrown_runtimeError before
  · have enough : newSize ≤ rest.length := by omega
    obtain ⟨readEnd, bound, taken⟩ := take_present holds announced enough
    rw [taken]
    exact .complete (List.take_append_drop newSize rest).symm
      ⟨List.length_take_of_le enough, rfl⟩ (by omega)

theorem readDataBytes_scans (outLen : Nat) :
    Scans Stop.Thrown limit (readDataBytes outLen)
      (fun bytes value => bytes.length = outLen ∧ value = bytes) Never Never := by
  intro memory cursor rest _ holds announced before
  rw [readDataBytes_apply]
  split
  · exact .refused Stop.thrown_runtimeError before
  · have enough : outLen ≤ rest.length := by omega
    obtain ⟨readEnd, bound, taken⟩ := take_present holds announced enough
    rw [taken]
    exact .complete (List.take_append_drop outLen rest).symm
      ⟨List.length_take_of_le enough, rfl⟩ (by omega)

theorem readDataType_shuts (size newSize : Nat) (littleEndian : Bool) (out : Nat) :
    Shuts Stop.Thrown (readDataType size newSize littleEndian out) := by
  intro memory cursor negative
  refine ⟨.runtimeError, Stop.thrown_runtimeError, ?_⟩
  rw [readDataType_apply, if_pos (by omega)]

theorem readDataType_advances (size newSize : Nat) (littleEndian : Bool) (out : Nat) :
    Advances (readDataType size newSize littleEndian out) := by
  intro memory cursor
  rw [readDataType_apply]
  split
  · exact Nat.le_refl _
  · exact (Advances.take newSize : Advances (Reader.take _ : Reader Stop Bytes)) memory cursor

theorem readDataBytes_advances (outLen : Nat) : Advances (readDataBytes outLen) := by
  intro memory cursor
  rw [readDataBytes_apply]
  split
  · exact Nat.le_refl _
  · exact Advances.take outLen memory cursor

end Reads

namespace AMFValue

/-! ## The grammar -/

/-- The first bytes of an object and of an array, whose count is ignored. -/
inductive Opens : Bytes → Prop where
  | object : Opens [AMFType.object.code]
  | ecmaArray {count : Bytes} (width : count.length = 4) : Opens (AMFType.ecmaArray.code :: count)

theorem Opens.nonempty : ∀ {bytes : Bytes}, Opens bytes → bytes ≠ [] := by
  intro bytes opens
  cases opens <;> simp

def IsKey (key : Bytes) : Prop := key ≠ [] ∧ key.length < 2 ^ 16

instance (key : Bytes) : Decidable (IsKey key) := inferInstanceAs (Decidable (_ ∧ _))

/-- A key and the bytes of its value. -/
def entryBytes (entry : Bytes × Bytes) : Bytes :=
  beBytes 2 entry.1.length ++ entry.1 ++ entry.2

/-- The bytes that `ParseRef` takes for one value.  The byte that closes an object
may be any. -/
inductive IsValue : Bytes → Prop where
  | string {text : Bytes} (short : text.length < 2 ^ 16) :
      IsValue (AMFType.string.code :: (beBytes 2 text.length ++ text))
  | number {image : Bytes} (width : image.length = 8) : IsValue (AMFType.number.code :: image)
  | boolean (flag : UInt8) : IsValue [AMFType.boolean.code, flag]
  | nul : IsValue [AMFType.nul.code]
  | undefined : IsValue [AMFType.undefined.code]
  | strictArray : IsValue [AMFType.strictArray.code]
  | object {opening : Bytes} {entries : List (Bytes × Bytes)} (close : UInt8)
      (opens : Opens opening) (keys : ∀ entry ∈ entries, IsKey entry.1)
      (values : ∀ entry ∈ entries, IsValue entry.2) :
      IsValue (opening ++ entries.flatMap entryBytes ++ beBytes 2 0 ++ [close])

/-- The buffer ends where the tag of a value is due: at once, or inside objects
behind a key. -/
inductive Cut : Bytes → Prop where
  | here : Cut []
  | inside {opening key rest : Bytes} {entries : List (Bytes × Bytes)} (opens : Opens opening)
      (keys : ∀ entry ∈ entries, IsKey entry.1) (values : ∀ entry ∈ entries, IsValue entry.2)
      (isKey : IsKey key) (cut : Cut rest) :
      Cut (opening ++ entries.flatMap entryBytes ++ beBytes 2 key.length ++ key ++ rest)

/-- The buffer ends where the byte that closes an object is due. -/
inductive Unclosed : Bytes → Prop where
  | object {opening : Bytes} {entries : List (Bytes × Bytes)} (opens : Opens opening)
      (keys : ∀ entry ∈ entries, IsKey entry.1) (values : ∀ entry ∈ entries, IsValue entry.2) :
      Unclosed (opening ++ entries.flatMap entryBytes ++ beBytes 2 0)

section Entries
variable {entries : List (Bytes × Bytes)}

/-- The loop over the entries of an object, with the empty key that ends it. -/
def AreEntries (bytes : Bytes) : Prop :=
  ∃ entries : List (Bytes × Bytes), (∀ entry ∈ entries, IsKey entry.1) ∧
    (∀ entry ∈ entries, IsValue entry.2) ∧ bytes = entries.flatMap entryBytes ++ beBytes 2 0

def CutEntries (bytes : Bytes) : Prop :=
  ∃ (entries : List (Bytes × Bytes)) (key rest : Bytes), (∀ entry ∈ entries, IsKey entry.1) ∧
    (∀ entry ∈ entries, IsValue entry.2) ∧ IsKey key ∧ Cut rest ∧
      bytes = entries.flatMap entryBytes ++ beBytes 2 key.length ++ key ++ rest

theorem AreEntries.cons : ∀ {key value rest : Bytes}, IsKey key → IsValue value →
    AreEntries rest → AreEntries (beBytes 2 key.length ++ (key ++ (value ++ rest))) := by
  rintro key value rest isKey isValue ⟨entries, keys, values, rfl⟩
  exact ⟨(key, value) :: entries, List.forall_mem_cons.mpr ⟨isKey, keys⟩,
    List.forall_mem_cons.mpr ⟨isValue, values⟩, by simp [entryBytes]⟩

theorem CutEntries.cons : ∀ {key value rest : Bytes}, IsKey key → IsValue value →
    CutEntries rest → CutEntries (beBytes 2 key.length ++ (key ++ (value ++ rest))) := by
  rintro key value rest isKey isValue ⟨entries, last, ahead, keys, values, isLast, cut, rfl⟩
  exact ⟨(key, value) :: entries, last, ahead, List.forall_mem_cons.mpr ⟨isKey, keys⟩,
    List.forall_mem_cons.mpr ⟨isValue, values⟩, isLast, cut, by simp [entryBytes]⟩

theorem CutEntries.here : ∀ {key rest : Bytes}, IsKey key → Cut rest →
    CutEntries (beBytes 2 key.length ++ (key ++ rest)) := by
  intro key rest isKey cut
  exact ⟨[], key, rest, by simp, by simp, isKey, cut, by simp⟩

end Entries

/-! ## Nothing else happens -/

/-- What `ParseRef` does behind the first bytes of an object. -/
def objectBody (fuel : Nat) (dataObject : List (Bytes × AMFValue))
    (make : List (Bytes × AMFValue) → AMFValue) : Reader Stop AMFValue := do
  let entries ← parseEntries fuel dataObject
  Reader.skip 1
  pure (make entries)

section Scan
variable {limit fuel : Nat}

theorem strLen_scans : Scans Stop.Thrown limit (readDataType 2 2 false 0)
    (fun bytes value => value < 2 ^ 16 ∧ bytes = beBytes 2 value) Never Never := by
  refine (readDataType_scans 2 2 false 0).mono ?_ (fun _ => id) fun _ => id
  rintro bytes value ⟨width, loaded⟩
  have decoded : value = beValue bytes := by
    rw [loaded, ← width]
    exact loadVariable_be bytes (Or.inr (Or.inl width)) (Nat.le_refl _)
  subst decoded
  have small := beValue_lt bytes
  have same := beBytes_beValue bytes
  rw [width] at small same
  exact ⟨by omega, same.symm⟩

theorem parseString_scans : Scans Stop.Thrown limit parseString
    (fun bytes _ => ∃ text : Bytes, text.length < 2 ^ 16 ∧ bytes = beBytes 2 text.length ++ text)
    Never Never := by
  refine strLen_scans.seq ?_
  rintro _ strLen ⟨small, rfl⟩
  refine (readDataBytes_scans strLen).map cString ?_
  rintro bytes _ ⟨rfl, -⟩
  exact ⟨bytes, small, rfl⟩

/-- The loop over the entries and the byte behind it. -/
theorem object_scans {opening : Bytes} (opens : Opens opening) {present : List (Bytes × AMFValue)}
    (make : List (Bytes × AMFValue) → AMFValue)
    (entries : Scans Stop.Thrown fuel (parseEntries fuel present) (fun bytes _ => AreEntries bytes)
      CutEntries Never) :
    Scans Stop.Thrown fuel (objectBody fuel present make)
      (fun bytes _ => IsValue (opening ++ bytes)) (fun bytes => Cut (opening ++ bytes))
      fun bytes => Unclosed (opening ++ bytes) := by
  refine entries.bind ?_ ?_ fun _ _ impossible => impossible.elim
  · rintro _ value ⟨entries, keys, values, rfl⟩
    refine Scans.close ?_ ?_
    · intro close
      simpa using IsValue.object close opens keys values
    · simpa using Unclosed.object opens keys values
  · rintro _ ⟨entries, key, rest, keys, values, isKey, cut, rfl⟩
    simpa using Cut.inside opens keys values isKey cut

theorem typeOfTag_code : ∀ {tag : UInt8} {type : AMFType}, typeOfTag tag = some type →
    tag = type.code := by
  intro tag type chosen
  unfold typeOfTag at chosen
  repeat' split at chosen
  all_goals first
    | cases chosen; assumption
    | cases chosen

theorem parseEntries_shuts (present : List (Bytes × AMFValue)) :
    Shuts Stop.Thrown (parseEntries (fuel + 1) present) := by
  rw [parseEntries]
  exact (readDataType_shuts 2 2 false 0).bind _

theorem parseValue_step
    (entries : ∀ present, Scans Stop.Thrown fuel (parseEntries fuel present)
      (fun bytes _ => AreEntries bytes) CutEntries Never)
    (dataObject : List (Bytes × AMFValue)) :
    Scans Stop.Thrown (fuel + 1) (parseValue (fuel + 1) dataObject) (fun bytes _ => IsValue bytes)
      Cut Unclosed := by
  rw [parseValue]
  refine Scans.tag .here ?_
  intro tag
  cases chosen : typeOfTag tag with
  | none => exact Or.inl ⟨_, by unfold Stop.Thrown; decide, rfl⟩
  | some type =>
      have code := typeOfTag_code chosen
      subst code
      refine Or.inr ⟨_, rfl, ?_⟩
      cases type with
      | string =>
          refine parseString_scans.map AMFValue.string ?_
          rintro _ _ ⟨text, short, rfl⟩
          exact .string short
      | number =>
          refine (readDataType_scans 8 8 false 0).map _ ?_
          rintro bytes _ ⟨width, -⟩
          exact .number width
      | boolean =>
          refine (readDataType_scans 1 1 false 0).map _ ?_
          rintro bytes _ ⟨width, -⟩
          obtain ⟨flag, rfl⟩ := List.length_eq_one_iff.mp width
          exact .boolean flag
      | nul => exact Scans.pure .nul
      | undefined => exact Scans.pure .undefined
      | strictArray => exact Scans.pure .strictArray
      | object => exact object_scans .object AMFValue.object (entries dataObject)
      | ecmaArray =>
          refine (readDataType_scans 4 4 false 0).seq ?_
          rintro count _ ⟨width, -⟩
          exact (object_scans (.ecmaArray width) AMFValue.ecmaArray (entries dataObject)).shorter
            (by omega)
      | endOfObject => exact absurd chosen (by decide)
      | unknown => exact absurd chosen (by decide)
      | root => exact absurd chosen (by decide)

theorem parseEntries_step
    (value : ∀ dataObject, Scans Stop.Thrown fuel (parseValue fuel dataObject)
      (fun bytes _ => IsValue bytes) Cut Unclosed)
    (entries : ∀ present, Scans Stop.Thrown fuel (parseEntries fuel present)
      (fun bytes _ => AreEntries bytes) CutEntries Never)
    (present : List (Bytes × AMFValue)) :
    Scans Stop.Thrown (fuel + 1) (parseEntries (fuel + 1) present) (fun bytes _ => AreEntries bytes)
      CutEntries Never := by
  rw [parseEntries]
  refine strLen_scans.seq ?_
  rintro _ strLen ⟨small, rfl⟩
  rw [beBytes_length]
  by_cases empty : strLen = 0
  · subst empty
    exact Scans.pure ⟨[], by simp, by simp, by simp⟩
  · rw [if_neg empty]
    refine (readDataBytes_scans strLen).seq ?_
    rintro _ key ⟨rfl, rfl⟩
    have isKey : IsKey key := ⟨List.ne_nil_of_length_pos (Nat.pos_of_ne_zero empty), small⟩
    refine ((value []).shorter (by omega)).bind ?_ ?_ ?_
    · intro bytes am isValue
      refine ((entries _).shorter (by omega)).mono ?_ ?_ ?_
      · exact fun rest _ areEntries => areEntries.cons isKey isValue
      · exact fun rest cut => cut.cons isKey isValue
      · exact fun _ impossible => impossible.elim
    · exact fun rest cut => CutEntries.here isKey cut
    · intro bytes short _ am
      obtain ⟨fuel, rfl⟩ := Nat.exists_eq_succ_of_ne_zero (show fuel ≠ 0 by omega)
      exact Or.inl (parseEntries_shuts _)

/-- With a fuel above the length left the recursion never runs out of it. -/
theorem parse_scans (fuel : Nat) :
    (∀ dataObject, Scans Stop.Thrown fuel (parseValue fuel dataObject)
      (fun bytes _ => IsValue bytes) Cut Unclosed) ∧
    (∀ present, Scans Stop.Thrown fuel (parseEntries fuel present)
      (fun bytes _ => AreEntries bytes) CutEntries Never) := by
  induction fuel with
  | zero => exact ⟨fun _ => Scans.vacuous _, fun _ => Scans.vacuous _⟩
  | succ fuel inductionHypothesis =>
      obtain ⟨value, entries⟩ := inductionHypothesis
      exact ⟨parseValue_step entries, parseEntries_step value entries⟩

end Scan

/-! ## The two kinds of buffers do go wrong -/

theorem parseString_advances : Advances parseString :=
  (readDataType_advances 2 2 false 0).bind fun strLen =>
    (readDataBytes_advances strLen).bind fun _ => Advances.pure _

/-- `ParseRef` looks at a tag first; what it does next never takes a read back. -/
theorem parseValue_next {fuel : Nat} (entries : ∀ present, Advances (parseEntries fuel present))
    (dataObject : List (Bytes × AMFValue)) :
    ∃ next : UInt8 → Reader Stop AMFValue, parseValue (fuel + 1) dataObject = Reader.peek >>= next ∧
      ∀ tag, Advances (next tag) := by
  have object : ∀ make, Advances (objectBody fuel dataObject make) := by
    intro make
    exact (entries dataObject).bind fun _ => (Advances.skip 1).bind fun _ => Advances.pure _
  refine ⟨_, by rw [parseValue], ?_⟩
  intro tag
  cases typeOfTag tag with
  | none => exact Advances.fail _
  | some type =>
      refine (Advances.skip 1).bind ?_
      intro _
      cases type with
      | string => exact parseString_advances.bind fun _ => Advances.pure _
      | number => exact (readDataType_advances 8 8 false 0).bind fun _ => Advances.pure _
      | boolean => exact (readDataType_advances 1 1 false 0).bind fun _ => Advances.pure _
      | object => exact object AMFValue.object
      | ecmaArray =>
          exact (readDataType_advances 4 4 false 0).bind fun _ => object AMFValue.ecmaArray
      | nul | undefined | strictArray | endOfObject | unknown | root => exact Advances.pure _

theorem parse_advances (fuel : Nat) : (∀ dataObject, Advances (parseValue fuel dataObject)) ∧
    (∀ present, Advances (parseEntries fuel present)) := by
  induction fuel with
  | zero => exact ⟨fun _ => Advances.fail _, fun _ => Advances.fail _⟩
  | succ fuel inductionHypothesis =>
      obtain ⟨value, entries⟩ := inductionHypothesis
      constructor
      · intro dataObject
        obtain ⟨next, shape, advances⟩ := parseValue_next entries dataObject
        rw [shape]
        exact Advances.peek.bind advances
      · intro present
        rw [parseEntries]
        refine (readDataType_advances 2 2 false 0).bind ?_
        intro strLen
        split
        · exact Advances.pure _
        · exact (readDataBytes_advances strLen).bind fun _ => (value []).bind fun _ => entries _

theorem parseArray_advances (fuel : Nat) : ∀ present : List AMFValue,
    Advances (parseArray fuel present) := by
  induction fuel with
  | zero => exact fun _ => Advances.fail _
  | succ fuel inductionHypothesis =>
      intro present
      rw [parseArray]
      refine Advances.dataLen.bind ?_
      intro dataLen
      split
      · exact ((parse_advances fuel).1 []).bind fun _ => inductionHypothesis _
      · exact Advances.pure _

theorem strLen_reads_beBytes : ∀ {value : Nat}, value < 2 ^ 16 →
    Reads (readDataType 2 2 false 0) (beBytes 2 value) value := by
  intro value small
  exact readDataType_beBytes 2 value (Or.inr (Or.inl rfl)) (by omega)

/-- A complete value is read, whatever lies behind it. -/
def Readable (bytes : Bytes) : Prop :=
  ∀ fuel dataObject, bytes.length < fuel → ∃ value, Reads (parseValue fuel dataObject) bytes value

section Entries
variable {entries : List (Bytes × Bytes)}

theorem entries_read : ∀ (fuel : Nat) (present : List (Bytes × AMFValue)),
    (∀ entry ∈ entries, IsKey entry.1) → (∀ entry ∈ entries, Readable entry.2) →
    (entries.flatMap entryBytes).length < fuel →
      ∃ after, Reads (parseEntries fuel present) (entries.flatMap entryBytes ++ beBytes 2 0)
        after := by
  induction entries with
  | nil =>
      intro fuel present _ _ enough
      obtain ⟨fuel, rfl⟩ := Nat.exists_eq_succ_of_ne_zero (show fuel ≠ 0 by omega)
      refine ⟨present, ?_⟩
      rw [parseEntries, List.flatMap_nil, List.nil_append, ← List.append_nil (beBytes 2 0)]
      exact (strLen_reads_beBytes (by norm_num)).bind (Reads.pure present)
  | cons entry entries inductionHypothesis =>
      intro fuel present keys values enough
      obtain ⟨fuel, rfl⟩ := Nat.exists_eq_succ_of_ne_zero (show fuel ≠ 0 by omega)
      obtain ⟨key, value⟩ := entry
      obtain ⟨isKey, keys⟩ := List.forall_mem_cons.mp keys
      obtain ⟨readable, values⟩ := List.forall_mem_cons.mp values
      simp only [List.flatMap_cons, entryBytes, List.length_append, beBytes_length] at enough
      obtain ⟨am, reads⟩ := readable fuel [] (by simp only; omega)
      obtain ⟨after, others⟩ :=
        inductionHypothesis fuel (OrdMap.insert (cString key) am present) keys values (by omega)
      refine ⟨after, ?_⟩
      rw [parseEntries, List.flatMap_cons, entryBytes]
      simp only [List.append_assoc]
      refine (strLen_reads_beBytes isKey.2).bind ?_
      rw [if_neg (List.length_pos_iff.mpr isKey.1).ne']
      exact (readDataBytes_reads key).bind (reads.bind others)

/-- The loop over complete entries comes to a last one that leads astray. -/
theorem entries_lead {key rest : Bytes} (isKey : IsKey key)
    (cut : ∀ fuel, rest.length < fuel → Leads (parseValue fuel []) rest Overruns) :
    ∀ (fuel : Nat) (present : List (Bytes × AMFValue)),
    (∀ entry ∈ entries, IsKey entry.1) → (∀ entry ∈ entries, Readable entry.2) →
    (entries.flatMap entryBytes ++ beBytes 2 key.length ++ key ++ rest).length < fuel →
      Leads (parseEntries fuel present)
        (entries.flatMap entryBytes ++ beBytes 2 key.length ++ key ++ rest) Overruns := by
  induction entries with
  | nil =>
      intro fuel present _ _ enough
      obtain ⟨fuel, rfl⟩ := Nat.exists_eq_succ_of_ne_zero (show fuel ≠ 0 by omega)
      simp only [List.flatMap_nil, List.nil_append, List.length_append, beBytes_length] at enough
      rw [parseEntries, List.flatMap_nil, List.nil_append, List.append_assoc]
      refine Leads.after (strLen_reads_beBytes isKey.2) ?_
      rw [if_neg (List.length_pos_iff.mpr isKey.1).ne']
      refine Leads.after (readDataBytes_reads key) ?_
      exact (cut fuel (by omega)).overruns_bind fun _ => (parse_advances fuel).2 _
  | cons entry entries inductionHypothesis =>
      intro fuel present keys values enough
      obtain ⟨fuel, rfl⟩ := Nat.exists_eq_succ_of_ne_zero (show fuel ≠ 0 by omega)
      obtain ⟨before, value⟩ := entry
      obtain ⟨beforeIsKey, keys⟩ := List.forall_mem_cons.mp keys
      obtain ⟨readable, values⟩ := List.forall_mem_cons.mp values
      simp only [List.flatMap_cons, entryBytes, List.length_append, beBytes_length] at enough
      obtain ⟨am, reads⟩ := readable fuel [] (by simp only; omega)
      have others := inductionHypothesis fuel (OrdMap.insert (cString before) am present) keys
        values (by simp only [List.length_append, beBytes_length]; omega)
      rw [parseEntries, List.flatMap_cons, entryBytes]
      simp only [List.append_assoc] at others ⊢
      refine Leads.after (strLen_reads_beBytes beforeIsKey.2) ?_
      rw [if_neg (List.length_pos_iff.mpr beforeIsKey.1).ne']
      exact Leads.after (readDataBytes_reads before) (Leads.after reads others)

end Entries

theorem opening_selects : ∀ {opening : Bytes}, Opens opening →
    ∀ (fuel : Nat) (dataObject : List (Bytes × AMFValue)),
    ∃ make : List (Bytes × AMFValue) → AMFValue,
      (∀ {bytes value}, Reads (objectBody fuel dataObject make) bytes value →
        Reads (parseValue (fuel + 1) dataObject) (opening ++ bytes) value) ∧
      (∀ {bytes P}, Leads (objectBody fuel dataObject make) bytes P →
        Leads (parseValue (fuel + 1) dataObject) (opening ++ bytes) P) := by
  intro opening opens fuel dataObject
  cases opens with
  | object =>
      refine ⟨AMFValue.object, ?_, ?_⟩
      · intro bytes value reads
        exact Reads.tag rfl reads
      · intro bytes P leads
        exact Leads.tag rfl leads
  | @ecmaArray count width =>
      have counter : Reads (readDataType 4 4 false 0) count (beValue count) := by
        have reads := readDataType_reads_be 4 count (Or.inr (Or.inr (Or.inl rfl))) width.le
        rwa [width] at reads
      refine ⟨AMFValue.ecmaArray, ?_, ?_⟩
      · intro bytes value reads
        exact Reads.tag rfl (counter.bind reads)
      · intro bytes P leads
        exact Leads.tag rfl (Leads.after counter leads)

theorem IsValue.readable : ∀ {bytes : Bytes}, IsValue bytes → Readable bytes := by
  intro bytes isValue
  induction isValue with
  | @string text short =>
      intro fuel dataObject enough
      obtain ⟨fuel, rfl⟩ := Nat.exists_eq_succ_of_ne_zero (show fuel ≠ 0 by omega)
      exact ⟨_, Reads.tag rfl (((strLen_reads_beBytes short).bind
        ((readDataBytes_reads text).map cString)).map AMFValue.string)⟩
  | @number image width =>
      intro fuel dataObject enough
      obtain ⟨fuel, rfl⟩ := Nat.exists_eq_succ_of_ne_zero (show fuel ≠ 0 by omega)
      have reads : Reads (readDataType 8 image.length false 0) image _ :=
        readDataType_reads false image
      rw [width] at reads
      exact ⟨_, Reads.tag rfl (reads.map _)⟩
  | boolean flag =>
      intro fuel dataObject enough
      obtain ⟨fuel, rfl⟩ := Nat.exists_eq_succ_of_ne_zero (show fuel ≠ 0 by omega)
      have reads : Reads (readDataType 1 1 false 0) [flag] _ := readDataType_reads false [flag]
      exact ⟨_, Reads.tag rfl (reads.map _)⟩
  | nul | undefined | strictArray =>
      intro fuel dataObject enough
      obtain ⟨fuel, rfl⟩ := Nat.exists_eq_succ_of_ne_zero (show fuel ≠ 0 by omega)
      exact ⟨_, Reads.tag rfl (Reads.pure _)⟩
  | @object opening entries close opens keys _ inductionHypothesis =>
      intro fuel dataObject enough
      obtain ⟨fuel, rfl⟩ := Nat.exists_eq_succ_of_ne_zero (show fuel ≠ 0 by omega)
      obtain ⟨make, select, -⟩ := opening_selects opens fuel dataObject
      simp only [List.length_append, beBytes_length] at enough
      obtain ⟨after, reads⟩ := entries_read fuel dataObject keys inductionHypothesis (by omega)
      have closed : Reads (do Reader.skip 1; pure (make after) : Reader Stop AMFValue)
          ([close] ++ []) (make after) := (Reads.skip [close]).bind (Reads.pure _)
      have whole := select (reads.bind closed)
      exact ⟨make after, by simpa using whole⟩

theorem parseValue_cut : ∀ {bytes : Bytes}, Cut bytes →
    ∀ fuel dataObject, bytes.length < fuel → Leads (parseValue fuel dataObject) bytes Overruns := by
  intro bytes cut
  induction cut with
  | here =>
      intro fuel dataObject enough
      obtain ⟨fuel, rfl⟩ := Nat.exists_eq_succ_of_ne_zero (show fuel ≠ 0 by omega)
      obtain ⟨next, shape, advances⟩ := parseValue_next (parse_advances fuel).2 dataObject
      rw [shape]
      exact Leads.peek advances
  | @inside opening key rest entries opens keys values isKey _ inductionHypothesis =>
      intro fuel dataObject enough
      obtain ⟨fuel, rfl⟩ := Nat.exists_eq_succ_of_ne_zero (show fuel ≠ 0 by omega)
      obtain ⟨make, -, select⟩ := opening_selects opens fuel dataObject
      have opened := List.length_pos_iff.mpr opens.nonempty
      simp only [List.length_append, beBytes_length] at enough
      have led := entries_lead isKey (fun fuel => inductionHypothesis fuel []) fuel dataObject keys
        (fun entry member => (values entry member).readable)
        (by simp only [List.length_append, beBytes_length]; omega)
      have whole := select (led.overruns_bind fun _ =>
        (Advances.skip 1).bind fun _ => Advances.pure _)
      simpa using whole

theorem parseValue_unclosed : ∀ {bytes : Bytes}, Unclosed bytes →
    ∀ fuel dataObject, bytes.length < fuel →
      Leads (parseValue fuel dataObject) bytes Overshoots := by
  rintro _ ⟨opens, keys, values⟩ fuel dataObject enough
  obtain ⟨fuel, rfl⟩ := Nat.exists_eq_succ_of_ne_zero (show fuel ≠ 0 by omega)
  obtain ⟨make, -, select⟩ := opening_selects opens fuel dataObject
  simp only [List.length_append, beBytes_length] at enough
  obtain ⟨after, reads⟩ := entries_read fuel dataObject keys
    (fun entry member => (values entry member).readable) (by omega)
  have skipped : Leads (do Reader.skip 1; pure (make after) : Reader Stop AMFValue) []
      Overshoots := by
    intro memory cursor _ announced
    rw [List.length_nil, Nat.cast_zero] at announced
    refine ⟨make after, _, rfl, ?_⟩
    simp only [announced]
    decide
  have whole := select (Leads.after reads skipped)
  simpa using whole

/-! ## Lists of values -/

/-- Behind some complete values the buffer ends inside one, at either of the two
bytes. -/
def StopsShort (bytes : Bytes) : Prop :=
  ∃ (values : List Bytes) (rest : Bytes), (∀ value ∈ values, IsValue value) ∧ rest ≠ [] ∧
    (Cut rest ∨ Unclosed rest) ∧ bytes = values.flatten ++ rest

theorem StopsShort.cons : ∀ {value rest : Bytes}, IsValue value → StopsShort rest →
    StopsShort (value ++ rest) := by
  rintro value _ isValue ⟨values, rest, each, nonempty, short, rfl⟩
  exact ⟨value :: values, rest, List.forall_mem_cons.mpr ⟨isValue, each⟩, nonempty, short,
    by simp⟩

theorem StopsShort.here : ∀ {rest : Bytes}, rest ≠ [] → Cut rest ∨ Unclosed rest →
    StopsShort rest := by
  intro rest nonempty short
  exact ⟨[], rest, by simp, nonempty, short, by simp⟩

theorem IsValue.nonempty : ∀ {bytes : Bytes}, IsValue bytes → bytes ≠ [] := by
  intro bytes isValue
  cases isValue with
  | object close opens keys values => simp
  | _ => simp

theorem Unclosed.nonempty : ∀ {bytes : Bytes}, Unclosed bytes → bytes ≠ [] := by
  rintro _ ⟨opens, _, _⟩
  simp [opens.nonempty]

theorem parseArray_rests (fuel : Nat) (present : List AMFValue) :
    Rests (parseArray (fuel + 1) present) := by
  intro memory cursor negative
  refine ⟨present, ?_⟩
  rw [parseArray, Reader.bind_apply]
  simp only [Reader.dataLen]
  rw [if_neg (by omega)]
  rfl

theorem parseArray_scans (fuel : Nat) : ∀ present : List AMFValue,
    Scans Stop.Thrown fuel (parseArray (fuel + 1) present)
      (fun bytes _ => ∃ values : List Bytes, (∀ value ∈ values, IsValue value) ∧
        bytes = values.flatten) StopsShort StopsShort := by
  induction fuel with
  | zero => exact fun _ => Scans.vacuous _
  | succ fuel inductionHypothesis =>
      intro present
      rw [parseArray]
      refine Scans.whileMore ⟨[], by simp, rfl⟩ ?_
      refine ((parse_scans (fuel + 1)).1 []).bind ?_ ?_ ?_
      · intro front am isValue
        have positive := List.length_pos_iff.mpr isValue.nonempty
        refine ((inductionHypothesis (present ++ [am])).shorter (by omega)).mono ?_ ?_ ?_
        · rintro _ _ ⟨values, each, rfl⟩
          exact ⟨front :: values, List.forall_mem_cons.mpr ⟨isValue, each⟩, by simp⟩
        · exact fun rest short _ => short.cons isValue
        · exact fun rest short => short.cons isValue
      · exact fun bytes cut nonempty => StopsShort.here nonempty (Or.inl cut)
      · intro bytes _ unclosed am
        exact Or.inr ⟨StopsShort.here unclosed.nonempty (Or.inr unclosed),
          parseArray_rests fuel (present ++ [am])⟩

/-- A list of values that leads astray in its last one. -/
theorem parseArray_leads {rest : Bytes} (nonempty : rest ≠ [])
    {P : Nat → ReadResult Stop AMFValue → Prop} {Q : Nat → ReadResult Stop (List AMFValue) → Prop}
    (last : ∀ fuel, rest.length < fuel → Leads (parseValue fuel []) rest P)
    (through : ∀ fuel present, Leads (parseValue (fuel + 1) []) rest P →
      Leads (do let am ← parseValue (fuel + 1) []; parseArray (fuel + 1) (present ++ [am])) rest
        Q) :
    ∀ {values : List Bytes}, (∀ value ∈ values, IsValue value) →
      ∀ fuel present, (values.flatten ++ rest).length + 1 < fuel →
        Leads (parseArray fuel present) (values.flatten ++ rest) Q := by
  intro values
  induction values with
  | nil =>
      intro _ fuel present enough
      obtain ⟨fuel, rfl⟩ := Nat.exists_eq_add_of_le' (show 2 ≤ fuel by omega)
      rw [List.flatten_nil, List.nil_append] at enough ⊢
      rw [parseArray]
      exact Leads.whileMore nonempty (through fuel present (last (fuel + 1) (by omega)))
  | cons value values inductionHypothesis =>
      intro each fuel present enough
      obtain ⟨fuel, rfl⟩ := Nat.exists_eq_add_of_le' (show 1 ≤ fuel by omega)
      obtain ⟨isValue, each⟩ := List.forall_mem_cons.mp each
      have positive := List.length_pos_iff.mpr isValue.nonempty
      simp only [List.flatten_cons, List.length_append] at enough
      obtain ⟨am, reads⟩ := isValue.readable fuel [] (by omega)
      have others := inductionHypothesis each fuel (present ++ [am])
        (by rw [List.length_append]; omega)
      rw [parseArray, List.flatten_cons, List.append_assoc]
      exact Leads.whileMore (by simp [isValue.nonempty]) (Leads.after reads others)

/-! ## When `ParseRef` stays inside -/

/-- The promise of a call on a buffer of `n` bytes at address zero: no byte behind it
is read, and the call throws or leaves the length of the rest. -/
def StaysInside (n : Nat) : ReadResult Stop AMFValue → Prop
  | .ok _ cursor =>
      cursor.readEnd ≤ n ∧ 0 ≤ cursor.dataLen ∧ (cursor.data : Int) = n - cursor.dataLen
  | .error stop cursor => cursor.readEnd ≤ n ∧ stop.Thrown

instance (n : Nat) (result : ReadResult Stop AMFValue) : Decidable (StaysInside n result) := by
  cases result <;> unfold StaysInside <;> unfold Stop.Thrown <;> infer_instance

theorem staysInside_of_scans : ∀ {reader : Reader Stop AMFValue} {limit : Nat}
    {Complete : Bytes → AMFValue → Prop} {Short Over : Bytes → Prop} {data : Bytes}
    (beyond : Nat → UInt8), Scans Stop.Thrown limit reader Complete Short Over →
    data.length < limit → ¬ Short data → ¬ Over data →
      StaysInside data.length (reader (memoryOf data beyond) ⟨0, data.length, 0⟩) := by
  intro reader limit Complete Short Over data beyond scans fits notShort notOver
  have ending := scans (memoryOf data beyond) ⟨0, data.length, 0⟩ data fits
    (holds_memoryOf data beyond) rfl (Nat.zero_le _)
  generalize reader _ _ = result at ending ⊢
  cases ending with
  | @complete front back value readEnd split grammar inside =>
      subst split
      simp only [Nat.zero_add] at inside
      refine ⟨inside, Int.natCast_nonneg _, ?_⟩
      simp only [List.length_append]
      omega
  | refused throws inside =>
      simp only [Nat.zero_add] at inside
      exact ⟨inside, throws⟩
  | cut short => exact absurd short notShort
  | beyond beyond => exact absurd beyond notOver

theorem not_staysInside_of_overruns : ∀ {n : Nat} {result : ReadResult Stop AMFValue},
    Overruns n result → ¬ StaysInside n result := by
  intro n result overruns stays
  have reach : n < result.cursor.readEnd := overruns
  cases result with
  | ok value cursor => exact absurd stays.1 (Nat.not_le.mpr reach)
  | error stop cursor => exact absurd stays.1 (Nat.not_le.mpr reach)

theorem not_staysInside_of_overshoots : ∀ {n finish : Nat} {result : ReadResult Stop AMFValue},
    Overshoots finish result → ¬ StaysInside n result := by
  rintro n finish _ ⟨value, after, rfl, negative⟩ ⟨_, nonnegative, _⟩
  exact absurd negative (Int.not_lt.mpr nonnegative)

theorem parseRef_stays_iff (data : Bytes) (beyond : Nat → UInt8) :
    StaysInside data.length (parseRef [] (memoryOf data beyond) ⟨0, data.length, 0⟩) ↔
      ¬ (Cut data ∨ Unclosed data) := by
  have fuelled : parseRef [] (memoryOf data beyond) ⟨0, data.length, 0⟩ =
      parseValue (data.length + 2) [] (memoryOf data beyond) ⟨0, data.length, 0⟩ := rfl
  have holds := holds_memoryOf data beyond
  rw [fuelled]
  constructor
  · rintro stays (cut | unclosed)
    · have overruns := parseValue_cut cut (data.length + 2) [] (by omega) _
        ⟨0, data.length, 0⟩ holds rfl
      rw [Nat.zero_add] at overruns
      exact not_staysInside_of_overruns overruns stays
    · exact not_staysInside_of_overshoots (parseValue_unclosed unclosed (data.length + 2) []
        (by omega) _ ⟨0, data.length, 0⟩ holds rfl) stays
  · intro neither
    exact staysInside_of_scans beyond ((parse_scans (data.length + 2)).1 []) (by omega)
      (fun cut => neither (Or.inl cut)) fun unclosed => neither (Or.inr unclosed)

/-- The loop of a `ROOT` on a buffer of `n` bytes. -/
def rootBody (n : Nat) : Reader Stop AMFValue := do
  let values ← parseArray (n + 3) []
  pure (.root values)

theorem rootBody_scans (n : Nat) : Scans Stop.Thrown (n + 2) (rootBody n)
    (fun _ _ => True) StopsShort StopsShort := by
  refine (parseArray_scans (n + 2) []).bind ?_ (fun _ => id) ?_
  · intro _ _ _
    exact Scans.pure trivial
  · intro _ _ short values
    exact Or.inr ⟨short, fun _ _ _ => ⟨_, rfl⟩⟩

theorem rootBody_stopsShort : ∀ {data : Bytes}, StopsShort data →
    Leads (rootBody data.length) data Overruns ∨ Leads (rootBody data.length) data Overshoots := by
  rintro _ ⟨values, rest, each, nonempty, cut | unclosed, rfl⟩
  · left
    have led := parseArray_leads nonempty (Q := Overruns) (fun fuel => parseValue_cut cut fuel [])
      (fun fuel present last => last.overruns_bind fun _ => parseArray_advances _ _) each
      ((values.flatten ++ rest).length + 3) [] (by omega)
    exact led.overruns_bind fun _ => Advances.pure _
  · right
    have led := parseArray_leads nonempty (Q := Overshoots)
      (fun fuel => parseValue_unclosed unclosed fuel [])
      (fun fuel present last => last.overshoots_bind fun _ => parseArray_rests _ _) each
      ((values.flatten ++ rest).length + 3) [] (by omega)
    exact led.overshoots_bind fun _ _ _ _ => ⟨_, rfl⟩

theorem parseRoot_stays_iff (data : Bytes) (beyond : Nat → UInt8) :
    StaysInside data.length (parseRoot [] (memoryOf data beyond) ⟨0, data.length, 0⟩) ↔
      ¬ StopsShort data := by
  have fuelled : parseRoot [] (memoryOf data beyond) ⟨0, data.length, 0⟩ =
      rootBody data.length (memoryOf data beyond) ⟨0, data.length, 0⟩ := rfl
  have holds := holds_memoryOf data beyond
  rw [fuelled]
  constructor
  · intro stays short
    rcases rootBody_stopsShort short with led | led
    · have overruns := led _ ⟨0, data.length, 0⟩ holds rfl
      rw [Nat.zero_add] at overruns
      exact not_staysInside_of_overruns overruns stays
    · exact not_staysInside_of_overshoots (led _ ⟨0, data.length, 0⟩ holds rfl) stays
  · intro notShort
    exact staysInside_of_scans beyond (rootBody_scans data.length) (by omega) notShort notShort

/-- `ParseRef` keeps its promise exactly on the buffers that do not end where the tag
of a value or the byte that closes the outermost object is due. -/
theorem parse_stays_inside_iff (data : Bytes) (beyond : Nat → UInt8) :
    (StaysInside data.length (parseRef [] (memoryOf data beyond) ⟨0, data.length, 0⟩) ↔
      ¬ (Cut data ∨ Unclosed data)) ∧
    (StaysInside data.length (parseRoot [] (memoryOf data beyond) ⟨0, data.length, 0⟩) ↔
      ¬ StopsShort data) :=
  ⟨parseRef_stays_iff data beyond, parseRoot_stays_iff data beyond⟩

/-- An object that ends behind its first key, and one that ends behind its empty key. -/
theorem truncated_object_leaves_buffer :
    ¬ StaysInside 4 (parseRoot [] (memoryOf [3, 0, 1, 97] fun _ => 0) ⟨0, 4, 0⟩) ∧
    ¬ StaysInside 3 (parseRoot [] (memoryOf [3, 0, 0] fun _ => 0) ⟨0, 3, 0⟩) := by
  decide

end AMFValue

end EasyRtmp
