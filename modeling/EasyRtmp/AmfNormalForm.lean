import EasyRtmp.AmfLengths
import EasyRtmp.Initialisation
import EasyRtmp.ParsedEntries

/-!
# What parsing makes of a payload can be written again

`Accepted` collects what `ParseRef` can answer, `Plain` what of it `Serialize` and a
second `ParseRef` keep.  A list of plain values that came out of a payload is written
in at most one byte more than the payload, and what is written is parsed into the same
list.  Of the other lists none comes back.
-/

set_option autoImplicit false

namespace EasyRtmp.AMFValue

open Lib Lib.ByteCodec

/-! ## The values that come out of a buffer -/

/-- A string ends at its first zero byte and the entries of an object are in the order
of a map.  A key whose first byte is zero is an empty one. -/
inductive Accepted : AMFValue → Prop where
  | string {text : Bytes} (fits : FitsString text) : Accepted (.string text)
  | number (bits : UInt64) : Accepted (.number bits)
  | boolean (flag : Bool) : Accepted (.boolean flag)
  | nul : Accepted .nul
  | undefined : Accepted .undefined
  | strictArray : Accepted .strictArray
  | object {entries : List (Bytes × AMFValue)} (sorted : OrdMap.Sorted entries)
      (keys : ∀ entry ∈ entries, FitsString entry.1)
      (values : ∀ entry ∈ entries, Accepted entry.2) : Accepted (.object entries)
  | ecmaArray {entries : List (Bytes × AMFValue)} (sorted : OrdMap.Sorted entries)
      (keys : ∀ entry ∈ entries, FitsString entry.1)
      (values : ∀ entry ∈ entries, Accepted entry.2) : Accepted (.ecmaArray entries)

/-- The entries of an object while it is parsed. -/
structure AcceptedEntries (entries : List (Bytes × AMFValue)) : Prop where
  sorted : OrdMap.Sorted entries
  keys : ∀ entry ∈ entries, FitsString entry.1
  values : ∀ entry ∈ entries, Accepted entry.2

theorem AcceptedEntries.nil : AcceptedEntries [] :=
  ⟨OrdMap.sorted_nil, List.forall_mem_nil _, List.forall_mem_nil _⟩

theorem AcceptedEntries.insert {entries : List (Bytes × AMFValue)} {key : Bytes} {value : AMFValue}
    (present : AcceptedEntries entries) (fits : FitsString key) (accepted : Accepted value) :
    AcceptedEntries (OrdMap.insert key value entries) := by
  refine ⟨OrdMap.sorted_insert present.sorted, ?_, ?_⟩
  · intro entry member
    rcases OrdMap.mem_insert member with rfl | member
    · exact fits
    · exact present.keys entry member
  · intro entry member
    rcases OrdMap.mem_insert member with rfl | member
    · exact accepted
    · exact present.values entry member

theorem fullLengthEntries_insert (key : Bytes) (value : AMFValue) :
    ∀ entries : List (Bytes × AMFValue), fullLengthEntries (OrdMap.insert key value entries) ≤
      2 + key.length + value.fullLength + fullLengthEntries entries := by
  intro entries
  induction entries with
  | nil => simp [OrdMap.insert, fullLengthEntries]
  | cons entry entries inductionHypothesis =>
      obtain ⟨other, old⟩ := entry
      rw [OrdMap.insert]
      split
      · simp [fullLengthEntries]
      · simp only [fullLengthEntries]
        omega
      · simp only [fullLengthEntries]
        omega

theorem fullLengthArray_append (values others : List AMFValue) :
    fullLengthArray (values ++ others) = fullLengthArray values + fullLengthArray others := by
  induction values with
  | nil => simp [fullLengthArray]
  | cons value values inductionHypothesis =>
      simp only [List.cons_append, fullLengthArray, inductionHypothesis, Nat.add_assoc]

theorem fitsString_cString {text : Bytes} (short : text.length < 2 ^ 16) :
    FitsString (cString text) :=
  ⟨AMFTree.zero_notMem_cString text,
    Nat.lt_of_le_of_lt (List.takeWhile_prefix _).length_le short⟩

section Reads

variable {memory : Nat → UInt8} {cursor after : Cursor}

theorem strLen_inv {strLen : Nat}
    (ok : readDataType 2 2 false 0 memory cursor = .ok strLen after) :
    strLen < 2 ^ 16 ∧ 2 ≤ cursor.dataLen ∧ after.dataLen = cursor.dataLen - 2 := by
  obtain ⟨enough, left⟩ := readDataType_demands 2 2 false memory cursor strLen after ok
  refine ⟨?_, enough, left⟩
  have holds : Holds memory cursor.data [memory cursor.data, memory (cursor.data + 1)] :=
    holds_cons.mpr ⟨rfl, holds_cons.mpr ⟨rfl, rfl⟩⟩
  have reads := readDataType_reads_be 2 [memory cursor.data, memory (cursor.data + 1)]
    (Or.inr (Or.inl rfl)) (Nat.le_refl 2)
  obtain ⟨readEnd, -, read⟩ := reads memory cursor holds enough
  have value := (ReadResult.ok.inj (ok.symm.trans read)).1
  have bound : beValue [memory cursor.data, memory (cursor.data + 1)] < 256 ^ 2 := beValue_lt _
  omega

theorem readDataBytes_inv {outLen : Nat} {bytes : Bytes}
    (ok : readDataBytes outLen memory cursor = .ok bytes after) :
    bytes.length = outLen ∧ outLen ≤ cursor.dataLen ∧
      after.dataLen = cursor.dataLen - outLen := by
  rw [readDataBytes_apply] at ok
  split at ok
  · cases ok
  · obtain ⟨rfl, rfl⟩ := ReadResult.ok.inj ok
    exact ⟨by simp, by omega, rfl⟩

/-- The string of the length that is read first. -/
theorem parseString_inv {text : Bytes} (ok : parseString memory cursor = .ok text after) :
    FitsString text ∧ text.length + 2 + after.dataLen ≤ cursor.dataLen ∧ 0 ≤ after.dataLen := by
  obtain ⟨strLen, middle, counted, rest⟩ := Reader.bind_inv ok
  obtain ⟨strData, finish, taken, ⟨⟩⟩ := Reader.bind_inv rest
  obtain ⟨short, enough, left⟩ := strLen_inv counted
  obtain ⟨length, announced, left'⟩ := readDataBytes_inv taken
  have cut : (cString strData).length ≤ strData.length := (List.takeWhile_prefix _).length_le
  exact ⟨fitsString_cString (length ▸ short), by omega, by omega⟩

end Reads

/-- A value from `announced` bytes of which `left` are left.  The byte that closes an
object is skipped even where it is missing. -/
structure Taken (value : AMFValue) (announced left : Int) : Prop where
  accepted : Accepted value
  weighs : value.fullLength + left ≤ announced
  ends : 0 ≤ announced → -1 ≤ left

/-- Entries that were added to `present`, with the empty key behind them. -/
structure TakenEntries (present entries : List (Bytes × AMFValue)) (announced left : Int) :
    Prop where
  accepted : AcceptedEntries entries
  weighs : fullLengthEntries entries + 2 + left ≤ fullLengthEntries present + announced
  ends : 0 ≤ left

theorem parseValue_takes {fuel : Nat}
    (loop : ∀ memory (cursor : Cursor) entries (after : Cursor),
      parseEntries fuel [] memory cursor = .ok entries after →
        TakenEntries [] entries cursor.dataLen after.dataLen)
    {memory : Nat → UInt8} {cursor after : Cursor} {value : AMFValue}
    (parsed : parseValue (fuel + 1) [] memory cursor = .ok value after) :
    Taken value cursor.dataLen after.dataLen := by
  rw [parseValue] at parsed
  obtain ⟨tag, looked, ⟨⟩, selected⟩ := Reader.bind_inv parsed
  cases known : typeOfTag (memory cursor.data) with
  | none =>
      rw [known] at selected
      cases selected
  | some type =>
      rw [known] at selected
      obtain ⟨_, inside, ⟨⟩, body⟩ := Reader.bind_inv selected
      have code := typeOfTag_code known
      cases type with
      | string =>
          obtain ⟨text, _, read, ⟨⟩⟩ := Reader.bind_inv body
          obtain ⟨fits, weighs, ends⟩ := parseString_inv read
          refine ⟨.string fits, ?_, by omega⟩
          simp only [fullLength] at weighs ⊢
          omega
      | number =>
          obtain ⟨dataNumber, _, read, ⟨⟩⟩ := Reader.bind_inv body
          obtain ⟨enough, left⟩ := readDataType_demands 8 8 false _ _ _ _ read
          refine ⟨.number _, ?_, by omega⟩
          simp only [fullLength] at enough left ⊢
          omega
      | boolean =>
          obtain ⟨dataBoolean, _, read, ⟨⟩⟩ := Reader.bind_inv body
          obtain ⟨enough, left⟩ := readDataType_demands 1 1 false _ _ _ _ read
          refine ⟨.boolean _, ?_, by omega⟩
          simp only [fullLength] at enough left ⊢
          omega
      | object =>
          obtain ⟨entries, _, read, closing⟩ := Reader.bind_inv body
          obtain ⟨_, _, ⟨⟩, ⟨⟩⟩ := Reader.bind_inv closing
          obtain ⟨accepted, weighs, ends⟩ := loop _ _ _ _ read
          refine ⟨.object accepted.sorted accepted.keys accepted.values, ?_, ?_⟩
          · simp only [fullLength, fullLengthEntries] at weighs ⊢
            push_cast
            omega
          · intro _
            simp only
            omega
      | ecmaArray =>
          obtain ⟨count, _, counted, listed⟩ := Reader.bind_inv body
          obtain ⟨entries, _, read, closing⟩ := Reader.bind_inv listed
          obtain ⟨_, _, ⟨⟩, ⟨⟩⟩ := Reader.bind_inv closing
          obtain ⟨enough, left⟩ := readDataType_demands 4 4 false _ _ _ _ counted
          obtain ⟨accepted, weighs, ends⟩ := loop _ _ _ _ read
          refine ⟨.ecmaArray accepted.sorted accepted.keys accepted.values, ?_, ?_⟩
          · simp only [fullLength, fullLengthEntries] at weighs left ⊢
            push_cast
            omega
          · intro _
            simp only
            omega
      | nul =>
          cases body
          exact ⟨.nul, by simp only [fullLength]; omega, by simp only; omega⟩
      | undefined =>
          cases body
          exact ⟨.undefined, by simp only [fullLength]; omega, by simp only; omega⟩
      | strictArray =>
          cases body
          exact ⟨.strictArray, by simp only [fullLength]; omega, by simp only; omega⟩
      | endOfObject | unknown | root =>
          rw [code] at known
          cases known

theorem parseEntries_takes {fuel : Nat}
    (one : ∀ memory (cursor : Cursor) value (after : Cursor),
      parseValue fuel [] memory cursor = .ok value after →
        Taken value cursor.dataLen after.dataLen)
    (loop : ∀ present, AcceptedEntries present →
      ∀ memory (cursor : Cursor) entries (after : Cursor),
        parseEntries fuel present memory cursor = .ok entries after →
          TakenEntries present entries cursor.dataLen after.dataLen)
    {present entries : List (Bytes × AMFValue)} (accepted : AcceptedEntries present)
    {memory : Nat → UInt8} {cursor after : Cursor}
    (parsed : parseEntries (fuel + 1) present memory cursor = .ok entries after) :
    TakenEntries present entries cursor.dataLen after.dataLen := by
  rw [parseEntries] at parsed
  obtain ⟨strLen, counted, read, rest⟩ := Reader.bind_inv parsed
  obtain ⟨short, enough, left⟩ := strLen_inv read
  split at rest
  · cases rest
    exact ⟨accepted, by omega, by omega⟩
  · obtain ⟨propName, named, key, rest⟩ := Reader.bind_inv rest
    obtain ⟨am, filled, value, more⟩ := Reader.bind_inv rest
    obtain ⟨length, announced, left'⟩ := readDataBytes_inv key
    have taken := one _ _ _ _ value
    have fits := fitsString_cString (length ▸ short)
    have weighs := taken.weighs
    have added := fullLengthEntries_insert (cString propName) am present
    have cut : (cString propName).length ≤ propName.length :=
      (List.takeWhile_prefix _).length_le
    have others := loop _ (accepted.insert fits taken.accepted) _ _ _ _ more
    have heavier := others.weighs
    exact ⟨others.accepted, by omega, others.ends⟩

theorem parse_takes (fuel : Nat) :
    (∀ memory (cursor : Cursor) value (after : Cursor),
      parseValue fuel [] memory cursor = .ok value after →
        Taken value cursor.dataLen after.dataLen) ∧
    (∀ present, AcceptedEntries present → ∀ memory (cursor : Cursor) entries (after : Cursor),
      parseEntries fuel present memory cursor = .ok entries after →
        TakenEntries present entries cursor.dataLen after.dataLen) := by
  induction fuel with
  | zero =>
      constructor
      · intro memory cursor value after parsed
        cases parsed
      · intro present _ memory cursor entries after parsed
        cases parsed
  | succ fuel ih =>
      obtain ⟨one, loop⟩ := ih
      constructor
      · intro memory cursor value after parsed
        exact parseValue_takes (loop [] .nil) parsed
      · intro present accepted memory cursor entries after parsed
        exact parseEntries_takes one loop accepted parsed

theorem parseArray_takes (fuel : Nat) : ∀ (present values : List AMFValue) (memory : Nat → UInt8)
    (cursor after : Cursor), (∀ value ∈ present, Accepted value) → -1 ≤ cursor.dataLen →
      parseArray fuel present memory cursor = .ok values after →
      (∀ value ∈ values, Accepted value) ∧ -1 ≤ after.dataLen ∧
        fullLengthArray values + after.dataLen ≤ fullLengthArray present + cursor.dataLen := by
  induction fuel with
  | zero =>
      intro present values memory cursor after _ _ parsed
      cases parsed
  | succ fuel inductionHypothesis =>
      intro present values memory cursor after accepted announced parsed
      rw [parseArray, Reader.dataLen_bind] at parsed
      split at parsed
      · rename_i more
        obtain ⟨am, middle, value, rest⟩ := Reader.bind_inv parsed
        have taken := (parse_takes fuel).1 _ _ _ _ value
        have weighs := taken.weighs
        obtain ⟨each, ends, total⟩ := inductionHypothesis (present ++ [am]) values memory middle
          after (List.forall_mem_append.mpr ⟨accepted, by simpa using taken.accepted⟩)
          (taken.ends (by omega)) rest
        rw [fullLengthArray_append] at total
        simp only [fullLengthArray] at total
        exact ⟨each, ends, by omega⟩
      · cases parsed
        exact ⟨accepted, announced, Int.le_refl _⟩

/-! ## The values that can be written again -/

/-- No value that `Serialize` refuses and no empty key, at any depth. -/
inductive Plain : AMFValue → Prop where
  | string (text : Bytes) : Plain (.string text)
  | number (bits : UInt64) : Plain (.number bits)
  | boolean (flag : Bool) : Plain (.boolean flag)
  | nul : Plain .nul
  | object {entries : List (Bytes × AMFValue)} (keys : ∀ entry ∈ entries, entry.1 ≠ [])
      (values : ∀ entry ∈ entries, Plain entry.2) : Plain (.object entries)
  | ecmaArray {entries : List (Bytes × AMFValue)} (keys : ∀ entry ∈ entries, entry.1 ≠ [])
      (values : ∀ entry ∈ entries, Plain entry.2) : Plain (.ecmaArray entries)

theorem Accepted.encodable {value : AMFValue} (accepted : Accepted value) :
    Plain value → Encodable value := by
  induction accepted with
  | string fits => exact fun _ => .string fits
  | number bits => exact fun _ => .number bits
  | boolean flag => exact fun _ => .boolean flag
  | nul => exact fun _ => .nul
  | undefined | strictArray =>
      intro plain
      cases plain
  | object sorted keys _ inductionHypothesis =>
      intro plain
      cases plain with
      | object nonempty values =>
          exact .object sorted (fun entry member => ⟨nonempty entry member, keys entry member⟩)
            fun entry member => inductionHypothesis entry member (values entry member)
  | ecmaArray sorted keys _ inductionHypothesis =>
      intro plain
      cases plain with
      | ecmaArray nonempty values =>
          exact .ecmaArray sorted (fun entry member => ⟨nonempty entry member, keys entry member⟩)
            fun entry member => inductionHypothesis entry member (values entry member)

theorem textsEntries_short : ∀ entries : List (Bytes × AMFValue),
    (∀ entry ∈ entries, FitsString entry.1) →
    (∀ entry ∈ entries, ∀ text ∈ entry.2.texts, text.length < 2 ^ 16) →
      ∀ text ∈ textsEntries entries, text.length < 2 ^ 16 := by
  intro entries
  induction entries with
  | nil => exact fun _ _ => List.forall_mem_nil _
  | cons entry entries inductionHypothesis =>
      intro keys values text member
      obtain ⟨key, value⟩ := entry
      rw [textsEntries, List.cons_append, List.mem_cons, List.mem_append] at member
      rcases member with rfl | member | member
      · exact (keys _ List.mem_cons_self).short
      · exact values _ List.mem_cons_self text member
      · exact inductionHypothesis (fun other inside => keys other (List.mem_cons_of_mem _ inside))
          (fun other inside => values other (List.mem_cons_of_mem _ inside)) text member

theorem Accepted.texts_short {value : AMFValue} (accepted : Accepted value) :
    ∀ text ∈ value.texts, text.length < 2 ^ 16 := by
  induction accepted with
  | string fits =>
      intro text member
      rw [List.mem_singleton.mp member]
      exact fits.short
  | number | boolean | nul | undefined | strictArray => exact List.forall_mem_nil _
  | object _ keys _ inductionHypothesis | ecmaArray _ keys _ inductionHypothesis =>
      exact textsEntries_short _ keys inductionHypothesis

theorem textsArray_short : ∀ values : List AMFValue, (∀ value ∈ values, Accepted value) →
    ∀ text ∈ textsArray values, text.length < 2 ^ 16 := by
  intro values
  induction values with
  | nil => exact fun _ => List.forall_mem_nil _
  | cons value values inductionHypothesis =>
      intro each text member
      rw [textsArray, List.mem_append] at member
      rcases member with member | member
      · exact (each value List.mem_cons_self).texts_short text member
      · exact inductionHypothesis (fun other inside => each other (List.mem_cons_of_mem _ inside))
          text member

/-- What is written of accepted values has the length that was counted. -/
theorem root_written {values : List AMFValue} (each : ∀ value ∈ values, Accepted value)
    (small : fullLengthArray values < 2 ^ 31) {length : Int}
    (announced : (AMFValue.root values).getLength = .ok length) :
    ∃ bytes, serializeArray values = .ok bytes ∧ bytes.length = fullLengthArray values ∧
      (toSerializable (.root values)).serializeToBuffer = .ok bytes := by
  obtain ⟨bytes, written, counted, buffer⟩ :=
    (length_exact_iff announced small).mpr (textsArray_short values each)
  have measured := (measured_of_getLength _ _ announced).announced
  rw [fullLength, toInt_of_lt small] at measured
  have same := Except.ok.inj (counted.symm.trans measured)
  exact ⟨bytes, written, Int.ofNat.inj same, buffer⟩

/-! ## The values that do not come back -/

/-- What is parsed from the bytes of `value` is another value, if anything. -/
def Misread (value : AMFValue) : Prop :=
  ∀ bytes, value.serialize = .ok bytes → ∀ fuel memory (cursor after : Cursor),
    bytes.length < fuel → Holds memory cursor.data bytes → (bytes.length : Int) ≤ cursor.dataLen →
      parseValue fuel [] memory cursor ≠ .ok value after

theorem parseEntries_keeps {fuel : Nat} {present entries : List (Bytes × AMFValue)}
    {memory : Nat → UInt8} {cursor after : Cursor} (sorted : OrdMap.Sorted present)
    (parsed : parseEntries fuel present memory cursor = .ok entries after) {key : Bytes}
    {value : AMFValue} (found : OrdMap.find? key present = some value) :
    OrdMap.find? key entries = some value := by
  rw [parseEntries_eq] at parsed
  obtain ⟨listed, middle, -, ⟨⟩⟩ := Reader.bind_inv parsed
  rw [merge, OrdMap.find?_foldl_insert key listed sorted, found, Option.some_or]

section Entries

variable {key : Bytes} {value : AMFValue} {present entries rest : List (Bytes × AMFValue)}

theorem find?_inside (sorted : OrdMap.Sorted (present ++ (key, value) :: rest)) :
    OrdMap.find? key (present ++ (key, value) :: rest) = some value :=
  (OrdMap.find?_eq_some_iff sorted.distinct).mpr (by simp)

theorem find?_inserted (sorted : OrdMap.Sorted (present ++ (key, value) :: rest))
    (am : AMFValue) : OrdMap.find? key (OrdMap.insert key am present) = some am := by
  have distinct := sorted.distinct
  rw [List.map_append, List.map_cons, List.nodup_append] at distinct
  have absent : key ∉ present.map Prod.fst :=
    fun inside => distinct.2.2 key inside key List.mem_cons_self rfl
  rw [OrdMap.find?_insert (List.Pairwise.sublist (List.sublist_append_left ..) sorted),
    OrdMap.find?_of_absent absent, Option.none_or]
  simp [OrdMap.find?]

/-- The entries in front of the first one that does not come back are read as they were.
That one ends the object if its key is empty, and else stands for its key for good. -/
theorem entries_misread (entries : List (Bytes × AMFValue)) :
    (∀ entry ∈ entries, FitsString entry.1 ∧ Accepted entry.2 ∧
      (Plain entry.2 ∨ Misread entry.2)) →
    ¬ (∀ entry ∈ entries, entry.1 ≠ [] ∧ Plain entry.2) →
    ∀ bytes, serializeEntries entries = .ok bytes → ∀ present,
      OrdMap.Sorted (present ++ entries) → ∀ fuel memory (cursor after : Cursor),
      bytes.length < fuel → Holds memory cursor.data bytes →
      (bytes.length : Int) ≤ cursor.dataLen →
        parseEntries fuel present memory cursor ≠ .ok (present ++ entries) after := by
  induction entries with
  | nil => exact fun _ spoilt => absurd (List.forall_mem_nil _) spoilt
  | cons entry entries inductionHypothesis =>
      intro each spoilt bytes written present sorted fuel memory cursor after enough holds
        announced parsed
      obtain ⟨key, value⟩ := entry
      obtain ⟨⟨fits, accepted, comesBack⟩, others⟩ := List.forall_mem_cons.mp each
      obtain ⟨image, rest, serialized, tail, rfl⟩ : ∃ image rest, value.serialize = .ok image ∧
          serializeEntries entries = .ok rest ∧ bytes = serializeString key ++ image ++ rest := by
        cases one : value.serialize with
        | error stop => simp [serializeEntries, one, bind, Except.bind] at written
        | ok image =>
            cases more : serializeEntries entries with
            | error stop => simp [serializeEntries, one, more, bind, Except.bind] at written
            | ok rest =>
                simp only [serializeEntries, one, more, bind, Except.bind, Except.ok.injEq]
                  at written
                exact ⟨image, rest, rfl, rfl, written.symm⟩
      rw [serializeString_fits fits] at enough holds announced
      simp only [List.length_append, beBytes_length, List.append_assoc] at enough holds announced
      obtain ⟨fuel, rfl⟩ := Nat.exists_eq_succ_of_ne_zero (show fuel ≠ 0 by omega)
      obtain ⟨counted, held⟩ := holds_append.mp holds
      obtain ⟨keyHeld, held⟩ := holds_append.mp held
      obtain ⟨imageHeld, held⟩ := holds_append.mp held
      rw [beBytes_length] at keyHeld imageHeld held
      obtain ⟨readEnd, -, read⟩ := strLen_reads fits memory cursor counted
        (by rw [beBytes_length]; omega)
      rw [parseEntries, Reader.bind_ok read] at parsed
      by_cases empty : key.length = 0
      · -- The loop is over, with this entry still to come.
        rw [if_pos empty] at parsed
        obtain ⟨same, -⟩ := ReadResult.ok.inj parsed
        exact List.cons_ne_nil _ _ (List.self_eq_append_right.mp same)
      · rw [if_neg empty] at parsed
        obtain ⟨readEnd', -, read'⟩ := readDataBytes_reads key memory
          ⟨cursor.data + 2, cursor.dataLen - 2, readEnd⟩ keyHeld (by simp only; omega)
        simp only [beBytes_length, Nat.cast_ofNat] at parsed
        rw [Reader.bind_ok read', cString_zeroFree fits.zeroFree] at parsed
        obtain ⟨am, middle, one, more⟩ := Reader.bind_inv parsed
        have sortedPresent := List.Pairwise.sublist (List.sublist_append_left ..) sorted
        have kept := parseEntries_keeps (OrdMap.sorted_insert sortedPresent) more
          (find?_inserted sorted am)
        rw [find?_inside sorted] at kept
        obtain rfl := Option.some.inj kept
        rcases comesBack with plain | misread
        · obtain ⟨image', encodes⟩ := (accepted.encodable plain).encodes
          obtain rfl := Except.ok.inj (serialized.symm.trans encodes.serialized)
          obtain ⟨readEnd'', -, reads⟩ := encodes.parsed fuel (by omega) memory
            ⟨cursor.data + 2 + key.length, cursor.dataLen - 2 - key.length, readEnd'⟩ imageHeld
            (by simp only; omega)
          obtain ⟨-, rfl⟩ := ReadResult.ok.inj (one.symm.trans reads)
          have above : ∀ other ∈ present, compare other.1 key = .lt := fun other member =>
            (List.pairwise_append.mp sorted).2.2 other member (key, value) List.mem_cons_self
          have regrouped : present ++ (key, value) :: entries =
              present ++ [(key, value)] ++ entries := by simp
          have nonempty : key ≠ [] := fun isEmpty => empty (isEmpty ▸ rfl)
          have spoilt' : ¬ ∀ entry ∈ entries, entry.1 ≠ [] ∧ Plain entry.2 := fun good =>
            spoilt (List.forall_mem_cons.mpr ⟨⟨nonempty, plain⟩, good⟩)
          rw [OrdMap.insert_of_above above, regrouped] at more
          exact inductionHypothesis others spoilt' rest tail _ (regrouped ▸ sorted) fuel memory _ _
            (by omega) held (by simp only; omega) more
        · exact misread image serialized _ _ _ _ (by omega) imageHeld (by simp only; omega) one

/-- What stands between the tag of an object and its entries does not matter. -/
theorem objectBody_misread {make : List (Bytes × AMFValue) → AMFValue}
    (injective : Function.Injective make) (sorted : OrdMap.Sorted entries)
    (each : ∀ entry ∈ entries, FitsString entry.1 ∧ Accepted entry.2 ∧
      (Plain entry.2 ∨ Misread entry.2))
    (spoilt : ¬ ∀ entry ∈ entries, entry.1 ≠ [] ∧ Plain entry.2) {bytes : Bytes}
    (written : serializeEntries entries = .ok bytes) {fuel : Nat} {memory : Nat → UInt8}
    {cursor after : Cursor} (enough : bytes.length < fuel) (holds : Holds memory cursor.data bytes)
    (announced : (bytes.length : Int) ≤ cursor.dataLen) :
    objectBody fuel [] make memory cursor ≠ .ok (make entries) after := by
  intro parsed
  obtain ⟨result, middle, loop, closing⟩ := Reader.bind_inv parsed
  obtain ⟨_, _, -, same⟩ := Reader.bind_inv closing
  obtain rfl := injective (ReadResult.ok.inj same).1
  exact entries_misread _ each spoilt bytes written [] sorted fuel memory cursor middle enough holds
    announced loop

theorem object_misread (sorted : OrdMap.Sorted entries)
    (each : ∀ entry ∈ entries, FitsString entry.1 ∧ Accepted entry.2 ∧
      (Plain entry.2 ∨ Misread entry.2))
    (spoilt : ¬ ∀ entry ∈ entries, entry.1 ≠ [] ∧ Plain entry.2) :
    Misread (.object entries) := by
  intro bytes written fuel memory cursor after enough holds announced
  cases inner : serializeEntries entries with
  | error stop => simp [serialize, inner, bind, Except.bind] at written
  | ok image =>
      simp only [serialize, inner, bind, Except.bind, Except.ok.injEq, List.cons_append,
        List.append_assoc] at written
      subst written
      obtain ⟨fuel, rfl⟩ := Nat.exists_eq_succ_of_ne_zero (show fuel ≠ 0 by omega)
      obtain ⟨tag, held⟩ := holds_cons.mp holds
      simp only [List.length_cons, List.length_append, Nat.cast_add, Nat.cast_one]
        at enough announced
      rw [parseValue, Reader.tag_apply tag (show _ = Reader.skip 1 >>= fun _ =>
        objectBody fuel [] AMFValue.object from rfl)]
      exact objectBody_misread (fun _ _ => AMFValue.object.inj) sorted each spoilt inner (by omega)
        (holds_append.mp held).1 (by simp only; omega)

theorem ecmaArray_misread (sorted : OrdMap.Sorted entries)
    (each : ∀ entry ∈ entries, FitsString entry.1 ∧ Accepted entry.2 ∧
      (Plain entry.2 ∨ Misread entry.2))
    (spoilt : ¬ ∀ entry ∈ entries, entry.1 ≠ [] ∧ Plain entry.2) :
    Misread (.ecmaArray entries) := by
  intro bytes written fuel memory cursor after enough holds announced
  cases inner : serializeEntries entries with
  | error stop => simp [serialize, inner, bind, Except.bind] at written
  | ok image =>
      simp only [serialize, inner, bind, Except.bind, Except.ok.injEq, List.cons_append,
        List.append_assoc] at written
      subst written
      obtain ⟨fuel, rfl⟩ := Nat.exists_eq_succ_of_ne_zero (show fuel ≠ 0 by omega)
      obtain ⟨tag, held⟩ := holds_cons.mp holds
      obtain ⟨countHeld, held⟩ := holds_append.mp held
      have width : (writeDataType 4 4 false entries.length).length = 4 := by
        rw [writeDataType_be _ (Or.inr (Or.inr (Or.inl rfl))) (Nat.le_refl 4), beBytes_length]
      simp only [List.length_cons, List.length_append, Nat.cast_add, Nat.cast_one, width]
        at enough announced held
      rw [parseValue, Reader.tag_apply tag (show _ = Reader.skip 1 >>= fun _ =>
        (do
          let _ ← readDataType 4 4 false 0
          objectBody fuel [] AMFValue.ecmaArray) from rfl)]
      intro parsed
      obtain ⟨_, middle, counted, body⟩ := Reader.bind_inv parsed
      have reads := readDataType_width 4 4 false _ width
      obtain ⟨count, reads⟩ := reads
      obtain ⟨readEnd, -, read⟩ := reads memory
        ⟨cursor.data + 1, cursor.dataLen - 1, max cursor.readEnd (cursor.data + 1)⟩ countHeld
        (by rw [width]; simp only; omega)
      rw [width] at read
      obtain ⟨-, rfl⟩ := ReadResult.ok.inj (counted.symm.trans read)
      exact objectBody_misread (fun _ _ => AMFValue.ecmaArray.inj) sorted each spoilt inner
        (by omega) (holds_append.mp held).1 (by simp only; omega) body

end Entries

theorem Accepted.comes_back_or {value : AMFValue} (accepted : Accepted value) :
    Plain value ∨ Misread value := by
  induction accepted with
  | string fits => exact Or.inl (.string _)
  | number bits => exact Or.inl (.number bits)
  | boolean flag => exact Or.inl (.boolean flag)
  | nul => exact Or.inl .nul
  | undefined | strictArray =>
      refine Or.inr fun bytes written => ?_
      cases written
  | @object entries sorted keys values inductionHypothesis =>
      by_cases good : ∀ entry ∈ entries, entry.1 ≠ [] ∧ Plain entry.2
      · exact Or.inl (.object (fun entry member => (good entry member).1)
          fun entry member => (good entry member).2)
      · exact Or.inr (object_misread sorted (fun entry member =>
          ⟨keys entry member, values entry member, inductionHypothesis entry member⟩) good)
  | @ecmaArray entries sorted keys values inductionHypothesis =>
      by_cases good : ∀ entry ∈ entries, entry.1 ≠ [] ∧ Plain entry.2
      · exact Or.inl (.ecmaArray (fun entry member => (good entry member).1)
          fun entry member => (good entry member).2)
      · exact Or.inr (ecmaArray_misread sorted (fun entry member =>
          ⟨keys entry member, values entry member, inductionHypothesis entry member⟩) good)

theorem parseArray_extends (fuel : Nat) : ∀ (present values : List AMFValue)
    (memory : Nat → UInt8) (cursor after : Cursor),
    parseArray fuel present memory cursor = .ok values after → present <+: values := by
  induction fuel with
  | zero =>
      intro present values memory cursor after parsed
      cases parsed
  | succ fuel inductionHypothesis =>
      intro present values memory cursor after parsed
      rw [parseArray, Reader.dataLen_bind] at parsed
      split at parsed
      · obtain ⟨am, middle, -, rest⟩ := Reader.bind_inv parsed
        exact (List.prefix_append present [am]).trans (inductionHypothesis _ _ _ _ _ rest)
      · cases parsed
        exact List.prefix_rfl

theorem array_misread (values : List AMFValue) : (∀ value ∈ values, Accepted value) →
    ¬ (∀ value ∈ values, Plain value) → ∀ bytes, serializeArray values = .ok bytes →
    ∀ present fuel memory (cursor after : Cursor), bytes.length + 1 < fuel →
      Holds memory cursor.data bytes → cursor.dataLen = bytes.length →
        parseArray fuel present memory cursor ≠ .ok (present ++ values) after := by
  induction values with
  | nil => exact fun _ spoilt => absurd (List.forall_mem_nil _) spoilt
  | cons value values inductionHypothesis =>
      intro each spoilt bytes written present fuel memory cursor after enough holds announced parsed
      obtain ⟨accepted, others⟩ := List.forall_mem_cons.mp each
      obtain ⟨image, rest, serialized, tail, rfl⟩ : ∃ image rest, value.serialize = .ok image ∧
          serializeArray values = .ok rest ∧ bytes = image ++ rest := by
        cases one : value.serialize with
        | error stop => simp [serializeArray, one, bind, Except.bind] at written
        | ok image =>
            cases more : serializeArray values with
            | error stop => simp [serializeArray, one, more, bind, Except.bind] at written
            | ok rest =>
                simp only [serializeArray, one, more, bind, Except.bind, Except.ok.injEq]
                  at written
                exact ⟨image, rest, rfl, rfl, written.symm⟩
      rw [List.length_append] at enough
      obtain ⟨fuel, rfl⟩ := Nat.exists_eq_succ_of_ne_zero (show fuel ≠ 0 by omega)
      rcases accepted.comes_back_or with plain | misread
      · obtain ⟨image', encodes⟩ := (accepted.encodable plain).encodes
        obtain rfl := Except.ok.inj (serialized.symm.trans encodes.serialized)
        have positive := encodes.nonempty
        obtain ⟨readEnd, -, held, step⟩ := parseArray_step positive
          (encodes.parsed fuel (by omega)) present holds announced
        have spoilt' : ¬ ∀ value ∈ values, Plain value := fun good =>
          spoilt (List.forall_mem_cons.mpr ⟨plain, good⟩)
        have regrouped : present ++ value :: values = present ++ [value] ++ values := by simp
        rw [step, regrouped] at parsed
        exact inductionHypothesis others spoilt' rest tail _ fuel memory _ _ (by omega) held rfl
          parsed
      · rw [parseArray, Reader.dataLen_bind] at parsed
        split at parsed
        · obtain ⟨am, middle, one, more⟩ := Reader.bind_inv parsed
          obtain ⟨later, same⟩ := parseArray_extends _ _ _ _ _ _ more
          rw [List.append_assoc, List.append_cancel_left_eq, List.singleton_append] at same
          obtain ⟨rfl, -⟩ := List.cons.inj same
          exact misread image serialized _ _ _ _ (by omega) (holds_append.mp holds).1
            (by rw [announced, List.length_append]; omega) one
        · obtain ⟨same, -⟩ := ReadResult.ok.inj parsed
          exact List.cons_ne_nil _ _ (List.self_eq_append_right.mp same)

/-- What comes out of a payload is written again, in at most one byte more, and comes out
of that once more, exactly if it is plain. -/
theorem parsed_payload_normalises {data : Bytes} {values : List AMFValue}
    (short : data.length + 1 < 2 ^ 31)
    (parsed : parseBuffer (parseRoot []) data = .ok (.root values)) :
    (∃ bytes, (toSerializable (.root values)).serializeToBuffer = .ok bytes ∧
      bytes.length ≤ data.length + 1 ∧ parseBuffer (parseRoot []) bytes = .ok (.root values)) ↔
      ∀ value ∈ values, Plain value := by
  obtain ⟨after, ran, -⟩ := parseBuffer_ok_iff.mp parsed
  rw [parseRoot, Reader.dataLen_bind] at ran
  obtain ⟨values', _, ran, ⟨⟩⟩ := Reader.bind_inv ran
  rw [toInt_of_lt (by omega)] at ran
  obtain ⟨each, ends, weighs⟩ := parseArray_takes _ _ _ _ _ _ (List.forall_mem_nil _)
    (by simp only; omega) ran
  simp only [fullLengthArray] at weighs
  have small : fullLengthArray values < 2 ^ 31 := by omega
  constructor
  · rintro ⟨bytes, buffer, bound, back⟩
    by_contra spoilt
    obtain ⟨length, announced⟩ : ∃ length, (AMFValue.root values).getLength = .ok length := by
      cases announced : (AMFValue.root values).getLength with
      | ok length => exact ⟨length, rfl⟩
      | error stop =>
          simp [Serializable.serializeToBuffer, toSerializable, announced, bind, Except.bind]
            at buffer
    obtain ⟨bytes', written, length', buffer'⟩ := root_written each small announced
    obtain rfl := Except.ok.inj (buffer.symm.trans buffer')
    obtain ⟨after', ran', -⟩ := parseBuffer_ok_iff.mp back
    rw [parseRoot, Reader.dataLen_bind] at ran'
    obtain ⟨values', _, ran', ⟨⟩⟩ := Reader.bind_inv ran'
    rw [toInt_of_lt (by omega)] at ran'
    exact array_misread values each spoilt bytes written [] _ _ ⟨0, bytes.length, 0⟩ _
      (by rw [Int.toNat_natCast]; omega) (holds_memoryOf bytes _) rfl ran'
  · intro plain
    obtain ⟨bytes, encodes⟩ := encodesArray_of_each values fun value member =>
      ((each value member).encodable (plain value member)).encodes
    obtain ⟨bytes', written, length, -⟩ := root_written each small encodes.getLength_root
    obtain rfl := Except.ok.inj (written.symm.trans encodes.serialized)
    obtain ⟨buffer, back⟩ := encodes.buffer (by omega)
    exact ⟨bytes', buffer, by omega, back⟩

/-- An object that lacks the byte that closes it gets one. -/
theorem unclosed_object_normalises :
    parseBuffer (parseRoot []) [3, 0, 1, 97, 5, 0, 0] = .ok (.root [.object [([97], .nul)]]) ∧
    ∃ bytes, (toSerializable (.root [.object [([97], .nul)]])).serializeToBuffer = .ok bytes ∧
      bytes.length ≤ 8 ∧
        parseBuffer (parseRoot []) bytes = .ok (.root [.object [([97], .nul)]]) := by
  have parsed : parseBuffer (parseRoot []) [3, 0, 1, 97, 5, 0, 0] =
      .ok (.root [.object [([97], .nul)]]) := by rfl
  refine ⟨parsed, (parsed_payload_normalises (by decide) parsed).mpr ?_⟩
  intro value member
  rw [List.mem_singleton.mp member]
  refine .object (by decide) ?_
  intro entry inside
  rw [List.mem_singleton.mp inside]
  exact .nul

end EasyRtmp.AMFValue
