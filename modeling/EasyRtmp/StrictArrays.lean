import EasyRtmp.AmfRoundTrip
import EasyRtmp.AmfBounds

/-!
# Arrays whose elements are not parsed

The AMF0 encodings of all value types that `ParseRef` accepts.  The parser takes
the tag of a strict array for the whole of it, so the count and the elements are
left to be parsed as what follows.
-/

set_option autoImplicit false

namespace EasyRtmp

open Lib Lib.ByteCodec AMFValue

/-- A value with what its encoding says of it.  The count of an ECMA array need not be
the number of its entries. -/
inductive AMFTree where
  | number (dataNumber : UInt64)
  | boolean (byte : UInt8)
  | string (dataString : Bytes)
  | object (entries : List (Bytes × AMFTree))
  | nul
  | undefined
  | ecmaArray (arraySize : Nat) (entries : List (Bytes × AMFTree))
  | strictArray (elements : List AMFTree)

namespace AMFTree

def type : AMFTree → AMFType
  | .number _ => .number
  | .boolean _ => .boolean
  | .string _ => .string
  | .object _ => .object
  | .nul => .nul
  | .undefined => .undefined
  | .ecmaArray _ _ => .ecmaArray
  | .strictArray _ => .strictArray

mutual

def encode : AMFTree → Bytes
  | .number dataNumber => AMFType.number.code :: beBytes 8 dataNumber.toNat
  | .boolean byte => [AMFType.boolean.code, byte]
  | .string dataString =>
      AMFType.string.code :: (beBytes 2 dataString.length ++ dataString)
  | .object entries =>
      [AMFType.object.code] ++ encodeEntries entries ++ beBytes 2 0 ++ [AMFType.endOfObject.code]
  | .nul => [AMFType.nul.code]
  | .undefined => [AMFType.undefined.code]
  | .ecmaArray arraySize entries =>
      AMFType.ecmaArray.code :: beBytes 4 arraySize ++ encodeEntries entries ++ beBytes 2 0 ++
        [AMFType.endOfObject.code]
  | .strictArray elements =>
      AMFType.strictArray.code :: (beBytes 4 elements.length ++ encodeElements elements)

def encodeEntries : List (Bytes × AMFTree) → Bytes
  | [] => []
  | (key, value) :: entries =>
      beBytes 2 key.length ++ key ++ encode value ++ encodeEntries entries

def encodeElements : List AMFTree → Bytes
  | [] => []
  | value :: values => encode value ++ encodeElements values

end

/-- The lengths that the format has room for. -/
inductive Formed : AMFTree → Prop where
  | number (dataNumber : UInt64) : Formed (.number dataNumber)
  | boolean (byte : UInt8) : Formed (.boolean byte)
  | string {dataString : Bytes} (short : dataString.length < 2 ^ 16) : Formed (.string dataString)
  | object {entries : List (Bytes × AMFTree)} (keys : ∀ entry ∈ entries, IsKey entry.1)
      (values : ∀ entry ∈ entries, Formed entry.2) : Formed (.object entries)
  | nul : Formed .nul
  | undefined : Formed .undefined
  | ecmaArray {entries : List (Bytes × AMFTree)} (arraySize : Nat)
      (keys : ∀ entry ∈ entries, IsKey entry.1) (values : ∀ entry ∈ entries, Formed entry.2) :
      Formed (.ecmaArray arraySize entries)
  | strictArray {elements : List AMFTree} (counted : elements.length < 2 ^ 32)
      (each : ∀ element ∈ elements, Formed element) : Formed (.strictArray elements)

def children : AMFTree → List AMFTree
  | .object entries | .ecmaArray _ entries => entries.map Prod.snd
  | .strictArray elements => elements
  | _ => []

/-- The value itself and whatever it holds at any depth. -/
inductive Part : AMFTree → AMFTree → Prop where
  | whole (tree : AMFTree) : Part tree tree
  | inside {tree child part : AMFTree} (member : child ∈ tree.children)
      (inner : Part child part) : Part tree part

def StrictFree (tree : AMFTree) : Prop := ∀ elements, ¬ Part tree (.strictArray elements)

/-- `ParseRef` takes exactly the encoding from in front of any suffix. -/
def Aligned (tree : AMFTree) : Prop :=
  ∀ suffix memory start readEnd, Holds memory start (tree.encode ++ suffix) →
    ∃ value after, parseRef [] memory ⟨start, (tree.encode ++ suffix).length, readEnd⟩ =
      .ok value ⟨start + tree.encode.length, suffix.length, after⟩

/-- A `ROOT` gets one element of the right type for each value. -/
def RootYields (trees : List AMFTree) : Prop :=
  ∀ memory start readEnd, Holds memory start (encodeElements trees) →
    ∃ values after, parseRoot [] memory ⟨start, (encodeElements trees).length, readEnd⟩ =
        .ok (.root values) ⟨start + (encodeElements trees).length, 0, after⟩ ∧
      values.map AMFValue.type = trees.map type

/-! ## Values without strict arrays -/

theorem encodeEntries_eq : ∀ entries : List (Bytes × AMFTree),
    encodeEntries entries =
      (entries.map fun entry => (entry.1, entry.2.encode)).flatMap entryBytes := by
  intro entries
  induction entries with
  | nil => rfl
  | cons entry entries inductionHypothesis =>
      rw [List.map_cons, List.flatMap_cons, ← inductionHypothesis]
      rfl

theorem isValue_object {opening : Bytes} (opens : Opens opening)
    {entries : List (Bytes × AMFTree)} (keys : ∀ entry ∈ entries, IsKey entry.1)
    (values : ∀ entry ∈ entries, IsValue entry.2.encode) :
    IsValue (opening ++ encodeEntries entries ++ beBytes 2 0 ++ [AMFType.endOfObject.code]) := by
  rw [encodeEntries_eq]
  exact .object _ opens (List.forall_mem_map.mpr keys) (List.forall_mem_map.mpr values)

theorem StrictFree.child {tree child : AMFTree} (free : tree.StrictFree)
    (member : child ∈ tree.children) : child.StrictFree :=
  fun elements part => free elements (.inside member part)

theorem Formed.isValue : ∀ {tree : AMFTree}, tree.Formed → tree.StrictFree →
    IsValue tree.encode := by
  intro tree formed
  induction formed with
  | number dataNumber =>
      intro _
      exact .number (beBytes_length 8 _)
  | boolean byte => exact fun _ => .boolean byte
  | string short => exact fun _ => .string short
  | nul => exact fun _ => .nul
  | undefined => exact fun _ => .undefined
  | object keys _ inductionHypothesis =>
      intro free
      refine isValue_object .object keys fun entry member => ?_
      exact inductionHypothesis entry member (free.child (List.mem_map_of_mem member))
  | ecmaArray arraySize keys _ inductionHypothesis =>
      intro free
      refine isValue_object (.ecmaArray (beBytes_length 4 arraySize)) keys fun entry member => ?_
      exact inductionHypothesis entry member (free.child (List.mem_map_of_mem member))
  | @strictArray elements _ _ _ => exact fun free => absurd (.whole _) (free elements)

/-! ## What is parsed -/

/-- A value has the type of its tag. -/
theorem parseValue_type {fuel : Nat} {dataObject : List (Bytes × AMFValue)} {memory : Nat → UInt8}
    {cursor after : Cursor} {value : AMFValue}
    (parsed : parseValue fuel dataObject memory cursor = .ok value after) :
    typeOfTag (memory cursor.data) = some value.type := by
  cases fuel with
  | zero => cases parsed
  | succ fuel =>
      rw [parseValue] at parsed
      obtain ⟨tag, middle, ⟨⟩, selected⟩ := Reader.bind_inv parsed
      cases known : typeOfTag (memory cursor.data) with
      | none =>
          rw [known] at selected
          cases selected
      | some type =>
          rw [known] at selected
          obtain ⟨_, inside, -, body⟩ := Reader.bind_inv selected
          have code := typeOfTag_code known
          cases type with
          | string | number | boolean =>
              obtain ⟨_, _, -, ⟨⟩⟩ := Reader.bind_inv body
              rfl
          | object =>
              obtain ⟨_, _, -, closing⟩ := Reader.bind_inv body
              obtain ⟨_, _, -, ⟨⟩⟩ := Reader.bind_inv closing
              rfl
          | ecmaArray =>
              obtain ⟨_, _, -, entries⟩ := Reader.bind_inv body
              obtain ⟨_, _, -, closing⟩ := Reader.bind_inv entries
              obtain ⟨_, _, -, ⟨⟩⟩ := Reader.bind_inv closing
              rfl
          | nul | undefined | strictArray =>
              cases body
              rfl
          | endOfObject | unknown | root =>
              rw [code] at known
              cases known

theorem encode_tag (tree : AMFTree) : ∃ body, tree.encode = tree.type.code :: body := by
  cases tree <;> exact ⟨_, rfl⟩

theorem typeOfTag_type (tree : AMFTree) : typeOfTag tree.type.code = some tree.type := by
  cases tree <;> rfl

theorem encode_pos (tree : AMFTree) : 0 < tree.encode.length := by
  obtain ⟨body, encoded⟩ := tree.encode_tag
  rw [encoded, List.length_cons]
  exact Nat.succ_pos _

/-- What is parsed from an encoding has the type of the value. -/
theorem reads_type {tree : AMFTree} {fuel : Nat} {value : AMFValue}
    (reads : Reads (parseValue fuel []) tree.encode value) : value.type = tree.type := by
  have holds := holds_memoryOf tree.encode fun _ => 0
  obtain ⟨readEnd, -, parsed⟩ :=
    reads _ ⟨0, tree.encode.length, 0⟩ holds (Int.le_refl _)
  have typed := parseValue_type parsed
  obtain ⟨body, encoded⟩ := tree.encode_tag
  rw [encoded] at holds
  have tag := (holds_cons.mp holds).1
  rw [encoded] at typed
  rw [tag, typeOfTag_type] at typed
  exact (Option.some.inj typed).symm

theorem aligned_of_isValue {tree : AMFTree} (isValue : IsValue tree.encode) : tree.Aligned := by
  intro suffix memory start readEnd holds
  obtain ⟨held, -⟩ := holds_append.mp holds
  have length : (tree.encode ++ suffix).length = tree.encode.length + suffix.length :=
    List.length_append
  obtain ⟨value, reads⟩ := isValue.readable (((tree.encode ++ suffix).length : Int).toNat + 2) []
    (by rw [length, Int.toNat_natCast]; omega)
  obtain ⟨after, -, parsed⟩ := reads memory ⟨start, (tree.encode ++ suffix).length, readEnd⟩ held
    (by simp only [length]; omega)
  have left : ((tree.encode ++ suffix).length : Int) - tree.encode.length = suffix.length := by
    rw [length]
    omega
  rw [left] at parsed
  exact ⟨value, after, parsed⟩

theorem parseArray_trees : ∀ trees : List AMFTree, (∀ tree ∈ trees, IsValue tree.encode) →
    ∀ fuel present memory (cursor : Cursor), (encodeElements trees).length + 1 < fuel →
      Holds memory cursor.data (encodeElements trees) →
      cursor.dataLen = (encodeElements trees).length →
      ∃ values after, parseArray fuel present memory cursor =
          .ok (present ++ values) ⟨cursor.data + (encodeElements trees).length, 0, after⟩ ∧
        values.map AMFValue.type = trees.map type := by
  intro trees
  induction trees with
  | nil =>
      intro _ fuel present memory cursor enough _ announced
      obtain ⟨fuel, rfl⟩ := Nat.exists_eq_succ_of_ne_zero (show fuel ≠ 0 by omega)
      obtain ⟨data, dataLen, readEnd⟩ := cursor
      obtain rfl : dataLen = 0 := announced
      exact ⟨[], readEnd, by rw [List.append_nil]; rfl, rfl⟩
  | cons tree trees inductionHypothesis =>
      intro each fuel present memory cursor enough holds announced
      obtain ⟨fuel, rfl⟩ := Nat.exists_eq_succ_of_ne_zero (show fuel ≠ 0 by omega)
      obtain ⟨first, others⟩ := List.forall_mem_cons.mp each
      have positive := tree.encode_pos
      rw [encodeElements, List.length_append] at enough
      obtain ⟨value, reads⟩ := first.readable fuel [] (by omega)
      obtain ⟨middle, -, backHeld, step⟩ := parseArray_step positive reads present holds announced
      obtain ⟨values, after, parsed, types⟩ := inductionHypothesis others fuel (present ++ [value])
        memory ⟨cursor.data + tree.encode.length, (encodeElements trees).length, middle⟩
        (by omega) backHeld rfl
      refine ⟨value :: values, after, ?_, ?_⟩
      · rw [step, parsed, encodeElements, List.length_append, Nat.add_assoc, List.append_assoc]
        rfl
      · rw [List.map_cons, List.map_cons, types, reads_type reads]

theorem rootYields_of_each {trees : List AMFTree} (each : ∀ tree ∈ trees, IsValue tree.encode) :
    RootYields trees := by
  intro memory start readEnd holds
  obtain ⟨values, after, parsed, types⟩ := parseArray_trees trees each
    (((encodeElements trees).length : Int).toNat + 3) [] memory
    ⟨start, (encodeElements trees).length, readEnd⟩ (by rw [Int.toNat_natCast]; omega) holds rfl
  refine ⟨values, after, ?_, types⟩
  rw [parseRoot, Reader.bind_apply]
  simp only [Reader.dataLen]
  exact Reader.bind_ok parsed _

/-- Of a strict array only the tag is taken. -/
theorem strictArray_misaligned (elements : List AMFTree) :
    ¬ (AMFTree.strictArray elements).Aligned := by
  intro aligned
  have encoded : (AMFTree.strictArray elements).encode =
      [AMFType.strictArray.code] ++ (beBytes 4 elements.length ++ encodeElements elements) := rfl
  have width : (AMFTree.strictArray elements).encode.length =
      5 + (encodeElements elements).length := by
    rw [encoded]
    simp only [List.length_append, List.length_singleton, beBytes_length]
    omega
  have holds := holds_memoryOf (AMFTree.strictArray elements).encode fun _ => 0
  have tag := (holds_append.mp (encoded ▸ holds)).1
  obtain ⟨value, after, parsed⟩ := aligned [] _ 0 0 (by rwa [List.append_nil])
  rw [List.append_nil] at parsed
  obtain ⟨taken, reads⟩ := IsValue.strictArray.readable
    (((AMFTree.strictArray elements).encode.length : Int).toNat + 2) []
    (by rw [List.length_singleton]; omega)
  obtain ⟨after', -, parsed'⟩ := reads _ ⟨0, (AMFTree.strictArray elements).encode.length, 0⟩ tag
    (by simp only [List.length_singleton]; omega)
  have stops : 0 + (AMFTree.strictArray elements).encode.length = 0 + 1 :=
    congrArg (fun result => result.cursor.data) (parsed.symm.trans parsed')
  omega

theorem Formed.child {tree child : AMFTree} (formed : tree.Formed)
    (member : child ∈ tree.children) : child.Formed := by
  cases formed with
  | number | boolean | string | nul | undefined => exact absurd member List.not_mem_nil
  | object _ values | ecmaArray _ _ values =>
      obtain ⟨entry, inside, rfl⟩ := List.mem_map.mp member
      exact values entry inside
  | strictArray _ each => exact each child member

theorem Part.isValue {tree part : AMFTree} (inner : Part tree part) :
    tree.Formed → tree.StrictFree → IsValue part.encode := by
  induction inner with
  | whole => exact fun formed free => formed.isValue free
  | inside member _ inductionHypothesis =>
      exact fun formed free => inductionHypothesis (formed.child member) (free.child member)

/-- Every value and every part of one is taken whole, and a `ROOT` gets as many values as
were encoded, exactly if there is no strict array among them. -/
theorem parse_aligned_iff {trees : List AMFTree} (formed : ∀ tree ∈ trees, tree.Formed) :
    ((∀ tree ∈ trees, ∀ part, Part tree part → part.Aligned) ∧ RootYields trees) ↔
      ∀ tree ∈ trees, tree.StrictFree := by
  constructor
  · rintro ⟨aligned, -⟩ tree member elements part
    exact strictArray_misaligned elements (aligned tree member _ part)
  · intro free
    have each : ∀ tree ∈ trees, IsValue tree.encode :=
      fun tree member => (formed tree member).isValue (free tree member)
    refine ⟨fun tree member part inner => ?_, rootYields_of_each each⟩
    exact aligned_of_isValue (inner.isValue (formed tree member) (free tree member))

/-- An object with one undefined entry, and an empty array. -/
def plainTrees : List AMFTree := [.object [([97], .undefined)], .ecmaArray 0 []]

theorem plainTrees_formed : ∀ tree ∈ plainTrees, tree.Formed := by
  refine List.forall_mem_cons.mpr ⟨.object ?_ ?_, List.forall_mem_cons.mpr ⟨.ecmaArray 0 ?_ ?_, ?_⟩⟩
  · exact List.forall_mem_singleton.mpr ⟨List.cons_ne_nil 97 [], by decide⟩
  · exact List.forall_mem_singleton.mpr .undefined
  all_goals exact List.forall_mem_nil _

theorem plainTrees_aligned :
    (∀ tree ∈ plainTrees, ∀ part, Part tree part → part.Aligned) ∧ RootYields plainTrees := by
  refine (parse_aligned_iff plainTrees_formed).mpr ?_
  intro tree member elements part
  simp only [plainTrees, List.mem_cons, List.not_mem_nil, or_false] at member
  rcases member with rfl | rfl
  · cases part with
    | inside member inner =>
        obtain rfl := List.mem_singleton.mp member
        cases inner with
        | inside member _ => cases member
  · cases part with
    | inside member _ => cases member

/-- An array of one null. -/
theorem nul_array_misaligned : (AMFTree.strictArray [.nul]).Formed ∧
    ¬ (AMFTree.strictArray [.nul]).Aligned := by
  refine ⟨.strictArray (by decide) ?_, strictArray_misaligned [.nul]⟩
  exact List.forall_mem_singleton.mpr .nul

end AMFTree

end EasyRtmp
