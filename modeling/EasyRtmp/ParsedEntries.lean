import EasyRtmp.Proto
import EasyRtmp.StrictArrays

/-!
# What is kept of the entries of an object

`decoded` is the value that `ParseRef` makes of an encoding.  A key or a string is
cut at its first zero byte, and an entry whose key is present already is dropped.
Without zero bytes every entry arrives, whatever the order and whatever an array
says of its size.
-/

set_option autoImplicit false

namespace EasyRtmp

open Lib Lib.ByteCodec AMFValue

namespace AMFTree

mutual

def decoded : AMFTree → AMFValue
  | .number dataNumber => .number dataNumber
  | .boolean byte => .boolean (byte ≠ 0)
  | .string dataString => .string (cString dataString)
  | .object entries => .object (decodedEntries [] entries)
  | .nul => .nul
  | .undefined => .undefined
  | .ecmaArray _ entries => .ecmaArray (decodedEntries [] entries)
  | .strictArray _ => .strictArray

/-- The loop over the entries, from the ones that are present on. -/
def decodedEntries (present : List (Bytes × AMFValue)) :
    List (Bytes × AMFTree) → List (Bytes × AMFValue)
  | [] => present
  | (key, value) :: entries =>
      decodedEntries (OrdMap.insert (cString key) (decoded value) present) entries

end

theorem decodedEntries_eq (present : List (Bytes × AMFValue)) : ∀ entries : List (Bytes × AMFTree),
    decodedEntries present entries =
      (entries.map fun entry => (cString entry.1, entry.2.decoded)).foldl
        (fun entries entry => OrdMap.insert entry.1 entry.2 entries) present := by
  intro entries
  induction entries generalizing present with
  | nil => rfl
  | cons entry entries inductionHypothesis =>
      obtain ⟨key, value⟩ := entry
      rw [decodedEntries, inductionHypothesis, List.map_cons, List.foldl_cons]

/-! ## The parser decodes -/

theorem reads_entries : ∀ entries : List (Bytes × AMFTree), (∀ entry ∈ entries, IsKey entry.1) →
    (∀ entry ∈ entries, ∀ fuel, entry.2.encode.length < fuel →
      Reads (parseValue fuel []) entry.2.encode entry.2.decoded) →
    ∀ fuel present, (encodeEntries entries).length < fuel →
      Reads (parseEntries fuel present) (encodeEntries entries ++ beBytes 2 0)
        (decodedEntries present entries) := by
  intro entries
  induction entries with
  | nil =>
      intro _ _ fuel present enough
      obtain ⟨fuel, rfl⟩ := Nat.exists_eq_succ_of_ne_zero (show fuel ≠ 0 by omega)
      rw [parseEntries]
      exact (strLen_reads_beBytes (show 0 < 2 ^ 16 by decide)).bind (Reads.pure present)
  | cons entry entries inductionHypothesis =>
      intro keys values fuel present enough
      obtain ⟨fuel, rfl⟩ := Nat.exists_eq_succ_of_ne_zero (show fuel ≠ 0 by omega)
      obtain ⟨key, value⟩ := entry
      obtain ⟨isKey, keys⟩ := List.forall_mem_cons.mp keys
      obtain ⟨first, others⟩ := List.forall_mem_cons.mp values
      simp only [encodeEntries, List.length_append, beBytes_length] at enough
      have later := inductionHypothesis keys others fuel
        (OrdMap.insert (cString key) value.decoded present) (by omega)
      rw [parseEntries, encodeEntries, decodedEntries]
      simp only [List.append_assoc]
      refine (strLen_reads_beBytes isKey.2).bind ?_
      rw [if_neg (List.length_pos_iff.mpr isKey.1).ne']
      exact (readDataBytes_reads key).bind ((first fuel (by simp only; omega)).bind later)

/-- An object behind its opening bytes. -/
theorem reads_object {fuel : Nat} {entries : List (Bytes × AMFTree)}
    (make : List (Bytes × AMFValue) → AMFValue)
    (body : Reads (parseEntries fuel []) (encodeEntries entries ++ beBytes 2 0)
      (decodedEntries [] entries)) :
    Reads (objectBody fuel [] make)
      (encodeEntries entries ++ beBytes 2 0 ++ [AMFType.endOfObject.code])
      (make (decodedEntries [] entries)) := by
  have closed : Reads (do Reader.skip 1; pure (make (decodedEntries [] entries)) :
      Reader Stop AMFValue) ([AMFType.endOfObject.code] ++ [])
      (make (decodedEntries [] entries)) :=
    (Reads.skip [AMFType.endOfObject.code]).bind (Reads.pure _)
  exact body.bind closed

theorem Formed.reads : ∀ {tree : AMFTree}, tree.Formed → tree.StrictFree →
    ∀ fuel, tree.encode.length < fuel → Reads (parseValue fuel []) tree.encode tree.decoded := by
  intro tree formed
  induction formed with
  | number dataNumber =>
      intro _ fuel enough
      exact (Encodes.number dataNumber).parsed fuel enough
  | boolean byte =>
      intro _ fuel enough
      obtain ⟨fuel, rfl⟩ := Nat.exists_eq_succ_of_ne_zero (show fuel ≠ 0 by omega)
      have read := (read1 byte).map fun dataBoolean => AMFValue.boolean (decide (dataBoolean ≠ 0))
      have flag : decide (byte.toNat ≠ 0) = decide (byte ≠ 0) := by
        rw [decide_eq_decide, ne_eq, ne_eq, ← UInt8.toNat_inj, UInt8.toNat_zero]
      rw [flag] at read
      exact Reads.tag rfl read
  | @string dataString short =>
      intro _ fuel enough
      obtain ⟨fuel, rfl⟩ := Nat.exists_eq_succ_of_ne_zero (show fuel ≠ 0 by omega)
      exact Reads.tag rfl (((strLen_reads_beBytes short).bind
        ((readDataBytes_reads dataString).map cString)).map AMFValue.string)
  | nul | undefined =>
      intro _ fuel enough
      obtain ⟨fuel, rfl⟩ := Nat.exists_eq_succ_of_ne_zero (show fuel ≠ 0 by omega)
      exact Reads.tag rfl (Reads.pure _)
  | @object entries keys _ inductionHypothesis =>
      intro free fuel enough
      obtain ⟨fuel, rfl⟩ := Nat.exists_eq_succ_of_ne_zero (show fuel ≠ 0 by omega)
      simp only [encode, List.length_append, List.length_singleton] at enough
      have body := reads_entries entries keys
        (fun entry member => inductionHypothesis entry member
          (free.child (List.mem_map_of_mem member))) fuel [] (by omega)
      exact Reads.tag rfl (reads_object AMFValue.object body)
  | @ecmaArray entries arraySize keys _ inductionHypothesis =>
      intro free fuel enough
      obtain ⟨fuel, rfl⟩ := Nat.exists_eq_succ_of_ne_zero (show fuel ≠ 0 by omega)
      simp only [encode, List.length_append, List.length_cons] at enough
      have body := reads_entries entries keys
        (fun entry member => inductionHypothesis entry member
          (free.child (List.mem_map_of_mem member))) fuel [] (by omega)
      have counted : Reads (do
          let _ ← readDataType 4 4 false 0
          objectBody fuel [] AMFValue.ecmaArray)
          (beBytes 4 arraySize ++ (encodeEntries entries ++ beBytes 2 0 ++
            [AMFType.endOfObject.code])) (.ecmaArray (decodedEntries [] entries)) :=
        (read4_be (beBytes_length 4 arraySize)).bind (reads_object AMFValue.ecmaArray body)
      have same : (AMFTree.ecmaArray arraySize entries).encode = AMFType.ecmaArray.code ::
          (beBytes 4 arraySize ++ (encodeEntries entries ++ beBytes 2 0 ++
            [AMFType.endOfObject.code])) := by
        simp [encode]
      rw [same]
      exact Reads.tag rfl counted
  | @strictArray elements _ _ _ => exact fun free => absurd (.whole _) (free elements)

/-- `ParseRef` makes `value` of the encoding in front of any suffix, which it leaves. -/
def Parses (tree : AMFTree) (value : AMFValue) : Prop :=
  ∀ suffix memory start readEnd, Holds memory start (tree.encode ++ suffix) →
    ∃ after, parseRef [] memory ⟨start, (tree.encode ++ suffix).length, readEnd⟩ =
      .ok value ⟨start + tree.encode.length, suffix.length, after⟩

theorem Formed.parses {tree : AMFTree} (formed : tree.Formed) (free : tree.StrictFree) :
    tree.Parses tree.decoded := by
  intro suffix memory start readEnd holds
  have announced : (tree.encode.length : Int) ≤ (tree.encode ++ suffix).length := by
    rw [List.length_append]
    omega
  have reads := formed.reads free (((tree.encode ++ suffix).length : Int).toNat + 2)
    (by rw [List.length_append, Int.toNat_natCast]; omega)
  obtain ⟨after, -, parsed⟩ := reads memory ⟨start, (tree.encode ++ suffix).length, readEnd⟩
    (holds_append.mp holds).1 announced
  have left : ((tree.encode ++ suffix).length : Int) - tree.encode.length = suffix.length := by
    rw [List.length_append]
    omega
  rw [left] at parsed
  exact ⟨after, parsed⟩

theorem Parses.unique {tree : AMFTree} {value other : AMFValue} (parses : tree.Parses value)
    (parses' : tree.Parses other) : value = other := by
  have held := holds_memoryOf (tree.encode ++ []) fun _ => 0
  obtain ⟨after, parsed⟩ := parses [] _ 0 0 held
  obtain ⟨after', parsed'⟩ := parses' [] _ 0 0 held
  rw [parsed] at parsed'
  injection parsed'

/-! ## What an encoding says and what is kept of it -/

def keys : AMFTree → List Bytes
  | .object entries | .ecmaArray _ entries => entries.map Prod.fst
  | _ => []

/-- The strings that pass through a C string. -/
def texts : AMFTree → List Bytes
  | .string dataString => [dataString]
  | tree => tree.keys

/-- No object at any depth has a key twice. -/
def DistinctKeys (tree : AMFTree) : Prop := ∀ part, Part tree part → part.keys.Nodup

/-- No key and no string at any depth has a zero byte. -/
def ZeroFree (tree : AMFTree) : Prop := ∀ part, Part tree part → ∀ text ∈ part.texts, 0 ∉ text

/-- The value holds as many entries as were encoded, under the same keys, and strings of
the announced lengths, at every depth. -/
inductive Keeps : AMFTree → AMFValue → Prop where
  | number (dataNumber : UInt64) : Keeps (.number dataNumber) (.number dataNumber)
  | boolean (byte : UInt8) : Keeps (.boolean byte) (.boolean (byte ≠ 0))
  | string {dataString held : Bytes} (length : held.length = dataString.length) :
      Keeps (.string dataString) (.string held)
  | nul : Keeps .nul .nul
  | undefined : Keeps .undefined .undefined
  | object {entries : List (Bytes × AMFTree)} {dataObject : List (Bytes × AMFValue)}
      (count : dataObject.length = entries.length)
      (keys : ∀ key, key ∈ dataObject.map Prod.fst ↔ key ∈ entries.map Prod.fst)
      (values : ∀ entry ∈ entries, ∀ value, OrdMap.find? entry.1 dataObject = some value →
        Keeps entry.2 value) : Keeps (.object entries) (.object dataObject)
  | ecmaArray {entries : List (Bytes × AMFTree)} {dataObject : List (Bytes × AMFValue)}
      (arraySize : Nat) (count : dataObject.length = entries.length)
      (keys : ∀ key, key ∈ dataObject.map Prod.fst ↔ key ∈ entries.map Prod.fst)
      (values : ∀ entry ∈ entries, ∀ value, OrdMap.find? entry.1 dataObject = some value →
        Keeps entry.2 value) : Keeps (.ecmaArray arraySize entries) (.ecmaArray dataObject)

theorem DistinctKeys.child {tree child : AMFTree} (distinct : tree.DistinctKeys)
    (member : child ∈ tree.children) : child.DistinctKeys :=
  fun part inner => distinct part (.inside member inner)

theorem ZeroFree.child {tree child : AMFTree} (zeroFree : tree.ZeroFree)
    (member : child ∈ tree.children) : child.ZeroFree :=
  fun part inner => zeroFree part (.inside member inner)

theorem zeroFree_iff {tree : AMFTree} : tree.ZeroFree ↔
    (∀ text ∈ tree.texts, 0 ∉ text) ∧ ∀ child ∈ tree.children, child.ZeroFree := by
  constructor
  · exact fun zeroFree => ⟨zeroFree tree (.whole tree), fun child member => zeroFree.child member⟩
  · rintro ⟨texts, children⟩ part inner
    cases inner with
    | whole => exact texts
    | inside member inner => exact children _ member part inner

theorem cString_length_eq {text : Bytes} : (cString text).length = text.length ↔ 0 ∉ text := by
  constructor
  · intro same member
    have ahead : cString text <+: text := List.takeWhile_prefix _
    have whole := List.takeWhile_eq_self_iff.mp (ahead.eq_of_length same) 0 member
    simp at whole
  · intro zeroFree
    rw [cString_zeroFree zeroFree]

theorem zero_notMem_cString (text : Bytes) : 0 ∉ cString text := by
  intro member
  have nonzero := List.mem_takeWhile_imp member
  simp at nonzero

section Entries
variable {entries : List (Bytes × AMFTree)}

/-- What the loop builds, with the keys as they are. -/
theorem decodedEntries_zeroFree (zeroFree : ∀ key ∈ entries.map Prod.fst, 0 ∉ key) :
    decodedEntries [] entries = (entries.map fun entry => (entry.1, entry.2.decoded)).foldl
      (fun entries entry => OrdMap.insert entry.1 entry.2 entries) [] := by
  rw [decodedEntries_eq]
  congr 1
  refine List.map_congr_left fun entry member => ?_
  rw [cString_zeroFree (zeroFree entry.1 (List.mem_map_of_mem member))]

theorem perm_decodedEntries (zeroFree : ∀ key ∈ entries.map Prod.fst, 0 ∉ key)
    (distinct : (entries.map Prod.fst).Nodup) :
    (decodedEntries [] entries).Perm (entries.map fun entry => (entry.1, entry.2.decoded)) := by
  rw [decodedEntries_zeroFree zeroFree]
  refine OrdMap.perm_foldl_insert ?_
  rwa [List.map_map]

theorem find?_decodedEntries (zeroFree : ∀ key ∈ entries.map Prod.fst, 0 ∉ key)
    (distinct : (entries.map Prod.fst).Nodup) {entry : Bytes × AMFTree} (member : entry ∈ entries) :
    OrdMap.find? entry.1 (decodedEntries [] entries) = some entry.2.decoded := by
  rw [decodedEntries_zeroFree zeroFree, OrdMap.find?_foldl_insert _ _ OrdMap.sorted_nil]
  refine (OrdMap.find?_eq_some_iff ?_).mpr (List.mem_map_of_mem member)
  rwa [List.map_map]

/-- A key that was found is a C string, so what is kept under all keys has none with a
zero byte. -/
theorem mem_decodedEntries {key : Bytes} (member : key ∈ (decodedEntries [] entries).map Prod.fst) :
    0 ∉ key := by
  rw [decodedEntries_eq] at member
  obtain ⟨⟨_, value⟩, inside, rfl⟩ := List.mem_map.mp member
  have sorted := OrdMap.sorted_foldl_insert
    (entries.map fun entry => (cString entry.1, entry.2.decoded)) OrdMap.sorted_nil
  rw [← OrdMap.find?_eq_some_iff sorted.distinct, OrdMap.find?_foldl_insert _ _ OrdMap.sorted_nil]
    at inside
  obtain ⟨entry, -, same⟩ := List.mem_map.mp (OrdMap.mem_of_find? inside)
  obtain rfl := congrArg Prod.fst same
  exact zero_notMem_cString entry.1

/-- The three conditions on the map of an object. -/
theorem kept_iff (distinct : (entries.map Prod.fst).Nodup)
    (each : ∀ entry ∈ entries, Keeps entry.2 entry.2.decoded ↔ entry.2.ZeroFree) :
    ((decodedEntries [] entries).length = entries.length ∧
      (∀ key, key ∈ (decodedEntries [] entries).map Prod.fst ↔ key ∈ entries.map Prod.fst) ∧
      ∀ entry ∈ entries, ∀ value, OrdMap.find? entry.1 (decodedEntries [] entries) = some value →
        Keeps entry.2 value) ↔
    (∀ key ∈ entries.map Prod.fst, 0 ∉ key) ∧ ∀ child ∈ entries.map Prod.snd, child.ZeroFree := by
  constructor
  · rintro ⟨-, keys, values⟩
    have zeroFree : ∀ key ∈ entries.map Prod.fst, 0 ∉ key :=
      fun key member => mem_decodedEntries ((keys key).mpr member)
    refine ⟨zeroFree, List.forall_mem_map.mpr fun entry member => ?_⟩
    exact (each entry member).mp
      (values entry member _ (find?_decodedEntries zeroFree distinct member))
  · rintro ⟨zeroFree, children⟩
    have perm := perm_decodedEntries zeroFree distinct
    refine ⟨?_, ?_, ?_⟩
    · rw [perm.length_eq, List.length_map]
    · intro key
      rw [(perm.map Prod.fst).mem_iff, List.map_map]
      rfl
    · intro entry member value found
      rw [find?_decodedEntries zeroFree distinct member] at found
      obtain rfl := Option.some.inj found
      exact (each entry member).mpr (List.forall_mem_map.mp children entry member)

end Entries

theorem Formed.keeps_iff : ∀ {tree : AMFTree}, tree.Formed → tree.StrictFree → tree.DistinctKeys →
    (Keeps tree tree.decoded ↔ tree.ZeroFree) := by
  intro tree formed
  induction formed with
  | number | boolean | nul | undefined =>
      intro _ _
      rw [zeroFree_iff]
      exact ⟨fun _ => ⟨List.forall_mem_nil _, List.forall_mem_nil _⟩, fun _ => by constructor⟩
  | @string dataString _ =>
      intro _ _
      rw [zeroFree_iff]
      constructor
      · intro keeps
        cases keeps with
        | string length =>
            refine ⟨fun text member => ?_, List.forall_mem_nil _⟩
            obtain rfl := List.mem_singleton.mp member
            exact cString_length_eq.mp length
      · rintro ⟨zeroFree, -⟩
        exact .string (cString_length_eq.mpr (zeroFree dataString (List.mem_singleton_self _)))
  | @object entries _ _ inductionHypothesis =>
      intro free distinct
      rw [zeroFree_iff]
      refine Iff.trans ?_ (kept_iff (distinct _ (.whole _)) fun entry member => ?_)
      · constructor
        · intro keeps
          cases keeps with
          | object count keys values => exact ⟨count, keys, values⟩
        · rintro ⟨count, keys, values⟩
          exact .object count keys values
      · have child : entry.2 ∈ entries.map Prod.snd := List.mem_map_of_mem member
        exact inductionHypothesis entry member (free.child child) (distinct.child child)
  | @ecmaArray entries arraySize _ _ inductionHypothesis =>
      intro free distinct
      rw [zeroFree_iff]
      refine Iff.trans ?_ (kept_iff (distinct _ (.whole _)) fun entry member => ?_)
      · constructor
        · intro keeps
          cases keeps with
          | ecmaArray _ count keys values => exact ⟨count, keys, values⟩
        · rintro ⟨count, keys, values⟩
          exact .ecmaArray arraySize count keys values
      · have child : entry.2 ∈ entries.map Prod.snd := List.mem_map_of_mem member
        exact inductionHypothesis entry member (free.child child) (distinct.child child)
  | @strictArray elements _ _ _ => exact fun free => absurd (.whole _) (free elements)

/-- Entries and strings arrive whole exactly if no key and no string has a zero byte. -/
theorem entries_kept_iff {tree : AMFTree} (formed : tree.Formed) (free : tree.StrictFree)
    (distinct : tree.DistinctKeys) :
    (∃ value, tree.Parses value ∧ Keeps tree value) ↔ tree.ZeroFree := by
  rw [← formed.keeps_iff free distinct]
  constructor
  · rintro ⟨value, parses, keeps⟩
    rwa [(formed.parses free).unique parses]
  · exact fun keeps => ⟨_, formed.parses free, keeps⟩

/-- The parts of an object whose values are null. -/
theorem part_of_nuls {names : List Bytes} {part : AMFTree}
    (inner : Part (.object (names.map fun name => (name, .nul))) part) :
    part = .object (names.map fun name => (name, .nul)) ∨ part = .nul := by
  cases inner with
  | whole => exact Or.inl rfl
  | inside member inner =>
      obtain ⟨entry, inEntries, rfl⟩ := List.mem_map.mp member
      obtain ⟨name, -, rfl⟩ := List.mem_map.mp inEntries
      cases inner with
      | whole => exact Or.inr rfl
      | inside member _ => cases member

/-- An object with a null under each name. -/
def nuls (names : List Bytes) : AMFTree := .object (names.map fun name => (name, .nul))

theorem nuls_formed {names : List Bytes} (keys : ∀ name ∈ names, IsKey name) :
    (nuls names).Formed := by
  refine .object (List.forall_mem_map.mpr keys) ?_
  exact List.forall_mem_map.mpr fun _ _ => .nul

theorem nuls_strictFree (names : List Bytes) : (nuls names).StrictFree := by
  intro elements inner
  rcases part_of_nuls inner with same | same <;> cases same

theorem nuls_distinctKeys {names : List Bytes} (distinct : names.Nodup) :
    (nuls names).DistinctKeys := by
  intro part inner
  rcases part_of_nuls inner with rfl | rfl
  · rw [keys, List.map_map]
    exact (List.map_id names).symm ▸ distinct
  · exact List.nodup_nil

theorem two_names_kept :
    ∃ value, (nuls [[97], [98]]).Parses value ∧ Keeps (nuls [[97], [98]]) value := by
  refine (entries_kept_iff (nuls_formed (by decide)) (nuls_strictFree _)
    (nuls_distinctKeys (by decide))).mpr ?_
  intro part inner
  rcases part_of_nuls inner with rfl | rfl <;> decide

/-- The second of the two names becomes the first, and its entry is dropped. -/
theorem cut_name_dropped : (nuls [[97], [97, 0]]).Formed ∧ (nuls [[97], [97, 0]]).StrictFree ∧
    (nuls [[97], [97, 0]]).DistinctKeys ∧
    (nuls [[97], [97, 0]]).Parses (.object [([97], .nul)]) ∧
    ¬ ∃ value, (nuls [[97], [97, 0]]).Parses value ∧ Keeps (nuls [[97], [97, 0]]) value := by
  have formed := @nuls_formed [[97], [97, 0]] (by decide)
  have free := nuls_strictFree [[97], [97, 0]]
  have parses := formed.parses free
  refine ⟨formed, free, nuls_distinctKeys (by decide), parses, ?_⟩
  rintro ⟨value, parses', keeps⟩
  obtain rfl := parses'.unique parses
  cases keeps with
  | object count _ _ => cases count

/-! ## The order of the entries and the size of an array -/

/-- The same value with the entries of objects in another order and other array sizes,
at any depth. -/
inductive Reordered : AMFTree → AMFTree → Prop where
  | same (tree : AMFTree) : Reordered tree tree
  | object (pairs : List (Bytes × AMFTree × AMFTree)) {entries : List (Bytes × AMFTree)}
      (each : ∀ pair ∈ pairs, Reordered pair.2.1 pair.2.2)
      (perm : (pairs.map fun pair => (pair.1, pair.2.2)).Perm entries) :
      Reordered (.object (pairs.map fun pair => (pair.1, pair.2.1))) (.object entries)
  | ecmaArray (arraySize otherSize : Nat) (pairs : List (Bytes × AMFTree × AMFTree))
      {entries : List (Bytes × AMFTree)} (each : ∀ pair ∈ pairs, Reordered pair.2.1 pair.2.2)
      (perm : (pairs.map fun pair => (pair.1, pair.2.2)).Perm entries) :
      Reordered (.ecmaArray arraySize (pairs.map fun pair => (pair.1, pair.2.1)))
        (.ecmaArray otherSize entries)

section Pairs
variable {pairs : List (Bytes × AMFTree × AMFTree)} {entries : List (Bytes × AMFTree)}

/-- The entries on the right are the right sides of the pairs. -/
theorem mem_reordered (perm : (pairs.map fun pair => (pair.1, pair.2.2)).Perm entries)
    {entry : Bytes × AMFTree} (member : entry ∈ entries) :
    ∃ pair ∈ pairs, entry = (pair.1, pair.2.2) ∧
      (pair.1, pair.2.1) ∈ pairs.map fun pair => (pair.1, pair.2.1) := by
  obtain ⟨pair, inside, rfl⟩ := List.mem_map.mp (perm.mem_iff.mpr member)
  exact ⟨pair, inside, rfl, List.mem_map.mpr ⟨pair, inside, rfl⟩⟩

/-- The loop over the entries builds the same map. -/
theorem decodedEntries_reordered
    (perm : (pairs.map fun pair => (pair.1, pair.2.2)).Perm entries)
    (zeroFree : ∀ key ∈ pairs.map Prod.fst, 0 ∉ key) (distinct : (pairs.map Prod.fst).Nodup)
    (each : ∀ pair ∈ pairs, pair.2.1.decoded = pair.2.2.decoded) :
    decodedEntries [] (pairs.map fun pair => (pair.1, pair.2.1)) = decodedEntries [] entries := by
  have names : ∀ key ∈ entries.map Prod.fst, 0 ∉ key := by
    intro key member
    refine zeroFree key ?_
    rw [← (perm.map Prod.fst).mem_iff, List.map_map] at member
    exact member
  have aligned : (pairs.map fun pair => (pair.1, pair.2.1.decoded)) =
      pairs.map fun pair => (pair.1, pair.2.2.decoded) :=
    List.map_congr_left fun pair member => by rw [each pair member]
  have values := perm.map fun entry => (entry.1, entry.2.decoded)
  rw [List.map_map] at values
  rw [decodedEntries_zeroFree names, decodedEntries_zeroFree (by rwa [List.map_map]), List.map_map]
  refine Eq.trans (congrArg _ aligned) (OrdMap.foldl_insert_perm ?_ values)
  rwa [List.map_map]

/-- The entries on the right are formed as those on the left are. -/
theorem formed_reordered (perm : (pairs.map fun pair => (pair.1, pair.2.2)).Perm entries)
    (each : ∀ pair ∈ pairs, pair.2.1.Formed → pair.2.2.Formed)
    (keys : ∀ entry ∈ pairs.map fun pair => (pair.1, pair.2.1), IsKey entry.1)
    (values : ∀ entry ∈ pairs.map fun pair => (pair.1, pair.2.1), entry.2.Formed) :
    (∀ entry ∈ entries, IsKey entry.1) ∧ ∀ entry ∈ entries, entry.2.Formed := by
  constructor
  · intro entry member
    obtain ⟨pair, -, rfl, left⟩ := mem_reordered perm member
    exact keys (pair.1, pair.2.1) left
  · intro entry member
    obtain ⟨pair, inside, rfl, left⟩ := mem_reordered perm member
    exact each pair inside (values _ left)

end Pairs

theorem Reordered.formed : ∀ {tree other : AMFTree}, Reordered tree other → tree.Formed →
    other.Formed := by
  intro tree other reordered
  induction reordered with
  | same => exact id
  | object pairs _ perm inductionHypothesis =>
      intro formed
      cases formed with
      | object keys values =>
          obtain ⟨keys', values'⟩ := formed_reordered perm inductionHypothesis keys values
          exact .object keys' values'
  | ecmaArray _ otherSize pairs _ perm inductionHypothesis =>
      intro formed
      cases formed with
      | ecmaArray _ keys values =>
          obtain ⟨keys', values'⟩ := formed_reordered perm inductionHypothesis keys values
          exact .ecmaArray otherSize keys' values'

theorem strictFree_iff {tree : AMFTree} : tree.StrictFree ↔
    (∀ elements, tree ≠ .strictArray elements) ∧ ∀ child ∈ tree.children, child.StrictFree := by
  constructor
  · intro free
    refine ⟨?_, fun child member => free.child member⟩
    rintro elements rfl
    exact free elements (.whole _)
  · rintro ⟨noArray, children⟩ elements inner
    cases inner with
    | whole => exact noArray elements rfl
    | inside member inner => exact children _ member elements inner

theorem Reordered.strictFree : ∀ {tree other : AMFTree}, Reordered tree other →
    tree.StrictFree → other.StrictFree := by
  intro tree other reordered
  induction reordered with
  | same => exact id
  | object pairs _ perm inductionHypothesis | ecmaArray _ _ pairs _ perm inductionHypothesis =>
      intro free
      refine strictFree_iff.mpr ⟨?_, ?_⟩
      · intro elements same
        cases same
      · refine List.forall_mem_map.mpr fun entry member => ?_
        obtain ⟨pair, inside, rfl, left⟩ := mem_reordered perm member
        exact inductionHypothesis pair inside (free.child (List.mem_map_of_mem left))

theorem Reordered.decoded_eq : ∀ {tree other : AMFTree}, Reordered tree other → tree.ZeroFree →
    tree.DistinctKeys → tree.decoded = other.decoded := by
  intro tree other reordered
  induction reordered with
  | same => exact fun _ _ => rfl
  | object pairs _ perm inductionHypothesis | ecmaArray _ _ pairs _ perm inductionHypothesis =>
      intro zeroFree distinct
      have names := zeroFree _ (.whole _)
      have nodup := distinct _ (.whole _)
      simp only [texts, keys, List.map_map] at names nodup
      have each : ∀ pair ∈ pairs, pair.2.1.decoded = pair.2.2.decoded := by
        intro pair inside
        have child : pair.2.1 ∈ (pairs.map fun pair => (pair.1, pair.2.1)).map Prod.snd :=
          List.mem_map_of_mem (List.mem_map_of_mem inside)
        exact inductionHypothesis pair inside (zeroFree.child child) (distinct.child child)
      rw [decoded, decoded, decodedEntries_reordered perm names nodup each]

/-- `ParseRef` makes the same value of both encodings. -/
theorem reordered_parse_equal {tree other : AMFTree} (reordered : Reordered tree other)
    (formed : tree.Formed) (free : tree.StrictFree) (zeroFree : tree.ZeroFree)
    (distinct : tree.DistinctKeys) :
    tree.Parses tree.decoded ∧ other.Parses tree.decoded := by
  refine ⟨formed.parses free, ?_⟩
  rw [reordered.decoded_eq zeroFree distinct]
  exact (reordered.formed formed).parses (reordered.strictFree free)

theorem nuls_reordered {names others : List Bytes} (perm : names.Perm others) :
    Reordered (nuls names) (nuls others) := by
  have pairs : (names.map fun name => (name, AMFTree.nul, AMFTree.nul)).map
      (fun pair => (pair.1, pair.2.1)) = names.map fun name => (name, .nul) := by
    rw [List.map_map]
    rfl
  have right := perm.map fun name => (name, AMFTree.nul)
  have reordered := @Reordered.object (names.map fun name => (name, .nul, .nul))
    (others.map fun name => (name, .nul)) (List.forall_mem_map.mpr fun _ _ => .same .nul)
    (by rw [List.map_map]; exact right)
  rwa [pairs] at reordered

/-- Two names swapped inside an array that says one time 1 and one time 0 of its size. -/
theorem swapped_names_equal :
    (AMFTree.ecmaArray 1 [([107], nuls [[97], [98]])]).Parses
        (.ecmaArray [([107], .object [([97], .nul), ([98], .nul)])]) ∧
      (AMFTree.ecmaArray 0 [([107], nuls [[98], [97]])]).Parses
        (.ecmaArray [([107], .object [([97], .nul), ([98], .nul)])]) := by
  have names : ∀ name ∈ ([[97], [98]] : List Bytes), IsKey name := by decide
  have child : ∀ {P : AMFTree → Prop}, P (nuls [[97], [98]]) →
      ∀ entry ∈ [(([107] : Bytes), nuls [[97], [98]])], P entry.2 :=
    fun holds => List.forall_mem_singleton.mpr holds
  refine reordered_parse_equal
    (.ecmaArray 1 0 [([107], nuls [[97], [98]], nuls [[98], [97]])] ?_ (List.Perm.refl _))
    (.ecmaArray 1 (by decide) (child (nuls_formed names))) ?_ ?_ ?_
  · exact List.forall_mem_singleton.mpr (nuls_reordered (List.Perm.swap [98] [97] []))
  · refine strictFree_iff.mpr ⟨fun _ => AMFTree.noConfusion, ?_⟩
    exact List.forall_mem_singleton.mpr (nuls_strictFree _)
  · refine zeroFree_iff.mpr ⟨by decide, List.forall_mem_singleton.mpr ?_⟩
    intro part inner
    rcases part_of_nuls inner with rfl | rfl <;> decide
  · intro part inner
    cases inner with
    | whole => decide
    | inside member inner =>
        obtain rfl := List.mem_singleton.mp member
        exact nuls_distinctKeys (by decide) part inner

end AMFTree

end EasyRtmp
