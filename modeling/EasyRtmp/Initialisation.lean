import EasyRtmp.AmfBounds
import EasyRtmp.PacketLengths
import EasyRtmp.PriorContents

/-!
# Two objects and one buffer

Whether the contents of an object show after a `Parse` depends on the buffer: one that
is refused shows nothing, and the entries of an AMF object hide behind those that the
buffer lists under the same keys.  `Listing` is what a buffer holds for an AMF value,
apart from any object.
-/

set_option autoImplicit false

namespace EasyRtmp

open Lib Lib.ByteCodec

/-! ## Which buffers are long enough -/

section Lengths
variable {α : Type} {reader : Reader Stop α} {count : Nat} {data : Bytes}

theorem readDataType_demands (size newSize : Nat) (littleEndian : Bool) :
    Demands (readDataType size newSize littleEndian 0) newSize := by
  intro memory cursor value after ok
  rw [readDataType_apply] at ok
  split at ok
  · cases ok
  · cases ok
    exact ⟨by omega, rfl⟩

/-- What is read first of a buffer, of which `announced` bytes are announced. -/
theorem reads_front (width : FixedWidth reader count) {announced : Int}
    (enough : count ≤ announced) (whole : announced ≤ data.length) :
    ∃ value readEnd, readEnd ≤ count ∧ reader (memoryOf data fun _ => 0) ⟨0, announced, 0⟩ =
      .ok value ⟨count, announced - count, readEnd⟩ := by
  have length : (data.take count).length = count := by
    rw [List.length_take]
    omega
  have held : Holds (memoryOf data fun _ => 0) 0 (data.take count ++ data.drop count) := by
    rw [List.take_append_drop]
    exact holds_memoryOf data fun _ => 0
  obtain ⟨value, reads⟩ := width (data.take count) length
  obtain ⟨readEnd, bound, ok⟩ := reads (memoryOf data fun _ => 0) ⟨0, announced, 0⟩
    (holds_append.mp held).1 (by rw [length]; exact enough)
  rw [length] at bound ok
  simp only [Nat.zero_add, Nat.zero_max] at bound ok
  exact ⟨value, readEnd, bound, ok⟩

theorem parses_iff_of_width (width : FixedWidth reader count) (demands : Demands reader count) :
    (∃ value, parseBuffer reader data = .ok value) ↔ (count : Int) ≤ toInt data.length := by
  constructor
  · rintro ⟨value, parsed⟩
    obtain ⟨after, ok, -⟩ := parseBuffer_ok_iff.mp parsed
    have both := demands _ _ value after ok
    dsimp only at both
    exact both.1
  · intro enough
    obtain ⟨value, readEnd, inside, ok⟩ := reads_front width enough (toInt_le data.length)
    refine ⟨value, parseBuffer_ok_iff.mpr ⟨_, ok, ?_⟩⟩
    have whole := toInt_le data.length
    show readEnd ≤ data.length
    omega

end Lengths

theorem ChunkMessageHeader0.parses_iff (data : Bytes) :
    (∃ header, parseBuffer parseRef data = .ok header) ↔ 10 ≤ toInt data.length := by
  have width : FixedWidth parseRef (3 + (3 + (1 + 3))) :=
    (readDataType_width 4 3 false).bind fun _ => (readDataType_width 4 3 false).bind fun _ =>
      (readDataType_width 1 1 false).bind fun _ => (readDataType_width 4 3 true).map _
  have demands : Demands parseRef (3 + (3 + (1 + 3))) :=
    (readDataType_demands 4 3 false).bind fun _ => (readDataType_demands 4 3 false).bind fun _ =>
      (readDataType_demands 1 1 false).bind fun _ => (readDataType_demands 4 3 true).map _
  exact parses_iff_of_width width demands

theorem ChunkMessageHeader1.parses_iff (data : Bytes) :
    (∃ header, parseBuffer parseRef data = .ok header) ↔ 7 ≤ toInt data.length := by
  refine parses_iff_of_width ChunkMessageHeader1.parseRef_width ?_
  exact (readDataType_demands 4 3 false).bind fun _ =>
    (readDataType_demands 4 3 false).bind fun _ => (readDataType_demands 1 1 false).map _

theorem ChunkMessageHeader2.parses_iff (data : Bytes) :
    (∃ header, parseBuffer parseRef data = .ok header) ↔ 3 ≤ toInt data.length :=
  parses_iff_of_width ((readDataType_width 4 3 false).map _)
    ((readDataType_demands 4 3 false).map _)

/-- The fields in front of the payload. -/
def VideoPacket.parseFields : Reader Stop (Nat × Nat × Nat) := do
  let d ← readDataType 1 1 false 0
  let avcPacketType ← readDataType 1 1 false 0
  let compositionTime ← readDataType 4 3 false 0
  pure (d, avcPacketType, compositionTime)

theorem VideoPacket.parseRef_eq : parseRef = (do
    let fields ← parseFields
    let dataLen ← Reader.dataLen
    let videoDataSend ← readDataBytes dataLen.toNat
    pure ⟨fields.1 % 16, fields.1 / 16, fields.2.1, fields.2.2, videoDataSend⟩) := by
  rw [parseRef, parseFields]
  simp only [bind_assoc, pure_bind]

theorem VideoPacket.parses_iff (data : Bytes) :
    (∃ packet, parseBuffer parseRef data = .ok packet) ↔ 5 ≤ toInt data.length := by
  have width : FixedWidth parseFields 5 := (readDataType_width 1 1 false).bind fun _ =>
    (readDataType_width 1 1 false).bind fun _ => (readDataType_width 4 3 false).map _
  have demands : Demands parseFields 5 := (readDataType_demands 1 1 false).bind fun _ =>
    (readDataType_demands 1 1 false).bind fun _ => (readDataType_demands 4 3 false).map _
  rw [parseRef_eq]
  constructor
  · rintro ⟨packet, parsed⟩
    obtain ⟨after, ok, -⟩ := parseBuffer_ok_iff.mp parsed
    obtain ⟨fields, middle, read, -⟩ := Reader.bind_inv ok
    have both := demands _ _ fields middle read
    dsimp only at both
    exact both.1
  · intro enough
    have whole := toInt_le data.length
    obtain ⟨fields, readEnd, inside, ok⟩ := reads_front width enough whole
    generalize remaining : toInt data.length - ((5 : Nat) : Int) = rest at ok
    have payload := readDataBytes_apply rest.toNat (memoryOf data fun _ => 0) ⟨5, rest, readEnd⟩
    dsimp only at payload
    rw [if_neg (by omega)] at payload
    cases taken : (Reader.take rest.toNat : Reader Stop Bytes) (memoryOf data fun _ => 0)
        ⟨5, rest, readEnd⟩ with
    | error stop after => cases taken
    | ok bytes after =>
        rw [taken] at payload
        refine ⟨⟨fields.1 % 16, fields.1 / 16, fields.2.1, fields.2.2, bytes⟩,
          parseBuffer_ok_iff.mpr ⟨after, ?_, ?_⟩⟩
        · rw [Reader.bind_ok ok, Reader.dataLen_bind, Reader.bind_ok payload]
          rfl
        · cases taken
          dsimp only
          split <;> omega

/-! ## What a buffer lists for an AMF object -/

namespace AMFValue

/-- The entries up to the empty key, in the order of the buffer. -/
def listEntries : Nat → Reader Stop (List (Bytes × AMFValue))
  | 0 => Reader.fail .endless
  | fuel + 1 => do
      let strLen ← readDataType 2 2 false 0
      if strLen = 0 then pure []
      else
        let propName ← readDataBytes strLen
        let am ← parseValue fuel []
        let rest ← listEntries fuel
        pure ((cString propName, am) :: rest)

def listBody (fuel : Nat) : Reader Stop (List (Bytes × AMFValue)) := do
  let entries ← listEntries fuel
  Reader.skip 1
  pure entries

/-- The entries of a buffer that holds an `OBJECT` or an `ECMA_ARRAY`. -/
def listRef : Reader Stop (List (Bytes × AMFValue)) := do
  let dataLen ← Reader.dataLen
  let tag ← Reader.peek
  match typeOfTag tag with
  | some .object => do
      Reader.skip 1
      listBody (dataLen.toNat + 1)
  | some .ecmaArray => do
      Reader.skip 1
      let _ ← readDataType 4 4 false 0
      listBody (dataLen.toNat + 1)
  | _ => Reader.fail .wrongType

/-- The entries that an object has are kept. -/
def merge (present entries : List (Bytes × AMFValue)) : List (Bytes × AMFValue) :=
  entries.foldl (fun entries entry => OrdMap.insert entry.1 entry.2 entries) present

theorem parseEntries_eq (fuel : Nat) : ∀ present, parseEntries fuel present = (do
    let entries ← listEntries fuel
    pure (merge present entries)) := by
  induction fuel with
  | zero => exact fun _ => rfl
  | succ fuel inductionHypothesis =>
      intro present
      rw [parseEntries, listEntries, bind_assoc]
      refine congrArg _ (funext fun strLen => ?_)
      split
      · rw [pure_bind]
        rfl
      · simp only [bind_assoc, pure_bind, inductionHypothesis]
        rfl

/-- The loop over the entries and the byte behind it. -/
theorem objectBody_eq (fuel : Nat) (present : List (Bytes × AMFValue))
    (make : List (Bytes × AMFValue) → AMFValue) :
    objectBody fuel present make = (do
      let entries ← listBody fuel
      pure (make (merge present entries))) := by
  rw [objectBody, listBody, parseEntries_eq]
  simp only [bind_assoc, pure_bind]

/-- Whether a tag announces entries. -/
def madeWith : AMFType → Option (List (Bytes × AMFValue) → AMFValue)
  | .object => some .object
  | .ecmaArray => some .ecmaArray
  | _ => none

variable {memory : Nat → UInt8} {cursor : Cursor} {type : AMFType}

theorem parseRef_lists {make : List (Bytes × AMFValue) → AMFValue}
    (tag : typeOfTag (memory cursor.data) = some type) (listed : madeWith type = some make)
    (present : List (Bytes × AMFValue)) :
    parseRef present memory cursor = (do
      let entries ← listRef
      pure (make (merge present entries))) memory cursor := by
  rw [parseRef, listRef, bind_assoc, Reader.dataLen_bind, Reader.dataLen_bind, parseValue,
    bind_assoc, Reader.peek_bind, Reader.peek_bind, tag]
  cases type with
  | object =>
      cases listed
      simp only [bind_assoc]
      rw [← objectBody_eq]
      rfl
  | ecmaArray =>
      cases listed
      simp only [bind_assoc, ← objectBody_eq]
      rfl
  | _ => cases listed

theorem madeWith_injective {make : List (Bytes × AMFValue) → AMFValue}
    (listed : madeWith type = some make) {entries other : List (Bytes × AMFValue)} :
    make entries = make other ↔ entries = other := by
  cases type with
  | object =>
      cases listed
      exact AMFValue.object.injEq entries other ▸ Iff.rfl
  | ecmaArray =>
      cases listed
      exact AMFValue.ecmaArray.injEq entries other ▸ Iff.rfl
  | _ => cases listed

theorem parseRef_unlisted (tag : (typeOfTag (memory cursor.data)).bind madeWith = none)
    (present present' : List (Bytes × AMFValue)) :
    parseRef present memory cursor = parseRef present' memory cursor := by
  rw [parseRef, parseRef, Reader.dataLen_bind, Reader.dataLen_bind, parseValue, parseValue,
    Reader.peek_bind, Reader.peek_bind]
  cases found : typeOfTag (memory cursor.data) with
  | none => rfl
  | some type =>
      rw [found] at tag
      cases type with
      | object | ecmaArray => cases tag
      | _ => rfl

/-- A buffer that opens with another tag lists nothing. -/
theorem listRef_unlisted (tag : (typeOfTag (memory cursor.data)).bind madeWith = none) :
    ∃ after, listRef memory cursor = .error .wrongType after := by
  rw [listRef, Reader.dataLen_bind, Reader.peek_bind]
  cases found : typeOfTag (memory cursor.data) with
  | none => exact ⟨_, rfl⟩
  | some type =>
      rw [found] at tag
      cases type with
      | object | ecmaArray => cases tag
      | _ => exact ⟨_, rfl⟩

/-- Under every key the objects have the same entry, or one has none and the other has
the one that is listed first. -/
def Hides (entries present present' : List (Bytes × AMFValue)) : Prop :=
  ∀ key, OrdMap.find? key present = OrdMap.find? key present' ∨
    OrdMap.find? key present = none ∧ OrdMap.find? key present' = OrdMap.find? key entries ∨
    OrdMap.find? key present' = none ∧ OrdMap.find? key present = OrdMap.find? key entries

theorem or_eq_or_iff {α : Type} {left right listed : Option α} :
    left.or listed = right.or listed ↔
      left = right ∨ left = none ∧ right = listed ∨ right = none ∧ left = listed := by
  cases left with
  | none =>
      cases right with
      | none => simp
      | some value => simp [eq_comm]
  | some value =>
      cases right with
      | none => simp
      | some value' => simp

theorem merge_eq_iff {present present' : List (Bytes × AMFValue)} (sorted : OrdMap.Sorted present)
    (sorted' : OrdMap.Sorted present') (entries : List (Bytes × AMFValue)) :
    merge present entries = merge present' entries ↔ Hides entries present present' := by
  have found : ∀ {present : List (Bytes × AMFValue)}, OrdMap.Sorted present → ∀ key,
      OrdMap.find? key (merge present entries) =
        (OrdMap.find? key present).or (OrdMap.find? key entries) :=
    fun sorted key => OrdMap.find?_foldl_insert key entries sorted
  constructor
  · intro same key
    have both := congrArg (OrdMap.find? key) same
    rw [found sorted, found sorted'] at both
    exact or_eq_or_iff.mp both
  · intro hidden
    refine (OrdMap.sorted_foldl_insert entries sorted).ext
      (OrdMap.sorted_foldl_insert entries sorted') ?_
    intro key
    show OrdMap.find? key (merge present entries) = OrdMap.find? key (merge present' entries)
    rw [found sorted, found sorted']
    exact or_eq_or_iff.mpr (hidden key)

end AMFValue

/-! ## What the objects must agree in -/

section Objects
variable {α γ : Type} {used : α → γ} {data : Bytes}

theorem parseBuffer_congr {reader reader' : Reader Stop α}
    (same : reader (memoryOf data fun _ => 0) ⟨0, toInt data.length, 0⟩ =
      reader' (memoryOf data fun _ => 0) ⟨0, toInt data.length, 0⟩) :
    parseBuffer reader data = parseBuffer reader' data := by
  rw [parseBuffer, parseBuffer, same]

theorem parseAlike_congr {parse parse' other other' : Reader Stop α}
    (same : parseBuffer parse data = parseBuffer other data)
    (same' : parseBuffer parse' data = parseBuffer other' data) :
    ParseAlike used parse parse' data ↔ ParseAlike used other other' data := by
  rw [ParseAlike, ParseAlike, same, same']

/-- A reader of enough bytes, where what the objects make of its result does not depend
on the result. -/
theorem alike_iff {β : Type} {reader : Reader Stop β} {f g : β → α} {enough agree : Prop}
    (parses : (∃ value, parseBuffer reader data = .ok value) ↔ enough)
    (decides : ∀ value, used (f value) = used (g value) ↔ agree) :
    ParseAlike used (do let value ← reader; pure (f value)) (do let value ← reader; pure (g value))
      data ↔ (enough → agree) := by
  rw [parseAlike_map, ← parses]
  constructor
  · rintro same ⟨value, parsed⟩
    exact (decides value).mp (same value parsed)
  · exact fun agrees value parsed => (decides value).mpr (agrees ⟨value, parsed⟩)

theorem ChunkMessageHeader0.alike_iff (prior prior' : ChunkMessageHeader0) :
    ParseAlike id prior.parseInto prior'.parseInto data ↔ (10 ≤ toInt data.length →
      prior.timestamp % 256 = prior'.timestamp % 256 ∧
        prior.messageLength % 256 = prior'.messageLength % 256 ∧
        prior.messageStreamId / 2 ^ 24 % 256 = prior'.messageStreamId / 2 ^ 24 % 256) := by
  rw [prior.parseInto_eq, prior'.parseInto_eq]
  refine EasyRtmp.alike_iff (parses_iff data) ?_
  intro header
  simp only [id, mergeInto, mk.injEq, Nat.add_left_cancel_iff, leftover_eq_iff, leftoverHigh_eq_iff,
    true_and]

theorem ChunkMessageHeader1.alike_iff (prior prior' : ChunkMessageHeader1) :
    ParseAlike id prior.parseInto prior'.parseInto data ↔ (7 ≤ toInt data.length →
      prior.timestampDelta % 256 = prior'.timestampDelta % 256 ∧
        prior.messageLength % 256 = prior'.messageLength % 256) := by
  rw [prior.parseInto_eq, prior'.parseInto_eq]
  refine EasyRtmp.alike_iff (parses_iff data) ?_
  intro header
  simp only [id, mergeInto, mk.injEq, Nat.add_left_cancel_iff, leftover_eq_iff, and_true]

theorem ChunkMessageHeader2.alike_iff (prior prior' : ChunkMessageHeader2) :
    ParseAlike id prior.parseInto prior'.parseInto data ↔ (3 ≤ toInt data.length →
      prior.timestampDelta % 256 = prior'.timestampDelta % 256) := by
  rw [prior.parseInto_eq, prior'.parseInto_eq]
  refine EasyRtmp.alike_iff (parses_iff data) ?_
  intro header
  simp only [id, mergeInto, mk.injEq, Nat.add_left_cancel_iff, leftover_eq_iff]

theorem VideoPacket.alike_iff (prior prior' : VideoPacket) :
    ParseAlike id prior.parseInto prior'.parseInto data ↔ (5 ≤ toInt data.length →
      prior.compositionTime % 256 = prior'.compositionTime % 256) := by
  rw [prior.parseInto_eq, prior'.parseInto_eq]
  refine EasyRtmp.alike_iff (parses_iff data) ?_
  intro packet
  simp only [id, mergeInto, mk.injEq, Nat.add_left_cancel_iff, leftover_eq_iff, true_and, and_true]

namespace AMFContents

theorem parseBuffer_lists (prior : AMFContents) {type : AMFType}
    {make : List (Bytes × AMFValue) → AMFValue}
    (tag : AMFValue.typeOfTag (memoryOf data (fun _ => 0) 0) = some type)
    (listed : AMFValue.madeWith type = some make) :
    parseBuffer prior.parseInto data = parseBuffer (do
      let entries ← AMFValue.listRef
      pure (prior.store (make (AMFValue.merge prior.dataObject entries)))) data := by
  rw [parseInto, parseBuffer_map,
    parseBuffer_congr (AMFValue.parseRef_lists tag listed prior.dataObject), parseBuffer_map,
    parseBuffer_map]
  cases parseBuffer AMFValue.listRef data with
  | ok entries => rfl
  | error stop => rfl

theorem alike_iff (prior prior' : AMFContents) (sorted : OrdMap.Sorted prior.dataObject)
    (sorted' : OrdMap.Sorted prior'.dataObject) :
    ParseAlike AMFContents.used prior.parseInto prior'.parseInto data ↔
      ∀ entries, parseBuffer AMFValue.listRef data = .ok entries →
        AMFValue.Hides entries prior.dataObject prior'.dataObject := by
  cases opens : (AMFValue.typeOfTag (memoryOf data (fun _ => 0) 0)).bind AMFValue.madeWith with
  | none =>
      have same : parseBuffer prior'.parseInto data = parseBuffer (do
          let value ← AMFValue.parseRef prior.dataObject
          pure (prior'.store value)) data := by
        rw [parseInto, parseBuffer_map, parseBuffer_map,
          parseBuffer_congr (AMFValue.parseRef_unlisted opens prior'.dataObject prior.dataObject)]
      refine iff_of_true ?_ ?_
      · rw [parseAlike_congr rfl same, parseInto, parseAlike_map]
        intro value _
        rw [used_store, used_store]
      · intro entries listed
        obtain ⟨after, ok, -⟩ := parseBuffer_ok_iff.mp listed
        obtain ⟨stopped, failed⟩ :=
          @AMFValue.listRef_unlisted (memoryOf data fun _ => 0) ⟨0, toInt data.length, 0⟩ opens
        rw [failed] at ok
        cases ok
  | some make =>
      obtain ⟨type, tag, listed⟩ := Option.bind_eq_some_iff.mp opens
      rw [parseAlike_congr (prior.parseBuffer_lists tag listed)
        (prior'.parseBuffer_lists tag listed), parseAlike_map]
      refine forall₂_congr ?_
      intro entries _
      rw [used_store, used_store, AMFValue.madeWith_injective listed,
        AMFValue.merge_eq_iff sorted sorted']

end AMFContents

end Objects

/-! ## Every type -/

/-- Two objects of one type with whatever contents.  A basic header's are not looked at;
`before` is what the variable holds that its byte is read into. -/
inductive TwoObjects where
  | c0 (prior prior' : C0)
  | c1 (prior prior' : C1)
  | c2 (prior prior' : C2)
  | chunkBasicHeader (before before' : Nat)
  | chunkMessageHeader0 (prior prior' : ChunkMessageHeader0)
  | chunkMessageHeader1 (prior prior' : ChunkMessageHeader1)
  | chunkMessageHeader2 (prior prior' : ChunkMessageHeader2)
  | setChunkSize (prior prior' : SetChunkSize)
  | abortMessage (prior prior' : AbortMessage)
  | acknowledgement (prior prior' : Acknowledgement)
  | windowsAcknowledgementSize (prior prior' : WindowsAcknowledgementSize)
  | setPeerBandwith (prior prior' : SetPeerBandwith)
  | ucmStreamBegin (prior prior' : UCMStreamBegin)
  | audioPacketAAC (prior prior' : AudioPacketAAC)
  | videoPacket (prior prior' : VideoPacket)
  | amfValue (prior prior' : AMFContents) (notRoot : prior.type ≠ .root)
      (notRoot' : prior'.type ≠ .root) (sorted : OrdMap.Sorted prior.dataObject)
      (sorted' : OrdMap.Sorted prior'.dataObject)

namespace TwoObjects

def SameOutcome (objects : TwoObjects) (data : Bytes) : Prop :=
  match objects with
  | .c0 prior prior' => ParseAlike id prior.parseInto prior'.parseInto data
  | .c1 prior prior' => ParseAlike id prior.parseInto prior'.parseInto data
  | .c2 prior prior' => ParseAlike id prior.parseInto prior'.parseInto data
  | .chunkBasicHeader before before' =>
      ParseAlike id (ChunkBasicHeader.parseInto before) (ChunkBasicHeader.parseInto before') data
  | .chunkMessageHeader0 prior prior' => ParseAlike id prior.parseInto prior'.parseInto data
  | .chunkMessageHeader1 prior prior' => ParseAlike id prior.parseInto prior'.parseInto data
  | .chunkMessageHeader2 prior prior' => ParseAlike id prior.parseInto prior'.parseInto data
  | .setChunkSize prior prior' => ParseAlike id prior.parseInto prior'.parseInto data
  | .abortMessage prior prior' => ParseAlike id prior.parseInto prior'.parseInto data
  | .acknowledgement prior prior' => ParseAlike id prior.parseInto prior'.parseInto data
  | .windowsAcknowledgementSize prior prior' => ParseAlike id prior.parseInto prior'.parseInto data
  | .setPeerBandwith prior prior' => ParseAlike id prior.parseInto prior'.parseInto data
  | .ucmStreamBegin prior prior' => ParseAlike id prior.parseInto prior'.parseInto data
  | .audioPacketAAC prior prior' => ParseAlike id prior.parseInto prior'.parseInto data
  | .videoPacket prior prior' => ParseAlike id prior.parseInto prior'.parseInto data
  | .amfValue prior prior' _ _ _ _ =>
      ParseAlike AMFContents.used prior.parseInto prior'.parseInto data

/-- The objects agree in what is left over of them: the last byte of a time and a length
and the first of a stream id, where the buffer has the fixed part of the type, and the
entries of an AMF object that do not hide behind those of the buffer. -/
def AgreeOn (data : Bytes) : TwoObjects → Prop
  | .chunkMessageHeader0 prior prior' => 10 ≤ toInt data.length →
      prior.timestamp % 256 = prior'.timestamp % 256 ∧
        prior.messageLength % 256 = prior'.messageLength % 256 ∧
        prior.messageStreamId / 2 ^ 24 % 256 = prior'.messageStreamId / 2 ^ 24 % 256
  | .chunkMessageHeader1 prior prior' => 7 ≤ toInt data.length →
      prior.timestampDelta % 256 = prior'.timestampDelta % 256 ∧
        prior.messageLength % 256 = prior'.messageLength % 256
  | .chunkMessageHeader2 prior prior' => 3 ≤ toInt data.length →
      prior.timestampDelta % 256 = prior'.timestampDelta % 256
  | .videoPacket prior prior' => 5 ≤ toInt data.length →
      prior.compositionTime % 256 = prior'.compositionTime % 256
  | .amfValue prior prior' _ _ _ _ => ∀ entries, parseBuffer AMFValue.listRef data = .ok entries →
      AMFValue.Hides entries prior.dataObject prior'.dataObject
  | .c0 _ _ | .c1 _ _ | .c2 _ _ | .chunkBasicHeader _ _ | .setChunkSize _ _ | .abortMessage _ _
  | .acknowledgement _ _ | .windowsAcknowledgementSize _ _ | .setPeerBandwith _ _
  | .ucmStreamBegin _ _ | .audioPacketAAC _ _ => True

theorem parse_initialises_iff (objects : TwoObjects) (data : Bytes) :
    objects.SameOutcome data ↔ objects.AgreeOn data := by
  cases objects with
  | c0 =>
      simp only [SameOutcome, AgreeOn, C0.parseInto_eq, parseAlike_self]
  | c1 =>
      simp only [SameOutcome, AgreeOn, C1.parseInto_eq, parseAlike_self]
  | c2 =>
      simp only [SameOutcome, AgreeOn, C2.parseInto_eq, parseAlike_self]
  | chunkBasicHeader =>
      simp only [SameOutcome, AgreeOn, ChunkBasicHeader.parseInto_eq, parseAlike_self]
  | chunkMessageHeader0 =>
      simp only [SameOutcome, AgreeOn, ChunkMessageHeader0.alike_iff]
  | chunkMessageHeader1 =>
      simp only [SameOutcome, AgreeOn, ChunkMessageHeader1.alike_iff]
  | chunkMessageHeader2 =>
      simp only [SameOutcome, AgreeOn, ChunkMessageHeader2.alike_iff]
  | setChunkSize =>
      simp only [SameOutcome, AgreeOn, SetChunkSize.parseInto_eq, parseAlike_self]
  | abortMessage =>
      simp only [SameOutcome, AgreeOn, AbortMessage.parseInto_eq, parseAlike_self]
  | acknowledgement =>
      simp only [SameOutcome, AgreeOn, Acknowledgement.parseInto_eq, parseAlike_self]
  | windowsAcknowledgementSize =>
      simp only [SameOutcome, AgreeOn, WindowsAcknowledgementSize.parseInto_eq, parseAlike_self]
  | setPeerBandwith =>
      simp only [SameOutcome, AgreeOn, SetPeerBandwith.parseInto_eq, parseAlike_self]
  | ucmStreamBegin =>
      simp only [SameOutcome, AgreeOn, UCMStreamBegin.parseInto_eq, parseAlike_self]
  | audioPacketAAC =>
      simp only [SameOutcome, AgreeOn, AudioPacketAAC.parseInto_eq, parseAlike_self]
  | videoPacket =>
      simp only [SameOutcome, AgreeOn, VideoPacket.alike_iff]
  | amfValue prior prior' _ _ sorted sorted' => exact prior.alike_iff prior' sorted sorted'

/-- A header that was parsed from 00 00 01 keeps its 1, in the highest byte. -/
theorem earlier_delta_shows :
    parseBuffer (ChunkMessageHeader2.parseInto {}) [0, 0, 1] = .ok ⟨1⟩ ∧
    parseBuffer (ChunkMessageHeader2.parseInto ⟨1⟩) [0, 0, 0] = .ok ⟨2 ^ 24⟩ ∧
    parseBuffer (ChunkMessageHeader2.parseInto {}) [0, 0, 0] = .ok ⟨0⟩ ∧
    ¬ (TwoObjects.chunkMessageHeader2 ⟨1⟩ {}).SameOutcome [0, 0, 0] := by
  have reused : parseBuffer (ChunkMessageHeader2.parseInto ⟨1⟩) [0, 0, 0] = .ok ⟨2 ^ 24⟩ := by
    decide +kernel
  have fresh : parseBuffer (ChunkMessageHeader2.parseInto {}) [0, 0, 0] = .ok ⟨0⟩ := by
    decide +kernel
  refine ⟨by decide +kernel, reused, fresh, fun same => ?_⟩
  simp only [SameOutcome, ParseAlike, reused, fresh, id] at same
  exact absurd same (by decide)

end TwoObjects

end EasyRtmp
