import EasyRtmp.AmfRoundTrip
import EasyRtmp.Client
import EasyRtmp.Server

/-!
# The commands and their answers on the wire

Every message of the dialogue has an encoding, which its receiver parses back,
of at most `payloadLimit` bytes.
-/

set_option autoImplicit false

namespace EasyRtmp

open Lib Lib.ByteCodec

namespace AMFValue

/-! ## Sizes of encodings -/

def Sized (value : AMFValue) (size : Nat) : Prop :=
  ∃ bytes, Encodes value bytes ∧ bytes.length ≤ size

instance (text : Bytes) : Decidable (FitsString text) :=
  decidable_of_iff (0 ∉ text ∧ text.length < 2 ^ 16)
    ⟨fun both => ⟨both.1, both.2⟩, fun fits => ⟨fits.zeroFree, fits.short⟩⟩

theorem Sized.mono {value : AMFValue} {size larger : Nat} (sized : Sized value size)
    (le : size ≤ larger) : Sized value larger := by
  obtain ⟨bytes, encodes, bound⟩ := sized
  exact ⟨bytes, encodes, Nat.le_trans bound le⟩

theorem sized_string : ∀ {text : Bytes}, FitsString text →
    Sized (.string text) (text.length + 3) := by
  intro text fits
  refine ⟨_, Encodes.string fits, ?_⟩
  rw [serializeString_fits fits]
  simp
  omega

theorem sized_literal (text : String) {size : Nat}
    (fits : decide (FitsString (ascii text) ∧ (ascii text).length + 3 ≤ size) = true) :
    Sized (.string (ascii text)) size := by
  obtain ⟨fits, short⟩ := of_decide_eq_true fits
  exact (sized_string fits).mono short

theorem sized_ofInt (number : Int) : Sized (.ofInt number) 9 :=
  ⟨_, Encodes.number _, by simp⟩

theorem sized_boolean (flag : Bool) : Sized (.boolean flag) 2 :=
  ⟨_, Encodes.boolean flag, by simp⟩

theorem sized_nul : Sized .nul 1 := ⟨_, Encodes.nul, by simp⟩

/-- The names of the properties are short. -/
def IsName (key : Bytes) : Prop := key ≠ [] ∧ 0 ∉ key ∧ key.length ≤ 16

instance (key : Bytes) : Decidable (IsName key) := inferInstanceAs (Decidable (_ ∧ _ ∧ _))

theorem IsName.fits {key : Bytes} (isName : IsName key) : FitsString key :=
  ⟨isName.2.1, by have short := isName.2.2; omega⟩

def Property (size : Nat) (entry : Bytes × AMFValue) : Prop :=
  IsName entry.1 ∧ Sized entry.2 size

theorem Property.named (name : String) {value : AMFValue} {size : Nat}
    (isName : decide (IsName (ascii name)) = true) (sized : Sized value size) :
    Property size (ascii name, value) := ⟨of_decide_eq_true isName, sized⟩

theorem sizedEntries : ∀ {entries : List (Bytes × AMFValue)} {size : Nat},
    (∀ entry ∈ entries, Property size entry) →
      ∃ bytes, EncodesEntries entries bytes ∧ bytes.length ≤ entries.length * (18 + size) := by
  intro entries size
  induction entries with
  | nil => exact fun _ => ⟨[], EncodesEntries.nil, Nat.zero_le _⟩
  | cons entry entries inductionHypothesis =>
      intro properties
      obtain ⟨key, value⟩ := entry
      obtain ⟨isName, bytes, encodes, bound⟩ := properties _ (List.mem_cons_self ..)
      obtain ⟨rest, others, restBound⟩ := inductionHypothesis
        fun other member => properties other (List.mem_cons_of_mem _ member)
      refine ⟨_, EncodesEntries.cons isName.1 isName.fits encodes others, ?_⟩
      have short := isName.2.2
      rw [serializeString_fits isName.fits]
      simp only [List.length_append, beBytes_length, List.length_cons] at short ⊢
      rw [Nat.add_mul]
      omega

theorem assigned_properties {assignments : List (Bytes × AMFValue)} {size : Nat}
    (properties : ∀ entry ∈ assignments, Property size entry) :
    OrdMap.Sorted (assigned assignments) ∧ (∀ entry ∈ assigned assignments, Property size entry) ∧
      (assigned assignments).length ≤ assignments.length := by
  refine ⟨OrdMap.sorted_foldl_set _ OrdMap.sorted_nil, ?_, ?_⟩
  · intro entry member
    rcases OrdMap.mem_foldl_set member with early | none
    · exact properties entry early
    · cases none
  · have length := OrdMap.length_foldl_set_le assignments []
    rwa [List.length_nil, Nat.add_zero] at length

theorem sized_object {assignments : List (Bytes × AMFValue)} {size : Nat}
    (properties : ∀ entry ∈ assignments, Property size entry) :
    Sized (.object (assigned assignments)) (assignments.length * (18 + size) + 4) := by
  obtain ⟨sorted, each, length⟩ := assigned_properties properties
  obtain ⟨bytes, encodes, bound⟩ := sizedEntries each
  refine ⟨_, Encodes.object sorted encodes, ?_⟩
  have most := Nat.mul_le_mul_right (18 + size) length
  simp only [List.length_append, List.length_cons, List.length_nil, beBytes_length]
  omega

theorem sized_ecmaArray {assignments : List (Bytes × AMFValue)} {size : Nat}
    (properties : ∀ entry ∈ assignments, Property size entry) :
    Sized (.ecmaArray (assigned assignments)) (assignments.length * (18 + size) + 8) := by
  obtain ⟨sorted, each, length⟩ := assigned_properties properties
  obtain ⟨bytes, encodes, bound⟩ := sizedEntries each
  refine ⟨_, Encodes.ecmaArray sorted encodes, ?_⟩
  have most := Nat.mul_le_mul_right (18 + size) length
  simp only [List.length_append, List.length_cons, List.length_nil, beBytes_length]
  omega

/-! ## Lists of values that fit in a message -/

structure Travels (root : AMFValue) (payload : Bytes) : Prop where
  serialized : root.toSerializable.serializeToBuffer = .ok payload
  parsed : parseBuffer (parseRoot []) payload = .ok root
  nonempty : payload ≠ []
  limited : payload.length ≤ payloadLimit

def SizedArray (values : List AMFValue) (size : Nat) : Prop :=
  ∃ bytes, EncodesArray values bytes ∧ bytes.length ≤ size

theorem SizedArray.nil : SizedArray [] 0 := ⟨[], EncodesArray.nil, Nat.le_refl 0⟩

theorem SizedArray.cons {value : AMFValue} {values : List AMFValue} {size total : Nat}
    (tail : SizedArray values total) (head : Sized value size) :
    SizedArray (value :: values) (size + total) := by
  obtain ⟨bytes, encodes, bound⟩ := head
  obtain ⟨rest, others, restBound⟩ := tail
  refine ⟨_, EncodesArray.cons encodes others, ?_⟩
  rw [List.length_append]
  omega

theorem SizedArray.travels {value : AMFValue} {values : List AMFValue} {size : Nat}
    (sized : SizedArray (value :: values) size) (fits : size ≤ payloadLimit) :
    ∃ payload, Travels (.root (value :: values)) payload := by
  obtain ⟨bytes, encodes, bound⟩ := sized
  have limited : bytes.length ≤ payloadLimit := Nat.le_trans bound fits
  have small : bytes.length < 2 ^ 31 := by
    simp only [payloadLimit] at limited
    omega
  obtain ⟨serialized, parsed⟩ := encodes.buffer small
  refine ⟨bytes, serialized, parsed, ?_, limited⟩
  rintro rfl
  have none := (EncodesArray.nil.buffer (Nat.two_pow_pos 31)).2
  rw [none] at parsed
  cases parsed

end AMFValue

open AMFValue

/-- A string, as long as a string can be. -/
theorem sized_text : ∀ {text : Bytes}, FitsString text → Sized (.string text) 65538 := by
  intro text fits
  have short := fits.short
  exact (sized_string fits).mono (by omega)

/-! ## What the client sends -/

section Client
variable {app url key : Bytes}

theorem connectCommand_travels (appFits : FitsString app) (urlFits : FitsString url) :
    ∃ payload, Travels (connectCommand app url) payload := by
  have object : Sized (.object _) _ := sized_object
    (List.forall_mem_cons.mpr ⟨.named "app" rfl (sized_text appFits),
      List.forall_mem_cons.mpr ⟨.named "type" rfl (sized_literal "nonprivate" rfl),
      List.forall_mem_cons.mpr ⟨.named "flashVer" rfl
        (sized_literal "FMLE/3.0 (compatible; FMSc/1.0)" rfl),
      List.forall_mem_cons.mpr ⟨.named "swfUrl" rfl (sized_text urlFits),
      List.forall_mem_singleton.mpr (.named "tcUrl" rfl (sized_text urlFits))⟩⟩⟩⟩)
  have name : Sized (.string (ascii "connect")) 34 := sized_literal "connect" rfl
  exact (((SizedArray.nil.cons object).cons (sized_ofInt 1)).cons name).travels
    (by simp [payloadLimit])

theorem releaseStreamCommand_travels (keyFits : FitsString key) :
    ∃ payload, Travels (releaseStreamCommand key) payload := by
  have name : Sized (.string (ascii "releaseStream")) 34 := sized_literal "releaseStream" rfl
  exact ((((SizedArray.nil.cons (sized_text keyFits)).cons sized_nul).cons (sized_ofInt 2)).cons
    name).travels (by simp [payloadLimit])

theorem fcPublishCommand_travels (keyFits : FitsString key) :
    ∃ payload, Travels (fcPublishCommand key) payload := by
  have name : Sized (.string (ascii "FCPublish")) 34 := sized_literal "FCPublish" rfl
  exact ((((SizedArray.nil.cons (sized_text keyFits)).cons sized_nul).cons (sized_ofInt 3)).cons
    name).travels (by simp [payloadLimit])

theorem createStreamCommand_travels : ∃ payload, Travels createStreamCommand payload := by
  have name : Sized (.string (ascii "createStream")) 34 := sized_literal "createStream" rfl
  exact (((SizedArray.nil.cons sized_nul).cons (sized_ofInt 4)).cons name).travels
    (by simp [payloadLimit])

theorem publishCommand_travels (keyFits : FitsString key) :
    ∃ payload, Travels (publishCommand key) payload := by
  have name : Sized (.string (ascii "publish")) 34 := sized_literal "publish" rfl
  have live : Sized (.string (ascii "live")) 34 := sized_literal "live" rfl
  exact (((((SizedArray.nil.cons live).cons (sized_text keyFits)).cons sized_nul).cons
    (sized_ofInt 0)).cons name).travels (by simp [payloadLimit])

theorem numberProp_property (name : String) (number : Int32)
    (isName : decide (IsName (ascii name)) = true) :
    Property 34 (numberProp name number) :=
  .named name isName ((sized_ofInt _).mono (by omega))

theorem booleanProp_property (name : String) (flag : Bool)
    (isName : decide (IsName (ascii name)) = true) :
    Property 34 (booleanProp name flag) :=
  .named name isName ((sized_boolean flag).mono (by omega))

theorem videoProps_properties (params : ClientParameters) :
    ∀ entry ∈ videoProps params, Property 34 entry := by
  simp only [videoProps, List.forall_mem_cons, List.not_mem_nil, false_implies, implies_true,
    and_true]
  exact ⟨numberProp_property "width" _ rfl, numberProp_property "height" _ rfl,
    numberProp_property "videocodecid" _ rfl, numberProp_property "videodatarate" _ rfl,
    numberProp_property "framerate" _ rfl⟩

theorem audioProps_properties (params : ClientParameters) :
    ∀ entry ∈ audioProps params, Property 34 entry := by
  rw [audioProps, List.forall_mem_append]
  constructor
  · simp only [List.forall_mem_cons, List.not_mem_nil, false_implies, implies_true, and_true]
    exact ⟨numberProp_property "audiocodecid" _ rfl, numberProp_property "audiodatarate" _ rfl,
      numberProp_property "audiosamplerate" _ rfl, numberProp_property "audiosamplesize" _ rfl,
      numberProp_property "audiochannels" _ rfl, booleanProp_property "stereo" _ rfl,
      booleanProp_property "2.1" _ rfl, booleanProp_property "3.1" _ rfl,
      booleanProp_property "4.0" _ rfl, booleanProp_property "4.1" _ rfl,
      booleanProp_property "5.1" _ rfl, booleanProp_property "7.1" _ rfl⟩
  · intro entry member
    split at member
    · rw [List.mem_singleton.mp member]
      exact booleanProp_property "stereo" _ rfl
    · cases member

theorem metadataAssignments_properties (params : ClientParameters) :
    ∀ entry ∈ metadataAssignments params, Property 34 entry := by
  intro entry member
  simp only [metadataAssignments, List.mem_append, List.mem_cons, List.not_mem_nil,
    or_false] at member
  rcases member with (((rfl | rfl) | video) | audio) | rfl
  · exact numberProp_property "duration" _ rfl
  · exact numberProp_property "fileSize" _ rfl
  · split at video
    · exact videoProps_properties params entry video
    · cases video
  · split at audio
    · exact audioProps_properties params entry audio
    · cases audio
  · exact .named "encoder" rfl (sized_literal "FMLE" rfl)

theorem metadataAssignments_length (params : ClientParameters) :
    (metadataAssignments params).length ≤ 21 := by
  have video : (if params.hasVideo then videoProps params else []).length ≤ 5 := by
    split
    · exact Nat.le_refl 5
    · exact Nat.zero_le 5
  have stereo : (if params.channels = 2 then [booleanProp "stereo" true] else []).length ≤ 1 := by
    split
    · exact Nat.le_refl 1
    · exact Nat.zero_le 1
  have audio : (if params.hasAudio then audioProps params else []).length ≤ 13 := by
    split
    · rw [audioProps, List.length_append]
      simp only [List.length_cons, List.length_nil]
      omega
    · exact Nat.zero_le 13
  simp only [metadataAssignments, List.length_append, List.length_cons, List.length_nil]
  omega

theorem dataFrame_travels (params : ClientParameters) :
    ∃ payload, Travels (dataFrame params) payload := by
  have length := metadataAssignments_length params
  have props : Sized (metadataProps params) 1100 :=
    (sized_ecmaArray (metadataAssignments_properties params)).mono (by omega)
  have command : Sized (.string (ascii "@setDataFrame")) 34 := sized_literal "@setDataFrame" rfl
  have name : Sized (.string (ascii "onMetaData")) 34 := sized_literal "onMetaData" rfl
  exact (((SizedArray.nil.cons props).cons name).cons command).travels (by simp [payloadLimit])

end Client

/-! ## What the server sends -/

theorem amfResult_travels {data : List AMFValue} {size : Nat} (sized : SizedArray data size)
    (fits : size ≤ 1000) (id : Int32) : ∃ payload, Travels (amfResult data id) payload := by
  have name : Sized (.string (ascii "_result")) 34 := sized_literal "_result" rfl
  exact ((sized.cons (sized_ofInt id.toInt)).cons name).travels (by simp only [payloadLimit]; omega)

theorem connectResult_travels (id : Int32) :
    ∃ payload, Travels (amfResult connectResult id) payload := by
  have number : ∀ number, Sized (.ofInt number) 100 := by
    intro number
    exact (sized_ofInt number).mono (by omega)
  have server : Sized (.object _) (3 * (18 + 100) + 4) := sized_object
    (List.forall_mem_cons.mpr ⟨.named "fmsVer" rfl (sized_literal "FMS/3,5,3,824" rfl),
      List.forall_mem_cons.mpr ⟨.named "capabilities" rfl (number 127),
      List.forall_mem_singleton.mpr (.named "mode" rfl (number 1))⟩⟩)
  have data : Sized (.ecmaArray _) (1 * (18 + 34) + 8) := sized_ecmaArray
    (List.forall_mem_singleton.mpr (.named "version" rfl (sized_literal "3,5,3,824" rfl)))
  have info : Sized (.object _) (5 * (18 + 100) + 4) := sized_object
    (List.forall_mem_cons.mpr ⟨.named "level" rfl (sized_literal "status" rfl),
      List.forall_mem_cons.mpr
        ⟨.named "code" rfl (sized_literal "NetConnection.Connect.Success" rfl),
      List.forall_mem_cons.mpr
        ⟨.named "description" rfl (sized_literal "Connection succeeded." rfl),
      List.forall_mem_cons.mpr ⟨.named "objectEncoding" rfl (number 0),
      List.forall_mem_singleton.mpr (.named "data" rfl (data.mono (by omega)))⟩⟩⟩⟩)
  exact amfResult_travels ((SizedArray.nil.cons info).cons server) (by omega) id

theorem createStreamResult_travels (id : Int32) :
    ∃ payload, Travels (amfResult createStreamResult id) payload :=
  amfResult_travels ((SizedArray.nil.cons (sized_ofInt 1)).cons sized_nul) (by omega) id

theorem publishStatus_travels (id : Int32) :
    ∃ payload, Travels (publishStatus id) payload := by
  have info : Sized (.object _) (2 * (18 + 34) + 4) := sized_object
    (List.forall_mem_cons.mpr ⟨.named "level" rfl (sized_literal "status" rfl),
      List.forall_mem_singleton.mpr
        (.named "code" rfl (sized_literal "NetStream.Publish.Start" rfl))⟩)
  have name : Sized (.string (ascii "onStatus")) 34 := sized_literal "onStatus" rfl
  exact ((((SizedArray.nil.cons info).cons sized_nul).cons (sized_ofInt id.toInt)).cons
    name).travels (by simp [payloadLimit])

end EasyRtmp
