import EasyRtmp.AmfBounds
import EasyRtmp.Lib.CallTrace

/-!
# The nested calls of `ParseRef`

`traceValue`, `traceEntries` and `traceArray` are the parsers of `Amf` that record the
calls of `ParseRef` inside them.  Every call takes its tag byte off the length left,
which is not negative when it starts, so the calls of a `ROOT` are bounded by the length
of the buffer, whatever is in it and behind it.
-/

set_option autoImplicit false

namespace EasyRtmp.AMFValue

open Lib Lib.ByteCodec

/-! ## Recording the calls -/

mutual

def traceValue : Nat → List (Bytes × AMFValue) → Traced Stop AMFValue
  | 0, _ => .lift (Reader.fail .endless)
  | fuel + 1, dataObject => do
      let tag ← .lift Reader.peek
      match typeOfTag tag with
      | none => .lift (Reader.fail (.rtmpException .amf))
      | some type =>
          .lift (Reader.skip 1)
          match type with
          | .string => do
              let dataString ← .lift parseString
              pure (.string dataString)
          | .number => do
              let dataNumber ← .lift (readDataType 8 8 false 0)
              pure (.number (UInt64.ofNat dataNumber))
          | .object => do
              let entries ← traceEntries fuel dataObject
              .lift (Reader.skip 1)
              pure (.object entries)
          | .ecmaArray => do
              let _ ← .lift (readDataType 4 4 false 0)
              let entries ← traceEntries fuel dataObject
              .lift (Reader.skip 1)
              pure (.ecmaArray entries)
          | .boolean => do
              let dataBoolean ← .lift (readDataType 1 1 false 0)
              pure (.boolean (dataBoolean ≠ 0))
          | .nul => pure .nul
          | .undefined => pure .undefined
          | _ => pure .strictArray

def traceEntries : Nat → List (Bytes × AMFValue) → Traced Stop (List (Bytes × AMFValue))
  | 0, _ => .lift (Reader.fail .endless)
  | fuel + 1, dataObject => do
      let strLen ← .lift (readDataType 2 2 false 0)
      if strLen = 0 then pure dataObject
      else
        let propName ← .lift (readDataBytes strLen)
        let am ← .call (traceValue fuel [])
        traceEntries fuel (OrdMap.insert (cString propName) am dataObject)

end

def traceArray : Nat → List AMFValue → Traced Stop (List AMFValue)
  | 0, _ => .lift (Reader.fail .endless)
  | fuel + 1, dataArray => do
      let dataLen ← .lift Reader.dataLen
      if 0 < dataLen then
        let am ← .call (traceValue fuel [])
        traceArray fuel (dataArray ++ [am])
      else pure dataArray

def traceRoot (fuel : Nat) (dataArray : List AMFValue) : Traced Stop AMFValue := do
  let values ← traceArray fuel dataArray
  pure (.root values)

/-! ## The same parsers -/

theorem traceValue_step {fuel : Nat}
    (entries : ∀ present, (traceEntries fuel present).erase = parseEntries fuel present)
    (dataObject : List (Bytes × AMFValue)) :
    (traceValue (fuel + 1) dataObject).erase = parseValue (fuel + 1) dataObject := by
  rw [traceValue, parseValue, Traced.erase_bind, Traced.erase_lift]
  refine congrArg _ (funext fun tag => ?_)
  cases typeOfTag tag with
  | none => rfl
  | some type =>
      rw [Traced.erase_bind, Traced.erase_lift]
      refine congrArg _ (funext fun _ => ?_)
      cases type with
      | object | ecmaArray =>
          simp only [Traced.erase_bind, Traced.erase_lift, Traced.erase_pure, entries]
      | string | number | boolean =>
          simp only [Traced.erase_bind, Traced.erase_lift, Traced.erase_pure]
      | nul | undefined | strictArray | endOfObject | unknown | root => rfl

theorem traceEntries_step {fuel : Nat}
    (value : ∀ dataObject, (traceValue fuel dataObject).erase = parseValue fuel dataObject)
    (entries : ∀ present, (traceEntries fuel present).erase = parseEntries fuel present)
    (present : List (Bytes × AMFValue)) :
    (traceEntries (fuel + 1) present).erase = parseEntries (fuel + 1) present := by
  rw [traceEntries, parseEntries, Traced.erase_bind, Traced.erase_lift]
  refine congrArg _ (funext fun strLen => ?_)
  split
  · rfl
  · simp only [Traced.erase_bind, Traced.erase_lift, Traced.erase_call, value, entries]

/-- Without the records the parsers are those of the repository. -/
theorem trace_erase (fuel : Nat) :
    (∀ dataObject, (traceValue fuel dataObject).erase = parseValue fuel dataObject) ∧
    (∀ present, (traceEntries fuel present).erase = parseEntries fuel present) := by
  induction fuel with
  | zero =>
      constructor
      · intro dataObject
        rw [traceValue, parseValue, Traced.erase_lift]
      · intro present
        rw [traceEntries, parseEntries, Traced.erase_lift]
  | succ fuel inductionHypothesis =>
      obtain ⟨value, entries⟩ := inductionHypothesis
      exact ⟨traceValue_step entries, traceEntries_step value entries⟩

theorem traceArray_erase (fuel : Nat) : ∀ present : List AMFValue,
    (traceArray fuel present).erase = parseArray fuel present := by
  induction fuel with
  | zero =>
      intro present
      rw [traceArray, parseArray, Traced.erase_lift]
  | succ fuel inductionHypothesis =>
      intro present
      rw [traceArray, parseArray, Traced.erase_bind, Traced.erase_lift]
      refine congrArg _ (funext fun dataLen => ?_)
      split
      · simp only [Traced.erase_bind, Traced.erase_call, (trace_erase fuel).1, inductionHypothesis]
      · rfl

theorem traceRoot_erase (dataArray : List AMFValue) (memory : Nat → UInt8) (cursor : Cursor) :
    (traceRoot (cursor.dataLen.toNat + 3) dataArray memory cursor).2 =
      parseRoot dataArray memory cursor := by
  have erased : (traceRoot (cursor.dataLen.toNat + 3) dataArray).erase = (do
      let values ← parseArray (cursor.dataLen.toNat + 3) dataArray
      pure (.root values)) := by
    rw [traceRoot, Traced.erase_bind, traceArray_erase]
    rfl
  rw [parseRoot, Reader.dataLen_bind, ← erased]
  rfl

/-! ## What the calls cost -/

section Costs
variable {limit low : Int}

/-- A bounded read spends what it takes, and refuses a negative length. -/
theorem readDataType_pays (size newSize : Nat) (littleEndian : Bool) (negative : -1 ≤ low) :
    Pays Stop.Thrown limit low newSize 0 (.lift (readDataType size newSize littleEndian 0)) := by
  intro memory cursor above _
  rw [Traced.lift, readDataType_apply]
  split
  · refine .stopped Stop.thrown_runtimeError (List.forall_mem_nil _) ?_
    rw [List.length_nil]
    omega
  · refine .returned (List.forall_mem_nil _) ?_ ?_ ?_
    · simp
    · simp
    · simp only
      omega

theorem readDataBytes_pays (outLen : Nat) (negative : -1 ≤ low) :
    Pays Stop.Thrown limit low outLen 0 (.lift (readDataBytes outLen)) := by
  intro memory cursor above _
  rw [Traced.lift, readDataBytes_apply]
  split
  · refine .stopped Stop.thrown_runtimeError (List.forall_mem_nil _) ?_
    rw [List.length_nil]
    omega
  · refine .returned (List.forall_mem_nil _) ?_ ?_ ?_
    · simp
    · simp
    · simp only
      omega

/-- A value of one read. -/
theorem pays_map {α : Type} {cost : Nat} {rest : Int} {traced : Traced Stop α}
    (pays : Pays Stop.Thrown limit low cost rest traced) (make : α → AMFValue) (fewer : -1 ≤ rest) :
    Pays Stop.Thrown limit low 0 (-1) (do let value ← traced; pure (make value)) :=
  (pays.bind fun value => .pure (make value)).relax (Nat.zero_le _) fewer

theorem parseString_pays : Pays Stop.Thrown limit (-1) 0 0 (.lift parseString) := by
  have text : ∀ strLen, Pays Stop.Thrown (limit - 2) 0 0 0
      (do let strData ← .lift (readDataBytes strLen); pure (cString strData)) := by
    intro strLen
    have bytes := @readDataBytes_pays (limit - 2) 0 strLen (by omega)
    exact (bytes.bind fun strData => .pure (cString strData)).relax (Nat.zero_le _) (le_refl _)
  rw [parseString]
  simp only [Traced.lift_bind, Traced.lift_pure]
  exact ((readDataType_pays 2 2 false (le_refl _)).bind text).relax (Nat.zero_le _) (le_refl _)

/-- The loop over the entries and the byte behind it, which is skipped in any case. -/
theorem object_pays {entries : Traced Stop (List (Bytes × AMFValue))}
    (make : List (Bytes × AMFValue) → AMFValue) (loop : Pays Stop.Thrown limit (-1) 0 0 entries) :
    Pays Stop.Thrown limit (-1) 0 (-1) (do
      let entries ← entries
      .lift (Reader.skip 1)
      pure (make entries)) := by
  have close : ∀ entries, Pays Stop.Thrown (limit - (0 : Nat)) 0 0 (-1)
      (do .lift (Reader.skip 1); pure (make entries)) := by
    intro entries
    exact ((Pays.skip 1).bind fun _ => .pure (make entries)).relax (Nat.zero_le _) (le_refl _)
  exact loop.bind close

theorem traceValue_pays {fuel : Nat}
    (entries : ∀ present, Pays Stop.Thrown (fuel - 1) (-1) 0 0 (traceEntries fuel present))
    (dataObject : List (Bytes × AMFValue)) :
    Pays Stop.Thrown fuel 0 1 (-1) (.call (traceValue (fuel + 1) dataObject)) := by
  rw [traceValue]
  refine Pays.call (le_refl 0) ?_
  intro tag
  cases typeOfTag tag with
  | none => exact Or.inl ⟨_, by unfold Stop.Thrown; decide, rfl⟩
  | some type =>
      refine Or.inr ⟨_, rfl, ?_⟩
      rw [Int.zero_sub]
      cases type with
      | string => exact pays_map parseString_pays .string (by omega)
      | number =>
          exact pays_map (readDataType_pays 8 8 false (le_refl _))
            (fun dataNumber => .number (UInt64.ofNat dataNumber)) (by omega)
      | boolean =>
          exact pays_map (readDataType_pays 1 1 false (le_refl _))
            (fun dataBoolean => .boolean (dataBoolean ≠ 0)) (by omega)
      | object => exact object_pays .object (entries dataObject)
      | ecmaArray =>
          have counter := @readDataType_pays (fuel - 1) (-1) 4 4 false (le_refl _)
          have object := object_pays .ecmaArray (entries dataObject)
          exact (counter.bind fun _ => object.narrow (by omega) (by omega)).relax
            (Nat.zero_le _) (le_refl _)
      | nul | undefined | strictArray | endOfObject | unknown | root => exact .pure _

theorem traceEntries_pays {fuel : Nat}
    (value : Pays Stop.Thrown (fuel - 1) 0 1 (-1) (.call (traceValue fuel [])))
    (entries : ∀ present, Pays Stop.Thrown (fuel - 1) (-1) 0 0 (traceEntries fuel present))
    (present : List (Bytes × AMFValue)) :
    Pays Stop.Thrown fuel (-1) 0 0 (traceEntries (fuel + 1) present) := by
  rw [traceEntries]
  refine ((readDataType_pays 2 2 false (le_refl _)).bind fun strLen => ?_).relax
    (Nat.zero_le (2 + 0)) (le_refl _)
  split
  · exact .pure present
  · have key := @readDataBytes_pays (fuel - (2 : Nat)) 0 strLen (by omega)
    refine (key.bind fun propName => ?_).relax (Nat.zero_le (strLen + 0)) (le_refl _)
    refine ((value.narrow (by omega) (le_refl _)).bind fun am => ?_).relax (Nat.zero_le (1 + 0))
      (le_refl _)
    exact (entries _).narrow (by omega) (le_refl _)

/-- With a fuel above the length left by two the recursion never runs out of it. -/
theorem trace_pays (fuel : Nat) :
    (∀ dataObject, Pays Stop.Thrown (fuel - 1) 0 1 (-1) (.call (traceValue fuel dataObject))) ∧
    (∀ present, Pays Stop.Thrown (fuel - 1) (-1) 0 0 (traceEntries fuel present)) := by
  induction fuel with
  | zero => exact ⟨fun _ => .vacuous (by omega) _, fun _ => .vacuous (by omega) _⟩
  | succ fuel inductionHypothesis =>
      obtain ⟨value, entries⟩ := inductionHypothesis
      have next : ((fuel + 1 : Nat) : Int) - 1 = fuel := by omega
      rw [next]
      exact ⟨traceValue_pays entries, traceEntries_pays (value []) entries⟩

theorem traceArray_pays (fuel : Nat) : ∀ present : List AMFValue,
    Pays Stop.Thrown (fuel - 2) (-1) 0 (-1) (traceArray fuel present) := by
  induction fuel with
  | zero => exact fun _ => .vacuous (by omega) _
  | succ fuel inductionHypothesis =>
      intro present
      rw [traceArray]
      refine .whileMore present ?_
      have value := ((trace_pays fuel).1 []).narrow (show ((fuel + 1 : Nat) : Int) - 2 ≤ _ by omega)
        (le_refl 0)
      refine (value.bind fun am => ?_).relax (Nat.zero_le (1 + 0)) (le_refl _)
      exact (inductionHypothesis (present ++ [am])).narrow (by omega) (le_refl _)

end Costs

/-! ## More fuel changes nothing -/

theorem traceValue_agrees {fuel : Nat}
    (entries : ∀ present, Agrees .endless (traceEntries fuel present)
      (traceEntries (fuel + 1) present)) (dataObject : List (Bytes × AMFValue)) :
    Agrees .endless (traceValue (fuel + 1) dataObject) (traceValue (fuel + 1 + 1) dataObject) := by
  rw [traceValue, traceValue]
  refine (Agrees.refl _).bind fun tag => ?_
  cases typeOfTag tag with
  | none => exact .refl _
  | some type =>
      refine (Agrees.refl _).bind fun _ => ?_
      cases type with
      | object => exact (entries dataObject).bind fun _ => .refl _
      | ecmaArray =>
          exact (Agrees.refl _).bind fun _ => (entries dataObject).bind fun _ => .refl _
      | string | number | boolean => exact .refl _
      | nul | undefined | strictArray | endOfObject | unknown | root => exact .refl _

theorem trace_agrees (fuel : Nat) :
    (∀ dataObject, Agrees .endless (traceValue fuel dataObject)
      (traceValue (fuel + 1) dataObject)) ∧
    (∀ present, Agrees .endless (traceEntries fuel present) (traceEntries (fuel + 1) present)) := by
  induction fuel with
  | zero =>
      constructor
      · intro dataObject
        rw [traceValue]
        exact .exhausts _
      · intro present
        rw [traceEntries]
        exact .exhausts _
  | succ fuel inductionHypothesis =>
      obtain ⟨value, entries⟩ := inductionHypothesis
      refine ⟨traceValue_agrees entries, ?_⟩
      intro present
      rw [traceEntries, traceEntries]
      refine (Agrees.refl _).bind fun strLen => ?_
      split
      · exact .refl _
      · refine (Agrees.refl _).bind fun propName => ?_
        exact (value []).call.bind fun am => entries _

theorem traceArray_agrees (fuel : Nat) : ∀ present : List AMFValue,
    Agrees .endless (traceArray fuel present) (traceArray (fuel + 1) present) := by
  induction fuel with
  | zero =>
      intro present
      rw [traceArray]
      exact .exhausts _
  | succ fuel inductionHypothesis =>
      intro present
      rw [traceArray, traceArray]
      refine (Agrees.refl _).bind fun dataLen => ?_
      split
      · exact ((trace_agrees fuel).1 []).call.bind fun am => inductionHypothesis _
      · exact .refl _

/-! ## `ParseRef` of a `ROOT` -/

theorem traceRoot_agrees (dataArray : List AMFValue) (fuel : Nat) :
    Agrees .endless (traceRoot fuel dataArray) (traceRoot (fuel + 1) dataArray) :=
  (traceArray_agrees fuel dataArray).bind fun _ => .refl _

theorem traceRoot_pays (fuel : Nat) (dataArray : List AMFValue) :
    Pays Stop.Thrown (fuel - 2) (-1) 0 (-1) (traceRoot fuel dataArray) :=
  pays_map (traceArray_pays fuel dataArray) .root (le_refl _)

/-- On a buffer of `n` bytes, with anything in it and behind it, the parser comes to an end
that no more fuel changes, and makes at most `n + 1` calls, each of which starts with a
length that is not negative and leaves a smaller one if it returns. -/
theorem root_parse_bounded (dataArray : List AMFValue) (memory : Nat → UInt8)
    (start readEnd n : Nat) :
    ∃ calls result, parseRoot dataArray memory ⟨start, n, readEnd⟩ = result ∧
      (∀ fuel, n + 3 ≤ fuel →
        traceRoot fuel dataArray memory ⟨start, n, readEnd⟩ = (calls, result)) ∧
      (∀ error after, result = .error error after → error.Thrown) ∧
      (∀ call ∈ calls, call.Shrinks) ∧ calls.length ≤ n + 1 := by
  have paid : ∀ fuel, n + 3 ≤ fuel → Paid Stop.Thrown (n : Int) 0 (-1)
      (traceRoot fuel dataArray memory ⟨start, n, readEnd⟩) := by
    intro fuel enough
    exact traceRoot_pays fuel dataArray memory ⟨start, n, readEnd⟩ (by simp only; omega)
      (by simp only; omega)
  have reaches : ∀ fuel, n + 3 ≤ fuel → ∀ calls after,
      traceRoot fuel dataArray memory ⟨start, n, readEnd⟩ ≠ (calls, .error .endless after) := by
    intro fuel enough calls after exhausted
    exact (paid fuel enough).throws (congrArg Prod.snd exhausted) trivial
  have settled := Agrees.settles (traceRoot_agrees dataArray) reaches
  have erased := traceRoot_erase dataArray memory ⟨start, n, readEnd⟩
  simp only [Int.toNat_natCast] at erased
  have bounded := paid (n + 3) (le_refl _)
  generalize traceRoot (n + 3) dataArray memory ⟨start, n, readEnd⟩ = outcome
    at settled bounded erased
  obtain ⟨calls, result⟩ := outcome
  have few : (calls.length : Int) ≤ n + 1 := bounded.length_le (le_refl _)
  refine ⟨calls, result, erased.symm, settled, ?_, bounded.shrinks, by omega⟩
  intro error after stopped
  exact bounded.throws stopped

/-- An object with a null in it and another null behind the object. -/
example : (traceRoot 12 [] (memoryOf [3, 0, 1, 97, 5, 0, 0, 9, 5] fun _ => 0) ⟨0, 9, 0⟩).1 =
    [⟨9, some 1⟩, ⟨5, some 4⟩, ⟨1, some 0⟩] := by decide +kernel

end EasyRtmp.AMFValue
