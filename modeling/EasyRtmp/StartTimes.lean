import Mathlib.Data.Int.GCD
import Mathlib.Data.Nat.ModEq
import Mathlib.Tactic.Ring
import EasyRtmp.Arrivals

/-!
# Times that hang on a start-up value

The first header on a chunk stream leaves the difference between its time and the
start-up time of the record as the delta, and a later header of form 3 adds that
delta.  A `TimeForm` is what the record then says of time and delta for every
start-up time at once.
-/

set_option autoImplicit false

namespace EasyRtmp

open Lib Lib.ByteCodec

/-- With `start` the start-up time: the drift is `offset + factor * start` in 32 bits, the
time `base` and `count` drifts in 64 bits, and the delta the drift or a time told since. -/
structure TimeForm where
  base : Nat
  count : Nat
  offset : Nat
  factor : Nat
  told : Option Nat
  deriving DecidableEq, Repr

namespace TimeForm

def drift (form : TimeForm) (start : Nat) : Nat := (form.offset + form.factor * start) % 2 ^ 32

def time (form : TimeForm) (start : Nat) : Nat :=
  (form.base + form.count * form.drift start) % 2 ^ 64

def delta (form : TimeForm) (start : Nat) : Nat := form.told.getD (form.drift start)

/-- After a first header with this time. -/
def opened (timestamp : Nat) : TimeForm := ⟨timestamp, 0, timestamp, 2 ^ 32 - 1, none⟩

/-- A header with a time difference, ahead of a new message. -/
def addDelta (form : TimeForm) (timestampDelta : Nat) : TimeForm :=
  { form with base := form.base + timestampDelta, told := some timestampDelta }

/-- A header without a time, ahead of a new message. -/
def repeatDelta (form : TimeForm) : TimeForm :=
  match form.told with
  | none => { form with count := form.count + 1 }
  | some timestampDelta => form.addDelta timestampDelta

/-- What one more header makes of it. -/
def meet (form : TimeForm) (starts : Bool) : MessageHeader → TimeForm
  | .full header =>
      if starts then
        ⟨header.timestamp, 0,
          header.timestamp + (2 ^ 32 - 1) * (form.base + form.count * form.offset),
          (2 ^ 32 - 1) * (form.count * form.factor), none⟩
      else { form with base := header.timestamp, count := 0 }
  | .sameStream header => if starts then form.addDelta header.timestampDelta else form
  | .timeOnly header => if starts then form.addDelta header.timestampDelta else form
  | .continuation => if starts then form.repeatDelta else form

/-- The start-up time has no effect on the time. -/
def Constant (form : TimeForm) : Prop :=
  2 ^ 32 ∣ form.factor ∨ 2 ^ 64 ∣ form.count * form.factor.gcd (2 ^ 32)

instance (form : TimeForm) : Decidable form.Constant := by
  unfold Constant
  infer_instance

/-! ## When the time is constant -/

theorem drift_constant {form : TimeForm} (divides : 2 ^ 32 ∣ form.factor) (start : Nat) :
    form.drift start = form.offset % 2 ^ 32 := by
  obtain ⟨times, factor⟩ := divides
  rw [drift, factor, Nat.mul_assoc, Nat.add_mul_mod_self_left]

/-- All drifts lie in one class modulo the greatest common divisor. -/
theorem drift_class (form : TimeForm) (start : Nat) :
    form.drift start % form.factor.gcd (2 ^ 32) = form.offset % form.factor.gcd (2 ^ 32) := by
  have divides : form.factor.gcd (2 ^ 32) ∣ form.factor * start :=
    (Nat.gcd_dvd_left _ _).mul_right start
  rw [drift, Nat.mod_mod_of_dvd _ (Nat.gcd_dvd_right _ _), Nat.add_mod,
    Nat.mod_eq_zero_of_dvd divides, Nat.add_zero, Nat.mod_mod]

/-- Every drift of the class occurs. -/
theorem drift_reaches {form : TimeForm} (proper : form.factor.gcd (2 ^ 32) < 2 ^ 32) {target : Nat}
    (below : target < 2 ^ 32)
    (sameClass : target % form.factor.gcd (2 ^ 32) = form.offset % form.factor.gcd (2 ^ 32)) :
    ∃ start < 2 ^ 32, form.drift start = target := by
  obtain ⟨unit, -, reaches⟩ := Nat.exists_mul_mod_eq_gcd proper
  have divides : form.factor.gcd (2 ^ 32) ∣ 2 ^ 32 := Nat.gcd_dvd_right _ _
  generalize form.factor.gcd (2 ^ 32) = divisor at *
  -- The target lies a multiple of the divisor behind the offset, up to multiples of 2 ^ 32.
  have far : form.offset ≤ target + 2 ^ 32 * form.offset := by omega
  have multiple : divisor ∣ target + 2 ^ 32 * form.offset - form.offset := by
    apply (Nat.modEq_iff_dvd' far).mp
    have wraps : target + 2 ^ 32 * form.offset ≡ target + 0 [MOD divisor] :=
      Nat.ModEq.add_left target (Nat.modEq_zero_iff_dvd.mpr (divides.mul_right _))
    exact (wraps.trans sameClass).symm
  obtain ⟨times, behind⟩ := multiple
  refine ⟨unit * times % 2 ^ 32, Nat.mod_lt _ (by norm_num), ?_⟩
  have steps : form.factor * (unit * times % 2 ^ 32) ≡ divisor * times [MOD 2 ^ 32] := by
    calc form.factor * (unit * times % 2 ^ 32)
        ≡ form.factor * (unit * times) [MOD 2 ^ 32] := (Nat.mod_modEq _ _).mul_left _
      _ = form.factor * unit * times := (Nat.mul_assoc ..).symm
      _ ≡ divisor * times [MOD 2 ^ 32] := by
          refine Nat.ModEq.mul_right times ?_
          rw [Nat.ModEq, reaches, Nat.mod_eq_of_lt proper]
  have total : form.offset + divisor * times = target + 2 ^ 32 * form.offset := by omega
  have reached : form.offset + form.factor * (unit * times % 2 ^ 32) ≡ target [MOD 2 ^ 32] := by
    calc form.offset + form.factor * (unit * times % 2 ^ 32)
        ≡ form.offset + divisor * times [MOD 2 ^ 32] := steps.add_left _
      _ = target + 2 ^ 32 * form.offset := total
      _ ≡ target [MOD 2 ^ 32] := Nat.add_mul_mod_self_left _ _ _
  rw [drift, reached, Nat.mod_eq_of_lt below]

theorem constant_iff (form : TimeForm) :
    (∀ start other : UInt64, form.time start.toNat = form.time other.toNat) ↔ form.Constant := by
  have divides : form.factor.gcd (2 ^ 32) ∣ 2 ^ 32 := Nat.gcd_dvd_right _ _
  have ofLow : ∀ start < 2 ^ 32, (UInt64.ofNat start).toNat = start := by
    intro start low
    rw [UInt64.toNat_ofNat', Nat.mod_eq_of_lt (by omega)]
  constructor
  · intro same
    by_cases proper : form.factor.gcd (2 ^ 32) < 2 ^ 32
    · right
      have classes := form.drift_class
      have reaches := @drift_reaches form proper
      generalize form.factor.gcd (2 ^ 32) = divisor at *
      have positive : 0 < divisor := Nat.pos_of_dvd_of_pos divides (by norm_num)
      have least : form.offset % divisor < divisor := Nat.mod_lt _ positive
      obtain ⟨times, factor⟩ := divides
      have twice : divisor * 2 ≤ 2 ^ 32 := by
        rw [factor]
        refine Nat.mul_le_mul_left divisor ?_
        by_contra few
        have one : times = 0 ∨ times = 1 := by omega
        rcases one with rfl | rfl <;> omega
      obtain ⟨start, startLow, first⟩ :=
        reaches (show form.offset % divisor < 2 ^ 32 by omega) (Nat.mod_mod _ _)
      obtain ⟨other, otherLow, second⟩ :=
        reaches (show form.offset % divisor + divisor < 2 ^ 32 by omega)
          (by rw [Nat.add_mod_right, Nat.mod_mod])
      have times := same (UInt64.ofNat start) (UInt64.ofNat other)
      rw [ofLow start startLow, ofLow other otherLow, time, time, first, second] at times
      have apart := (Nat.modEq_iff_dvd' (by rw [Nat.mul_add]; omega)).mp
        (show form.base + form.count * (form.offset % divisor) ≡
          form.base + form.count * (form.offset % divisor + divisor) [MOD 2 ^ 64] from times)
      have gap : form.base + form.count * (form.offset % divisor + divisor) -
          (form.base + form.count * (form.offset % divisor)) = form.count * divisor := by
        rw [Nat.mul_add]
        omega
      rwa [gap] at apart
    · left
      have whole : form.factor.gcd (2 ^ 32) = 2 ^ 32 :=
        Nat.le_antisymm (Nat.le_of_dvd (by norm_num) divides) (Nat.le_of_not_lt proper)
      rw [← whole]
      exact Nat.gcd_dvd_left _ _
  · rintro (constant | wraps) start other
    · rw [time, time, drift_constant constant, drift_constant constant]
    · have each : ∀ start, form.time start =
          (form.base + form.count * (form.offset % form.factor.gcd (2 ^ 32))) % 2 ^ 64 := by
        intro start
        have split := Nat.mod_add_div (form.drift start) (form.factor.gcd (2 ^ 32))
        rw [form.drift_class start] at split
        obtain ⟨times, multiple⟩ := wraps
        rw [time, ← split, Nat.mul_add, ← Nat.mul_assoc, multiple, ← Nat.add_assoc,
          Nat.mul_assoc, Nat.add_mul_mod_self_left]
      rw [each, each]

/-! ## What headers do to the record -/

/-- The record of a run whose start-up time is `start`. -/
structure Stamped (form : TimeForm) (start : Nat) (cs : ChunkStream) : Prop where
  timestamp : cs.timestamp = form.time start
  timestampDelta : cs.timestampDelta = form.delta start

theorem subSize_mod {left right rest : Nat} (bound : right < 2 ^ 64)
    (sum : rest + right ≡ left [MOD 2 ^ 32]) : subSize left right % 2 ^ 32 = rest % 2 ^ 32 := by
  rw [subSize, Nat.mod_mod_of_dvd _ (pow_dvd_pow 2 (by norm_num))]
  have back : left + 2 ^ 64 - right + right = left + 2 ^ 32 * 2 ^ 32 := by omega
  have wraps : left + 2 ^ 64 - right + right ≡ rest + right [MOD 2 ^ 32] := by
    rw [back]
    exact (Nat.add_mul_mod_self_left _ _ _).trans sum.symm
  exact Nat.ModEq.add_right_cancel' right wraps

/-- A header with the whole time: the delta becomes the difference to the time before. -/
theorem drift_of_difference (form : TimeForm) (start timestamp : Nat) :
    subSize timestamp (form.time start) % 2 ^ 32 =
      (timestamp + (2 ^ 32 - 1) * (form.base + form.count * form.offset) +
        (2 ^ 32 - 1) * (form.count * form.factor) * start) % 2 ^ 32 := by
  apply subSize_mod (Nat.mod_lt _ (by norm_num))
  have time : form.time start ≡
      form.base + form.count * (form.offset + form.factor * start) [MOD 2 ^ 32] := by
    calc form.time start
        ≡ form.base + form.count * form.drift start [MOD 2 ^ 32] :=
          (Nat.mod_modEq _ _).of_dvd (pow_dvd_pow 2 (by norm_num))
      _ ≡ form.base + form.count * (form.offset + form.factor * start) [MOD 2 ^ 32] :=
          ((Nat.mod_modEq _ _).mul_left _).add_left _
  calc _ ≡ _ + (form.base + form.count * (form.offset + form.factor * start)) [MOD 2 ^ 32] :=
        time.add_left _
    _ = timestamp + 2 ^ 32 * (form.base + form.count * (form.offset + form.factor * start)) := by
        ring
    _ ≡ timestamp [MOD 2 ^ 32] := Nat.add_mul_mod_self_left _ _ _

theorem opened_drift (start : UInt64) (timestamp : Nat) :
    subSize timestamp start.toNat % 2 ^ 32 = (opened timestamp).drift start.toNat := by
  rw [drift, opened]
  apply subSize_mod start.toNat_lt
  calc timestamp + (2 ^ 32 - 1) * start.toNat + start.toNat
      = timestamp + 2 ^ 32 * start.toNat := by ring
    _ ≡ timestamp [MOD 2 ^ 32] := Nat.add_mul_mod_self_left _ _ _

theorem time_of_header {form : TimeForm} {timestamp : Nat} (none : form.count = 0)
    (base : form.base = timestamp % 2 ^ 24) (start : Nat) :
    timestamp % 2 ^ 24 = form.time start := by
  have small : timestamp % 2 ^ 24 < 2 ^ 64 :=
    Nat.lt_of_lt_of_le (Nat.mod_lt _ (by norm_num)) (by norm_num)
  rw [time, none, base, Nat.zero_mul, Nat.add_zero, Nat.mod_eq_of_lt small]

theorem Stamped.addDelta {form : TimeForm} {start : Nat} {cs : ChunkStream}
    (stamped : form.Stamped start cs) (begins : cs.messageBytesRead = 0) (timestampDelta : Nat) :
    (form.addDelta timestampDelta).Stamped start (cs.applyDelta timestampDelta) := by
  rw [ChunkStream.applyDelta, if_pos begins]
  refine ⟨?_, rfl⟩
  rw [stamped.timestamp, time, time, Nat.mod_add_mod, Nat.add_right_comm]
  rfl

theorem Stamped.repeatDelta {form : TimeForm} {start : Nat} {cs : ChunkStream}
    (stamped : form.Stamped start cs) (begins : cs.messageBytesRead = 0) :
    form.repeatDelta.Stamped start (cs.applyDelta cs.timestampDelta) := by
  obtain ⟨base, count, offset, factor, told⟩ := form
  rw [stamped.timestampDelta]
  cases told with
  | some timestampDelta => exact stamped.addDelta begins timestampDelta
  | none =>
      rw [ChunkStream.applyDelta, if_pos begins]
      refine ⟨?_, rfl⟩
      simp only [stamped.timestamp, TimeForm.repeatDelta, time, delta, drift, Option.getD_none,
        Nat.mod_add_mod]
      rw [Nat.succ_mul, Nat.add_assoc]

/-- A first header, on a record that holds the start-up time. -/
theorem opened_stamped {cs : ChunkStream} {start : UInt64} (begins : cs.messageBytesRead = 0)
    (fresh : cs.timestamp = start.toNat) (header : ChunkMessageHeader0) :
    (opened (header.timestamp % 2 ^ 24)).Stamped start.toNat
      ((MessageHeader.full header).received.apply cs) := by
  simp only [MessageHeader.received, MessageHeader.apply, ChunkStream.applyHeader0, begins, fresh,
    if_true]
  exact ⟨time_of_header rfl rfl _, opened_drift start _⟩

theorem Stamped.meet {form : TimeForm} {start : Nat} {cs : ChunkStream}
    (stamped : form.Stamped start cs) (header : MessageHeader) :
    (form.meet (cs.messageBytesRead = 0) header.received).Stamped start
      (header.received.apply cs) := by
  by_cases begins : cs.messageBytesRead = 0
  · cases header with
    | full header =>
        simp only [MessageHeader.received, MessageHeader.apply, ChunkStream.applyHeader0, begins,
          if_true, TimeForm.meet, decide_true]
        refine ⟨time_of_header rfl rfl start, ?_⟩
        rw [stamped.timestamp]
        exact form.drift_of_difference start _
    | sameStream header =>
        have added := stamped.addDelta begins (header.timestampDelta % 2 ^ 24)
        simp only [MessageHeader.received, MessageHeader.apply, ChunkStream.applyHeader1, begins,
          TimeForm.meet, decide_true, if_true]
        exact ⟨added.timestamp, added.timestampDelta⟩
    | timeOnly header =>
        simp only [MessageHeader.received, MessageHeader.apply, ChunkStream.applyHeader2, begins,
          TimeForm.meet, decide_true, if_true]
        exact stamped.addDelta begins _
    | continuation =>
        simp only [MessageHeader.received, MessageHeader.apply, ChunkStream.applyHeader3, begins,
          TimeForm.meet, decide_true, if_true]
        exact stamped.repeatDelta begins
  · cases header with
    | full header =>
        simp only [MessageHeader.received, MessageHeader.apply, ChunkStream.applyHeader0, begins,
          if_false, TimeForm.meet, decide_false, Bool.false_eq_true]
        exact ⟨time_of_header rfl rfl start, stamped.timestampDelta⟩
    | sameStream header =>
        simp only [MessageHeader.received, MessageHeader.apply, ChunkStream.applyHeader1,
          ChunkStream.applyDelta, begins, TimeForm.meet, decide_false, Bool.false_eq_true, if_false]
        exact ⟨stamped.timestamp, stamped.timestampDelta⟩
    | timeOnly header =>
        simp only [MessageHeader.received, MessageHeader.apply, ChunkStream.applyHeader2,
          ChunkStream.applyDelta, begins, TimeForm.meet, decide_false, Bool.false_eq_true, if_false]
        exact stamped
    | continuation =>
        simp only [MessageHeader.received, MessageHeader.apply, ChunkStream.applyHeader3,
          ChunkStream.applyDelta, begins, TimeForm.meet, decide_false, Bool.false_eq_true, if_false]
        exact stamped

end TimeForm

end EasyRtmp
