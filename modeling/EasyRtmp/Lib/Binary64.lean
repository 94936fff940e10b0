import Mathlib.Tactic.NormNum

/-!
# Integers in binary64

A binary64 number is its 64 bits.  Every finite one is a whole multiple of the
smallest positive one, 2^-1074, so its value is an integer in these units and no
rounding occurs below.  Integers of up to 53 bits are represented exactly.
-/

set_option autoImplicit false

namespace EasyRtmp.Lib.Binary64

def fraction (bits : UInt64) : Nat := bits.toNat % 2 ^ 52

def exponent (bits : UInt64) : Nat := bits.toNat / 2 ^ 52 % 2 ^ 11

def negative (bits : UInt64) : Bool := decide (2 ^ 63 ≤ bits.toNat)

/-- Neither an infinity nor a NaN. -/
def Finite (bits : UInt64) : Prop := exponent bits ≠ 2047

instance (bits : UInt64) : Decidable (Finite bits) := inferInstanceAs (Decidable (_ ≠ _))

def magnitude (bits : UInt64) : Nat :=
  if exponent bits = 0 then fraction bits
  else (2 ^ 52 + fraction bits) * 2 ^ (exponent bits - 1)

/-- The value in units of 2^-1074. -/
def scaled (bits : UInt64) : Int :=
  if negative bits then -(magnitude bits : Int) else magnitude bits

/-- Equality with an integer.  Both zeros equal zero, a NaN equals nothing. -/
def EqualsInt (bits : UInt64) (number : Int) : Prop :=
  Finite bits ∧ scaled bits = number * 2 ^ 1074

instance (bits : UInt64) (number : Int) : Decidable (EqualsInt bits number) :=
  inferInstanceAs (Decidable (_ ∧ _))

/-- The integer part of a finite number. -/
def truncate (bits : UInt64) : Int := (scaled bits).tdiv (2 ^ 1074)

/-- The leading bit of the magnitude is implied by the exponent. -/
def ofInt (number : Int) : UInt64 :=
  let size := number.natAbs
  if size = 0 then 0
  else
    UInt64.ofNat ((if number < 0 then 2 ^ 63 else 0) + (1023 + Nat.log2 size) * 2 ^ 52 +
      (size - 2 ^ Nat.log2 size) * 2 ^ (52 - Nat.log2 size))

section OfInt
variable {number : Int}

/-- The three fields of an image put together from them. -/
theorem fields (sign power part : Nat) (signBound : sign ≤ 1) (powerBound : power < 2 ^ 11)
    (partBound : part < 2 ^ 52) :
    negative (UInt64.ofNat (sign * 2 ^ 63 + power * 2 ^ 52 + part)) = decide (sign = 1) ∧
      exponent (UInt64.ofNat (sign * 2 ^ 63 + power * 2 ^ 52 + part)) = power ∧
      fraction (UInt64.ofNat (sign * 2 ^ 63 + power * 2 ^ 52 + part)) = part := by
  have whole : (UInt64.ofNat (sign * 2 ^ 63 + power * 2 ^ 52 + part)).toNat =
      sign * 2 ^ 63 + power * 2 ^ 52 + part := by
    rw [UInt64.toNat_ofNat']
    omega
  simp only [negative, exponent, fraction, whole]
  refine ⟨?_, by omega, by omega⟩
  congr 1
  simp only [eq_iff_iff]
  omega

theorem scaled_ofInt (small : number.natAbs < 2 ^ 53) :
    Finite (ofInt number) ∧ scaled (ofInt number) = number * 2 ^ 1074 := by
  by_cases zero : number.natAbs = 0
  · obtain rfl := Int.natAbs_eq_zero.mp zero
    decide +kernel
  · have low : 2 ^ Nat.log2 number.natAbs ≤ number.natAbs := Nat.log2_self_le zero
    have high : number.natAbs < 2 ^ (Nat.log2 number.natAbs + 1) :=
      Nat.lt_log2_self
    have topBit : Nat.log2 number.natAbs ≤ 52 :=
      Nat.lt_succ_iff.mp ((Nat.log2_lt zero).mpr small)
    generalize exponentIs : Nat.log2 number.natAbs = top at low high topBit
    have partBound : (number.natAbs - 2 ^ top) * 2 ^ (52 - top) < 2 ^ 52 := by
      have widen : 2 ^ top * 2 ^ (52 - top) = 2 ^ 52 := by
        rw [← pow_add, Nat.add_sub_cancel' topBit]
      have below : number.natAbs - 2 ^ top < 2 ^ top := by
        rw [pow_succ] at high
        omega
      calc (number.natAbs - 2 ^ top) * 2 ^ (52 - top)
          < 2 ^ top * 2 ^ (52 - top) := Nat.mul_lt_mul_of_pos_right below (Nat.two_pow_pos _)
        _ = 2 ^ 52 := widen
    have image : ofInt number = UInt64.ofNat ((if number < 0 then 1 else 0) * 2 ^ 63 +
        (1023 + top) * 2 ^ 52 + (number.natAbs - 2 ^ top) * 2 ^ (52 - top)) := by
      unfold ofInt
      simp only [exponentIs]
      rw [if_neg zero]
      split <;> simp
    obtain ⟨sign, power, part⟩ := fields (if number < 0 then 1 else 0) (1023 + top) _
      (by split <;> omega) (by omega) partBound
    rw [← image] at sign power part
    have size : magnitude (ofInt number) = number.natAbs * 2 ^ 1074 := by
      have units : 2 ^ 52 + (number.natAbs - 2 ^ top) * 2 ^ (52 - top) =
          number.natAbs * 2 ^ (52 - top) := by
        have widen : 2 ^ 52 = 2 ^ top * 2 ^ (52 - top) := by
          rw [← pow_add, Nat.add_sub_cancel' topBit]
        rw [widen, ← Nat.add_mul, Nat.add_sub_cancel' low]
      have shift : 52 - top + (1023 + top - 1) = 1074 := by omega
      rw [magnitude, power, part, if_neg (by omega), units, Nat.mul_assoc, ← pow_add, shift]
    refine ⟨by rw [Finite, power]; omega, ?_⟩
    have cast : ((2 ^ 1074 : Nat) : Int) = 2 ^ 1074 := Nat.cast_pow 2 1074
    rw [scaled, sign, size, Nat.cast_mul, cast]
    by_cases below : number < 0
    · have value : (number.natAbs : Int) = -number := by omega
      rw [decide_eq_true (if_pos below), if_pos rfl, value, Int.neg_mul, neg_neg]
    · have value : (number.natAbs : Int) = number := by omega
      rw [if_neg below, decide_eq_false (by omega), if_neg (by decide), value]

theorem equalsInt_ofInt (small : number.natAbs < 2 ^ 53) {other : Int} :
    EqualsInt (ofInt number) other ↔ number = other := by
  obtain ⟨finite, value⟩ := scaled_ofInt small
  rw [EqualsInt, value]
  constructor
  · rintro ⟨-, same⟩
    exact Int.eq_of_mul_eq_mul_right (by positivity) same
  · rintro rfl
    exact ⟨finite, rfl⟩

theorem truncate_ofInt (small : number.natAbs < 2 ^ 53) : truncate (ofInt number) = number := by
  rw [truncate, (scaled_ofInt small).2]
  exact Int.mul_tdiv_cancel _ (by positivity)

end OfInt

end EasyRtmp.Lib.Binary64
