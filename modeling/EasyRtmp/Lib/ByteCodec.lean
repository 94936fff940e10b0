import Mathlib.Tactic.Ring
import Mathlib.Data.List.Basic

/-!
# Fixed-width byte images of natural numbers

`leBytes width value` is the little-endian image of `value` in `width` bytes,
bits above the width dropped, and `leValue` reads such an image back.  The
big-endian image is the reversed list, so that swapping the bytes of a variable
is `List.reverse` and every law is proved once.
-/

set_option autoImplicit false

namespace EasyRtmp.Lib.ByteCodec

/-- A byte string: the type of every payload, key and wire fragment. -/
abbrev Bytes := List UInt8

def leBytes : Nat → Nat → Bytes
  | 0, _ => []
  | width + 1, value => UInt8.ofNat value :: leBytes width (value / 256)

def leValue : Bytes → Nat
  | [] => 0
  | byte :: rest => byte.toNat + 256 * leValue rest

def beBytes (width value : Nat) : Bytes := (leBytes width value).reverse

def beValue (bytes : Bytes) : Nat := leValue bytes.reverse

@[simp] theorem leBytes_length (width value : Nat) : (leBytes width value).length = width := by
  induction width generalizing value with
  | zero => rfl
  | succ width ih => simp [leBytes, ih]

@[simp] theorem beBytes_length (width value : Nat) : (beBytes width value).length = width := by
  simp [beBytes]

theorem leBytes_zero (width : Nat) : leBytes width 0 = List.replicate width 0 := by
  induction width with
  | zero => rfl
  | succ width ih =>
      rw [leBytes, Nat.zero_div, ih]
      rfl

theorem leValue_leBytes (width value : Nat) :
    leValue (leBytes width value) = value % 256 ^ width := by
  induction width generalizing value with
  | zero => simp [leBytes, leValue, Nat.mod_one]
  | succ width ih =>
      rw [leBytes, leValue, ih, pow_succ', Nat.mod_mul, UInt8.toNat_ofNat']

theorem beValue_beBytes (width value : Nat) :
    beValue (beBytes width value) = value % 256 ^ width := by
  rw [beValue, beBytes, List.reverse_reverse, leValue_leBytes]

theorem beValue_beBytes_of_lt {width value : Nat} (fits : value < 256 ^ width) :
    beValue (beBytes width value) = value := by
  rw [beValue_beBytes, Nat.mod_eq_of_lt fits]

theorem leValue_lt (bytes : Bytes) : leValue bytes < 256 ^ bytes.length := by
  induction bytes with
  | nil => simp [leValue]
  | cons byte rest ih =>
      rw [leValue, List.length_cons, pow_succ]
      have byteLt : byte.toNat < 256 := byte.toNat_lt
      omega

theorem beValue_lt (bytes : Bytes) : beValue bytes < 256 ^ bytes.length := by
  simpa [beValue] using leValue_lt bytes.reverse

theorem leValue_append (low high : Bytes) :
    leValue (low ++ high) = leValue low + 256 ^ low.length * leValue high := by
  induction low with
  | nil => simp [leValue]
  | cons byte rest ih =>
      rw [List.cons_append, leValue, leValue, ih, List.length_cons, pow_succ]
      ring

@[simp] theorem leValue_replicate_zero (count : Nat) : leValue (List.replicate count 0) = 0 := by
  induction count with
  | zero => rfl
  | succ count ih => simp [List.replicate_succ, leValue, ih]

/-- Bytes above the ones stored may be any number of zeros. -/
theorem leValue_append_zeros (bytes : Bytes) (count : Nat) :
    leValue (bytes ++ List.replicate count 0) = leValue bytes := by
  rw [leValue_append, leValue_replicate_zero, Nat.mul_zero, Nat.add_zero]

theorem beValue_zeros_append (bytes : Bytes) (count : Nat) :
    beValue (List.replicate count 0 ++ bytes) = beValue bytes := by
  rw [beValue, beValue, List.reverse_append, List.reverse_replicate, leValue_append_zeros]

/-- Bytes below the ones stored shift them up. -/
theorem leValue_zeros_append (bytes : Bytes) (count : Nat) :
    leValue (List.replicate count 0 ++ bytes) = leValue bytes * 256 ^ count := by
  rw [leValue_append, leValue_replicate_zero, Nat.zero_add, List.length_replicate, Nat.mul_comm]

theorem beValue_append_zeros (bytes : Bytes) (count : Nat) :
    beValue (bytes ++ List.replicate count 0) = beValue bytes * 256 ^ count := by
  rw [beValue, beValue, List.reverse_append, List.reverse_replicate, leValue_zeros_append]

theorem leBytes_take {narrow wide : Nat} (value : Nat) (le : narrow ≤ wide) :
    (leBytes wide value).take narrow = leBytes narrow value := by
  induction narrow generalizing wide value with
  | zero => rfl
  | succ narrow ih =>
      obtain ⟨wide, rfl⟩ : ∃ w, wide = w + 1 := ⟨wide - 1, by omega⟩
      rw [leBytes, leBytes, List.take_succ_cons, ih _ (by omega)]

/-- The low bytes of a big-endian image are its last ones. -/
theorem beBytes_drop {narrow wide : Nat} (value : Nat) (le : narrow ≤ wide) :
    (beBytes wide value).drop (wide - narrow) = beBytes narrow value := by
  rw [beBytes, List.drop_reverse, leBytes_length, beBytes, ← leBytes_take value le]
  congr 2
  omega

theorem leBytes_succ_last (width value : Nat) :
    leBytes (width + 1) value = leBytes width value ++ [UInt8.ofNat (value / 256 ^ width)] := by
  induction width generalizing value with
  | zero => simp [leBytes]
  | succ width ih =>
      rw [leBytes, ih, leBytes, List.cons_append, Nat.div_div_eq_div_mul, pow_succ']

theorem leBytes_leValue (bytes : Bytes) : leBytes bytes.length (leValue bytes) = bytes := by
  induction bytes with
  | nil => rfl
  | cons byte rest ih =>
      have byteLt : byte.toNat < 256 := byte.toNat_lt
      rw [List.length_cons, leValue, leBytes]
      congr 1
      · apply UInt8.toNat.inj
        rw [UInt8.toNat_ofNat']
        omega
      · rw [show (byte.toNat + 256 * leValue rest) / 256 = leValue rest by omega, ih]

theorem beBytes_beValue (bytes : Bytes) : beBytes bytes.length (beValue bytes) = bytes := by
  rw [beBytes, beValue, ← List.length_reverse, leBytes_leValue, List.reverse_reverse]

theorem leBytes_drop {skipped wide : Nat} (value : Nat) (le : skipped ≤ wide) :
    (leBytes wide value).drop skipped = leBytes (wide - skipped) (value / 256 ^ skipped) := by
  induction skipped generalizing wide value with
  | zero => rw [List.drop_zero, Nat.sub_zero, pow_zero, Nat.div_one]
  | succ skipped ih =>
      obtain ⟨wide, rfl⟩ : ∃ w, wide = w + 1 := ⟨wide - 1, by omega⟩
      rw [leBytes, List.drop_succ_cons, ih _ (by omega), Nat.div_div_eq_div_mul, pow_succ',
        Nat.add_sub_add_right]

theorem leBytes_getElem? {index width : Nat} (value : Nat) (inside : index < width) :
    (leBytes width value)[index]? = some (UInt8.ofNat (value / 256 ^ index)) := by
  induction index generalizing width value with
  | zero =>
      obtain ⟨width, rfl⟩ : ∃ w, width = w + 1 := ⟨width - 1, by omega⟩
      rw [leBytes, List.getElem?_cons_zero, pow_zero, Nat.div_one]
  | succ index ih =>
      obtain ⟨width, rfl⟩ : ∃ w, width = w + 1 := ⟨width - 1, by omega⟩
      rw [leBytes, List.getElem?_cons_succ, ih (value / 256) (by omega), Nat.div_div_eq_div_mul,
        pow_succ']

/-- A byte is what its bits are. -/
theorem byte_of_bits {left right index other : Nat}
    (bits : ∀ bit < 8, left.testBit (8 * index + bit) = right.testBit (8 * other + bit)) :
    UInt8.ofNat (left / 256 ^ index) = UInt8.ofNat (right / 256 ^ other) := by
  have power : ∀ count, 256 ^ count = 2 ^ (8 * count) := fun count => by rw [Nat.pow_mul]
  apply UInt8.toNat.inj
  rw [UInt8.toNat_ofNat', UInt8.toNat_ofNat', power, power]
  apply Nat.eq_of_testBit_eq
  intro bit
  rw [Nat.testBit_mod_two_pow, Nat.testBit_mod_two_pow, Nat.testBit_div_two_pow,
    Nat.testBit_div_two_pow]
  by_cases inside : bit < 8
  · rw [Nat.add_comm bit, Nat.add_comm bit, bits bit inside]
  · rw [decide_eq_false inside, Bool.false_and, Bool.false_and]

/-- A number with its bytes in the other order. -/
theorem leBytes_swapped {width value swapped : Nat} (bits : ∀ index < width, ∀ bit < 8,
    swapped.testBit (8 * index + bit) = value.testBit (8 * (width - 1 - index) + bit)) :
    leBytes width swapped = (leBytes width value).reverse := by
  apply List.ext_getElem?
  intro index
  by_cases inside : index < width
  · rw [leBytes_getElem? swapped inside, List.getElem?_reverse (by rwa [leBytes_length]),
      leBytes_length, leBytes_getElem? value (by omega), byte_of_bits (bits index inside)]
  · rw [List.getElem?_eq_none (by rw [leBytes_length]; omega),
      List.getElem?_eq_none (by rw [List.length_reverse, leBytes_length]; omega)]

end EasyRtmp.Lib.ByteCodec
