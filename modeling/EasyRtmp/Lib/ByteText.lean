import Mathlib.Data.Nat.Digits.Defs
import EasyRtmp.Lib.ByteCodec

/-!
# Searching and cutting byte strings

`find` and `substr` are those of a string class whose positions are unsigned: a
position that is not found is `none`, and `subPos` wraps around.  `decimal` writes
a number, `digitsValue` reads one.
-/

set_option autoImplicit false

namespace EasyRtmp.Lib

open ByteCodec

/-! ## Searching -/

/-- The first place of `pattern` in `text`, counted from `index`. -/
def findFrom (pattern : Bytes) : Bytes → Nat → Option Nat
  | [], index => if pattern = [] then some index else none
  | byte :: rest, index =>
      if pattern.isPrefixOf (byte :: rest) then some index else findFrom pattern rest (index + 1)

/-- The first place of `pattern` at `pos` or behind. -/
def find (pattern text : Bytes) (pos : Nat) : Option Nat :=
  if pos ≤ text.length then findFrom pattern (text.drop pos) pos else none

section Search
variable {byte : UInt8} {pattern rest front back : Bytes}

theorem findFrom_absent (absent : byte ∉ rest) : ∀ index,
    findFrom (byte :: pattern) rest index = none := by
  induction rest with
  | nil => exact fun index => if_neg (List.cons_ne_nil _ _)
  | cons first rest inductionHypothesis =>
      intro index
      obtain ⟨differs, absent⟩ := List.ne_and_not_mem_of_not_mem_cons absent
      rw [findFrom, List.isPrefixOf_cons_cons, beq_false_of_ne differs, Bool.false_and,
        if_neg Bool.false_ne_true]
      exact inductionHypothesis absent (index + 1)

theorem findFrom_present (absent : byte ∉ front) : ∀ index,
    findFrom (byte :: pattern) (front ++ (byte :: pattern ++ back)) index =
      some (index + front.length) := by
  induction front with
  | nil =>
      intro index
      have here : (byte :: pattern).isPrefixOf (byte :: pattern ++ back) = true :=
        List.isPrefixOf_iff_prefix.mpr (List.prefix_append _ _)
      rw [List.nil_append, List.cons_append, findFrom, ← List.cons_append, if_pos here]
      rfl
  | cons first front inductionHypothesis =>
      intro index
      obtain ⟨differs, absent⟩ := List.ne_and_not_mem_of_not_mem_cons absent
      rw [List.cons_append, findFrom, List.isPrefixOf_cons_cons, beq_false_of_ne differs,
        Bool.false_and, if_neg Bool.false_ne_true, inductionHypothesis absent, List.length_cons,
        Nat.add_assoc, Nat.add_comm 1]

theorem findFrom_found : ∀ {text : Bytes} {index found : Nat},
    findFrom pattern text index = some found →
      ∃ front back, text = front ++ (pattern ++ back) ∧ found = index + front.length := by
  intro text
  induction text with
  | nil =>
      intro index found located
      rw [findFrom] at located
      split at located
      · rename_i empty
        cases located
        exact ⟨[], [], by rw [empty, List.append_nil, List.append_nil], rfl⟩
      · cases located
  | cons first text inductionHypothesis =>
      intro index found located
      rw [findFrom] at located
      split at located
      · rename_i here
        cases located
        obtain ⟨back, whole⟩ := List.isPrefixOf_iff_prefix.mp here
        exact ⟨[], back, whole.symm, rfl⟩
      · obtain ⟨front, back, rfl, rfl⟩ := inductionHypothesis located
        exact ⟨first :: front, back, rfl, by rw [List.length_cons]; omega⟩

variable (skipped : Bytes)

theorem find_behind (pattern rest : Bytes) :
    find pattern (skipped ++ rest) skipped.length = findFrom pattern rest skipped.length := by
  rw [find, if_pos (by rw [List.length_append]; omega), List.drop_left]

/-- The first `byte` behind `skipped`. -/
theorem find_byte (absent : byte ∉ front) :
    find [byte] (skipped ++ (front ++ byte :: back)) skipped.length =
      some (skipped.length + front.length) := by
  rw [find_behind]
  exact findFrom_present absent skipped.length

theorem find_byte_absent (absent : byte ∉ rest) :
    find [byte] (skipped ++ rest) skipped.length = none := by
  rw [find_behind]
  exact findFrom_absent absent skipped.length

end Search

/-! ## Cutting -/

/-- Unsigned subtraction of positions. -/
def subPos (left right : Nat) : Nat :=
  if right ≤ left then left - right else 2 ^ 64 - (right - left)

/-- At most `count` bytes from `pos` on, which must not be behind the end. -/
def substr (text : Bytes) (pos count : Nat) : Option Bytes :=
  if pos ≤ text.length then some ((text.drop pos).take count) else none

theorem subPos_of_le {left right : Nat} (le : right ≤ left) : subPos left right = left - right :=
  if_pos le

theorem substr_middle (front middle back : Bytes) :
    substr (front ++ (middle ++ back)) front.length middle.length = some middle := by
  rw [substr, if_pos (by rw [List.length_append]; omega), List.drop_left, List.take_left]

theorem substr_within {text : Bytes} {pos : Nat} (within : pos ≤ text.length) (count : Nat) :
    substr text pos count = some ((text.drop pos).take count) := if_pos within

/-! ## Numbers -/

def isDigit (byte : UInt8) : Bool := 48 ≤ byte && byte ≤ 57

def digitsValue (digits : Bytes) : Nat :=
  digits.foldl (fun value digit => value * 10 + (digit.toNat - 48)) 0

/-- The decimal digits of a number, without zeros in front. -/
def decimal (number : Nat) : Bytes :=
  (Nat.digits 10 number).reverse.map fun digit => UInt8.ofNat (48 + digit)

theorem digitsValue_decimal (number : Nat) : digitsValue (decimal number) = number := by
  have value : ∀ digits : List Nat, (∀ digit ∈ digits, digit < 10) →
      digitsValue (digits.reverse.map fun digit => UInt8.ofNat (48 + digit)) =
        Nat.ofDigits 10 digits := by
    intro digits
    induction digits with
    | nil => exact fun _ => rfl
    | cons digit digits inductionHypothesis =>
        intro small
        obtain ⟨here, later⟩ := List.forall_mem_cons.mp small
        have byte : (UInt8.ofNat (48 + digit)).toNat = 48 + digit := by
          rw [UInt8.toNat_ofNat']
          omega
        have others := inductionHypothesis later
        rw [digitsValue] at others ⊢
        rw [List.reverse_cons, List.map_append, List.foldl_append, others, Nat.ofDigits_cons]
        simp only [List.map_cons, List.map_nil, List.foldl_cons, List.foldl_nil, byte]
        omega
  rw [decimal, value _ fun digit => Nat.digits_lt_base (by decide), Nat.ofDigits_digits]

theorem decimal_isDigit (number : Nat) : ∀ byte ∈ decimal number, isDigit byte = true := by
  intro byte member
  obtain ⟨digit, inDigits, rfl⟩ := List.mem_map.mp member
  have small := Nat.digits_lt_base (by decide) (List.mem_reverse.mp inDigits)
  have each : ∀ digit < 10, isDigit (UInt8.ofNat (48 + digit)) = true := by decide
  exact each digit small

end EasyRtmp.Lib
