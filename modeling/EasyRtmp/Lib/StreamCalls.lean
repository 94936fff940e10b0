import Mathlib.Tactic.Common
import Mathlib.Algebra.BigOperators.Group.List.Basic
import EasyRtmp.Lib.ByteCodec

/-!
# Calls in turn on a byte stream

A call is made on a system of type `K`, of which nothing is known but what the call
answers and the system it leaves.  `left` are the bytes that a reading system has
still to hand out, `accepted` those that a writing one has taken so far.
-/

set_option autoImplicit false

namespace EasyRtmp.Lib

open ByteCodec

variable {K E : Type}

/-! ## Reading -/

/-- Each call answers with the next bytes, as many as were asked for, and takes no
others. -/
def Delivers (receive : Nat → K → Except E Bytes × K) (left : K → Bytes) : List Nat → K → Prop
  | [], _ => True
  | len :: lens, kernel => ∃ after, receive len kernel = (.ok ((left kernel).take len), after) ∧
      left after = (left kernel).drop len ∧ Delivers receive left lens after

theorem Delivers.of_each {receive : Nat → K → Except E Bytes × K} {left : K → Bytes}
    {good : Nat → Prop} (each : ∀ len kernel, good len → len ≤ (left kernel).length →
      ∃ after, receive len kernel = (.ok ((left kernel).take len), after) ∧
        left after = (left kernel).drop len) :
    ∀ lens kernel, (∀ len ∈ lens, good len) → lens.sum ≤ (left kernel).length →
      Delivers receive left lens kernel := by
  intro lens
  induction lens with
  | nil => exact fun _ _ _ => trivial
  | cons len lens inductionHypothesis =>
      intro kernel allGood enough
      obtain ⟨isGood, allGood⟩ := List.forall_mem_cons.mp allGood
      rw [List.sum_cons] at enough
      obtain ⟨after, received, rest⟩ := each len kernel isGood (by omega)
      have remain : lens.sum ≤ (left after).length := by
        rw [rest, List.length_drop]
        omega
      exact ⟨after, received, rest, inductionHypothesis after allGood remain⟩

/-! ## Writing -/

def sendAll (send : Bytes → K → Except E Unit × K) : List Bytes → K → Except E Unit × K
  | [], kernel => (.ok (), kernel)
  | data :: calls, kernel =>
      match send data kernel with
      | (.ok (), after) => sendAll send calls after
      | (.error error, after) => (.error error, after)

theorem sendAll_ok {send : Bytes → K → Except E Unit × K} {data : Bytes} {kernel after : K}
    (sent : send data kernel = (.ok (), after)) (calls : List Bytes) :
    sendAll send (data :: calls) kernel = sendAll send calls after := by
  rw [sendAll, sent]

theorem sendAll_error {send : Bytes → K → Except E Unit × K} {data : Bytes} {kernel after : K}
    {error : E} (failed : send data kernel = (.error error, after)) (calls : List Bytes) :
    sendAll send (data :: calls) kernel = (.error error, after) := by
  rw [sendAll, failed]

/-- If no call throws, what was accepted is the data of all calls. -/
def NoneLost (send : Bytes → K → Except E Unit × K) (accepted : K → Bytes) (calls : List Bytes)
    (kernel : K) : Prop :=
  ∀ after, sendAll send calls kernel = (.ok (), after) →
    accepted after = accepted kernel ++ calls.flatten

/-- A system that takes the first bytes of what it is given or refuses it. -/
structure Writing (write : K → Bytes → Int × K) (accepted : K → Bytes) : Prop where
  takes : ∀ kernel data, data ≠ [] → (write kernel data).1 < 0 ∨
    ∃ count : Nat, 0 < count ∧ count ≤ data.length ∧ (write kernel data).1 = count ∧
      accepted (write kernel data).2 = accepted kernel ++ data.take count

def SomeRefused (write : K → Bytes → Int × K) : List Bytes → K → Prop
  | [], _ => False
  | data :: calls, kernel =>
      (write kernel data).1 < 0 ∨ SomeRefused write calls (write kernel data).2

def AllTaken (write : K → Bytes → Int × K) : List Bytes → K → Prop
  | [], _ => True
  | data :: calls, kernel =>
      (write kernel data).1 = data.length ∧ AllTaken write calls (write kernel data).2

end EasyRtmp.Lib
