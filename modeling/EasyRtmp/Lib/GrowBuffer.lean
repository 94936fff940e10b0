import Mathlib.Tactic.Common
import EasyRtmp.Lib.ByteCodec

/-!
# A resizable byte buffer with checked access

`write?` and `read?` answer `none` when the range leaves the buffer, where the
memory operation they stand for would touch foreign memory.  `contents buffer
count` is the first `count` bytes; a write at offset `count` extends it.
-/

set_option autoImplicit false

namespace EasyRtmp.Lib

open ByteCodec

structure GrowBuffer where
  size : Nat
  byte : Nat → UInt8

namespace GrowBuffer

def ofSize (size : Nat) : GrowBuffer := ⟨size, fun _ => 0⟩

/-- Bytes past the old size are zero. -/
def resize (buffer : GrowBuffer) (size : Nat) : GrowBuffer :=
  ⟨size, fun index => if index < buffer.size then buffer.byte index else 0⟩

/-- The buffer after `data` was stored at `offset`. -/
def write (buffer : GrowBuffer) (offset : Nat) (data : Bytes) : GrowBuffer :=
  ⟨buffer.size, fun index =>
    if offset ≤ index ∧ index < offset + data.length then data.getD (index - offset) 0
    else buffer.byte index⟩

def write? (buffer : GrowBuffer) (offset : Nat) (data : Bytes) : Option GrowBuffer :=
  if offset + data.length ≤ buffer.size then some (buffer.write offset data) else none

def contents (buffer : GrowBuffer) (count : Nat) : Bytes := (List.range count).map buffer.byte

def read? (buffer : GrowBuffer) (count : Nat) : Option Bytes :=
  if count ≤ buffer.size then some (buffer.contents count) else none

@[simp] theorem ofSize_size (size : Nat) : (ofSize size).size = size := rfl

@[simp] theorem resize_size (buffer : GrowBuffer) (size : Nat) :
    (buffer.resize size).size = size := rfl

@[simp] theorem contents_zero (buffer : GrowBuffer) : buffer.contents 0 = [] := rfl

@[simp] theorem contents_length (buffer : GrowBuffer) (count : Nat) :
    (buffer.contents count).length = count := by
  simp [contents]

@[simp] theorem write_size (buffer : GrowBuffer) (offset : Nat) (data : Bytes) :
    (buffer.write offset data).size = buffer.size := rfl

/-- A write continues the contents before it. -/
theorem contents_write (buffer : GrowBuffer) (offset : Nat) (data : Bytes) :
    (buffer.write offset data).contents (offset + data.length) =
      buffer.contents offset ++ data := by
  rw [contents, List.range_add, List.map_append]
  congr 1
  · apply List.map_congr_left
    intro index member
    have bound : index < offset := List.mem_range.mp member
    exact if_neg (by omega)
  · apply List.ext_getElem
    · simp
    · intro index inRange inData
      simp at inRange
      simp [write, inRange]

theorem write?_of_le (buffer : GrowBuffer) (offset : Nat) (data : Bytes)
    (fits : offset + data.length ≤ buffer.size) :
    buffer.write? offset data = some (buffer.write offset data) := if_pos fits

theorem write?_of_lt (buffer : GrowBuffer) (offset : Nat) (data : Bytes)
    (overruns : buffer.size < offset + data.length) : buffer.write? offset data = none :=
  if_neg (by omega)

theorem size_of_write? {buffer after : GrowBuffer} {offset : Nat} {data : Bytes}
    (written : buffer.write? offset data = some after) : after.size = buffer.size := by
  unfold write? at written
  split at written
  · obtain rfl := Option.some.inj written
    rfl
  · cases written

theorem read?_of_le (buffer : GrowBuffer) {count : Nat} (inside : count ≤ buffer.size) :
    buffer.read? count = some (buffer.contents count) := if_pos inside

end GrowBuffer

end EasyRtmp.Lib
