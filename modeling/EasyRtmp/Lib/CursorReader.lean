import Mathlib.Tactic.Common
import Mathlib.Data.List.Basic
import EasyRtmp.Lib.ByteCodec

/-!
# Reading memory through a cursor

The parsers modelled over this file hold a pointer and a signed count of the
bytes believed to be left.  Nothing ties the two to the buffer they came from:
`take` reads whatever memory holds, and `readEnd` records one past the highest
byte ever read, so that staying inside the buffer is a statement about it.
-/

set_option autoImplicit false

namespace EasyRtmp.Lib

open ByteCodec

structure Cursor where
  data : Nat
  dataLen : Int
  readEnd : Nat
  deriving DecidableEq, Repr

inductive ReadResult (E α : Type) where
  | ok (value : α) (cursor : Cursor)
  | error (error : E) (cursor : Cursor)
  deriving DecidableEq, Repr

def ReadResult.cursor {E α : Type} : ReadResult E α → Cursor
  | .ok _ cursor => cursor
  | .error _ cursor => cursor

/-- A parser of memory.  An error keeps the cursor where it struck. -/
def Reader (E α : Type) := (Nat → UInt8) → Cursor → ReadResult E α

namespace Reader

variable {E α β : Type}

def bind (reader : Reader E α) (next : α → Reader E β) : Reader E β := fun memory cursor =>
  match reader memory cursor with
  | .ok value after => next value memory after
  | .error error after => .error error after

instance : Monad (Reader E) where
  pure value := fun _ cursor => .ok value cursor
  bind := bind

def fail (error : E) : Reader E α := fun _ cursor => .error error cursor

def dataLen : Reader E Int := fun _ cursor => .ok cursor.dataLen cursor

/-- The byte under the cursor, which does not move. -/
def peek : Reader E UInt8 := fun memory cursor =>
  .ok (memory cursor.data) { cursor with readEnd := max cursor.readEnd (cursor.data + 1) }

/-- Moves the cursor over bytes that are not read. -/
def skip (count : Nat) : Reader E Unit := fun _ cursor =>
  .ok () { cursor with data := cursor.data + count, dataLen := cursor.dataLen - count }

def take (count : Nat) : Reader E Bytes := fun memory cursor =>
  .ok ((List.range count).map fun index => memory (cursor.data + index))
    { data := cursor.data + count
      dataLen := cursor.dataLen - count
      readEnd := if count = 0 then cursor.readEnd else max cursor.readEnd (cursor.data + count) }

theorem bind_apply (reader : Reader E α) (next : α → Reader E β) (memory : Nat → UInt8)
    (cursor : Cursor) :
    (reader >>= next) memory cursor =
      match reader memory cursor with
      | .ok value after => next value memory after
      | .error error after => .error error after := rfl

theorem bind_pure (reader : Reader E α) : reader.bind pure = reader := by
  funext memory cursor
  show (match reader memory cursor with
    | .ok value after => .ok value after
    | .error error after => .error error after) = reader memory cursor
  cases reader memory cursor <;> rfl

theorem bind_assoc {γ : Type} (reader : Reader E α) (next : α → Reader E β)
    (last : β → Reader E γ) :
    (reader.bind next).bind last = reader.bind fun value => (next value).bind last := by
  funext memory cursor
  simp only [bind]
  cases reader memory cursor <;> rfl

instance : LawfulMonad (Reader E) :=
  LawfulMonad.mk' (Reader E) bind_pure (fun _ _ => rfl) bind_assoc

theorem bind_ok {reader : Reader E α} {memory : Nat → UInt8} {cursor after : Cursor} {value : α}
    (ok : reader memory cursor = .ok value after) (next : α → Reader E β) :
    (reader >>= next) memory cursor = next value memory after := by
  rw [bind_apply, ok]

theorem bind_error {reader : Reader E α} {memory : Nat → UInt8} {cursor after : Cursor} {error : E}
    (failed : reader memory cursor = .error error after) (next : α → Reader E β) :
    (reader >>= next) memory cursor = .error error after := by
  rw [bind_apply, failed]

theorem dataLen_bind (next : Int → Reader E β) (memory : Nat → UInt8) (cursor : Cursor) :
    (dataLen >>= next) memory cursor = next cursor.dataLen memory cursor := rfl

theorem peek_bind (next : UInt8 → Reader E β) (memory : Nat → UInt8) (cursor : Cursor) :
    (peek >>= next) memory cursor = next (memory cursor.data) memory
      { cursor with readEnd := max cursor.readEnd (cursor.data + 1) } := rfl

/-- A sequence that succeeds, taken apart. -/
theorem bind_inv {reader : Reader E α} {next : α → Reader E β} {memory : Nat → UInt8}
    {cursor after : Cursor} {result : β}
    (ok : (reader >>= next) memory cursor = .ok result after) :
    ∃ value middle, reader memory cursor = .ok value middle ∧
      next value memory middle = .ok result after := by
  rw [bind_apply] at ok
  cases first : reader memory cursor with
  | ok value middle =>
      rw [first] at ok
      exact ⟨value, middle, rfl, ok⟩
  | error error middle =>
      rw [first] at ok
      cases ok

/-- A tag byte is looked at first and skipped by the parser it selects. -/
theorem tag_apply {next : UInt8 → Reader E α} {body : Reader E α} {memory : Nat → UInt8}
    {cursor : Cursor} {byte : UInt8} (atTag : memory cursor.data = byte)
    (selects : next byte = skip 1 >>= fun _ => body) :
    (peek >>= next) memory cursor =
      body memory ⟨cursor.data + 1, cursor.dataLen - 1, max cursor.readEnd (cursor.data + 1)⟩ := by
  show next (memory cursor.data) memory _ = _
  rw [atTag, selects]
  rfl

end Reader

/-! ## Memory holding a byte string -/

/-- `memory` holds `bytes` from `start` on. -/
def Holds (memory : Nat → UInt8) (start : Nat) (bytes : Bytes) : Prop :=
  (List.range bytes.length).map (fun index => memory (start + index)) = bytes

theorem holds_iff {memory : Nat → UInt8} {start : Nat} {bytes : Bytes} :
    Holds memory start bytes ↔
      ∀ index (inside : index < bytes.length), memory (start + index) = bytes[index] := by
  constructor
  · intro holds index inside
    have same := congrArg (fun list => list[index]?) holds
    simp only [List.getElem?_map, List.getElem?_range inside, Option.map_some,
      List.getElem?_eq_getElem inside, Option.some.injEq] at same
    exact same
  · intro each
    apply List.ext_getElem
    · simp
    · intro index _ inside
      simpa using each index inside

theorem holds_append {memory : Nat → UInt8} {start : Nat} {front back : Bytes} :
    Holds memory start (front ++ back) ↔
      Holds memory start front ∧ Holds memory (start + front.length) back := by
  simp only [Holds, List.length_append, List.range_add, List.map_append, List.map_map]
  constructor
  · intro same
    obtain ⟨left, right⟩ := List.append_inj same (by simp)
    exact ⟨left, by simpa [Function.comp_def, Nat.add_assoc] using right⟩
  · rintro ⟨left, right⟩
    rw [left]
    congr 1
    simpa [Function.comp_def, Nat.add_assoc] using right

theorem holds_cons {memory : Nat → UInt8} {start : Nat} {byte : UInt8} {rest : Bytes} :
    Holds memory start (byte :: rest) ↔
      memory start = byte ∧ Holds memory (start + 1) rest := by
  rw [← List.singleton_append, holds_append]
  simp [Holds, List.range_succ]

/-- The memory in which a buffer lies at address zero, `beyond` behind it. -/
def memoryOf (bytes : Bytes) (beyond : Nat → UInt8) : Nat → UInt8 := fun index =>
  if index < bytes.length then bytes.getD index 0 else beyond (index - bytes.length)

theorem holds_memoryOf (bytes : Bytes) (beyond : Nat → UInt8) :
    Holds (memoryOf bytes beyond) 0 bytes := by
  rw [holds_iff]
  intro index inside
  simp [memoryOf, inside]

/-! ## What a parser makes of the bytes it finds -/

/-- On memory holding `bytes`, with all of them announced, `reader` answers
`value`, stops right behind them and reads nothing further. -/
def Reads {E α : Type} (reader : Reader E α) (bytes : Bytes) (value : α) : Prop :=
  ∀ memory cursor, Holds memory cursor.data bytes → (bytes.length : Int) ≤ cursor.dataLen →
    ∃ readEnd, readEnd ≤ max cursor.readEnd (cursor.data + bytes.length) ∧
      reader memory cursor =
        .ok value ⟨cursor.data + bytes.length, cursor.dataLen - bytes.length, readEnd⟩

namespace Reads

variable {E α β : Type}

theorem pure (value : α) : Reads (Pure.pure value : Reader E α) [] value :=
  fun _ cursor _ _ => ⟨cursor.readEnd, Nat.le_max_left _ _, by simp [Pure.pure]⟩

theorem take (bytes : Bytes) : Reads (Reader.take bytes.length : Reader E Bytes) bytes bytes := by
  intro memory cursor holds _
  refine ⟨_, ?_, by rw [Reader.take, holds]⟩
  split
  · exact Nat.le_max_left _ _
  · exact Nat.le_refl _

theorem skip (bytes : Bytes) : Reads (Reader.skip bytes.length : Reader E Unit) bytes () := by
  intro memory cursor _ _
  exact ⟨cursor.readEnd, Nat.le_max_left _ _, rfl⟩

theorem tag {next : UInt8 → Reader E α} {body : Reader E α} {byte : UInt8} {bytes : Bytes}
    {value : α} (selects : next byte = Reader.skip 1 >>= fun _ => body)
    (rest : Reads body bytes value) :
    Reads (Reader.peek >>= next) (byte :: bytes) value := by
  intro memory cursor holds announced
  obtain ⟨atTag, behind⟩ := holds_cons.mp holds
  rw [List.length_cons, Nat.cast_succ] at announced
  have fits : (bytes.length : Int) ≤ cursor.dataLen - 1 := by omega
  obtain ⟨readEnd, bound, done⟩ :=
    rest memory ⟨cursor.data + 1, cursor.dataLen - 1, max cursor.readEnd (cursor.data + 1)⟩
      behind fits
  refine ⟨readEnd, ?_, ?_⟩
  · rw [List.length_cons]
    simp only at bound
    omega
  · rw [Reader.tag_apply atTag selects, done, List.length_cons, Nat.cast_succ, Nat.add_assoc,
      Nat.add_comm 1, Int.sub_sub, Int.add_comm 1]

theorem bind {reader : Reader E α} {next : α → Reader E β} {front back : Bytes} {value : α}
    {result : β} (first : Reads reader front value) (second : Reads (next value) back result) :
    Reads (reader >>= next) (front ++ back) result := by
  intro memory cursor holds fits
  obtain ⟨frontHeld, backHeld⟩ := holds_append.mp holds
  rw [List.length_append, Nat.cast_add] at fits
  obtain ⟨middleEnd, middleBound, ok⟩ := first memory cursor frontHeld (by omega)
  have backFits : (back.length : Int) ≤ cursor.dataLen - front.length := by omega
  obtain ⟨readEnd, bound, done⟩ :=
    second memory ⟨cursor.data + front.length, cursor.dataLen - front.length, middleEnd⟩
      backHeld backFits
  refine ⟨readEnd, ?_, ?_⟩
  · rw [List.length_append]
    simp only at bound
    omega
  · rw [Reader.bind_ok ok, done, List.length_append, Nat.cast_add, Nat.add_assoc, Int.sub_sub]

theorem unique {reader : Reader E α} {bytes : Bytes} {value other : α}
    (reads : Reads reader bytes value) (reads' : Reads reader bytes other) : value = other := by
  have held := holds_memoryOf bytes fun _ => 0
  obtain ⟨readEnd, -, ok⟩ := reads _ ⟨0, bytes.length, 0⟩ held (le_refl _)
  obtain ⟨readEnd', -, ok'⟩ := reads' _ ⟨0, bytes.length, 0⟩ held (le_refl _)
  rw [ok] at ok'
  injection ok'

/-- `map` is the last step of a parser: it reads nothing. -/
theorem map {reader : Reader E α} {bytes : Bytes} {value : α} (first : Reads reader bytes value)
    (f : α → β) : Reads (do let value ← reader; Pure.pure (f value)) bytes (f value) := by
  have both : Reads (reader >>= fun value => Pure.pure (f value)) (bytes ++ []) (f value) :=
    first.bind (Reads.pure (f value))
  rwa [List.append_nil] at both

end Reads

/-- `reader` takes `count` bytes, whatever they are. -/
def FixedWidth {E α : Type} (reader : Reader E α) (count : Nat) : Prop :=
  ∀ bytes : Bytes, bytes.length = count → ∃ value, Reads reader bytes value

namespace FixedWidth

variable {E α β : Type} {reader : Reader E α} {count others : Nat}

theorem bind (first : FixedWidth reader count) {next : α → Reader E β}
    (second : ∀ value, FixedWidth (next value) others) :
    FixedWidth (reader >>= next) (count + others) := by
  intro bytes width
  obtain ⟨value, reads⟩ := first (bytes.take count) (by rw [List.length_take]; omega)
  obtain ⟨result, reads'⟩ := second value (bytes.drop count) (by rw [List.length_drop]; omega)
  have both := reads.bind reads'
  rw [List.take_append_drop] at both
  exact ⟨result, both⟩

theorem map (first : FixedWidth reader count) (f : α → β) :
    FixedWidth (do let value ← reader; Pure.pure (f value)) count := by
  intro bytes width
  obtain ⟨value, reads⟩ := first bytes width
  exact ⟨f value, reads.map f⟩

end FixedWidth

/-- `reader` takes `count` of the announced bytes, or refuses. -/
def Demands {E α : Type} (reader : Reader E α) (count : Nat) : Prop :=
  ∀ memory cursor value after, reader memory cursor = .ok value after →
    (count : Int) ≤ cursor.dataLen ∧ after.dataLen = cursor.dataLen - count

namespace Demands

variable {E α β : Type} {reader : Reader E α} {count others : Nat}

theorem bind (first : Demands reader count) {next : α → Reader E β}
    (second : ∀ value, Demands (next value) others) :
    Demands (reader >>= next) (count + others) := by
  intro memory cursor result after ok
  obtain ⟨value, middle, read, later⟩ := Reader.bind_inv ok
  obtain ⟨enough, left⟩ := first memory cursor value middle read
  obtain ⟨enough', left'⟩ := second value memory middle result after later
  rw [left] at enough' left'
  constructor
  · push_cast
    omega
  · push_cast
    omega

theorem map (first : Demands reader count) (f : α → β) :
    Demands (do let value ← reader; Pure.pure (f value)) count := by
  intro memory cursor result after ok
  obtain ⟨value, middle, read, later⟩ := Reader.bind_inv ok
  cases later
  exact first memory cursor value _ read

end Demands

/-! ## Parsers of a whole message

A parser may also ask how much is left.  These two predicates are about `bytes`
that end where the announced length does. -/

/-- `reader` takes all of `bytes` and answers `value`. -/
def ReadsAll {E α : Type} (reader : Reader E α) (bytes : Bytes) (value : α) : Prop :=
  ∀ memory (cursor : Cursor), Holds memory cursor.data bytes → cursor.dataLen = bytes.length →
    ∃ after, reader memory cursor = .ok value after ∧
      after.readEnd ≤ max cursor.readEnd (cursor.data + bytes.length)

/-- `reader` answers `error` and reads nothing behind `bytes`. -/
def Refuses {E α : Type} (reader : Reader E α) (bytes : Bytes) (error : E) : Prop :=
  ∀ memory (cursor : Cursor), Holds memory cursor.data bytes → cursor.dataLen = bytes.length →
    ∃ after, reader memory cursor = .error error after ∧
      after.readEnd ≤ max cursor.readEnd (cursor.data + bytes.length)

section Whole
variable {E α β : Type}

/-- Where `front` has been read, `back` is what is left. -/
theorem Reads.before {reader : Reader E α} {front back : Bytes} {value : α}
    (first : Reads reader front value) (next : α → Reader E β) {memory : Nat → UInt8}
    {cursor : Cursor} (holds : Holds memory cursor.data (front ++ back))
    (whole : cursor.dataLen = (front ++ back).length) :
    ∃ middle, (reader >>= next) memory cursor = next value memory middle ∧
      Holds memory middle.data back ∧ middle.dataLen = back.length ∧
      max middle.readEnd (middle.data + back.length) ≤
        max cursor.readEnd (cursor.data + (front ++ back).length) := by
  obtain ⟨frontHeld, backHeld⟩ := holds_append.mp holds
  rw [List.length_append, Nat.cast_add] at whole
  obtain ⟨middleEnd, bound, ok⟩ := first memory cursor frontHeld (by omega)
  refine ⟨_, Reader.bind_ok ok next, backHeld, ?_, ?_⟩
  · simp only
    omega
  · simp only [List.length_append]
    omega

theorem Reads.bindAll {reader : Reader E α} {next : α → Reader E β} {front back : Bytes}
    {value : α} {result : β} (first : Reads reader front value)
    (second : ReadsAll (next value) back result) :
    ReadsAll (reader >>= next) (front ++ back) result := by
  intro memory cursor holds whole
  obtain ⟨middle, same, held, left, bound⟩ := first.before next holds whole
  obtain ⟨after, done, readEnd⟩ := second memory middle held left
  exact ⟨after, same.trans done, readEnd.trans bound⟩

theorem Reads.bindRefuses {reader : Reader E α} {next : α → Reader E β} {front back : Bytes}
    {value : α} {error : E} (first : Reads reader front value)
    (second : Refuses (next value) back error) :
    Refuses (reader >>= next) (front ++ back) error := by
  intro memory cursor holds whole
  obtain ⟨middle, same, held, left, bound⟩ := first.before next holds whole
  obtain ⟨after, failed, readEnd⟩ := second memory middle held left
  exact ⟨after, same.trans failed, readEnd.trans bound⟩

theorem Refuses.bind {reader : Reader E α} {bytes : Bytes} {error : E}
    (first : Refuses reader bytes error) (next : α → Reader E β) :
    Refuses (reader >>= next) bytes error := by
  intro memory cursor holds whole
  obtain ⟨after, failed, readEnd⟩ := first memory cursor holds whole
  exact ⟨after, Reader.bind_error failed next, readEnd⟩

end Whole

end EasyRtmp.Lib
