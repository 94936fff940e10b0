import EasyRtmp.Lib.CursorReader

/-!
# Parsers that stay inside their buffer

A parser that is right about the length left either reads a complete piece of its
grammar or refuses, and reads no byte behind the buffer.  A parser that consumes a
byte without looking at the length can go wrong in two ways more: `Cut` buffers
make it read behind the end, `Over` buffers make it return a negative length.
`Scans` says that nothing else happens, and its rules follow the parser.
-/

set_option autoImplicit false

namespace EasyRtmp.Lib

open ByteCodec

variable {E α β : Type}

/-- How a parser leaves a buffer of which `rest` lies ahead at `start`. -/
inductive Ending (Throws : E → Prop) (Complete : Bytes → α → Prop) (Cut Over : Bytes → Prop)
    (start : Nat) (rest : Bytes) : ReadResult E α → Prop where
  | complete {front back : Bytes} {value : α} {readEnd : Nat} (split : rest = front ++ back)
      (grammar : Complete front value) (inside : readEnd ≤ start + rest.length) :
      Ending Throws Complete Cut Over start rest
        (.ok value ⟨start + front.length, back.length, readEnd⟩)
  | refused {error : E} {cursor : Cursor} (throws : Throws error)
      (inside : cursor.readEnd ≤ start + rest.length) :
      Ending Throws Complete Cut Over start rest (.error error cursor)
  | cut {result : ReadResult E α} (grammar : Cut rest) :
      Ending Throws Complete Cut Over start rest result
  | beyond {value : α} {readEnd : Nat} (grammar : Over rest)
      (inside : readEnd ≤ start + rest.length) :
      Ending Throws Complete Cut Over start rest (.ok value ⟨start + rest.length + 1, -1, readEnd⟩)

/-- On buffers of fewer than `limit` bytes, all of them announced. -/
def Scans (Throws : E → Prop) (limit : Nat) (reader : Reader E α) (Complete : Bytes → α → Prop)
    (Cut Over : Bytes → Prop) : Prop :=
  ∀ memory (cursor : Cursor) rest, rest.length < limit → Holds memory cursor.data rest →
    cursor.dataLen = rest.length → cursor.readEnd ≤ cursor.data + rest.length →
      Ending Throws Complete Cut Over cursor.data rest (reader memory cursor)

/-- The parser is right about the length left. -/
def Never (_ : Bytes) : Prop := False

/-- The parser refuses a negative length before it reads. -/
def Shuts (Throws : E → Prop) (reader : Reader E α) : Prop :=
  ∀ memory (cursor : Cursor), cursor.dataLen < 0 →
    ∃ error, Throws error ∧ reader memory cursor = .error error cursor

/-- The parser returns at once when the length is negative. -/
def Rests (reader : Reader E α) : Prop :=
  ∀ memory (cursor : Cursor), cursor.dataLen < 0 →
    ∃ value, reader memory cursor = .ok value cursor

theorem Shuts.bind {Throws : E → Prop} {reader : Reader E α} (shuts : Shuts Throws reader)
    (next : α → Reader E β) : Shuts Throws (reader >>= next) := by
  intro memory cursor negative
  obtain ⟨error, throws, failed⟩ := shuts memory cursor negative
  exact ⟨error, throws, Reader.bind_error failed next⟩

namespace Scans

variable {Throws : E → Prop} {limit : Nat} {Complete : Bytes → α → Prop} {Cut Over : Bytes → Prop}
variable {First : Bytes → α → Prop} {FirstCut FirstOver : Bytes → Prop}
variable {Whole : Bytes → β → Prop} {WholeCut WholeOver : Bytes → Prop}

theorem vacuous (reader : Reader E α) : Scans Throws 0 reader Complete Cut Over :=
  fun _ _ _ short => absurd short (Nat.not_lt_zero _)

theorem shorter {smaller : Nat} {reader : Reader E α} (fewer : smaller ≤ limit)
    (scans : Scans Throws limit reader Complete Cut Over) :
    Scans Throws smaller reader Complete Cut Over :=
  fun memory cursor rest short => scans memory cursor rest (Nat.lt_of_lt_of_le short fewer)

theorem mono {reader : Reader E α} (scans : Scans Throws limit reader First FirstCut FirstOver)
    (complete : ∀ bytes value, First bytes value → Complete bytes value)
    (cut : ∀ bytes, FirstCut bytes → Cut bytes) (beyond : ∀ bytes, FirstOver bytes → Over bytes) :
    Scans Throws limit reader Complete Cut Over := by
  intro memory cursor rest short holds announced before
  have ending := scans memory cursor rest short holds announced before
  generalize reader memory cursor = result at ending ⊢
  cases ending with
  | complete split grammar inside => exact .complete split (complete _ _ grammar) inside
  | refused throws inside => exact .refused throws inside
  | cut grammar => exact .cut (cut _ grammar)
  | beyond grammar inside => exact .beyond (beyond _ grammar) inside

theorem pure {value : α} (grammar : Complete [] value) :
    Scans Throws limit (Pure.pure value : Reader E α) Complete Cut Over := by
  intro memory cursor rest _ _ announced before
  obtain ⟨data, dataLen, readEnd⟩ := cursor
  simp only at announced before
  subst announced
  exact .complete rfl grammar before

/-- What follows a complete piece goes on behind it; behind an overrun it refuses or
returns at once. -/
theorem bind {reader : Reader E α} {next : α → Reader E β}
    (first : Scans Throws limit reader First FirstCut FirstOver)
    (second : ∀ front value, First front value →
      Scans Throws (limit - front.length) (next value) (fun back => Whole (front ++ back))
        (fun back => WholeCut (front ++ back)) fun back => WholeOver (front ++ back))
    (cut : ∀ bytes, FirstCut bytes → WholeCut bytes)
    (beyond : ∀ bytes, bytes.length < limit → FirstOver bytes →
      ∀ value, Shuts Throws (next value) ∨ WholeOver bytes ∧ Rests (next value)) :
    Scans Throws limit (reader >>= next) Whole WholeCut WholeOver := by
  intro memory cursor rest short holds announced before
  have ending := first memory cursor rest short holds announced before
  generalize ran : reader memory cursor = result at ending
  cases ending with
  | @complete front back value readEnd split grammar inside =>
      subst split
      rw [List.length_append] at short inside
      have behind := second front value grammar memory ⟨cursor.data + front.length, back.length,
        readEnd⟩ back (by omega) (holds_append.mp holds).2 rfl (by simp only; omega)
      rw [Reader.bind_ok ran]
      generalize next value memory _ = later at behind
      cases behind with
      | @complete middle back value readEnd split grammar inside =>
          subst split
          rw [Nat.add_assoc, ← List.length_append]
          refine .complete (List.append_assoc ..).symm grammar ?_
          rw [List.length_append]
          simp only at inside
          omega
      | refused throws inside =>
          refine .refused throws ?_
          rw [List.length_append]
          simp only at inside
          omega
      | cut grammar => exact .cut grammar
      | beyond grammar inside =>
          rw [Nat.add_assoc cursor.data, ← List.length_append]
          refine .beyond grammar ?_
          rw [List.length_append]
          simp only at inside
          omega
  | refused throws inside =>
      rw [Reader.bind_error ran]
      exact .refused throws inside
  | cut grammar => exact .cut (cut rest grammar)
  | @beyond value readEnd grammar inside =>
      rw [Reader.bind_ok ran]
      rcases beyond rest short grammar value with shuts | ⟨whole, rests⟩
      · obtain ⟨error, throws, failed⟩ := shuts memory
          ⟨cursor.data + rest.length + 1, -1, readEnd⟩ (by simp)
        rw [failed]
        exact .refused throws inside
      · obtain ⟨last, returned⟩ := rests memory
          ⟨cursor.data + rest.length + 1, -1, readEnd⟩ (by simp)
        rw [returned]
        exact .beyond whole inside

/-- A first part that is right about the length left. -/
theorem seq {reader : Reader E α} {next : α → Reader E β}
    (first : Scans Throws limit reader First Never Never)
    (second : ∀ front value, First front value →
      Scans Throws (limit - front.length) (next value) (fun back => Whole (front ++ back))
        (fun back => WholeCut (front ++ back)) fun back => WholeOver (front ++ back)) :
    Scans Throws limit (reader >>= next) Whole WholeCut WholeOver :=
  first.bind second (fun _ impossible => impossible.elim) fun _ _ impossible => impossible.elim

theorem map {reader : Reader E α} (scans : Scans Throws limit reader First Never Never)
    (f : α → β) (complete : ∀ bytes value, First bytes value → Whole bytes (f value)) :
    Scans Throws limit (do let value ← reader; Pure.pure (f value)) Whole WholeCut WholeOver := by
  refine scans.seq ?_
  intro front value grammar
  refine Scans.pure ?_
  rw [List.append_nil]
  exact complete front value grammar

/-- A tag byte that is looked at and skipped whatever length is left. -/
theorem tag {next : UInt8 → Reader E α} (cut : Cut [])
    (each : ∀ byte, (∃ error, Throws error ∧ next byte = Reader.fail error) ∨
      ∃ body, (next byte = Reader.skip 1 >>= fun _ => body) ∧
        Scans Throws (limit - 1) body (fun back => Complete (byte :: back))
          (fun back => Cut (byte :: back)) fun back => Over (byte :: back)) :
    Scans Throws limit (Reader.peek >>= next) Complete Cut Over := by
  intro memory cursor rest short holds announced before
  cases rest with
  | nil => exact .cut cut
  | cons byte rest =>
      obtain ⟨atTag, behind⟩ := holds_cons.mp holds
      rw [List.length_cons] at short announced before
      rcases each byte with ⟨error, throws, chosen⟩ | ⟨body, chosen, scans⟩
      · have failed : (Reader.peek >>= next) memory cursor =
            .error error { cursor with readEnd := max cursor.readEnd (cursor.data + 1) } := by
          show next (memory cursor.data) memory _ = _
          rw [atTag, chosen]
          rfl
        rw [failed]
        refine .refused throws ?_
        rw [List.length_cons]
        simp only
        omega
      · have ending := scans memory ⟨cursor.data + 1, cursor.dataLen - 1,
          max cursor.readEnd (cursor.data + 1)⟩ rest (by omega) behind (by simp only; omega)
          (by simp only; omega)
        rw [Reader.tag_apply atTag chosen]
        generalize body memory _ = later at ending
        cases ending with
        | @complete front back value readEnd split grammar inside =>
            subst split
            rw [Nat.add_assoc, Nat.add_comm 1, ← List.length_cons]
            refine .complete rfl grammar ?_
            rw [List.length_cons]
            simp only at inside
            omega
        | refused throws inside =>
            refine .refused throws ?_
            rw [List.length_cons]
            simp only at inside
            omega
        | cut grammar => exact .cut grammar
        | beyond grammar inside =>
            rw [Nat.add_assoc cursor.data, Nat.add_comm 1, ← List.length_cons]
            refine .beyond grammar ?_
            rw [List.length_cons]
            simp only at inside
            omega

/-- A last byte that is skipped whatever length is left. -/
theorem close {value : α} (complete : ∀ byte, Complete [byte] value) (beyond : Over []) :
    Scans Throws limit (do Reader.skip 1; Pure.pure value : Reader E α) Complete Cut Over := by
  intro memory cursor rest _ _ announced before
  obtain ⟨data, dataLen, readEnd⟩ := cursor
  simp only at announced before
  subst announced
  cases rest with
  | nil => exact .beyond beyond before
  | cons byte back =>
      have ended : (back.length + 1 : Int) - 1 = back.length := by omega
      have ending : Ending Throws Complete Cut Over data (byte :: back)
          (.ok value ⟨data + [byte].length, back.length, readEnd⟩) :=
        .complete rfl (complete byte) before
      rw [← ended] at ending
      exact ending

/-- A loop that looks at the length left before each round. -/
theorem whileMore {more : Reader E α} {value : α} (ended : Complete [] value)
    (again : Scans Throws limit more Complete (fun bytes => bytes ≠ [] → Cut bytes) Over) :
    Scans Throws limit
      (do let dataLen ← Reader.dataLen; if 0 < dataLen then more else Pure.pure value)
      Complete Cut Over := by
  intro memory cursor rest short holds announced before
  rw [Reader.bind_apply]
  simp only [Reader.dataLen]
  cases rest with
  | nil =>
      rw [if_neg (by rw [announced]; simp)]
      exact Scans.pure ended memory cursor [] short holds announced before
  | cons byte rest =>
      rw [if_pos (by rw [announced, List.length_cons]; omega)]
      have ending := again memory cursor (byte :: rest) short holds announced before
      generalize more memory cursor = result at ending ⊢
      cases ending with
      | complete split grammar inside => exact .complete split grammar inside
      | refused throws inside => exact .refused throws inside
      | cut grammar => exact .cut (grammar (List.cons_ne_nil _ _))
      | beyond grammar inside => exact .beyond grammar inside

end Scans

/-! ## Reads are never taken back -/

def Advances (reader : Reader E α) : Prop :=
  ∀ memory cursor, cursor.readEnd ≤ (reader memory cursor).cursor.readEnd

namespace Advances

theorem pure (value : α) : Advances (Pure.pure value : Reader E α) := fun _ _ => Nat.le_refl _

theorem fail (error : E) : Advances (Reader.fail error : Reader E α) := fun _ _ => Nat.le_refl _

theorem dataLen : Advances (Reader.dataLen : Reader E Int) := fun _ _ => Nat.le_refl _

theorem peek : Advances (Reader.peek : Reader E UInt8) := fun _ _ => Nat.le_max_left _ _

theorem skip (count : Nat) : Advances (Reader.skip count : Reader E Unit) :=
  fun _ _ => Nat.le_refl _

theorem take (count : Nat) : Advances (Reader.take count : Reader E Bytes) := by
  intro memory cursor
  show cursor.readEnd ≤ if count = 0 then cursor.readEnd else _
  split
  · exact Nat.le_refl _
  · exact Nat.le_max_left _ _

/-- What was read by the first part counts for the whole. -/
theorem first {next : α → Reader E β} (rest : ∀ value, Advances (next value))
    (reader : Reader E α) (memory : Nat → UInt8) (cursor : Cursor) :
    (reader memory cursor).cursor.readEnd ≤ ((reader >>= next) memory cursor).cursor.readEnd := by
  rw [Reader.bind_apply]
  cases reader memory cursor with
  | ok value after => exact rest value memory after
  | error error after => exact Nat.le_refl _

theorem bind {reader : Reader E α} {next : α → Reader E β} (start : Advances reader)
    (rest : ∀ value, Advances (next value)) : Advances (reader >>= next) :=
  fun memory cursor => Nat.le_trans (start memory cursor) (first rest reader memory cursor)

end Advances

/-! ## Where a buffer of a known form leads -/

/-- On a buffer holding exactly `bytes`, the result is one that `P` accepts; `P` is
told where the buffer ends. -/
def Leads (reader : Reader E α) (bytes : Bytes) (P : Nat → ReadResult E α → Prop) : Prop :=
  ∀ memory cursor, Holds memory cursor.data bytes → cursor.dataLen = (bytes.length : Int) →
    P (cursor.data + bytes.length) (reader memory cursor)

/-- A byte behind the buffer is read. -/
def Overruns (finish : Nat) (result : ReadResult E α) : Prop := finish < result.cursor.readEnd

/-- The call returns and leaves a negative length. -/
def Overshoots (_ : Nat) (result : ReadResult E α) : Prop :=
  ∃ value after, result = .ok value after ∧ after.dataLen < 0

namespace Leads

theorem after {reader : Reader E α} {next : α → Reader E β} {front back : Bytes} {value : α}
    {P : Nat → ReadResult E β → Prop} (first : Reads reader front value)
    (second : Leads (next value) back P) : Leads (reader >>= next) (front ++ back) P := by
  intro memory cursor holds announced
  obtain ⟨frontHeld, backHeld⟩ := holds_append.mp holds
  rw [List.length_append, Nat.cast_add] at announced
  obtain ⟨readEnd, -, ok⟩ := first memory cursor frontHeld (by omega)
  have led := second memory ⟨cursor.data + front.length, cursor.dataLen - front.length, readEnd⟩
    backHeld (by simp only; omega)
  rw [Reader.bind_ok ok, List.length_append, ← Nat.add_assoc]
  exact led

theorem tag {next : UInt8 → Reader E α} {body : Reader E α} {byte : UInt8} {bytes : Bytes}
    {P : Nat → ReadResult E α → Prop} (selects : next byte = Reader.skip 1 >>= fun _ => body)
    (rest : Leads body bytes P) : Leads (Reader.peek >>= next) (byte :: bytes) P := by
  intro memory cursor holds announced
  obtain ⟨atTag, behind⟩ := holds_cons.mp holds
  rw [List.length_cons, Nat.cast_succ] at announced
  have led := rest memory ⟨cursor.data + 1, cursor.dataLen - 1,
    max cursor.readEnd (cursor.data + 1)⟩ behind (by simp only; omega)
  rw [Reader.tag_apply atTag selects, List.length_cons, Nat.add_comm bytes.length, ← Nat.add_assoc]
  exact led

/-- A tag looked at behind the end of the buffer. -/
theorem peek {next : UInt8 → Reader E α} (rest : ∀ byte, Advances (next byte)) :
    Leads (Reader.peek >>= next) [] Overruns := by
  intro memory cursor _ _
  have seen := Advances.first rest Reader.peek memory cursor
  have reach : cursor.data + 1 ≤ ((Reader.peek : Reader E UInt8) memory cursor).cursor.readEnd :=
    Nat.le_max_right _ _
  show cursor.data + 0 < _
  omega

theorem overruns_bind {reader : Reader E α} {next : α → Reader E β} {bytes : Bytes}
    (first : Leads reader bytes Overruns) (rest : ∀ value, Advances (next value)) :
    Leads (reader >>= next) bytes Overruns := by
  intro memory cursor holds announced
  have seen : cursor.data + bytes.length < (reader memory cursor).cursor.readEnd :=
    first memory cursor holds announced
  exact Nat.lt_of_lt_of_le seen (Advances.first rest reader memory cursor)

theorem overshoots_bind {reader : Reader E α} {next : α → Reader E β} {bytes : Bytes}
    (first : Leads reader bytes Overshoots) (rest : ∀ value, Rests (next value)) :
    Leads (reader >>= next) bytes Overshoots := by
  intro memory cursor holds announced
  obtain ⟨value, after, ok, negative⟩ := first memory cursor holds announced
  obtain ⟨last, returned⟩ := rest value memory after negative
  exact ⟨last, after, by rw [Reader.bind_ok ok, returned], negative⟩

theorem whileMore {more : Reader E α} {value : α} {bytes : Bytes}
    {P : Nat → ReadResult E α → Prop} (nonempty : bytes ≠ []) (led : Leads more bytes P) :
    Leads (do let dataLen ← Reader.dataLen; if 0 < dataLen then more else Pure.pure value)
      bytes P := by
  intro memory cursor holds announced
  have positive := List.length_pos_iff.mpr nonempty
  rw [Reader.bind_apply]
  simp only [Reader.dataLen]
  rw [if_pos (by omega)]
  exact led memory cursor holds announced

end Leads

end EasyRtmp.Lib
