import EasyRtmp.Lib.CursorReader

/-!
# Parsers whose calls are recorded

A `Traced` parser is one that also lists the calls made inside it, in the order in
which they start.  `erase` forgets the list.  `Pays` bounds the list by the length
left: a call that looks at a tag byte and skips it pays for itself, also where the
length turns negative.
-/

set_option autoImplicit false

namespace EasyRtmp.Lib

variable {E α β : Type}

/-- The length left at the start of a call and, if it returned, at its end. -/
structure Call where
  start : Int
  finish : Option Int
  deriving DecidableEq, Repr

/-- The call starts with a length that is not negative and leaves a smaller one if it
returns. -/
def Call.Shrinks (call : Call) : Prop :=
  0 ≤ call.start ∧ ∀ finish ∈ call.finish, finish < call.start

def ReadResult.lengthLeft : ReadResult E α → Option Int
  | .ok _ after => some after.dataLen
  | .error _ _ => none

def Traced (E α : Type) := (Nat → UInt8) → Cursor → List Call × ReadResult E α

namespace Traced

def bind (first : Traced E α) (next : α → Traced E β) : Traced E β := fun memory cursor =>
  match first memory cursor with
  | (calls, .ok value after) =>
      (calls ++ (next value memory after).1, (next value memory after).2)
  | (calls, .error error after) => (calls, .error error after)

instance : Monad (Traced E) where
  pure value := fun _ cursor => ([], .ok value cursor)
  bind := bind

/-- A parser that makes no calls. -/
def lift (reader : Reader E α) : Traced E α := fun memory cursor => ([], reader memory cursor)

def call (body : Traced E α) : Traced E α := fun memory cursor =>
  (⟨cursor.dataLen, (body memory cursor).2.lengthLeft⟩ :: (body memory cursor).1,
    (body memory cursor).2)

def erase (traced : Traced E α) : Reader E α := fun memory cursor => (traced memory cursor).2

theorem bind_ok {first : Traced E α} {memory : Nat → UInt8} {cursor after : Cursor}
    {calls : List Call} {value : α} (ok : first memory cursor = (calls, .ok value after))
    (next : α → Traced E β) :
    (first >>= next) memory cursor =
      (calls ++ (next value memory after).1, (next value memory after).2) := by
  show bind first next memory cursor = _
  rw [bind, ok]

theorem bind_error {first : Traced E α} {memory : Nat → UInt8} {cursor after : Cursor}
    {calls : List Call} {error : E} (failed : first memory cursor = (calls, .error error after))
    (next : α → Traced E β) :
    (first >>= next) memory cursor = (calls, .error error after) := by
  show bind first next memory cursor = _
  rw [bind, failed]

theorem lift_bind (reader : Reader E α) (next : α → Reader E β) :
    lift (reader >>= next) = lift reader >>= fun value => lift (next value) := by
  funext memory cursor
  cases ran : reader memory cursor with
  | ok value after =>
      rw [bind_ok (show lift reader memory cursor = ([], .ok value after) by rw [lift, ran]), lift,
        Reader.bind_ok ran]
      rfl
  | error error after =>
      rw [bind_error (show lift reader memory cursor = ([], .error error after) by rw [lift, ran]),
        lift, Reader.bind_error ran]

theorem lift_pure (value : α) : lift (pure value : Reader E α) = pure value := rfl

/-! ## Forgetting the calls -/

@[simp] theorem erase_pure (value : α) : erase (pure value : Traced E α) = pure value := rfl

@[simp] theorem erase_lift (reader : Reader E α) : erase (lift reader) = reader := rfl

@[simp] theorem erase_call (body : Traced E α) : erase (call body) = erase body := rfl

@[simp] theorem erase_bind (first : Traced E α) (next : α → Traced E β) :
    erase (first >>= next) = erase first >>= fun value => erase (next value) := by
  funext memory cursor
  rw [Reader.bind_apply]
  cases ran : first memory cursor with
  | mk calls result =>
      cases result with
      | ok value after =>
          rw [erase, bind_ok ran, erase, ran]
          rfl
      | error error after => rw [erase, bind_error ran, erase, ran]

end Traced

/-! ## The length pays for the calls -/

/-- How a parser that began with the length `start` ends: by returning with `rest` or
more left, or by an error that `Throws` admits.  The last call before an error need not
be paid. -/
inductive Paid (Throws : E → Prop) (start : Int) (cost : Nat) (rest : Int) :
    List Call × ReadResult E α → Prop where
  | returned {calls : List Call} {value : α} {after : Cursor}
      (shrinks : ∀ call ∈ calls, call.Shrinks) (paid : calls.length ≤ start - after.dataLen)
      (spent : cost ≤ start - after.dataLen) (left : rest ≤ after.dataLen) :
      Paid Throws start cost rest (calls, .ok value after)
  | stopped {calls : List Call} {error : E} {after : Cursor} (throws : Throws error)
      (shrinks : ∀ call ∈ calls, call.Shrinks) (paid : calls.length ≤ start + 1) :
      Paid Throws start cost rest (calls, .error error after)

namespace Paid

variable {Throws : E → Prop} {start rest : Int} {cost : Nat} {outcome : List Call × ReadResult E α}

theorem shrinks (paid : Paid Throws start cost rest outcome) :
    ∀ call ∈ outcome.1, call.Shrinks := by
  cases paid with
  | returned shrinks _ _ _ => exact shrinks
  | stopped _ shrinks _ => exact shrinks

theorem throws (paid : Paid Throws start cost rest outcome) {error : E} {after : Cursor}
    (stopped : outcome.2 = .error error after) : Throws error := by
  cases paid with
  | returned _ _ _ _ => cases stopped
  | stopped throws _ _ =>
      cases stopped
      exact throws

theorem length_le (paid : Paid Throws start cost rest outcome) (negative : -1 ≤ rest) :
    (outcome.1.length : Int) ≤ start + 1 := by
  cases paid with
  | returned _ paid _ left =>
      simp only
      omega
  | stopped _ _ paid => exact paid

end Paid

/-- Begun with a length from `low` on and below `limit`, the parser spends at least
`cost` and leaves `rest` or more. -/
def Pays (Throws : E → Prop) (limit low : Int) (cost : Nat) (rest : Int)
    (traced : Traced E α) : Prop :=
  ∀ memory (cursor : Cursor), low ≤ cursor.dataLen → cursor.dataLen < limit →
    Paid Throws cursor.dataLen cost rest (traced memory cursor)

namespace Pays

variable {Throws : E → Prop} {limit low rest : Int} {cost : Nat}

theorem vacuous (none : limit ≤ low) (traced : Traced E α) :
    Pays Throws limit low cost rest traced := by
  intro memory cursor above below
  omega

theorem pure (value : α) : Pays Throws limit low 0 low (Pure.pure value : Traced E α) := by
  intro memory cursor above _
  refine .returned (List.forall_mem_nil _) ?_ ?_ above
  · simp
  · simp

theorem skip (count : Nat) :
    Pays Throws limit low count (low - count)
      (Traced.lift (Reader.skip count) : Traced E Unit) := by
  intro memory cursor above _
  refine .returned (List.forall_mem_nil _) ?_ ?_ ?_
  · simp
  · simp
  · simp only
    omega

/-- Fewer lengths to begin with. -/
theorem narrow {limit' low' : Int} {traced : Traced E α}
    (pays : Pays Throws limit low cost rest traced) (limited : limit' ≤ limit)
    (higher : low ≤ low') : Pays Throws limit' low' cost rest traced :=
  fun memory cursor above below => pays memory cursor (by omega) (by omega)

theorem relax {rest' : Int} {cost' : Nat} {traced : Traced E α}
    (pays : Pays Throws limit low cost rest traced) (cheaper : cost' ≤ cost)
    (fewer : rest' ≤ rest) : Pays Throws limit low cost' rest' traced := by
  intro memory cursor above below
  have paid := pays memory cursor above below
  generalize traced memory cursor = outcome at paid ⊢
  cases paid with
  | returned shrinks paid spent left => exact .returned shrinks paid (by omega) (by omega)
  | stopped throws shrinks paid => exact .stopped throws shrinks paid

/-- What follows begins with the length that is left. -/
theorem bind {rest' : Int} {cost' : Nat} {first : Traced E α} {next : α → Traced E β}
    (pays : Pays Throws limit low cost rest first)
    (second : ∀ value, Pays Throws (limit - cost) rest cost' rest' (next value)) :
    Pays Throws limit low (cost + cost') rest' (first >>= next) := by
  intro memory cursor above below
  have paid := pays memory cursor above below
  generalize ran : first memory cursor = outcome at paid
  cases paid with
  | @returned calls value after shrinks paid spent left =>
      rw [Traced.bind_ok ran]
      have later := second value memory after left (by omega)
      generalize next value memory after = outcome at later ⊢
      cases later with
      | returned shrinks' paid' spent' left' =>
          refine .returned (List.forall_mem_append.mpr ⟨shrinks, shrinks'⟩) ?_ ?_ left'
          · rw [List.length_append]
            push_cast
            omega
          · push_cast
            omega
      | stopped throws shrinks' paid' =>
          refine .stopped throws (List.forall_mem_append.mpr ⟨shrinks, shrinks'⟩) ?_
          rw [List.length_append]
          push_cast
          omega
  | stopped throws shrinks paid =>
      rw [Traced.bind_error ran]
      exact .stopped throws shrinks paid

/-- A call that looks at a tag byte, which it skips unless it refuses the tag. -/
theorem call {next : UInt8 → Traced E α} (inside : 0 ≤ low)
    (each : ∀ byte, (∃ error, Throws error ∧ next byte = Traced.lift (Reader.fail error)) ∨
      ∃ body, (next byte = Traced.lift (Reader.skip 1) >>= fun _ => body) ∧
        Pays Throws (limit - 1) (low - 1) 0 rest body) :
    Pays Throws limit low 1 rest (Traced.call (Traced.lift Reader.peek >>= next)) := by
  intro memory cursor above below
  have tag : (Traced.lift Reader.peek >>= next) memory cursor = next (memory cursor.data) memory
      { cursor with readEnd := max cursor.readEnd (cursor.data + 1) } := rfl
  rcases each (memory cursor.data) with ⟨error, throws, chosen⟩ | ⟨body, chosen, pays⟩
  · rw [Traced.call, tag, chosen]
    refine .stopped throws (List.forall_mem_singleton.mpr ⟨by simp only; omega, ?_⟩) ?_
    · exact fun finish none => absurd none (Option.not_mem_none finish)
    · simp [Traced.lift]
      omega
  · have skipped : (Traced.lift Reader.peek >>= next) memory cursor = body memory
        ⟨cursor.data + 1, cursor.dataLen - 1, max cursor.readEnd (cursor.data + 1)⟩ := by
      rw [tag, chosen]
      rfl
    have paid := pays memory
      ⟨cursor.data + 1, cursor.dataLen - 1, max cursor.readEnd (cursor.data + 1)⟩
      (by simp only; omega) (by simp only; omega)
    rw [Traced.call, skipped]
    generalize body memory _ = outcome at paid ⊢
    simp only at paid
    cases paid with
    | @returned calls value after shrinks paid spent left =>
        refine .returned (List.forall_mem_cons.mpr ⟨⟨by simp only; omega, ?_⟩, shrinks⟩) ?_ ?_ left
        · rintro finish ⟨rfl⟩
          simp only
          omega
        · rw [List.length_cons]
          push_cast
          omega
        · push_cast
          omega
    | @stopped calls error after throws shrinks paid =>
        refine .stopped throws (List.forall_mem_cons.mpr ⟨⟨by simp only; omega, ?_⟩, shrinks⟩) ?_
        · exact fun finish none => absurd none (Option.not_mem_none finish)
        · rw [List.length_cons]
          push_cast
          omega

/-- A loop that looks at the length left before each round. -/
theorem whileMore {more : Traced E α} (value : α)
    (again : Pays Throws limit 0 0 low more) :
    Pays Throws limit low 0 low (do
      let dataLen ← Traced.lift Reader.dataLen
      if 0 < dataLen then more else Pure.pure value) := by
  intro memory cursor above below
  show Paid Throws cursor.dataLen 0 low
    ((if 0 < cursor.dataLen then more else Pure.pure value : Traced E α) memory cursor)
  split
  · exact again memory cursor (by omega) below
  · exact Pays.pure value memory cursor above below

end Pays

/-! ## More fuel -/

/-- Wherever `traced` does not stop with `exhausted`, `other` does the same. -/
def Agrees (exhausted : E) (traced other : Traced E α) : Prop :=
  ∀ memory cursor, (∃ calls after, traced memory cursor = (calls, .error exhausted after)) ∨
    other memory cursor = traced memory cursor

namespace Agrees

variable {exhausted : E}

theorem refl (traced : Traced E α) : Agrees exhausted traced traced := fun _ _ => Or.inr rfl

theorem exhausts (other : Traced E α) :
    Agrees exhausted (Traced.lift (Reader.fail exhausted)) other :=
  fun _ cursor => Or.inl ⟨[], cursor, rfl⟩

theorem bind {first first' : Traced E α} {next next' : α → Traced E β}
    (agrees : Agrees exhausted first first')
    (later : ∀ value, Agrees exhausted (next value) (next' value)) :
    Agrees exhausted (first >>= next) (first' >>= next') := by
  intro memory cursor
  rcases agrees memory cursor with ⟨calls, after, stopped⟩ | same
  · exact Or.inl ⟨calls, after, Traced.bind_error stopped next⟩
  · cases ran : first memory cursor with
    | mk calls result =>
        rw [ran] at same
        cases result with
        | ok value after =>
            rw [Traced.bind_ok ran, Traced.bind_ok same]
            rcases later value memory after with ⟨others, last, stopped⟩ | same'
            · exact Or.inl ⟨calls ++ others, last, by rw [stopped]⟩
            · exact Or.inr (by rw [same'])
        | error error after =>
            rw [Traced.bind_error ran, Traced.bind_error same]
            exact Or.inr rfl

theorem call {body body' : Traced E α} (agrees : Agrees exhausted body body') :
    Agrees exhausted (Traced.call body) (Traced.call body') := by
  intro memory cursor
  rcases agrees memory cursor with ⟨calls, after, stopped⟩ | same
  · exact Or.inl ⟨⟨cursor.dataLen, none⟩ :: calls, after, by rw [Traced.call, stopped]; rfl⟩
  · exact Or.inr (by rw [Traced.call, Traced.call, same])

/-- What is reached without exhaustion is reached with every greater fuel. -/
theorem settles {run : Nat → Traced E α}
    (steps : ∀ fuel, Agrees exhausted (run fuel) (run (fuel + 1)))
    {memory : Nat → UInt8} {cursor : Cursor} {enough : Nat}
    (reaches : ∀ fuel, enough ≤ fuel → ∀ calls after,
      run fuel memory cursor ≠ (calls, .error exhausted after)) :
    ∀ fuel, enough ≤ fuel → run fuel memory cursor = run enough memory cursor := by
  intro fuel more
  induction fuel, more using Nat.le_induction with
  | base => rfl
  | succ fuel more inductionHypothesis =>
      rcases steps fuel memory cursor with ⟨calls, after, stopped⟩ | same
      · exact absurd stopped (reaches fuel more calls after)
      · rw [same, inductionHypothesis]

end Agrees

end EasyRtmp.Lib
