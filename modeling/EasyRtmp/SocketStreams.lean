import EasyRtmp.Lib.TransportRefinement
import EasyRtmp.Sockets

/-!
# A socket is a stream

Whatever portions the system hands out, the calls of `tcp_network.cpp` answer as those on
`Transport.pipe` do.  So a program over a socket does what it does on the ideal channel.
-/

set_option autoImplicit false

namespace EasyRtmp

open Lib Lib.ByteCodec

variable {K : Type}

namespace TCPNetwork

section Connected

variable {read : K → Nat → ReadAnswer K} {write : K → Bytes → Int × K} {left accepted : K → Bytes}

/-- A stream that has ended stays so. -/
def StaysEnded (read : K → Nat → ReadAnswer K) (left : K → Bytes) : Prop :=
  ∀ kernel count, left kernel = [] → left (read kernel count).after = []

/-- A request of no bytes, and of more bytes than will come. -/
theorem receiveFrom_fails (reads : SocketReads read left) (remaining : Nat) :
    ∀ (out : GrowBuffer) (ofs : Nat) (kernel : K),
      remaining = 0 ∨ (left kernel).length < remaining →
      ∃ after, receiveFrom read (ofs + remaining) out ofs kernel = (.error .receiving, after) ∧
        (StaysEnded read left →
          left after = if remaining = 0 then left kernel else []) := by
  induction remaining using Nat.strong_induction_on with
  | h remaining inductionHypothesis =>
      intro out ofs kernel lacking
      have asked : ofs + remaining - ofs = remaining := by omega
      rw [receiveFrom, asked]
      rcases Nat.eq_zero_or_pos remaining with rfl | positive
      · obtain ⟨none, kept⟩ := reads.nothing kernel
        exact ⟨_, if_pos none.le, fun _ => kept⟩
      by_cases ended : left kernel = []
      · refine ⟨_, if_pos (reads.ended kernel remaining positive ended), fun stays => ?_⟩
        rw [if_neg positive.ne']
        exact stays kernel remaining ended
      obtain ⟨nonempty, fits, counted, stream⟩ := reads.some kernel remaining positive ended
      have few : (left kernel).length < remaining := lacking.resolve_left positive.ne'
      have given := List.length_pos_iff.mpr nonempty
      generalize read kernel remaining = answer at *
      obtain ⟨result, data, middle⟩ := answer
      dsimp only at nonempty fits counted stream given ⊢
      rw [stream, List.length_append] at few
      have goesOn : ¬ result ≤ 0 := by omega
      have more : ofs + result.toNat < ofs + remaining := by omega
      obtain ⟨rest, isRest⟩ := Nat.exists_eq_add_of_le (show data.length ≤ remaining by omega)
      obtain ⟨after, done, leaves⟩ := inductionHypothesis rest (by omega) (out.write ofs data)
        (ofs + data.length) middle (.inr (by omega))
      rw [if_neg (by omega)] at leaves
      rw [if_neg goesOn, if_pos more, counted, Int.toNat_natCast, if_neg positive.ne', isRest,
        ← Nat.add_assoc]
      exact ⟨after, done, leaves⟩

theorem transport_fails (reads : SocketReads read left) (write : K → Bytes → Int × K) {count : Nat}
    {kernel : K} (lacking : count = 0 ∨ (left kernel).length < count) :
    ∃ after, (transport read write).receive count kernel = (.error .receiving, after) ∧
      (StaysEnded read left → left after = if count = 0 then left kernel else []) := by
  obtain ⟨after, failed, leaves⟩ := receiveFrom_fails reads count (.ofSize count) 0 kernel lacking
  rw [Nat.zero_add] at failed
  exact ⟨after, DataLayer.receiveData_error failed, leaves⟩

/-- The bytes that the stream has still to give and, behind those written `before`, the
bytes that it has taken. -/
def Streams (left accepted : K → Bytes) (before : Bytes) (kernel : K) (stream : Bytes × Bytes) :
    Prop :=
  left kernel = stream.1 ∧ accepted kernel = before ++ stream.2

/-- Behind an exception the bytes to come are known if what has ended stays so. -/
def Wrote (read : K → Nat → ReadAnswer K) (left accepted : K → Bytes) (before : Bytes) (kernel : K)
    (stream : Bytes × Bytes) : Prop :=
  (StaysEnded read left → left kernel = stream.1) ∧ accepted kernel = before ++ stream.2

theorem Connected.alike (connected : Connected read write left accepted) (before : Bytes) :
    (transport read write).Alike (Transport.pipe .receiving) (Streams left accepted before)
      (Wrote read left accepted before) where
  receive := by
    rintro count kernel ⟨_, given⟩ ⟨rfl, taken⟩
    have kept := connected.receive_keeps count kernel
    change accepted ((transport read write).receive count kernel).2 = accepted kernel at kept
    by_cases lacking : count = 0 ∨ (left kernel).length < count
    · obtain ⟨after, refused, leaves⟩ := transport_fails connected.reads write lacking
      rw [refused] at kept ⊢
      unfold Transport.pipe
      dsimp only
      split
      · rename_i nothing
        rw [if_pos nothing] at leaves
        exact .error ⟨leaves, kept.trans taken⟩
      · rename_i positive
        rw [if_neg positive] at leaves
        rw [if_pos (lacking.resolve_left positive)]
        exact .error ⟨leaves, kept.trans taken⟩
    · obtain ⟨positive, enough⟩ := not_or.mp lacking
      obtain ⟨after, received, remains⟩ := receive_positive connected.reads count kernel
        (Nat.pos_of_ne_zero positive) (not_lt.mp enough)
      have answered : (transport read write).receive count kernel =
          (.ok ((left kernel).take count), after) := received
      rw [answered] at kept ⊢
      unfold Transport.pipe
      dsimp only
      rw [if_neg positive, if_neg enough]
      exact .ok ⟨remains, kept.trans taken⟩
  send := by
    rintro data kernel ⟨_, given⟩ ⟨rfl, taken⟩
    obtain ⟨counted, accepts, apart⟩ := connected.writes kernel data
    have whole : ¬ (write kernel data).1 < 0 := by omega
    have sent : (transport read write).send data kernel = (.ok (), (write kernel data).2) :=
      if_neg whole
    rw [sent]
    refine .ok ⟨apart, ?_⟩
    rw [accepts, taken, List.append_assoc]

/-! Executions over the socket and runs on the ideal channel. -/

variable {S E α : Type} {config final : Config S E α} {kernel after : K}

theorem Connected.begins (read : K → Nat → ReadAnswer K) (left accepted : K → Bytes)
    (config : Config S E α) (kernel : K) :
    Execution.Alike (Streams left accepted (accepted kernel))
      (Wrote read left accepted (accepted kernel))
      (.running config kernel : Execution K TCPNetworkError S E α)
      (.running config (left kernel, [])) :=
  .running config ⟨rfl, (List.append_nil _).symm⟩

theorem Connected.runs (connected : Connected read write left accepted)
    (reached : (transport read write).Carries (.running config kernel) (.running final after)) :
    ∃ input output, Runs config input output final ∧ left kernel = input ++ left after ∧
      accepted after = accepted kernel ++ output := by
  obtain ⟨there, carried, same⟩ :=
    (connected.alike _).carries (Connected.begins read left accepted config kernel) reached
  cases same with
  | running _ kept =>
      obtain ⟨input, output, run, arrived, written⟩ := Transport.pipe_follows carried
      refine ⟨input, output, run, ?_, ?_⟩
      · rw [arrived, kept.1]
      · rw [kept.2, written, List.nil_append]

theorem Connected.throws (connected : Connected read write left accepted)
    {exception : TCPNetworkError} {state : S}
    (reached : (transport read write).Carries (.running config kernel)
      (.thrown exception state after)) :
    exception = .receiving ∧ ∃ input output rest count next,
      Runs config input output ⟨state, .recv count next⟩ ∧ left kernel = input ++ rest ∧
        accepted after = accepted kernel ++ output ∧ (count = 0 ∨ rest.length < count) := by
  obtain ⟨there, carried, same⟩ :=
    (connected.alike _).carries (Connected.begins read left accepted config kernel) reached
  cases same with
  | thrown _ _ kept =>
      obtain ⟨receives, input, output, rest, count, next, run, arrived, written, refused⟩ :=
        Transport.pipe_follows carried
      refine ⟨receives, input, output, rest, count, next, run, arrived, ?_, refused⟩
      rw [kept.2, written, List.nil_append]

theorem Connected.reaches (connected : Connected read write left accepted)
    {input output rest : Bytes} (run : Runs config input output final)
    (arrives : left kernel = input ++ rest) :
    (∃ after, (transport read write).Carries (.running config kernel) (.running final after) ∧
        left after = rest ∧ accepted after = accepted kernel ++ output) ∨
      ∃ state next after front back early late,
        Runs config front early ⟨state, .recv 0 next⟩ ∧ input = front ++ back ∧
        output = early ++ late ∧ accepted after = accepted kernel ++ early ∧
        (transport read write).Carries (.running config kernel)
          (.thrown .receiving state after) := by
  have alike := (connected.alike (accepted kernel)).symm
  have begins := (Connected.begins read left accepted config kernel).symm
  rcases Transport.runs_pipe TCPNetworkError.receiving run rest [] with carried |
    ⟨state, next, front, back, early, late, asks, took, written, carried⟩
  · rw [← arrives] at carried
    obtain ⟨there, reached, same⟩ := alike.carries begins carried
    cases same with
    | running _ kept => exact .inl ⟨_, reached, kept⟩
  · rw [← arrives] at carried
    obtain ⟨there, reached, same⟩ := alike.carries begins carried
    cases same with
    | thrown _ _ kept =>
        exact .inr ⟨state, next, _, front, back, early, late, asks, took, written, kept.2, reached⟩

/-- A receive of nothing throws. -/
theorem Connected.refuses_nothing (connected : Connected read write left accepted) (state : S)
    (next : Bytes → Prog S E α) (kernel : K) :
    ∃ after, (transport read write).advance (.running ⟨state, .recv 0 next⟩ kernel) =
      some (.thrown .receiving state after) := by
  have nothing : 0 = 0 ∨ (left kernel).length < 0 := .inl rfl
  obtain ⟨after, refused, -⟩ := transport_fails connected.reads write nothing
  refine ⟨after, ?_⟩
  simp only [Transport.advance, refused]

end Connected

end TCPNetwork

end EasyRtmp
