import EasyRtmp.Lib.GrowBuffer
import EasyRtmp.Lib.StreamCalls

/-!
# `data_layers`: sockets and TLS

`DataLayer` moves bytes through the calls of a kernel or of a library, which are
parameters.  What they are asked to do is stated by `SocketReads`, `Writing` and
`RecordReads`, after the manual pages.
-/

set_option autoImplicit false

namespace EasyRtmp

open Lib Lib.ByteCodec

variable {K E : Type}

/-- What `read` and `SSL_read` return, what they stored and the system they leave. -/
structure ReadAnswer (K : Type) where
  result : Int
  data : Bytes
  after : K

/-- `DataLayer::receive_data` of a length that is not negative, over the method of the
same name that fills a buffer. -/
def DataLayer.receiveData (receive : GrowBuffer → Nat → K → Except E GrowBuffer × K) (len : Nat)
    (kernel : K) : Except E Bytes × K :=
  match receive (.ofSize len) len kernel with
  | (.ok b, after) => (.ok (b.contents len), after)
  | (.error error, after) => (.error error, after)

theorem DataLayer.receiveData_ok {receive : GrowBuffer → Nat → K → Except E GrowBuffer × K}
    {len : Nat} {kernel after : K} {filled : GrowBuffer}
    (ok : receive (.ofSize len) len kernel = (.ok filled, after)) :
    DataLayer.receiveData receive len kernel = (.ok (filled.contents len), after) := by
  rw [DataLayer.receiveData, ok]

theorem DataLayer.receiveData_error {receive : GrowBuffer → Nat → K → Except E GrowBuffer × K}
    {len : Nat} {kernel after : K} {error : E}
    (failed : receive (.ofSize len) len kernel = (.error error, after)) :
    DataLayer.receiveData receive len kernel = (.error error, after) := by
  rw [DataLayer.receiveData, failed]

/-! ## `tcp_network.cpp` -/

inductive TCPNetworkError where
  | sending | receiving | createSocket | bindSocket | listenSocket | addressTranslation
  | acceptedSocket | connectSocket
  deriving DecidableEq, Repr

namespace TCPNetwork

def sendData (write : K → Bytes → Int × K) (data : Bytes) (kernel : K) :
    Except TCPNetworkError Unit × K :=
  if (write kernel data).1 < 0 then (.error .sending, (write kernel data).2)
  else (.ok (), (write kernel data).2)

/-- The loop of `receive_data`, which reads before it compares. -/
def receiveFrom (read : K → Nat → ReadAnswer K) (len : Nat) (out : GrowBuffer) (ofs : Nat)
    (kernel : K) : Except TCPNetworkError GrowBuffer × K :=
  let ofsAdd := read kernel (len - ofs)
  if ofsAdd.result ≤ 0 then (.error .receiving, ofsAdd.after)
  else if ofs + ofsAdd.result.toNat < len then
    receiveFrom read len (out.write ofs ofsAdd.data) (ofs + ofsAdd.result.toNat) ofsAdd.after
  else (.ok (out.write ofs ofsAdd.data), ofsAdd.after)
termination_by len - ofs
decreasing_by
  rename_i positive more
  change ¬ (read kernel (len - ofs)).result ≤ 0 at positive
  change ofs + (read kernel (len - ofs)).result.toNat < len at more
  omega

def receiveInto (read : K → Nat → ReadAnswer K) (out : GrowBuffer) (len : Nat) (kernel : K) :
    Except TCPNetworkError GrowBuffer × K :=
  receiveFrom read len out 0 kernel

/-- `read` on a socket, of whose stream `left` has not been read. -/
structure SocketReads (read : K → Nat → ReadAnswer K) (left : K → Bytes) : Prop where
  nothing : ∀ kernel, (read kernel 0).result = 0 ∧ left (read kernel 0).after = left kernel
  some : ∀ kernel count, 0 < count → left kernel ≠ [] → (read kernel count).data ≠ [] ∧
    (read kernel count).data.length ≤ count ∧
    (read kernel count).result = (read kernel count).data.length ∧
    left kernel = (read kernel count).data ++ left (read kernel count).after
  ended : ∀ kernel count, 0 < count → left kernel = [] → (read kernel count).result ≤ 0

section Receiving

variable {read : K → Nat → ReadAnswer K} {left : K → Bytes}

/-- The loop with `remaining` bytes to go, however they arrive. -/
theorem receiveFrom_ok (reads : SocketReads read left) (remaining : Nat) :
    ∀ (out : GrowBuffer) (ofs : Nat) (kernel : K), 0 < remaining →
      remaining ≤ (left kernel).length →
      ∃ filled after, receiveFrom read (ofs + remaining) out ofs kernel = (.ok filled, after) ∧
        filled.contents (ofs + remaining) =
          out.contents ofs ++ (left kernel).take remaining ∧
        left after = (left kernel).drop remaining := by
  induction remaining using Nat.strong_induction_on with
  | h remaining inductionHypothesis =>
      intro out ofs kernel positive enough
      have bytesLeft : left kernel ≠ [] := List.length_pos_iff.mp (by omega)
      obtain ⟨nonempty, fits, counted, stream⟩ := reads.some kernel remaining positive bytesLeft
      have given := List.length_pos_iff.mpr nonempty
      have asked : ofs + remaining - ofs = remaining := by omega
      rw [receiveFrom, asked]
      generalize read kernel remaining = answer at *
      obtain ⟨result, data, middle⟩ := answer
      dsimp only at nonempty fits counted stream given ⊢
      have stored := out.contents_write ofs data
      rw [counted, if_neg (by omega), Int.toNat_natCast]
      by_cases more : ofs + data.length < ofs + remaining
      · obtain ⟨rest, rfl⟩ := Nat.exists_eq_add_of_le (show data.length ≤ remaining by omega)
        have remain : rest ≤ (left middle).length := by
          rw [stream, List.length_append] at enough
          omega
        obtain ⟨filled, after, done, contents, others⟩ := inductionHypothesis rest (by omega)
          (out.write ofs data) (ofs + data.length) middle (by omega) remain
        rw [if_pos more, ← Nat.add_assoc]
        refine ⟨filled, after, done, ?_, ?_⟩
        · rw [contents, stored, stream, List.take_length_add_append, List.append_assoc]
        · rw [others, stream, List.drop_length_add_append]
      · obtain rfl : remaining = data.length := by omega
        rw [if_neg more]
        refine ⟨_, middle, rfl, ?_, ?_⟩
        · rw [stored, stream, List.take_left]
        · rw [stream, List.drop_left]

theorem receive_positive (reads : SocketReads read left) (len : Nat) (kernel : K)
    (positive : 0 < len) (enough : len ≤ (left kernel).length) :
    ∃ after, DataLayer.receiveData (receiveInto read) len kernel =
        (.ok ((left kernel).take len), after) ∧ left after = (left kernel).drop len := by
  obtain ⟨filled, after, done, contents, others⟩ :=
    receiveFrom_ok reads len (.ofSize len) 0 kernel positive enough
  rw [Nat.zero_add] at done contents
  refine ⟨after, ?_, others⟩
  rw [DataLayer.receiveData_ok done, contents, GrowBuffer.contents_zero, List.nil_append]

/-- A read of no bytes looks like the end of the stream. -/
theorem receive_none (reads : SocketReads read left) (kernel : K) :
    DataLayer.receiveData (receiveInto read) 0 kernel =
      (.error .receiving, (read kernel 0).after) := by
  have stopped : receiveInto read (.ofSize 0) 0 kernel =
      (.error .receiving, (read kernel 0).after) := by
    rw [receiveInto, receiveFrom]
    exact if_pos (reads.nothing kernel).1.le
  exact DataLayer.receiveData_error stopped

theorem receives_exactly_iff (reads : SocketReads read left) {kernel : K} {lens : List Nat}
    (enough : lens.sum ≤ (left kernel).length) :
    Delivers (DataLayer.receiveData (receiveInto read)) left lens kernel ↔
      ∀ len ∈ lens, 0 < len := by
  constructor
  · intro delivers
    induction lens generalizing kernel with
    | nil => exact fun len member => absurd member List.not_mem_nil
    | cons len lens inductionHypothesis =>
        obtain ⟨after, received, others, delivers⟩ := delivers
        rw [List.sum_cons] at enough
        refine List.forall_mem_cons.mpr ⟨?_, inductionHypothesis ?_ delivers⟩
        · by_contra none
          obtain rfl : len = 0 := by omega
          rw [receive_none reads] at received
          cases received
        · rw [others, List.length_drop]
          omega
  · intro positive
    exact .of_each (fun len kernel => receive_positive reads len kernel) lens kernel positive
      enough

/-- A socket that hands out one byte at a time. -/
def readByte (stream : Bytes) (count : Nat) : ReadAnswer Bytes :=
  match count, stream with
  | 0, _ => ⟨0, [], stream⟩
  | _ + 1, [] => ⟨0, [], []⟩
  | _ + 1, byte :: rest => ⟨1, [byte], rest⟩

end Receiving

theorem readByte_reads : SocketReads readByte id where
  nothing _ := ⟨rfl, rfl⟩
  some stream count positive bytesLeft := by
    obtain ⟨count, rfl⟩ := Nat.exists_eq_succ_of_ne_zero positive.ne'
    cases stream with
    | nil => exact absurd rfl bytesLeft
    | cons byte rest => exact ⟨List.cons_ne_nil _ _, Nat.succ_pos count, rfl, rfl⟩
  ended stream count positive empty := by
    obtain ⟨count, rfl⟩ := Nat.exists_eq_succ_of_ne_zero positive.ne'
    obtain rfl : stream = [] := empty
    exact le_refl _

theorem two_requests_received :
    Delivers (DataLayer.receiveData (receiveInto readByte)) id [2, 1] [10, 20, 30] :=
  (receives_exactly_iff readByte_reads (by decide)).mpr (by decide)

/-- The payload of an empty message. -/
theorem empty_request_throws : SocketReads readByte id ∧ [0].sum ≤ (id ([10] : Bytes)).length ∧
    DataLayer.receiveData (receiveInto readByte) 0 [10] = (.error .receiving, [10]) ∧
    ¬ Delivers (DataLayer.receiveData (receiveInto readByte)) id [0] [10] := by
  have thrown := receive_none readByte_reads [10]
  refine ⟨readByte_reads, by decide, thrown, ?_⟩
  rintro ⟨after, received, -⟩
  cases thrown.symm.trans received

/-! ### Sending -/

section Sending

variable {write : K → Bytes → Int × K} {accepted : K → Bytes}

theorem sendAll_refused : ∀ (calls : List Bytes) (kernel : K), SomeRefused write calls kernel →
    ∃ after, sendAll (sendData write) calls kernel = (.error .sending, after) := by
  intro calls
  induction calls with
  | nil => exact fun _ refused => refused.elim
  | cons data calls inductionHypothesis =>
      intro kernel refused
      by_cases failed : (write kernel data).1 < 0
      · exact ⟨_, sendAll_error (if_pos failed) calls⟩
      · have sent : sendData write data kernel = (.ok (), (write kernel data).2) := if_neg failed
        rw [sendAll_ok sent]
        exact inductionHypothesis _ (refused.resolve_left failed)

/-- What a run that does not throw has handed over, and when it is everything. -/
theorem sendAll_accepted (writing : Writing write accepted) : ∀ (calls : List Bytes) (kernel : K),
    (∀ data ∈ calls, data ≠ []) → ¬ SomeRefused write calls kernel →
      ∃ after taken, sendAll (sendData write) calls kernel = (.ok (), after) ∧
        accepted after = accepted kernel ++ taken ∧ taken.length ≤ calls.flatten.length ∧
        (taken = calls.flatten ↔ AllTaken write calls kernel) := by
  intro calls
  induction calls with
  | nil =>
      intro kernel _ _
      exact ⟨kernel, [], rfl, (List.append_nil _).symm, le_refl _, iff_of_true rfl trivial⟩
  | cons data calls inductionHypothesis =>
      intro kernel nonempty unrefused
      obtain ⟨accepts, later⟩ := not_or.mp unrefused
      obtain ⟨filled, others⟩ := List.forall_mem_cons.mp nonempty
      obtain ⟨count, positive, fits, counted, grown⟩ :=
        (writing.takes kernel data filled).resolve_left accepts
      obtain ⟨after, taken, done, handed, bound, whole⟩ := inductionHypothesis _ others later
      have sent : sendData write data kernel = (.ok (), (write kernel data).2) := if_neg accepts
      refine ⟨after, data.take count ++ taken, ?_, ?_, ?_, ?_⟩
      · rw [sendAll_ok sent, done]
      · rw [handed, grown, List.append_assoc]
      · rw [List.length_append, List.flatten_cons, List.length_append, List.length_take]
        omega
      · rw [AllTaken, counted, ← whole, List.flatten_cons]
        constructor
        · intro same
          have lengths := congrArg List.length same
          simp only [List.length_append, List.length_take] at lengths
          have full : count = data.length := by omega
          rw [full, List.take_length] at same
          exact ⟨by rw [full], List.append_cancel_left same⟩
        · rintro ⟨full, same⟩
          rw [Int.ofNat_inj.mp full, List.take_length, same]

theorem none_lost_iff (writing : Writing write accepted) {calls : List Bytes} {kernel : K}
    (nonempty : ∀ data ∈ calls, data ≠ []) :
    NoneLost (sendData write) accepted calls kernel ↔
      SomeRefused write calls kernel ∨ AllTaken write calls kernel := by
  by_cases refused : SomeRefused write calls kernel
  · obtain ⟨stopped, thrown⟩ := sendAll_refused calls kernel refused
    refine iff_of_true ?_ (Or.inl refused)
    intro after sent
    cases thrown.symm.trans sent
  · obtain ⟨after, taken, done, handed, -, whole⟩ :=
      sendAll_accepted writing calls kernel nonempty refused
    rw [or_iff_right refused, ← whole]
    constructor
    · intro noneLost
      exact List.append_cancel_left (handed.symm.trans (noneLost after done))
    · rintro rfl after' done'
      obtain rfl : after = after' := congrArg Prod.snd (done.symm.trans done')
      exact handed

/-- A socket that takes at most four bytes at a time. -/
def writeFour (stream data : Bytes) : Int × Bytes :=
  ((min 4 data.length : Nat), stream ++ data.take (min 4 data.length))

end Sending

theorem writeFour_writing : Writing writeFour id where
  takes stream data nonempty := by
    have some := List.length_pos_iff.mpr nonempty
    exact Or.inr ⟨min 4 data.length, by omega, Nat.min_le_right _ _, rfl, rfl⟩

theorem short_calls_kept : NoneLost (sendData writeFour) id [[1, 2], [3, 4, 5]] [] :=
  (none_lost_iff writeFour_writing (by decide)).mpr (Or.inr ⟨rfl, rfl, trivial⟩)

/-- The last of five bytes is lost, and no call throws. -/
theorem fifth_byte_lost : Writing writeFour id ∧
    sendAll (sendData writeFour) [[1, 2, 3, 4, 5]] [] = (.ok (), [1, 2, 3, 4]) ∧
    ¬ NoneLost (sendData writeFour) id [[1, 2, 3, 4, 5]] [] := by
  have sent : sendAll (sendData writeFour) [[1, 2, 3, 4, 5]] [] = (.ok (), [1, 2, 3, 4]) := rfl
  refine ⟨writeFour_writing, sent, fun noneLost => ?_⟩
  cases noneLost _ sent

end TCPNetwork

/-! ## `openssl_tls.cpp` -/

inductive OpenSSLError where
  | alloc | fileOpen | pemRead | invalidCert | invalidPrivateKey | handshake | systemCertStore | io
  deriving DecidableEq, Repr

namespace OpenSSLTLS

/-- For data whose length is an `int`. -/
def sendData (sslWrite : K → Bytes → Int × K) (data : Bytes) (kernel : K) :
    Except OpenSSLError Unit × K :=
  if (sslWrite kernel data).1 ≠ data.length then (.error .io, (sslWrite kernel data).2)
  else (.ok (), (sslWrite kernel data).2)

/-- Unlike the socket's, this `send_data` compares what was taken with what was given. -/
theorem none_lost {sslWrite : K → Bytes → Int × K} {accepted : K → Bytes}
    (writing : Writing sslWrite accepted) : ∀ (calls : List Bytes) (kernel : K),
    (∀ data ∈ calls, data ≠ []) → NoneLost (sendData sslWrite) accepted calls kernel := by
  intro calls
  induction calls with
  | nil =>
      rintro kernel _ after sent
      obtain rfl : kernel = after := congrArg Prod.snd sent
      exact (List.append_nil _).symm
  | cons data calls inductionHypothesis =>
      intro kernel nonempty after done
      obtain ⟨filled, others⟩ := List.forall_mem_cons.mp nonempty
      by_cases whole : (sslWrite kernel data).1 = data.length
      · have sent : sendData sslWrite data kernel = (.ok (), (sslWrite kernel data).2) :=
          if_neg (not_not.mpr whole)
        rw [sendAll_ok sent] at done
        have later := inductionHypothesis _ others after done
        rcases writing.takes kernel data filled with failed | ⟨count, -, -, counted, grown⟩
        · omega
        · obtain rfl : count = data.length := by omega
          rw [later, grown, List.take_length, List.flatten_cons, List.append_assoc]
      · rw [sendAll_error (if_pos whole)] at done
        cases done

def receiveInto (sslRead : K → Nat → ReadAnswer K) (out : GrowBuffer) (len : Nat) (kernel : K) :
    Except OpenSSLError GrowBuffer × K :=
  let rd := sslRead kernel len
  if rd.result ≠ len then (.error .io, rd.after) else (.ok (out.write 0 rd.data), rd.after)

/-- The records after `count` bytes of the first. -/
def takeOff (count : Nat) : List Bytes → List Bytes
  | [] => []
  | record :: records =>
      if count < record.length then record.drop count :: records else records

/-- `SSL_read` on a connection that is neither closed nor broken, of whose plaintext
`records` have not been read.  An answer ends with the record at the latest. -/
structure RecordReads (sslRead : K → Nat → ReadAnswer K) (records : K → List Bytes) : Prop where
  hands : ∀ kernel len record later, records kernel = record :: later → record ≠ [] → 0 < len →
    ∃ count : Nat, 0 < count ∧ count ≤ len ∧ count ≤ record.length ∧
      (sslRead kernel len).result = count ∧ (sslRead kernel len).data = record.take count ∧
      records (sslRead kernel len).after = takeOff count (record :: later)

def plaintext (records : K → List Bytes) (kernel : K) : Bytes := (records kernel).flatten

/-- No request reaches past the end of the record that it starts in. -/
def Within : List Bytes → List Nat → Prop
  | _, [] => True
  | [], _ :: _ => False
  | record :: records, len :: lens =>
      len ≤ record.length ∧ Within (takeOff len (record :: records)) lens

/-- `SSL_read` hands over all that the request and the record allow, at each of the
requests in turn. -/
def Fills (sslRead : K → Nat → ReadAnswer K) (records : K → List Bytes) : List Nat → K → Prop
  | [], _ => True
  | len :: lens, kernel =>
      (sslRead kernel len).result = min len ((records kernel).headD []).length ∧
        Fills sslRead records lens (sslRead kernel len).after

theorem takeOff_flatten {count : Nat} {record : Bytes} (fits : count ≤ record.length)
    (records : List Bytes) :
    (takeOff count (record :: records)).flatten = (record :: records).flatten.drop count := by
  rw [takeOff, List.flatten_cons, List.drop_append_of_le_length fits]
  split_ifs with inside
  · rw [List.flatten_cons]
  · rw [List.drop_eq_nil_of_le (by omega), List.nil_append]

theorem takeOff_nonempty {records : List Bytes} (nonempty : ∀ record ∈ records, record ≠ [])
    (count : Nat) : ∀ record ∈ takeOff count records, record ≠ [] := by
  cases records with
  | nil => exact nonempty
  | cons record records =>
      obtain ⟨_, others⟩ := List.forall_mem_cons.mp nonempty
      rw [takeOff]
      split_ifs with inside
      · refine List.forall_mem_cons.mpr ⟨?_, others⟩
        rw [ne_eq, List.drop_eq_nil_iff]
        omega
      · exact others

section Receiving

variable {sslRead : K → Nat → ReadAnswer K} {records : K → List Bytes}

/-- One request answers exactly when `SSL_read` hands over all of it. -/
theorem receive_whole {kernel : K} {len : Nat} {record : Bytes} (fits : len ≤ record.length)
    (result : (sslRead kernel len).result = len)
    (data : (sslRead kernel len).data = record.take len) :
    DataLayer.receiveData (receiveInto sslRead) len kernel =
      (.ok (record.take len), (sslRead kernel len).after) := by
  have ok : receiveInto sslRead (.ofSize len) len kernel =
      (.ok ((GrowBuffer.ofSize len).write 0 (record.take len)), (sslRead kernel len).after) := by
    rw [receiveInto, result, data]
    exact if_neg (fun differs => differs rfl)
  have stored := (GrowBuffer.ofSize len).contents_write 0 (record.take len)
  rw [List.length_take, Nat.min_eq_left fits, Nat.zero_add, GrowBuffer.contents_zero,
    List.nil_append] at stored
  rw [DataLayer.receiveData_ok ok, stored]

theorem receive_short {kernel : K} {len : Nat} (result : (sslRead kernel len).result ≠ len) :
    DataLayer.receiveData (receiveInto sslRead) len kernel =
      (.error .io, (sslRead kernel len).after) :=
  DataLayer.receiveData_error (if_pos result)

/-- One request, which is answered in full or throws. -/
theorem receive_first (reads : RecordReads sslRead records) {kernel : K} {len : Nat}
    {record : Bytes} {later : List Bytes} (found : records kernel = record :: later)
    (nonempty : record ≠ []) (asked : 0 < len) :
    (DataLayer.receiveData (receiveInto sslRead) len kernel =
        (.ok ((plaintext records kernel).take len), (sslRead kernel len).after) ∧
      plaintext records (sslRead kernel len).after = (plaintext records kernel).drop len ∧
      records (sslRead kernel len).after = takeOff len (record :: later) ∧
      len ≤ record.length ∧ (sslRead kernel len).result = min len record.length) ∨
    (DataLayer.receiveData (receiveInto sslRead) len kernel =
        (.error .io, (sslRead kernel len).after) ∧
      ¬ (len ≤ record.length ∧ (sslRead kernel len).result = min len record.length)) := by
  obtain ⟨count, some, fits, inside, result, data, rest⟩ :=
    reads.hands kernel len record later found nonempty asked
  by_cases whole : count = len
  · subst whole
    left
    have received := receive_whole inside result data
    have first : (plaintext records kernel).take count = record.take count := by
      rw [plaintext, found, List.flatten_cons, List.take_append_of_le_length inside]
    refine ⟨?_, ?_, rest, inside, ?_⟩
    · rw [first, received]
    · rw [plaintext, plaintext, rest, takeOff_flatten inside, found]
    · rw [result, Nat.min_eq_left inside]
  · right
    have short : (sslRead kernel len).result ≠ len := by
      rw [result]
      exact fun same => whole (Int.ofNat_inj.mp same)
    refine ⟨receive_short short, ?_⟩
    rintro ⟨reaches, full⟩
    rw [Nat.min_eq_left reaches] at full
    exact short full

theorem records_received_iff (reads : RecordReads sslRead records) :
    ∀ (lens : List Nat) (kernel : K), (∀ record ∈ records kernel, record ≠ []) →
      (∀ len ∈ lens, 0 < len) → lens.sum ≤ (plaintext records kernel).length →
      (Delivers (DataLayer.receiveData (receiveInto sslRead)) (plaintext records) lens kernel ↔
        Within (records kernel) lens ∧ Fills sslRead records lens kernel) := by
  intro lens
  induction lens with
  | nil =>
      intro kernel _ _ _
      refine iff_of_true trivial ⟨?_, trivial⟩
      cases records kernel <;> trivial
  | cons len lens inductionHypothesis =>
      intro kernel nonempty positive enough
      obtain ⟨asked, positiveLater⟩ := List.forall_mem_cons.mp positive
      rw [List.sum_cons] at enough
      cases found : records kernel with
      | nil =>
          rw [plaintext, found, List.flatten_nil, List.length_nil] at enough
          omega
      | cons record later =>
          have first : record ≠ [] := nonempty record (by simp [found])
          rw [Delivers, Within, Fills, found, List.headD_cons]
          rcases receive_first reads found first asked with
            ⟨received, others, rest, reaches, full⟩ | ⟨failed, refused⟩
          · have next := inductionHypothesis (sslRead kernel len).after
              (by rw [rest, ← found]; exact takeOff_nonempty nonempty len) positiveLater
              (by rw [others, List.length_drop]; omega)
            rw [rest] at next
            constructor
            · rintro ⟨after, received', -, delivers⟩
              obtain rfl : (sslRead kernel len).after = after :=
                congrArg Prod.snd (received.symm.trans received')
              obtain ⟨within, fills⟩ := next.mp delivers
              exact ⟨⟨reaches, within⟩, full, fills⟩
            · rintro ⟨⟨-, within⟩, -, fills⟩
              exact ⟨_, received, others, next.mpr ⟨within, fills⟩⟩
          · refine iff_of_false ?_ ?_
            · rintro ⟨after, received, -⟩
              cases failed.symm.trans received
            · rintro ⟨⟨reaches, -⟩, full, -⟩
              exact refused ⟨reaches, full⟩

/-- A connection that hands over as much as it may. -/
def readRecord (records : List Bytes) (len : Nat) : ReadAnswer (List Bytes) :=
  let count := min len (records.headD []).length
  ⟨count, (records.headD []).take count, takeOff count records⟩

end Receiving

theorem readRecord_reads : RecordReads readRecord id where
  hands kernel len record later found nonempty positive := by
    obtain rfl : kernel = record :: later := found
    have some := List.length_pos_iff.mpr nonempty
    exact ⟨min len record.length, by omega, Nat.min_le_left _ _, Nat.min_le_right _ _, rfl, rfl,
      rfl⟩

theorem requests_inside_records_received :
    Delivers (DataLayer.receiveData (receiveInto readRecord)) (plaintext id) [2, 1, 1]
      [[10, 20, 30], [40, 50]] :=
  (records_received_iff readRecord_reads [2, 1, 1] [[10, 20, 30], [40, 50]] (by decide) (by decide)
    (by decide)).mpr ⟨⟨by decide, by decide, by decide, trivial⟩, rfl, rfl, rfl, trivial⟩

/-- A request for the two bytes of two records. -/
theorem request_across_records_throws : RecordReads readRecord id ∧
    (∀ record ∈ id ([[10], [20]] : List Bytes), record ≠ []) ∧
    [2].sum ≤ (plaintext id ([[10], [20]] : List Bytes)).length ∧
    DataLayer.receiveData (receiveInto readRecord) 2 [[10], [20]] = (.error .io, [[20]]) ∧
    ¬ Delivers (DataLayer.receiveData (receiveInto readRecord)) (plaintext id) [2]
      [[10], [20]] := by
  have failed : DataLayer.receiveData (receiveInto readRecord) 2 [[10], [20]] =
      (.error .io, [[20]]) := receive_short (by decide)
  refine ⟨readRecord_reads, by decide, by decide, failed, ?_⟩
  rintro ⟨after, received, -⟩
  cases failed.symm.trans received

end OpenSSLTLS

end EasyRtmp
