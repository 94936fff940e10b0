import EasyRtmp.Pairs
import EasyRtmp.DataLayers

/-!
# Endpoints over TLS

TLS carries what it is given in records, and one `SSL_read` stops at the end of a record.
`OpenSSL_TLS::receive_data` throws then.  Two endpoints of this library can talk over it
all the same: what the one asks for is what the other hands over in one call, and a call
is one record unless it is longer than a record may be.
-/

set_option autoImplicit false

namespace EasyRtmp

open Lib Lib.ByteCodec

variable {K : Type}

/-! ## The connection as a transport -/

namespace OpenSSLTLS

def transport (sslRead : K → Nat → ReadAnswer K) (sslWrite : K → Bytes → Int × K) :
    Transport K OpenSSLError where
  receive := DataLayer.receiveData (receiveInto sslRead)
  send := sendData sslWrite

/-- The plaintext of a record. -/
def recordLimit : Nat := 2 ^ 14

def fragments (data : Bytes) : List Bytes :=
  if data.length ≤ recordLimit then [data]
  else data.take recordLimit :: fragments (data.drop recordLimit)
  termination_by data.length
  decreasing_by
    rw [List.length_drop]
    simp only [recordLimit] at *
    omega

theorem fragments_short {data : Bytes} (short : data.length ≤ recordLimit) :
    fragments data = [data] := by
  rw [fragments, if_pos short]

theorem fragments_long {data : Bytes} (long : ¬ data.length ≤ recordLimit) :
    fragments data = data.take recordLimit :: fragments (data.drop recordLimit) := by
  rw [fragments, if_neg long]

/-- A TLS connection: `SSL_write` makes records of all that it is given, and `SSL_read`
hands out as much of the current record as was asked for. -/
structure Session (sslRead : K → Nat → ReadAnswer K) (sslWrite : K → Bytes → Int × K)
    (records written : K → List Bytes) : Prop where
  reads : RecordReads sslRead records
  full : ∀ kernel len record later, records kernel = record :: later → record ≠ [] → 0 < len →
    (sslRead kernel len).result = min len record.length
  keeps : ∀ kernel len, written (sslRead kernel len).after = written kernel
  writes : ∀ kernel data, data ≠ [] → (sslWrite kernel data).1 = data.length ∧
    written (sslWrite kernel data).2 = written kernel ++ fragments data ∧
    records (sslWrite kernel data).2 = records kernel

/-- One end of a connection, with the records that have arrived. -/
structure Connection (K : Type) where
  sslRead : K → Nat → ReadAnswer K
  sslWrite : K → Bytes → Int × K
  records : K → List Bytes
  written : K → List Bytes
  arrive : List Bytes → K → K
  session : Session sslRead sslWrite records written
  arriving : Arriving records arrive

/-- `SSL_read` waits for a record. -/
def Connection.link (connection : Connection K) : Link K OpenSSLError Bytes where
  transport := transport connection.sslRead connection.sslWrite
  held := connection.records
  written := connection.written
  arrive := connection.arrive
  Waits _ kernel := connection.records kernel = []

/-- The one request of a call that one record cannot hold throws. -/
def refuse (data : Bytes) : Option OpenSSLError :=
  if data.length ≤ recordLimit then none else some .io

theorem refuse_none {data : Bytes} : refuse data = none ↔ data.length ≤ recordLimit := by
  rw [refuse]
  split <;> simp [*]

theorem refuse_some {data : Bytes} {exception : OpenSSLError}
    (refused : refuse data = some exception) :
    exception = .io ∧ ¬ data.length ≤ recordLimit := by
  rw [refuse] at refused
  split at refused
  · cases refused
  · rename_i long
    exact ⟨(Option.some.inj refused).symm, long⟩

theorem fragments_some (data : Bytes) : fragments data ≠ [] := by
  rw [fragments]
  split <;> exact List.cons_ne_nil _ _

section Connection

variable {connection : Connection K} {kernel : K} {onWay later : List Bytes} {data : Bytes}

/-- A call that one record holds is received by one request of its length. -/
theorem Connection.receives (nonempty : data ≠ []) (short : data.length ≤ recordLimit)
    (arrives : connection.records kernel ++ onWay = fragments data ++ later)
    (ready : connection.records kernel ≠ []) :
    ∃ after, connection.link.transport.receive data.length kernel = (.ok data, after) ∧
      connection.records after ++ onWay = later ∧
      connection.written after = connection.written kernel := by
  obtain ⟨record, behind, found⟩ := List.exists_cons_of_ne_nil ready
  rw [found, fragments_short short, List.cons_append, List.singleton_append] at arrives
  obtain ⟨rfl, rest⟩ := List.cons.inj arrives
  have some := List.length_pos_of_ne_nil nonempty
  have full := connection.session.full kernel record.length record behind found nonempty some
  rcases receive_first connection.session.reads found nonempty some with
    ⟨received, -, dropped, -, -⟩ | ⟨-, refused⟩
  · rw [plaintext, found, List.flatten_cons, List.take_left] at received
    rw [takeOff, if_neg (Nat.lt_irrefl _)] at dropped
    exact ⟨_, received, dropped ▸ rest, connection.session.keeps kernel record.length⟩
  · exact absurd ⟨Nat.le_refl _, full⟩ refused

/-- A longer one is not: the first record ends before it does. -/
theorem Connection.refuses (long : ¬ data.length ≤ recordLimit)
    (arrives : connection.records kernel ++ onWay = fragments data ++ later)
    (ready : connection.records kernel ≠ []) :
    ∃ after, connection.link.transport.receive data.length kernel = (.error .io, after) ∧
      connection.written after = connection.written kernel := by
  obtain ⟨record, behind, found⟩ := List.exists_cons_of_ne_nil ready
  rw [found, fragments_long long, List.cons_append, List.cons_append] at arrives
  obtain ⟨rfl, -⟩ := List.cons.inj arrives
  have size : (data.take recordLimit).length = recordLimit := List.length_take_of_le (by omega)
  have nonempty : data.take recordLimit ≠ [] := by
    apply List.ne_nil_of_length_pos
    rw [size]
    decide
  have asked : 0 < data.length := by omega
  rcases receive_first connection.session.reads found nonempty asked with
    ⟨-, -, -, reaches, -⟩ | ⟨failed, -⟩
  · rw [size] at reaches
    exact absurd reaches long
  · exact ⟨_, failed, connection.session.keeps kernel data.length⟩

theorem Connection.hands (connection : Connection K) :
    connection.link.Hands fragments refuse where
  waits nothing _ := nothing
  wakes := by
    intro kernel data queue arrived _ waits
    rw [show connection.link.held kernel = [] from waits, List.flatMap_cons] at arrived
    exact fragments_some data (List.append_eq_nil_iff.mp arrived.symm).1
  receives := by
    intro kernel onWay data queue arrives nonempty ready taken
    rw [List.flatMap_cons] at arrives
    exact Connection.receives nonempty (refuse_none.mp taken) arrives ready
  refuses := by
    intro kernel onWay data queue exception arrives _ ready refused
    obtain ⟨rfl, long⟩ := refuse_some refused
    rw [List.flatMap_cons] at arrives
    exact Connection.refuses long arrives ready
  sends kernel data nonempty := by
    obtain ⟨whole, grown, apart⟩ := connection.session.writes kernel data nonempty
    exact ⟨(connection.sslWrite kernel data).2, if_neg (not_not.mpr whole), apart, grown⟩
  arrives := connection.arriving

end Connection

end OpenSSLTLS

/-! ## Two endpoints -/

open OpenSSLTLS

/-- Two endpoints of this library on one TLS connection.  Each `receive_data` of the one asks
for one `send_data` of the other.  So in whatever order the two sides go on, all that the one
is asked to send is received by the other, in order, unless a chunk is longer than a record.
Then the receiver throws. -/
theorem endpoints_over_tls {ops : List SendOp} (valid : ∀ op ∈ ops, op.Valid)
    (short : ShortTimes (fun _ => []) (.resize 4096 :: ops)) :
    ∃ calls announcement sender receiver,
      ReturnsBy (sendingEndpoint ops) {} (greeting ({} : C1).serialize echo)
        (greeting ({} : C1).serialize echo ++ calls) () sender ∧
      ReturnsBy (receivingEndpoint (ops.length + 1)) {} (greeting ({} : C1).serialize echo ++ calls)
        (greeting ({} : C1).serialize echo ++ announcement) (SendOp.arrivals ops) receiver ∧
      ∀ {K L : Type} (connection : OpenSSLTLS.Connection K) (connection' : OpenSSLTLS.Connection L)
        {kernel : K} {kernel' : L}, connection.records kernel = [] →
        connection'.records kernel' = [] →
        (ChunksWithin recordLimit 4096 ops → Linked.Settles connection.link connection'.link
          (pair (sendingEndpoint ops) (receivingEndpoint (ops.length + 1)) kernel kernel')
          (.running ⟨sender, .ret ()⟩ ()) (.running ⟨receiver, .ret (SendOp.arrivals ops)⟩ ())) ∧
        (¬ ChunksWithin recordLimit 4096 ops → ∃ state,
          Linked.Settles connection.link connection'.link
            (pair (sendingEndpoint ops) (receivingEndpoint (ops.length + 1)) kernel kernel')
            (.running ⟨sender, .ret ()⟩ ()) (.thrown .io state ())) := by
  obtain ⟨calls, announcement, sender, receiver, sends, receives, within, exchange⟩ :=
    endpoints_exchange valid short
  have fits := within recordLimit (by decide)
  have accepted : (∀ call ∈ calls, refuse call = none) ↔ ChunksWithin recordLimit 4096 ops := by
    simp only [refuse_none]
    exact fits
  have greets : ∀ call ∈ greeting ({} : C1).serialize echo, refuse call = none := by
    intro call member
    obtain ⟨-, bound⟩ := greeting_lengths C1.serialize_length echo_length call member
    exact refuse_none.mpr (Nat.le_trans bound (by decide))
  obtain ⟨returns, throws⟩ := exchange greets
  refine ⟨calls, announcement, sender, receiver, sends, receives,
    fun connection connection' _ _ fresh fresh' => ⟨fun chunks => ?_, fun chunks => ?_⟩⟩
  · obtain ⟨queue, queue', schedule⟩ := returns (accepted.mpr chunks)
    exact (pair_matches fragments _ _ fresh fresh').settles connection.hands connection'.hands
      schedule ⟨.inl ⟨_, rfl⟩, .inl ⟨_, rfl⟩⟩
  · have refused : ∀ call ∈ calls, refuse call = none ∨ refuse call = some .io := fun call _ =>
      (em (call.length ≤ recordLimit)).imp (fun fits => if_pos fits) (fun long => if_neg long)
    obtain ⟨state, queue, queue', schedule⟩ := throws refused (mt accepted.mp chunks)
    exact ⟨state, (pair_matches fragments _ _ fresh fresh').settles connection.hands
      connection'.hands schedule ⟨.inl ⟨_, rfl⟩, trivial⟩⟩

abbrev RecordPipe := List Bytes × List Bytes

namespace RecordPipe

def read (pipe : RecordPipe) (len : Nat) : ReadAnswer RecordPipe :=
  let answer := readRecord pipe.1 len
  ⟨answer.result, answer.data, (answer.after, pipe.2)⟩

def write (pipe : RecordPipe) (data : Bytes) : Int × RecordPipe :=
  (data.length, (pipe.1, pipe.2 ++ fragments data))

theorem session : Session read write Prod.fst Prod.snd where
  reads := ⟨fun pipe => readRecord_reads.hands pipe.1⟩
  full pipe len record later found _ _ := by
    show ((min len ((pipe.1).headD []).length : Nat) : Int) = _
    rw [found, List.headD_cons, Nat.cast_min]
  keeps _ _ := rfl
  writes _ _ _ := ⟨rfl, rfl, rfl⟩

def connection : OpenSSLTLS.Connection RecordPipe where
  sslRead := read
  sslWrite := write
  records := Prod.fst
  written := Prod.snd
  arrive first pipe := (pipe.1 ++ first, pipe.2)
  session := session
  arriving _ _ := rfl

end RecordPipe

/-- An audio message of 3 bytes arrives.  One of 20000 bytes in a single chunk makes the
receiver throw. -/
theorem audio_between_record_pipes :
    (∃ sender receiver : RTMPEndpoint, ∃ last,
      Linked.Reaches RecordPipe.connection.link RecordPipe.connection.link
        (pair (sendingEndpoint [audioCall [1, 2, 3]]) (receivingEndpoint 2) ([], []) ([], []))
        last ∧
      last.left.forget = .running ⟨sender, .ret ()⟩ () ∧
      last.right.forget = .running ⟨receiver, .ret
        [chunkSizeMessage 4096, ⟨.audio, 1, 3, 4, 23, [1, 2, 3]⟩]⟩ ()) ∧
    ∃ sender state : RTMPEndpoint, ∃ last,
      Linked.Reaches RecordPipe.connection.link RecordPipe.connection.link
        (pair (sendingEndpoint [.resize 20000, audioCall (List.replicate 20000 0)])
          (receivingEndpoint 3) ([], []) ([], [])) last ∧
      last.left.forget = .running ⟨sender, .ret ()⟩ () ∧
      last.right.forget = .thrown .io state () := by
  constructor
  · have valid : ∀ op ∈ [audioCall [1, 2, 3]], op.Valid :=
      List.forall_mem_singleton.mpr (audioCall_valid (List.cons_ne_nil _ _) (by decide))
    have within : ChunksWithin recordLimit 4096 [audioCall [1, 2, 3]] :=
      ⟨show 3 ≤ 2 ^ 14 by decide, trivial⟩
    obtain ⟨calls, announcement, sender, receiver, -, -, settles⟩ := endpoints_over_tls valid
      ⟨show 0 < 0xFFFFFF by decide, show 23 < 0xFFFFFF by decide, trivial⟩
    obtain ⟨last, path, returned, received⟩ :=
      ((@settles _ _ RecordPipe.connection RecordPipe.connection ([], []) ([], []) rfl
        rfl).1 within).completes
    exact ⟨sender, receiver, last, path, returned, received⟩
  · have size : (List.replicate 20000 (0 : UInt8)).length = 20000 := List.length_replicate
    have valid : ∀ op ∈ [SendOp.resize 20000, audioCall (List.replicate 20000 0)], op.Valid := by
      refine List.forall_mem_cons.mpr ⟨.resize (by decide), List.forall_mem_singleton.mpr ?_⟩
      have some : 0 < (List.replicate 20000 (0 : UInt8)).length := by
        rw [size]
        decide
      exact audioCall_valid (List.ne_nil_of_length_pos some) (by rw [size]; decide)
    have long : ¬ ChunksWithin recordLimit 4096
        [SendOp.resize 20000, audioCall (List.replicate 20000 0)] := by
      rintro ⟨-, reaches, -⟩
      rw [audioCall_timed, size] at reaches
      exact absurd reaches (by decide)
    obtain ⟨calls, announcement, sender, receiver, -, -, settles⟩ := endpoints_over_tls valid
      ⟨show 0 < 0xFFFFFF by decide, show 0 < 0xFFFFFF by decide, show 23 < 0xFFFFFF by decide,
        trivial⟩
    obtain ⟨state, settled⟩ :=
      (@settles _ _ RecordPipe.connection RecordPipe.connection ([], []) ([], []) rfl rfl).2 long
    obtain ⟨last, path, returned, thrown⟩ := settled.completes
    exact ⟨sender, state, last, path, returned, thrown⟩

end EasyRtmp
