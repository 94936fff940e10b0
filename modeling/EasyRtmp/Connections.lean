import EasyRtmp.ConformingSender
import EasyRtmp.Halves

/-!
# Connections, call by call

The constructor of an endpoint against the greeting of any peer, and what follows it:
the messages of a conforming peer are received, and whatever is sent conforms.  Each
call on the data layer is kept apart, so that the layers can be put underneath.
-/

set_option autoImplicit false

namespace EasyRtmp

open Lib Lib.ByteCodec

/-! ## The greeting of any peer -/

/-- The answer to a `C1`: its time, no time of the answer, and its random bytes. -/
def echoOf (c1 : Bytes) : Bytes := c1.take 4 ++ beBytes 4 0 ++ c1.drop 8

/-- The calls of a greeting. -/
def greeting (c1 c2 : Bytes) : List Bytes := [[3], c1, c2]

theorem greeting_flatten (c1 c2 : Bytes) : (greeting c1 c2).flatten = 3 :: c1 ++ c2 := by
  simp [greeting]

theorem greeting_lengths {c1 c2 : Bytes} (c1Length : c1.length = 1536)
    (c2Length : c2.length = 1536) :
    ∀ call ∈ greeting c1 c2, 0 < call.length ∧ call.length ≤ 1536 := by
  simp [greeting, c1Length, c2Length]

theorem hello_eq : hello = 3 :: ({} : C1).serialize := by
  rw [hello, show (C0.mk 3).serialize = [3] by decide +kernel, List.singleton_append]

theorem echoOf_hello : echoOf ({} : C1).serialize = echo := by decide +kernel

section Greeting

variable {c1 c2 : Bytes}

/-- A number that was read from four bytes is written as these. -/
theorem writeDataType_beValue {bytes : Bytes} (enough : 4 ≤ bytes.length) :
    writeDataType 4 4 false (beValue (bytes.take 4)) = bytes.take 4 := by
  have same := beBytes_beValue (bytes.take 4)
  rw [List.length_take_of_le enough] at same
  rw [writeDataType_be _ (Or.inr (Or.inr (Or.inl rfl))) (Nat.le_refl 4), same]

/-- Any 1536 bytes are a `C1`. -/
theorem c1_layout (length : c1.length = 1536) : c1 =
    writeDataType 4 4 false (beValue (c1.take 4)) ++
      writeDataType 4 4 false (beValue ((c1.drop 4).take 4)) ++ c1.drop 8 := by
  have behind : c1.drop 8 = (c1.drop 4).drop 4 := by rw [List.drop_drop]
  rw [writeDataType_beValue (by omega), writeDataType_beValue (by rw [List.length_drop]; omega),
    List.append_assoc, behind, List.take_append_drop, List.take_append_drop]

theorem beValue_four_lt (bytes : Bytes) : beValue (bytes.take 4) < 256 ^ 4 := by
  have bound := beValue_lt (bytes.take 4)
  have short : (bytes.take 4).length ≤ 4 := by
    rw [List.length_take]
    omega
  exact Nat.lt_of_lt_of_le bound (Nat.pow_le_pow_right (by decide) short)

theorem parse_c1 {α : Type} (length : c1.length = 1536) (make : Nat → Nat → Bytes → α) :
    parseBuffer (do
        let time ← readDataType 4 4 false 0
        let time2 ← readDataType 4 4 false 0
        let random ← readDataBytes 1528
        pure (make time time2 random) : Reader Stop α) c1 =
      .ok (make (beValue (c1.take 4)) (beValue ((c1.drop 4).take 4)) (c1.drop 8)) := by
  have width : (c1.drop 8).length = 1528 := by
    rw [List.length_drop, length]
  have parsed := @handshake_layout α _ _ make _ width (beValue_four_lt c1)
    (beValue_four_lt (c1.drop 4))
  rwa [← c1_layout length] at parsed

theorem sendHello_by (endpoint : RTMPEndpoint) :
    ReturnsBy sendHello endpoint [] [[3], ({} : C1).serialize] () endpoint := by
  have version : (C0.mk 3).toSerializable.serializeToBuffer = .ok [3] := by decide +kernel
  have random : ({} : C1).toSerializable.serializeToBuffer = .ok ({} : C1).serialize :=
    serializeToBuffer_exact (by rw [C1.serialize_length]; rfl) rfl
  exact (sendSerializable_by version endpoint).bind (sendSerializable_by random endpoint)

/-- The constructor's greeting up to each point where it waits for the peer.  Of the peer's
`C1` the time and the random bytes are sent back. -/
theorem handshake_parts (c1Length : c1.length = 1536) (c2Length : c2.length = 1536)
    (endpoint : RTMPEndpoint) : ∃ greeted answered : EndpointProg Unit,
      RunsBy ⟨endpoint, doHandshake⟩ [] [[3], ({} : C1).serialize] ⟨endpoint, greeted⟩ ∧
      RunsBy ⟨endpoint, greeted⟩ [[3], c1] [echoOf c1] ⟨endpoint, answered⟩ ∧
      RunsBy ⟨endpoint, answered⟩ [c2] [] ⟨endpoint, .ret ()⟩ := by
  have version : parseBuffer C0.parseRef [3] = .ok ⟨3⟩ := by decide +kernel
  have first : ReturnsBy (receiveSerializable C0.getLength C0.parseRef) endpoint [[3]] [] ⟨3⟩
      endpoint := receiveSerializable_by version endpoint
  have second := receiveSerializable_by (parse_c1 c1Length C1.mk) endpoint
  have third := receiveSerializable_by (parse_c1 c2Length C2.mk) endpoint
  rw [c1Length] at second
  rw [c2Length] at third
  have answered : (C2.mk (beValue (c1.take 4)) 0 (c1.drop 8)).toSerializable.serializeToBuffer =
      .ok (echoOf c1) := by
    refine serializeToBuffer_exact ?_ ?_
    · simp [C2.toSerializable, C2.getLength, echoOf, c1Length]
    · rw [C2.toSerializable, C2.serialize, writeDataType_beValue (by omega),
        writeDataType_be 0 (Or.inr (Or.inr (Or.inl rfl))) (Nat.le_refl 4), echoOf]
  have reads : ReturnsBy receiveHello endpoint [[3], c1] []
      ⟨beValue (c1.take 4), beValue ((c1.drop 4).take 4), c1.drop 8⟩ endpoint := first.bind second
  have awaits : ReturnsBy awaitEcho endpoint [c2] [] () endpoint :=
    third.bind_silent (.pure () endpoint)
  exact ⟨_, _, (sendHello_by endpoint).bindLeft _,
    (reads.bindLeft _).trans ((sendSerializable_by answered endpoint).bindLeft _), awaits⟩

theorem doHandshake_by (c1Length : c1.length = 1536) (c2Length : c2.length = 1536)
    (endpoint : RTMPEndpoint) :
    ReturnsBy doHandshake endpoint (greeting c1 c2) (greeting ({} : C1).serialize (echoOf c1)) ()
      endpoint := by
  obtain ⟨greeted, answered, greets, answers, awaits⟩ :=
    handshake_parts c1Length c2Length endpoint
  exact greets.trans (answers.trans awaits)

end Greeting

/-! ## What follows the greeting -/

theorem Agrees.receiver_congr {peer : Peer} {endpoint other : RTMPEndpoint}
    (agrees : Agrees peer endpoint) (same : other.SameReceiving endpoint) : Agrees peer other where
  positive := agrees.positive
  signed := agrees.signed
  sizes := same.chunkSizeReceive.trans agrees.sizes
  maximum := by
    rw [same.maxMessageSize]
    exact agrees.maximum
  streams id := by
    rw [same.inputStream id]
    exact agrees.streams id

/-- The message that an endpoint announces its chunk size with. -/
def chunkSizeMessage (chunkSize : Nat) : RTMPMessage :=
  ⟨.setChunkSize, 0, 4, 2, 0, beBytes 4 chunkSize⟩

theorem constructs_then {α : Type} (next : EndpointProg α) :
    (do
      constructEndpoint
      next) = doHandshake >>= fun _ => changeChunkSizeOutput 4096 >>= fun _ => next := by
  rw [constructEndpoint, bind_assoc]

/-- An endpoint announces chunks of 4096 bytes before it sends anything else. -/
theorem opened_sender {ops : List SendOp} (valid : ∀ op ∈ ops, op.Valid)
    (short : ShortTimes (fun _ => []) (.resize 4096 :: ops)) :
    ∃ calls endpoint peer,
      ReturnsBy (changeChunkSizeOutput 4096 >>= fun _ => sendOps ops) {} [] calls () endpoint ∧
      EncodesBy calls
        (chunkSizeMessage 4096 :: ops.map fun op => op.timed.toMessage op.chunkStreamId) peer ∧
      (∀ id, (peer.streams id).rest = []) ∧
      ∀ limit, 11 ≤ limit →
        ((∀ call ∈ calls, call.length ≤ limit) ↔ ChunksWithin limit 4096 ops) := by
  have valid' : ∀ op ∈ SendOp.resize 4096 :: ops, op.Valid :=
    List.forall_mem_cons.mpr ⟨.resize (by decide), valid⟩
  obtain ⟨calls, endpoint, peer, sent, encodes, closed, within⟩ :=
    speaks_default.ops valid' .none short
  refine ⟨calls, endpoint, peer, sent, encodes, closed, fun limit fits => ?_⟩
  refine (within limit fits).trans ?_
  have announced : min 128 (SendOp.resize 4096).timed.payload.length ≤ limit := by
    rw [SendOp.timed, beBytes_length]
    omega
  exact and_iff_right announced

theorem announces_chunkSize : ∃ announcement endpoint peer,
    ReturnsBy (changeChunkSizeOutput 4096) {} [] announcement () endpoint ∧
    EncodesBy announcement [chunkSizeMessage 4096] peer := by
  have valid : SendOp.Valid (.resize 4096) := .resize (by decide)
  obtain ⟨announcement, -, endpoint, peer, -, sent, encodes, -, -⟩ :=
    speaks_default.op .none valid (show 0 < 0xFFFFFF by decide)
  exact ⟨announcement, endpoint, peer, sent, encodes⟩

/-- Behind its announcement an endpoint receives the messages of a conforming peer. -/
theorem opened_receiver {calls : List Bytes} {messages : List RTMPMessage} {peer : Peer}
    (encodes : EncodesBy calls messages peer) (closed : ∀ id, (peer.streams id).rest = []) :
    ∃ announcement endpoint announced,
      ReturnsBy (changeChunkSizeOutput 4096 >>= fun _ => receiveMessages messages.length) {} calls
        announcement messages endpoint ∧
      EncodesBy announcement [chunkSizeMessage 4096] announced := by
  obtain ⟨announcement, start, announced, announces, encodes'⟩ := announces_chunkSize
  have same := sending_frame (fun _ => changeChunkSizeOutput_lockstep 4096) announces.returns
  obtain ⟨endpoint, received⟩ := encodes.received_closed closed (agrees_default.receiver_congr same)
  have run : ReturnsBy (changeChunkSizeOutput 4096 >>= fun _ => receiveMessages messages.length) {}
      ([] ++ calls) (announcement ++ []) messages endpoint := announces.bind received
  rw [List.append_nil] at run
  exact ⟨announcement, endpoint, announced, run, encodes'⟩

/-- The constructor greets, and what comes behind it is done on the open connection. -/
theorem constructed {α : Type} {next : EndpointProg α} {value : α} {c1 c2 : Bytes}
    (c1Length : c1.length = 1536) (c2Length : c2.length = 1536) {inputs outputs : List Bytes}
    {endpoint : RTMPEndpoint}
    (opened : ReturnsBy (changeChunkSizeOutput 4096 >>= fun _ => next) {} inputs outputs value
      endpoint) :
    ReturnsBy (do
        constructEndpoint
        next) {} (greeting c1 c2 ++ inputs) (greeting ({} : C1).serialize (echoOf c1) ++ outputs)
      value endpoint := by
  rw [constructs_then]
  exact (doHandshake_by c1Length c2Length {}).bind opened

end EasyRtmp
