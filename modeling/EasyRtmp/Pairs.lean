import EasyRtmp.Connections
import EasyRtmp.Lib.Linked

/-!
# Two endpoints on one connection

One endpoint is asked to send and the other waits for the messages.  Both greet at once: each
sends its own hello before it waits for the other's, so that neither waits in vain.
-/

set_option autoImplicit false

namespace EasyRtmp

open Lib Lib.ByteCodec

def sendingEndpoint (ops : List SendOp) : EndpointProg Unit := do
  constructEndpoint
  sendOps ops

def receivingEndpoint (count : Nat) : EndpointProg (List RTMPMessage) := do
  constructEndpoint
  receiveMessages count

/-- What arrives: the announcement of the chunk size, and the messages of the calls. -/
def SendOp.arrivals (ops : List SendOp) : List RTMPMessage :=
  chunkSizeMessage 4096 :: ops.map fun op => op.timed.toMessage op.chunkStreamId

/-- Both before their constructors, with nothing under way between them. -/
def pair {K L N A α β : Type} (program : EndpointProg α) (program' : EndpointProg β) (system : K)
    (system' : L) : Linked K L N RTMPEndpoint RTMPEndpoint Stop α β A :=
  ⟨.running ⟨{}, program⟩ system, .running ⟨{}, program'⟩ system', [], []⟩

/-! ## One schedule -/

section Schedule

variable {N α β : Type} {refuse : Bytes → Option N}

theorem mem_greeting {c1 c2 call : Bytes}
    (member : call ∈ [[3], c1] ++ [[3], c1] ++ ([c2] ++ [c2])) : call ∈ greeting c1 c2 := by
  simp only [List.mem_append, List.mem_cons, List.not_mem_nil, or_false, or_self] at member
  simpa only [greeting, List.mem_cons, List.not_mem_nil, or_false, or_assoc] using member

theorem pair_greets (next : EndpointProg α) (next' : EndpointProg β)
    (accepted : ∀ call ∈ greeting ({} : C1).serialize echo, refuse call = none) :
    CallNetwork.Reaches refuse
      ⟨.running ⟨{}, doHandshake >>= fun _ => next⟩ [],
        .running ⟨{}, doHandshake >>= fun _ => next'⟩ []⟩
      ⟨.running ⟨{}, next⟩ [], .running ⟨{}, next'⟩ []⟩ := by
  obtain ⟨greeted, answered, greets, answers, awaits⟩ :=
    handshake_parts C1.serialize_length echo_length {}
  rw [echoOf_hello] at answers
  refine CallNetwork.reaches_greeting (greets.bindLeft fun _ => next)
    (greets.bindLeft fun _ => next') (answers.bindLeft fun _ => next)
    (answers.bindLeft fun _ => next') (awaits.bindLeft fun _ => next)
    (awaits.bindLeft fun _ => next') fun call member => ?_
  have listed : call ∈ greeting ({} : C1).serialize echo := mem_greeting member
  exact ⟨List.ne_nil_of_length_pos
    (greeting_lengths C1.serialize_length echo_length call listed).1, accepted call listed⟩

variable {ops : List SendOp} {calls : List Bytes} {sender : RTMPEndpoint}

/-- The constructors return, and the sender makes all its calls before the receiver goes on. -/
theorem pair_sends (count : Nat)
    (sends : ReturnsBy (changeChunkSizeOutput 4096 >>= fun _ => sendOps ops) {} [] calls () sender)
    (made : ∀ call ∈ calls, call ≠ [])
    (accepted : ∀ call ∈ greeting ({} : C1).serialize echo, refuse call = none) :
    CallNetwork.Reaches refuse
      ⟨.running ⟨{}, sendingEndpoint ops⟩ [], .running ⟨{}, receivingEndpoint count⟩ []⟩
      ⟨.running ⟨sender, .ret ()⟩ [], .running ⟨{}, changeChunkSizeOutput 4096 >>= fun _ =>
        receiveMessages count⟩ calls⟩ := by
  rw [sendingEndpoint, receivingEndpoint, constructs_then, constructs_then]
  have none : ∀ call ∈ ([] : List Bytes), CallNetwork.Accepted refuse call := List.forall_mem_nil _
  exact (pair_greets _ _ accepted).trans (CallNetwork.reaches_left sends none made _ [])

end Schedule

/-- What the two exchange: each call that the one receives is one that the other makes.  If
no call is refused both return; at a call that is refused the receiver throws. -/
theorem endpoints_exchange {ops : List SendOp} (valid : ∀ op ∈ ops, op.Valid)
    (short : ShortTimes (fun _ => []) (.resize 4096 :: ops)) :
    ∃ calls announcement sender receiver,
      ReturnsBy (sendingEndpoint ops) {} (greeting ({} : C1).serialize echo)
        (greeting ({} : C1).serialize echo ++ calls) () sender ∧
      ReturnsBy (receivingEndpoint (ops.length + 1)) {} (greeting ({} : C1).serialize echo ++ calls)
        (greeting ({} : C1).serialize echo ++ announcement) (SendOp.arrivals ops) receiver ∧
      (∀ limit, 11 ≤ limit →
        ((∀ call ∈ calls, call.length ≤ limit) ↔ ChunksWithin limit 4096 ops)) ∧
      ∀ {N : Type} {refuse : Bytes → Option N},
        (∀ call ∈ greeting ({} : C1).serialize echo, refuse call = none) →
        ((∀ call ∈ calls, refuse call = none) → ∃ queue queue', CallNetwork.Reaches refuse
          ⟨.running ⟨{}, sendingEndpoint ops⟩ [],
            .running ⟨{}, receivingEndpoint (ops.length + 1)⟩ []⟩
          ⟨.running ⟨sender, .ret ()⟩ queue,
            .running ⟨receiver, .ret (SendOp.arrivals ops)⟩ queue'⟩) ∧
        ∀ {exception : N}, (∀ call ∈ calls, refuse call = none ∨ refuse call = some exception) →
          (¬ ∀ call ∈ calls, refuse call = none) → ∃ state queue queue', CallNetwork.Reaches refuse
            ⟨.running ⟨{}, sendingEndpoint ops⟩ [],
              .running ⟨{}, receivingEndpoint (ops.length + 1)⟩ []⟩
            ⟨.running ⟨sender, .ret ()⟩ queue, .thrown exception state queue'⟩ := by
  have c1Length : ({} : C1).serialize.length = 1536 := C1.serialize_length
  have echoLength : echo.length = 1536 := echo_length
  obtain ⟨calls, sender, peer, sends, encodes, closed, within⟩ := opened_sender valid short
  obtain ⟨announcement, receiver, announced, receives, announces⟩ :=
    opened_receiver encodes closed
  rw [List.length_cons, List.length_map] at receives
  have sending := constructed c1Length echoLength sends
  have receiving := constructed c1Length echoLength receives
  rw [echoOf_hello] at sending receiving
  rw [List.append_nil] at sending
  refine ⟨calls, announcement, sender, receiver, sending, receiving, within,
    fun {N refuse} greets => ⟨fun accepted => ?_, fun {exception} refused unserved => ?_⟩⟩
  · have first := pair_sends (ops.length + 1) sends encodes.nonempty greets
    have second := CallNetwork.reaches_right receives
      (fun call member => ⟨encodes.nonempty call member, accepted call member⟩)
      announces.nonempty (.running ⟨sender, .ret ()⟩ [] : Execution (List Bytes) N _ _ _) []
    rw [List.append_nil] at second
    exact ⟨_, _, first.trans second⟩
  · have first := pair_sends (ops.length + 1) sends encodes.nonempty greets
    obtain ⟨state, queue, made, second⟩ := CallNetwork.throws_left receives encodes.nonempty
      announces.nonempty refused unserved
      (.running ⟨sender, .ret ()⟩ [] : Execution (List Bytes) N _ _ _) []
    rw [List.append_nil] at second
    exact ⟨state, _, queue, first.trans second.swap⟩

theorem pair_matches {K L N A α β : Type} {link : Link K N A} {link' : Link L N A}
    (pieces : Bytes → List A) (program : EndpointProg α) (program' : EndpointProg β) {system : K}
    {system' : L} (fresh : link.held system = []) (fresh' : link'.held system' = []) :
    Linked.Matches link link' pieces (pair program program' system system')
      ⟨.running ⟨{}, program⟩ [], .running ⟨{}, program'⟩ []⟩ :=
  ⟨.running _ (by rw [fresh]; rfl), .running _ (by rw [fresh']; rfl)⟩

/-! ## A call -/

def audioCall (payload : Bytes) : SendOp :=
  .message ⟨⟨.ok payload.length, .ok payload⟩, 4, 1, .audio, 23⟩

theorem audioCall_timed (payload : Bytes) :
    (audioCall payload).timed = ⟨.audio, 1, 23, payload⟩ := by
  have serialized : Serializable.serializeToBuffer ⟨.ok payload.length, .ok payload⟩ =
      .ok payload := serializeToBuffer_exact rfl rfl
  simp only [audioCall, SendOp.timed, SendCall.payload, serialized]

theorem audioCall_valid {payload : Bytes} (some : payload ≠ [])
    (limited : payload.length ≤ 512000) : (audioCall payload).Valid := by
  have timed := audioCall_timed payload
  have idBounds : 2 ≤ (4 : UInt8).toNat ∧ (4 : UInt8).toNat ≤ 63 := by decide
  refine .message idBounds ?_ (fun same => by cases same) ?_
  · rw [show SendCall.payload _ = payload from congrArg TimedMessage.payload timed]
    exact serializeToBuffer_exact rfl rfl
  · rw [audioCall] at timed
    rw [timed]
    exact {
      nonempty := some
      limited := limited
      streamBound := show 1 < 2 ^ 24 by decide
      notAbort := fun same => by cases same
      size := fun same => by cases same
      window := fun same => by cases same
      bandwith := fun same => by cases same }

end EasyRtmp
