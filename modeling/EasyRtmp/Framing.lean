import EasyRtmp.Halves
import EasyRtmp.Transfer

/-!
# Two endpoints joined by two channels

Either side sends messages, changes its chunk size and receives, in any order.
A receive may stop between two chunks of a message and be taken up again later.
The invariant `InFlight` runs the receiver on the bytes under way: it delivers
the messages that are missing and ends in step with the sender.
-/

set_option autoImplicit false

namespace EasyRtmp

open Lib Lib.ByteCodec

/-! ## The network -/

inductive Side where
  | a
  | b
  deriving DecidableEq, Repr

def Side.other : Side → Side
  | .a => .b
  | .b => .a

@[simp] theorem Side.other_other (side : Side) : side.other.other = side := by
  cases side <;> rfl

@[simp] theorem Side.other_ne (side : Side) : side.other ≠ side := by
  cases side <;> decide

@[simp] theorem Side.ne_other (side : Side) : side ≠ side.other := by
  cases side <;> decide

theorem Side.eq_other_of_ne {side actor : Side} (ne : actor ≠ side) : actor = side.other := by
  cases side <;> cases actor <;> first | rfl | exact absurd rfl ne

/-- What the two sides compare of a message. -/
structure Delivery where
  messageType : RTMPMessageType
  messageStreamId : Nat
  chunkStreamId : UInt8
  data : Bytes
  deriving DecidableEq, Repr

def RTMPMessage.delivery (message : RTMPMessage) : Delivery :=
  ⟨message.messageType, message.messageStreamId, message.chunkStreamId, message.data⟩

inductive Action where
  | send (data : Serializable) (chunkStreamId : UInt8) (messageStreamId : Nat)
      (messageType : RTMPMessageType) (timestamp : Nat)
  | changeChunkSize (chunkSize : Nat)
  | receive
  | receivePart

structure Network where
  endpoint : Side → RTMPEndpoint
  channel : Side → Bytes
  sent : Side → List Delivery
  delivered : Side → List Delivery

namespace Network

/-- Both endpoints after `DoHandshake`. -/
def afterHandshake : Network := ⟨fun _ => {}, fun _ => [], fun _ => [], fun _ => []⟩

/-- `side` sent `output`, the encoding of `message`. -/
def emit (net : Network) (side : Side) (endpoint : RTMPEndpoint) (output : Bytes)
    (message : Delivery) : Network :=
  { net with
    endpoint := Function.update net.endpoint side endpoint
    channel := Function.update net.channel side (net.channel side ++ output)
    sent := Function.update net.sent side (net.sent side ++ [message]) }

/-- `side` received up to `rest`. -/
def absorb (net : Network) (side : Side) (endpoint : RTMPEndpoint) (rest : Bytes)
    (messages : List Delivery) : Network :=
  { net with
    endpoint := Function.update net.endpoint side endpoint
    channel := Function.update net.channel side.other rest
    delivered := Function.update net.delivered side (net.delivered side ++ messages) }

end Network

/-- The types that `SendRTMPMessage` is not called with from outside. -/
def RTMPMessageType.Control (messageType : RTMPMessageType) : Prop :=
  1 ≤ messageType.value.toNat ∧ messageType.value.toNat ≤ 6

instance (messageType : RTMPMessageType) : Decidable messageType.Control := by
  unfold RTMPMessageType.Control
  infer_instance

inductive Step : Network → Side × Action → Network → Prop where
  | send {net : Network} {side : Side} {data : Serializable} {chunkStreamId : UInt8}
      {messageStreamId : Nat} {messageType : RTMPMessageType} {timestamp : Nat}
      {payload output : Bytes} {after : RTMPEndpoint}
      (idBounds : 2 ≤ chunkStreamId.toNat ∧ chunkStreamId.toNat ≤ 63)
      (streamBound : messageStreamId < 2 ^ 24) (notControl : ¬ messageType.Control)
      (serialized : data.serializeToBuffer = .ok payload) (nonempty : payload ≠ [])
      (limited : payload.length ≤ 512000)
      (call : Returns (sendRTMPMessage data chunkStreamId messageStreamId messageType timestamp)
        (net.endpoint side) [] output () after) :
      Step net (side, .send data chunkStreamId messageStreamId messageType timestamp)
        (net.emit side after output ⟨messageType, messageStreamId, chunkStreamId, payload⟩)
  | changeChunkSize {net : Network} {side : Side} {chunkSize : Nat} {output : Bytes}
      {after : RTMPEndpoint} (bounds : 1 ≤ chunkSize ∧ chunkSize < 2 ^ 31)
      (call : Returns (changeChunkSizeOutput chunkSize) (net.endpoint side) [] output () after) :
      Step net (side, .changeChunkSize chunkSize)
        (net.emit side after output ⟨.setChunkSize, 0, 2, beBytes 4 chunkSize⟩)
  | receive {net : Network} {side : Side} {input rest : Bytes} {message : RTMPMessage}
      {middle after : RTMPEndpoint} (arrived : net.channel side.other = input ++ rest)
      (call : Returns getRTMPMessage (net.endpoint side) input [] message middle)
      (handled : Returns (handleMessage message) middle [] [] () after) :
      Step net (side, .receive) (net.absorb side after rest [message.delivery])
  | receivePart {net : Network} {side : Side} {input rest : Bytes} {after : RTMPEndpoint}
      (arrived : net.channel side.other = input ++ rest)
      (pass : Returns receiveChunk (net.endpoint side) input [] (.inl ()) after) :
      Step net (side, .receivePart) (net.absorb side after rest [])

inductive Run (start : Network) : List (Side × Action) → Network → Prop where
  | start : Run start [] start
  | step {trace : List (Side × Action)} {net after : Network} {action : Side × Action}
      (run : Run start trace net) (step : Step net action after) :
      Run start (trace ++ [action]) after

/-! ## The bytes under way -/

/-- A pass of the loop begins by waiting for the basic header. -/
theorem receiveChunk_waits : ∃ next, receiveChunk = .recv 1 next := by
  have nonnegative : ¬ ((ChunkBasicHeader.getLength : Nat) : Int) < 0 := by omega
  unfold receiveChunk receiveChunkHeader receiveSerializable receiveData
  rw [if_neg nonnegative, Int.toNat_natCast, Prog.recvBytes, Prog.recv_bind, Prog.recv_bind,
    Prog.recv_bind, ChunkBasicHeader.getLength]
  exact ⟨_, rfl⟩

theorem receiveChunk_consumes {endpoint after : RTMPEndpoint} {input output : Bytes}
    {result : Unit ⊕ RTMPMessage} (pass : Returns receiveChunk endpoint input output result after) :
    input ≠ [] := by
  rintro rfl
  obtain ⟨next, waits⟩ := receiveChunk_waits
  rw [waits] at pass
  cases pass with
  | step moved _ => simp [Config.advance] at moved

theorem getRTMPMessage_consumes {endpoint after : RTMPEndpoint} {input output : Bytes}
    {message : RTMPMessage} (call : Returns getRTMPMessage endpoint input output message after) :
    input ≠ [] := by
  rintro rfl
  obtain ⟨next, waits⟩ := receiveChunk_waits
  cases call with
  | step moved later =>
      simp only [getRTMPMessage, Prog.repeatUntil, Config.advance, Option.some.injEq,
        Prod.mk.injEq, waits] at moved
      obtain ⟨rfl, rfl, rfl⟩ := moved
      cases later with
      | step moved' _ => simp [Prog.bind, Config.advance] at moved'

/-- `receiver` run on `channel` delivers `pending` and is then in step with `sender`. -/
inductive InFlight (sender : RTMPEndpoint) : RTMPEndpoint → Bytes → List Delivery → Prop where
  | synced {receiver : RTMPEndpoint} (synced : Synced sender receiver) :
      InFlight sender receiver [] []
  | next {receiver middle after : RTMPEndpoint} {message : RTMPMessage} {stream channel : Bytes}
      {pending : List Delivery}
      (call : Returns getRTMPMessage receiver stream [] message middle)
      (handled : Returns (handleMessage message) middle [] [] () after)
      (later : InFlight sender after channel pending) :
      InFlight sender receiver (stream ++ channel) (message.delivery :: pending)

namespace InFlight

variable {sender receiver after : RTMPEndpoint} {channel : Bytes} {pending : List Delivery}

theorem of_empty (flight : InFlight sender receiver [] pending) :
    pending = [] ∧ Synced sender receiver := by
  generalize empty : ([] : Bytes) = channel at flight
  cases flight with
  | synced synced => exact ⟨rfl, synced⟩
  | next call _ _ =>
      exact absurd (List.append_eq_nil_iff.mp empty.symm).1 (getRTMPMessage_consumes call)

/-- What is sent in a synced state is appended to what is under way. -/
theorem send {sender' : RTMPEndpoint} {stream : Bytes} {message : Delivery}
    (flight : InFlight sender receiver channel pending)
    (arrives : ∀ receiver, Synced sender receiver → InFlight sender' receiver stream [message]) :
    InFlight sender' receiver (channel ++ stream) (pending ++ [message]) := by
  induction flight with
  | synced synced => exact arrives _ synced
  | next call handled _ ih =>
      rw [List.append_assoc]
      exact .next call handled ih

theorem receive {message : RTMPMessage} {middle : RTMPEndpoint} {input rest : Bytes}
    (flight : InFlight sender receiver (input ++ rest) pending)
    (call : Returns getRTMPMessage receiver input [] message middle)
    (handled : Returns (handleMessage message) middle [] [] () after) :
    ∃ later, pending = message.delivery :: later ∧ InFlight sender after rest later := by
  generalize whole : input ++ rest = channel at flight
  cases flight with
  | synced => exact absurd (List.append_eq_nil_iff.mp whole).1 (getRTMPMessage_consumes call)
  | next call' handled' later =>
      obtain ⟨rfl, rfl, rfl, -⟩ := call.unique call' whole
      obtain ⟨-, rfl, -, -⟩ := handled.unique handled' (Eq.refl ([] ++ []))
      rw [List.append_cancel_left whole]
      exact ⟨_, rfl, later⟩

/-- A pass that completes no message leaves the rest of the same call. -/
theorem receivePart {input rest : Bytes} (flight : InFlight sender receiver (input ++ rest) pending)
    (pass : Returns receiveChunk receiver input [] (.inl ()) after) :
    InFlight sender after rest pending := by
  generalize whole : input ++ rest = channel at flight
  cases flight with
  | synced => exact absurd (List.append_eq_nil_iff.mp whole).1 (receiveChunk_consumes pass)
  | next call handled later =>
      have again : Runs ⟨receiver, getRTMPMessage⟩ input [] ⟨after, getRTMPMessage⟩ :=
        Runs.loop_again pass
      rcases again.comparable call whole with ⟨extra, sent, tail, rfl, outputs⟩ |
        ⟨extra, sent, tail, -, -⟩
      · rw [List.append_assoc] at whole
        obtain rfl : [] = sent := outputs
        rw [List.append_cancel_left whole]
        exact .next tail handled later
      · obtain ⟨same, -, -⟩ := Runs.of_finished (Returns.finished _ _) tail
        exact nomatch congrArg Config.prog same

theorem receiver_congr {receiver' : RTMPEndpoint}
    (flight : InFlight sender receiver channel pending)
    (same : receiver.SameReceiving receiver') : InFlight sender receiver' channel pending := by
  induction flight generalizing receiver' with
  | synced synced =>
      refine .synced ⟨synced.positive, synced.signed, ?_, ?_, fun id => ?_⟩
      · rw [← same.chunkSizeReceive, synced.sizes]
      · rw [← same.maxMessageSize]
        exact synced.maximum
      · rw [← same.inputStream]
        exact synced.streams id
  | next call handled _ ih =>
      obtain ⟨middle', call', sameMiddle, -⟩ :=
        receiving_returns (fun _ => getRTMPMessage_lockstep) call same
      obtain ⟨after', handled', sameAfter, -⟩ :=
        receiving_returns (fun _ => handleMessage_lockstep _) handled sameMiddle
      exact .next call' handled' (ih sameAfter)

theorem positive (flight : InFlight sender receiver channel pending) :
    0 < sender.chunkSizeSend := by
  induction flight with
  | synced synced => exact synced.positive
  | next _ _ _ ih => exact ih

theorem sender_congr {sender' : RTMPEndpoint} (flight : InFlight sender receiver channel pending)
    (same : sender.SameSending sender') : InFlight sender' receiver channel pending := by
  induction flight with
  | synced synced =>
      refine .synced ⟨?_, ?_, ?_, synced.maximum, fun id => ?_⟩
      · rw [← same.chunkSizeSend]
        exact synced.positive
      · rw [← same.chunkSizeSend]
        exact synced.signed
      · rw [← same.chunkSizeSend, synced.sizes]
      · rw [← same.outputStream]
        exact synced.streams id
  | next call handled _ ih => exact .next call handled ih

end InFlight

/-! ## What a sender puts on the channel -/

/-- A message whose handling changes nothing. -/
theorem Synced.harmless {sender receiver sender' : RTMPEndpoint} (synced : Synced sender receiver)
    {data : Serializable} {payload output : Bytes} {id : UInt8} {messageStreamId : Nat}
    {messageType : RTMPMessageType} {timestamp : Nat}
    (serialized : data.serializeToBuffer = .ok payload)
    (sendable : Sendable id messageStreamId payload)
    (harmless : ∀ (message : RTMPMessage) (endpoint : RTMPEndpoint),
      message.messageType = messageType → message.data = payload →
        Returns (handleMessage message) endpoint [] [] () endpoint)
    (call : Returns (sendRTMPMessage data id messageStreamId messageType timestamp) sender []
      output () sender') :
    InFlight sender' receiver output [⟨messageType, messageStreamId, id, payload⟩] := by
  obtain ⟨stream, receiver', sends, receives, -, synced'⟩ :=
    synced.transfer serialized sendable messageType timestamp
  obtain ⟨-, rfl, -, rfl⟩ := sends.unique call (Eq.refl ([] ++ []))
  have flight := InFlight.next receives (harmless _ receiver' rfl rfl) (.synced synced')
  rwa [List.append_nil] at flight

theorem Synced.message {sender receiver sender' : RTMPEndpoint} (synced : Synced sender receiver)
    {data : Serializable} {payload output : Bytes} {id : UInt8} {messageStreamId : Nat}
    {messageType : RTMPMessageType} {timestamp : Nat}
    (serialized : data.serializeToBuffer = .ok payload)
    (sendable : Sendable id messageStreamId payload) (notControl : ¬ messageType.Control)
    (call : Returns (sendRTMPMessage data id messageStreamId messageType timestamp) sender []
      output () sender') :
    InFlight sender' receiver output [⟨messageType, messageStreamId, id, payload⟩] := by
  have other : ∀ control : RTMPMessageType, control.Control → messageType ≠ control := by
    rintro control isControl rfl
    exact notControl isControl
  refine synced.harmless serialized sendable ?_ call
  rintro message endpoint rfl -
  exact handleMessage_other (other .setChunkSize (by decide)) (other .abort (by decide))
    (other .windowAcknowledgementSize (by decide)) (other .setPeerBandwith (by decide)) endpoint

theorem Synced.chunkSize {sender receiver sender' : RTMPEndpoint} (synced : Synced sender receiver)
    {chunkSize : Nat} {output : Bytes} (positive : 0 < chunkSize) (signed : chunkSize < 2 ^ 31)
    (call : Returns (changeChunkSizeOutput chunkSize) sender [] output () sender') :
    InFlight sender' receiver output [⟨.setChunkSize, 0, 2, beBytes 4 chunkSize⟩] := by
  obtain ⟨stream, buffer, sends, receives, handled, synced'⟩ :=
    synced.changeChunkSize positive signed
  obtain ⟨-, rfl, -, rfl⟩ := sends.unique call (Eq.refl ([] ++ []))
  have flight := InFlight.next receives handled (.synced synced')
  rwa [List.append_nil] at flight

/-! ## The invariant of the network -/

/-- In either direction: what was sent is what was delivered and what is under way. -/
def Network.Consistent (net : Network) : Prop :=
  ∀ side, ∃ pending, InFlight (net.endpoint side) (net.endpoint side.other) (net.channel side)
    pending ∧ net.sent side = net.delivered side.other ++ pending

namespace Network

variable {net : Network} {actor : Side} {endpoint : RTMPEndpoint}

theorem consistent_afterHandshake : afterHandshake.Consistent :=
  fun _ => ⟨[], .synced synced_default, rfl⟩

theorem Consistent.emit (consistent : net.Consistent) {output : Bytes} {message : Delivery}
    (frame : endpoint.SameReceiving (net.endpoint actor))
    (arrives : ∀ receiver, Synced (net.endpoint actor) receiver →
      InFlight endpoint receiver output [message]) :
    (net.emit actor endpoint output message).Consistent := by
  intro side
  obtain ⟨pending, flight, sent⟩ := consistent side
  by_cases same : side = actor
  · subst same
    refine ⟨pending ++ [message], ?_, ?_⟩
    · simp only [Network.emit, Function.update_self, ne_eq, Side.other_ne, not_false_eq_true,
        Function.update_of_ne]
      exact flight.send arrives
    · simp only [Network.emit, Function.update_self, sent, List.append_assoc]
  · obtain rfl : actor = side.other := Side.eq_other_of_ne (Ne.symm same)
    refine ⟨pending, ?_, ?_⟩
    · simp only [Network.emit, Function.update_self, ne_eq, Side.ne_other, not_false_eq_true,
        Function.update_of_ne]
      exact flight.receiver_congr frame.symm
    · simp only [Network.emit, ne_eq, Side.ne_other, not_false_eq_true, Function.update_of_ne, sent]

theorem Consistent.absorb (consistent : net.Consistent) {rest : Bytes} {messages : List Delivery}
    (frame : endpoint.SameSending (net.endpoint actor))
    (progress : ∀ sender pending, InFlight sender (net.endpoint actor) (net.channel actor.other)
      pending → ∃ later, pending = messages ++ later ∧ InFlight sender endpoint rest later) :
    (net.absorb actor endpoint rest messages).Consistent := by
  intro side
  obtain ⟨pending, flight, sent⟩ := consistent side
  by_cases same : side = actor
  · subst same
    refine ⟨pending, ?_, ?_⟩
    · simp only [Network.absorb, Function.update_self, ne_eq, Side.other_ne, Side.ne_other,
        not_false_eq_true, Function.update_of_ne]
      exact flight.sender_congr frame.symm
    · simp only [Network.absorb, ne_eq, Side.other_ne, not_false_eq_true, Function.update_of_ne,
        sent]
  · obtain rfl : actor = side.other := Side.eq_other_of_ne (Ne.symm same)
    rw [Side.other_other] at progress
    obtain ⟨later, rfl, flight'⟩ := progress _ pending flight
    refine ⟨later, ?_, ?_⟩
    · simp only [Network.absorb, Side.other_other, Function.update_self, ne_eq, Side.ne_other,
        not_false_eq_true, Function.update_of_ne]
      exact flight'
    · simp only [Network.absorb, Function.update_self, sent, List.append_assoc]

theorem Consistent.step {after : Network} {action : Side × Action} (consistent : net.Consistent)
    (step : Step net action after) : after.Consistent := by
  cases step with
  | send idBounds streamBound notControl serialized nonempty limited call =>
      refine consistent.emit
        (sending_frame (fun _ => sendRTMPMessage_lockstep _ _ _ _ _) call) ?_
      intro receiver synced
      exact synced.message serialized ⟨by omega, streamBound, nonempty, limited⟩ notControl call
  | changeChunkSize bounds call =>
      refine consistent.emit (sending_frame (fun _ => changeChunkSizeOutput_lockstep _) call) ?_
      intro receiver synced
      exact synced.chunkSize bounds.1 bounds.2 call
  | receive arrived call handled =>
      have frame := receiving_frame (fun _ => handleMessage_lockstep _) handled
      refine consistent.absorb
        (frame.trans (receiving_frame (fun _ => getRTMPMessage_lockstep) call)) ?_
      intro sender pending flight
      rw [arrived] at flight
      exact flight.receive call handled
  | receivePart arrived pass =>
      refine consistent.absorb (receiving_frame (fun _ => receiveChunk_lockstep) pass) ?_
      intro sender pending flight
      rw [arrived] at flight
      exact ⟨pending, rfl, flight.receivePart pass⟩

theorem Consistent.run {start after : Network} {trace : List (Side × Action)}
    (consistent : start.Consistent) (run : Run start trace after) : after.Consistent := by
  induction run with
  | start => exact consistent
  | step _ step ih => exact ih.step step

end Network

/-! ## What the sending half has to do with it -/

/-- The steps that move bytes or messages from `side` to its peer. -/
def Concerns (side : Side) : Side × Action → Bool
  | (actor, .send ..) => actor = side
  | (actor, .changeChunkSize _) => actor = side
  | (actor, .receive) => actor = side.other
  | (actor, .receivePart) => actor = side.other

/-- Two networks that agree on all that lies between `side` and its peer. -/
structure Mirrors (side : Side) (net other : Network) : Prop where
  sending : (net.endpoint side).SameSending (other.endpoint side)
  receiving : (net.endpoint side.other).SameReceiving (other.endpoint side.other)
  channel : net.channel side = other.channel side
  delivered : net.delivered side.other = other.delivered side.other

namespace Mirrors

variable {side : Side} {net other : Network} {endpoint endpoint' : RTMPEndpoint}

theorem refl (side : Side) (net : Network) : Mirrors side net net :=
  ⟨.refl _, .refl _, rfl, rfl⟩

theorem emit (mirrors : Mirrors side net other) (output : Bytes) (message message' : Delivery)
    (same : endpoint.SameSending endpoint') :
    Mirrors side (net.emit side endpoint output message)
      (other.emit side endpoint' output message') := by
  constructor
  · simpa [Network.emit] using same
  · simpa [Network.emit] using mirrors.receiving
  · simp [Network.emit, mirrors.channel]
  · exact mirrors.delivered

theorem absorb (mirrors : Mirrors side net other) (rest : Bytes) (messages : List Delivery)
    (same : endpoint.SameReceiving endpoint') :
    Mirrors side (net.absorb side.other endpoint rest messages)
      (other.absorb side.other endpoint' rest messages) := by
  constructor
  · simpa [Network.absorb] using mirrors.sending
  · simpa [Network.absorb] using same
  · simp [Network.absorb]
  · simp [Network.absorb, mirrors.delivered]

theorem emit_other (mirrors : Mirrors side net other) (output : Bytes) (message : Delivery)
    (frame : endpoint.SameReceiving (net.endpoint side.other)) :
    Mirrors side (net.emit side.other endpoint output message) other := by
  constructor
  · simpa [Network.emit] using mirrors.sending
  · simpa [Network.emit] using frame.trans mirrors.receiving
  · simpa [Network.emit] using mirrors.channel
  · exact mirrors.delivered

theorem absorb_same (mirrors : Mirrors side net other) (rest : Bytes) (messages : List Delivery)
    (frame : endpoint.SameSending (net.endpoint side)) :
    Mirrors side (net.absorb side endpoint rest messages) other := by
  constructor
  · simpa [Network.absorb] using frame.trans mirrors.sending
  · simpa [Network.absorb] using mirrors.receiving
  · simpa [Network.absorb] using mirrors.channel
  · simpa [Network.absorb] using mirrors.delivered

/-- A step that concerns `side` is possible without all the others. -/
theorem step_concerning {after : Network} {action : Side × Action}
    (mirrors : Mirrors side net other) (concerns : Concerns side action = true)
    (step : Step net action after) :
    ∃ after', Step other action after' ∧ Mirrors side after after' := by
  cases step with
  | send idBounds streamBound notControl serialized nonempty limited call =>
      obtain rfl := of_decide_eq_true concerns
      obtain ⟨endpoint', call', same, -⟩ :=
        sending_returns (fun _ => sendRTMPMessage_lockstep _ _ _ _ _) call mirrors.sending
      exact ⟨_, .send idBounds streamBound notControl serialized nonempty limited call',
        mirrors.emit _ _ _ same⟩
  | changeChunkSize bounds call =>
      obtain rfl := of_decide_eq_true concerns
      obtain ⟨endpoint', call', same, -⟩ :=
        sending_returns (fun _ => changeChunkSizeOutput_lockstep _) call mirrors.sending
      exact ⟨_, .changeChunkSize bounds call', mirrors.emit _ _ _ same⟩
  | receive arrived call handled =>
      obtain rfl := of_decide_eq_true concerns
      obtain ⟨middle', call', sameMiddle, -⟩ :=
        receiving_returns (fun _ => getRTMPMessage_lockstep) call mirrors.receiving
      obtain ⟨endpoint', handled', same, -⟩ :=
        receiving_returns (fun _ => handleMessage_lockstep _) handled sameMiddle
      rw [Side.other_other, mirrors.channel] at arrived
      exact ⟨_, .receive (by rwa [Side.other_other]) call' handled', mirrors.absorb _ _ same⟩
  | receivePart arrived pass =>
      obtain rfl := of_decide_eq_true concerns
      obtain ⟨endpoint', pass', same, -⟩ :=
        receiving_returns (fun _ => receiveChunk_lockstep) pass mirrors.receiving
      rw [Side.other_other, mirrors.channel] at arrived
      exact ⟨_, .receivePart (by rwa [Side.other_other]) pass', mirrors.absorb _ _ same⟩

/-- A step that does not concern `side` changes nothing between it and its peer. -/
theorem step_unconcerned {after : Network} {action : Side × Action}
    (mirrors : Mirrors side net other) (unconcerned : ¬ Concerns side action = true)
    (step : Step net action after) : Mirrors side after other := by
  cases step with
  | send idBounds streamBound notControl serialized nonempty limited call =>
      obtain rfl := Side.eq_other_of_ne fun same => unconcerned (decide_eq_true same)
      exact mirrors.emit_other _ _
        (sending_frame (fun _ => sendRTMPMessage_lockstep _ _ _ _ _) call)
  | changeChunkSize bounds call =>
      obtain rfl := Side.eq_other_of_ne fun same => unconcerned (decide_eq_true same)
      exact mirrors.emit_other _ _ (sending_frame (fun _ => changeChunkSizeOutput_lockstep _) call)
  | @receive actor _ _ _ _ _ arrived call handled =>
      have ne : actor ≠ side.other := fun same => unconcerned (decide_eq_true same)
      obtain rfl : actor = side := by simpa using Side.eq_other_of_ne ne
      have frame := receiving_frame (fun _ => handleMessage_lockstep _) handled
      exact mirrors.absorb_same _ _
        (frame.trans (receiving_frame (fun _ => getRTMPMessage_lockstep) call))
  | @receivePart actor _ _ _ arrived pass =>
      have ne : actor ≠ side.other := fun same => unconcerned (decide_eq_true same)
      obtain rfl : actor = side := by simpa using Side.eq_other_of_ne ne
      exact mirrors.absorb_same _ _ (receiving_frame (fun _ => receiveChunk_lockstep) pass)

/-- The steps of one direction form a run of their own. -/
theorem run (side : Side) {start : Network} {trace : List (Side × Action)}
    (run : Run start trace net) :
    ∃ alone, Run start (trace.filter (Concerns side)) alone ∧ Mirrors side net alone := by
  induction run with
  | start => exact ⟨start, .start, refl side start⟩
  | @step trace net after action _ step ih =>
      obtain ⟨alone, run, mirrors⟩ := ih
      rw [List.filter_append]
      by_cases concerns : Concerns side action = true
      · obtain ⟨alone', step', mirrors'⟩ := mirrors.step_concerning concerns step
        refine ⟨alone', ?_, mirrors'⟩
        rw [List.filter_cons_of_pos concerns, List.filter_nil]
        exact .step run step'
      · refine ⟨alone, ?_, mirrors.step_unconcerned concerns step⟩
        rw [List.filter_cons_of_neg concerns, List.filter_nil, List.append_nil]
        exact run

end Mirrors

/-! ## End-to-end framing -/

def RTMPEndpoint.NothingPartlyRead (endpoint : RTMPEndpoint) : Prop :=
  ∀ id, (endpoint.inputStream id).messageBytesRead = 0

theorem Network.Consistent.drained {net : Network} (consistent : net.Consistent) {side : Side}
    (empty : net.channel side = []) :
    net.delivered side.other = net.sent side ∧ (net.endpoint side.other).NothingPartlyRead := by
  obtain ⟨pending, flight, sent⟩ := consistent side
  rw [empty] at flight
  obtain ⟨rfl, synced⟩ := flight.of_empty
  rw [List.append_nil] at sent
  exact ⟨sent.symm, fun id => (synced.streams id).idle⟩

/-- A receive on a channel that is not empty completes without an exception. -/
theorem Network.Consistent.receives {net : Network} (consistent : net.Consistent) {side : Side}
    (nonempty : net.channel side ≠ []) : ∃ after, Step net (side.other, .receive) after := by
  obtain ⟨pending, flight, -⟩ := consistent side
  generalize bytes : net.channel side = channel at flight nonempty
  cases flight with
  | synced => exact absurd rfl nonempty
  | next call handled _ =>
      rw [← Side.other_other side] at bytes
      exact ⟨_, .receive bytes call handled⟩

/-- Sends are never blocked. -/
theorem Network.Consistent.sends {net : Network} (consistent : net.Consistent) (side : Side)
    {data : Serializable} {payload : Bytes} {chunkStreamId : UInt8} {messageStreamId : Nat}
    {messageType : RTMPMessageType} (timestamp : Nat)
    (idBounds : 2 ≤ chunkStreamId.toNat ∧ chunkStreamId.toNat ≤ 63)
    (streamBound : messageStreamId < 2 ^ 24) (notControl : ¬ messageType.Control)
    (serialized : data.serializeToBuffer = .ok payload) (nonempty : payload ≠ [])
    (limited : payload.length ≤ 512000) :
    ∃ after, Step net (side, .send data chunkStreamId messageStreamId messageType timestamp)
      after := by
  obtain ⟨pending, flight, -⟩ := consistent side
  obtain ⟨stream, -, call⟩ := sendRTMPMessage_returns serialized nonempty flight.positive
    chunkStreamId messageStreamId messageType timestamp
  exact ⟨_, .send idBounds streamBound notControl serialized nonempty limited call⟩

theorem Network.Consistent.resizes {net : Network} (consistent : net.Consistent) (side : Side)
    {chunkSize : Nat} (bounds : 1 ≤ chunkSize ∧ chunkSize < 2 ^ 31) :
    ∃ after, Step net (side, .changeChunkSize chunkSize) after := by
  obtain ⟨pending, flight, -⟩ := consistent side
  have nonempty : beBytes 4 chunkSize ≠ [] := List.ne_nil_of_length_pos (by simp)
  obtain ⟨stream, -, call⟩ := sendRTMPMessage_returns (setChunkSize_payload chunkSize) nonempty
    flight.positive 2 0 .setChunkSize 0
  rw [beBytes_length] at call
  exact ⟨_, .changeChunkSize bounds (changeChunkSizeOutput_returns call)⟩

/-- No call of `side` fails or waits, nor does a receive of its peer while bytes are under way. -/
structure Network.Live (net : Network) (side : Side) : Prop where
  sends : ∀ (data : Serializable) (payload : Bytes) (chunkStreamId : UInt8)
    (messageStreamId : Nat) (messageType : RTMPMessageType) (timestamp : Nat),
    2 ≤ chunkStreamId.toNat ∧ chunkStreamId.toNat ≤ 63 → messageStreamId < 2 ^ 24 →
    ¬ messageType.Control → data.serializeToBuffer = .ok payload → payload ≠ [] →
    payload.length ≤ 512000 →
    ∃ after, Step net (side, .send data chunkStreamId messageStreamId messageType timestamp) after
  resizes : ∀ chunkSize, 1 ≤ chunkSize ∧ chunkSize < 2 ^ 31 →
    ∃ after, Step net (side, .changeChunkSize chunkSize) after
  receives : net.channel side ≠ [] → ∃ after, Step net (side.other, .receive) after

theorem Network.Consistent.live {net : Network} (consistent : net.Consistent) (side : Side) :
    net.Live side where
  sends _ _ _ _ _ timestamp idBounds streamBound notControl serialized nonempty limited :=
    consistent.sends side timestamp idBounds streamBound notControl serialized nonempty limited
  resizes _ bounds := consistent.resizes side bounds
  receives nonempty := consistent.receives nonempty

/-- In every reachable state no call of a side is blocked, and the other side has delivered
a prefix of what it has sent, all of it once the channel is empty, and the same as if the
receiver had never sent anything. -/
theorem framing_end_to_end {trace : List (Side × Action)} {net : Network}
    (run : Run .afterHandshake trace net) (side : Side) :
    net.Live side ∧
    net.delivered side.other <+: net.sent side ∧
    (net.channel side = [] →
      net.delivered side.other = net.sent side ∧ (net.endpoint side.other).NothingPartlyRead) ∧
    ∃ alone, Run .afterHandshake (trace.filter (Concerns side)) alone ∧
      alone.delivered side.other = net.delivered side.other := by
  have consistent := Network.consistent_afterHandshake.run run
  refine ⟨consistent.live side, ?_, fun empty => consistent.drained empty, ?_⟩
  · obtain ⟨pending, -, sent⟩ := consistent side
    exact ⟨pending, sent.symm⟩
  · obtain ⟨alone, aloneRun, mirrors⟩ := Mirrors.run side run
    exact ⟨alone, aloneRun, mirrors.delivered.symm⟩

/-- Of a message that is longer than a chunk the first chunk is read on its own. -/
theorem audio_partly_received {data : Serializable} {payload : Bytes}
    (serialized : data.serializeToBuffer = .ok payload) (long : 128 < payload.length)
    (limited : payload.length ≤ 512000) : ∃ net,
    Run .afterHandshake [(.a, .send data 4 1 .audio 23), (.b, .receivePart)] net ∧
    net.sent .a = [⟨.audio, 1, 4, payload⟩] ∧ net.sent .b = [] ∧ net.delivered .a = [] ∧
    net.delivered .b = [] := by
  have nonempty : payload ≠ [] := List.ne_nil_of_length_pos (by omega)
  obtain ⟨stream, chunked, sends⟩ := sendRTMPMessage_returns serialized nonempty
    (show 0 < ({} : RTMPEndpoint).chunkSizeSend by decide) 4 1 .audio 23
  have sent : Step .afterHandshake (.a, .send data 4 1 .audio 23) _ :=
    .send (by decide) (by decide) (by decide) serialized nonempty limited sends
  have header : (({} : RTMPEndpoint).outputStream 4).nextHeader 1 .audio 23 payload.length =
      .full ⟨23, payload.length, 8, 1⟩ := by
    rw [ChunkStream.nextHeader, if_neg (fun same => absurd same.2.1 (by decide)),
      if_neg (fun same => absurd same.1 (by decide))]
    rfl
  rw [header] at chunked
  have kept : payload.length % 2 ^ 24 = payload.length := Nat.mod_eq_of_lt (by omega)
  cases chunked with
  | last _ short => exact absurd long (Nat.not_lt.mpr short)
  | @more _ _ tail _ _ =>
      have pass := receiveChunk_partly (show (4 : UInt8).toNat < 64 by decide)
        (show (MessageHeader.full ⟨23, payload.length, 8, 1⟩).received.apply
          (({} : RTMPEndpoint).inputStream 4) = _ from rfl)
        (show 0 + payload.length = payload.length % 2 ^ 24 by omega)
        (show payload.length % 2 ^ 24 < 2 ^ 24 by omega)
        (show payload.length % 2 ^ 24 ≤ 512000 by omega)
        (show payload.length % 2 ^ 24 ≤ 512000 by omega) (by decide) long
      have arrived : ∀ (endpoint : RTMPEndpoint) (output : Bytes) (message : Delivery),
          (Network.afterHandshake.emit .a endpoint output message).channel (Side.b).other =
            output := fun _ _ _ => rfl
      exact ⟨_, .step (.step .start sent) (.receivePart (arrived _ _ _) pass), rfl, rfl, rfl, rfl⟩

/-! What a step adds to the lists of the two sides. -/

section Lists

variable {net after : Network} {side : Side}

theorem Step.sent_message {data : Serializable} {payload : Bytes} {chunkStreamId : UInt8}
    {messageStreamId : Nat} {messageType : RTMPMessageType} {timestamp : Nat}
    (serialized : data.serializeToBuffer = .ok payload)
    (step : Step net (side, .send data chunkStreamId messageStreamId messageType timestamp) after) :
    after.sent = Function.update net.sent side
      (net.sent side ++ [⟨messageType, messageStreamId, chunkStreamId, payload⟩]) ∧
    after.delivered = net.delivered := by
  cases step with
  | send _ _ _ serialized' _ _ _ =>
      obtain rfl := Except.ok.inj (serialized.symm.trans serialized')
      exact ⟨rfl, rfl⟩

theorem Step.sent_chunkSize {chunkSize : Nat}
    (step : Step net (side, .changeChunkSize chunkSize) after) :
    after.sent = Function.update net.sent side
      (net.sent side ++ [⟨.setChunkSize, 0, 2, beBytes 4 chunkSize⟩]) ∧
    after.delivered = net.delivered := by
  cases step with
  | changeChunkSize _ _ => exact ⟨rfl, rfl⟩

theorem Step.delivered_one (step : Step net (side, .receive) after) :
    after.sent = net.sent ∧ ∃ message,
      after.delivered = Function.update net.delivered side (net.delivered side ++ [message]) := by
  cases step with
  | receive _ _ _ => exact ⟨rfl, _, rfl⟩

end Lists

/-- Media in both directions: a message that is read in parts, and a change of the chunk
size behind it. -/
theorem media_both_ways : ∃ net, Run .afterHandshake
    [(.a, .send ⟨.ok 200, .ok (List.replicate 200 7)⟩ 4 1 .audio 23), (.b, .receivePart),
      (.b, .send ⟨.ok 2, .ok [9, 9]⟩ 6 1 .video 40), (.a, .changeChunkSize 4096),
      (.b, .receive), (.a, .receive), (.b, .receive)] net ∧
    net.delivered .b =
      [⟨.audio, 1, 4, List.replicate 200 7⟩, ⟨.setChunkSize, 0, 2, beBytes 4 4096⟩] ∧
    net.delivered .a = [⟨.video, 1, 6, [9, 9]⟩] := by
  have long : (List.replicate 200 (7 : UInt8)).length = 200 := List.length_replicate
  have video : (⟨.ok 2, .ok [9, 9]⟩ : Serializable).serializeToBuffer = .ok [9, 9] := by decide
  have audio : (⟨.ok 200, .ok (List.replicate 200 7)⟩ : Serializable).serializeToBuffer =
      .ok (List.replicate 200 7) := serializeToBuffer_exact (by rw [long]; rfl) rfl
  obtain ⟨net₂, run₂, sentA, sentB, gotA, gotB⟩ :=
    audio_partly_received audio (by omega) (by omega)
  obtain ⟨net₃, step₃⟩ := (framing_end_to_end run₂ .b).1.sends _ [9, 9] 6 1 .video 40 (by decide)
    (by decide) (by decide) video (by decide) (by decide)
  obtain ⟨sent₃, got₃⟩ := step₃.sent_message video
  have run₃ := run₂.step step₃
  obtain ⟨net₄, step₄⟩ := (framing_end_to_end run₃ .a).1.resizes 4096 (by decide)
  obtain ⟨sent₄, got₄⟩ := step₄.sent_chunkSize
  have run₄ := run₃.step step₄
  have sent : net₄.sent .a =
      [⟨.audio, 1, 4, List.replicate 200 7⟩, ⟨.setChunkSize, 0, 2, beBytes 4 4096⟩] ∧
      net₄.sent .b = [⟨.video, 1, 6, [9, 9]⟩] := by
    rw [sent₄, sent₃]
    simp [sentA, sentB]
  -- What was sent and is not delivered is under way, so that a receive returns it.
  obtain ⟨net₅, step₅⟩ := (framing_end_to_end run₄ .a).1.receives fun empty => by
    have all := ((framing_end_to_end run₄ .a).2.2.1 empty).1
    rw [sent.1, got₄, got₃] at all
    simp [Side.other, gotB] at all
  obtain ⟨sent₅, first, got₅⟩ := step₅.delivered_one
  have run₅ := run₄.step step₅
  obtain ⟨net₆, step₆⟩ := (framing_end_to_end run₅ .b).1.receives fun empty => by
    have all := ((framing_end_to_end run₅ .b).2.2.1 empty).1
    rw [sent₅, sent.2, got₅, got₄, got₃] at all
    simp [Side.other, gotA] at all
  obtain ⟨sent₆, answer, got₆⟩ := step₆.delivered_one
  have run₆ := run₅.step step₆
  obtain ⟨net₇, step₇⟩ := (framing_end_to_end run₆ .a).1.receives fun empty => by
    have all := ((framing_end_to_end run₆ .a).2.2.1 empty).1
    rw [sent₆, sent₅, sent.1, got₆, got₅, got₄, got₃] at all
    simp [Side.other, gotB] at all
  obtain ⟨sent₇, second, got₇⟩ := step₇.delivered_one
  have run₇ := run₆.step step₇
  have prefixB := (framing_end_to_end run₇ .a).2.1
  have prefixA := (framing_end_to_end run₇ .b).2.1
  rw [sent₇, sent₆, sent₅] at prefixA prefixB
  rw [sent.1] at prefixB
  rw [sent.2] at prefixA
  refine ⟨net₇, run₇, prefixB.eq_of_length ?_, prefixA.eq_of_length ?_⟩
  · rw [got₇, got₆, got₅, got₄, got₃]
    simp [Side.other, gotB]
  · rw [got₇, got₆, got₅, got₄, got₃]
    simp [Side.other, gotA]

end EasyRtmp
