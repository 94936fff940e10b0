import EasyRtmp.ChunkSizes
import EasyRtmp.SenderRecords

/-!
# Ids and lengths cut to their fields

A basic header has six bits for the chunk stream and a message header three bytes
for the length.  The sender takes any of both.
-/

set_option autoImplicit false

namespace EasyRtmp

open Lib Lib.ByteCodec

structure SendCall.AnyLength (call : SendCall) : Prop where
  streamBound : call.messageStreamId < 2 ^ 24
  nonempty : call.data.serializeToBuffer = .ok call.payload → call.payload ≠ []
  signed : call.data.serializeToBuffer = .ok call.payload → call.payload.length < 2 ^ 31

/-- Two ends as after `DoHandshake` and changes of the chunk size, where the receiver
takes messages of up to `room` bytes. -/
inductive Connected (room : Nat) : RTMPEndpoint → RTMPEndpoint → Prop where
  | handshake : Connected room {} { maxMessageSize := room }
  | resize {sender sender' receiver middle receiver' : RTMPEndpoint} {chunkSize : Nat}
      {stream : Bytes} {message : RTMPMessage} (connected : Connected room sender receiver)
      (bounds : 1 ≤ chunkSize ∧ chunkSize < 2 ^ 31)
      (sends : Returns (changeChunkSizeOutput chunkSize) sender [] stream () sender')
      (receives : Returns getRTMPMessage receiver stream [] message middle)
      (handled : Returns (handleMessage message) middle [] [] () receiver') :
      Connected room sender' receiver'

/-- Each call throws, or one message of that length arrives on that chunk stream and
takes all the bytes of the call. -/
inductive Faithful : RTMPEndpoint → RTMPEndpoint → List SendCall → Prop where
  | done (sender receiver : RTMPEndpoint) : Faithful sender receiver []
  | throws {sender sender' receiver : RTMPEndpoint} {call : SendCall} {calls : List SendCall}
      {stop : Stop} (thrown : Fails (SendOp.message call).prog sender [] [] stop sender')
      (rest : Faithful sender' receiver calls) : Faithful sender receiver (call :: calls)
  | arrives {sender sender' receiver receiver' : RTMPEndpoint} {call : SendCall}
      {calls : List SendCall} {stream : Bytes} {message : RTMPMessage}
      (sends : Returns (SendOp.message call).prog sender [] stream () sender')
      (receives : Returns getRTMPMessage receiver stream [] message receiver')
      (length : message.messageLength = call.payload.length)
      (chunkStream : message.chunkStreamId = call.chunkStreamId)
      (rest : Faithful sender' receiver' calls) : Faithful sender receiver (call :: calls)

def SendCall.Narrow (call : SendCall) : Prop :=
  call.data.serializeToBuffer = .ok call.payload →
    call.chunkStreamId.toNat < 64 ∧ call.payload.length < 2 ^ 24

theorem inStep_default (room : Nat) : InStep room {} { maxMessageSize := room } where
  positive := by decide
  signed := by decide
  sizes := rfl
  maximum := Nat.le_refl room
  streams := fun _ => ⟨rfl, Nat.le_refl room, Or.inl rfl⟩

section Run
variable {room : Nat} {sender receiver : RTMPEndpoint} {call : SendCall} {calls : List SendCall}

/-- What bounds the messages of a receiver, whatever it is sent. -/
structure Bounded (receiver : RTMPEndpoint) : Prop where
  short : ShortLengths receiver
  small : receiver.chunkSizeReceive < 2 ^ 32

theorem Bounded.receives (bounded : Bounded receiver) {receiver' : RTMPEndpoint}
    {message : RTMPMessage} {stream : Bytes}
    (receives : Returns getRTMPMessage receiver stream [] message receiver') :
    Bounded receiver' ∧ message.chunkStreamId.toNat < 64 ∧ message.messageLength < 2 ^ 24 := by
  obtain ⟨short, size, delivered⟩ :=
    (getRTMPMessage_post bounded.small shortLengths_invariant bounded.short).returns receives
  refine ⟨⟨short, by rw [size]; exact bounded.small⟩, delivered.idBound, ?_⟩
  obtain ⟨cs, found, -, length⟩ := delivered.record
  have record := short message.chunkStreamId
  rw [RTMPEndpoint.inputStream, found, Option.getD_some, length] at record
  exact record

theorem Connected.ready (control : 4 ≤ room) (connected : Connected room sender receiver) :
    InStep room sender receiver ∧ Bounded receiver := by
  induction connected with
  | handshake =>
      exact ⟨inStep_default room, fun _ => show 0 < 2 ^ 24 by decide, show 128 < 2 ^ 32 by decide⟩
  | resize _ bounds sends receives handled ih =>
      obtain ⟨inStep, bounded⟩ := ih
      obtain ⟨stream, message, middle, sends', receives', handled', inStep'⟩ :=
        inStep.changeChunkSize control bounds.1 bounds.2
      obtain ⟨-, rfl, -, rfl⟩ := sends.unique sends' (Eq.refl ([] ++ []))
      obtain ⟨rfl, rfl, -, -⟩ := receives.unique receives' (Eq.refl (_ ++ []))
      obtain ⟨-, rfl, -, -⟩ := handled.unique handled' (Eq.refl ([] ++ []))
      have short := (bounded.receives receives).1.short
      exact ⟨inStep', short, Nat.lt_trans bounds.2 (by decide)⟩

theorem message_throws {stop : Stop} (refused : call.data.serializeToBuffer = .error stop)
    (sender : RTMPEndpoint) : Fails (SendOp.message call).prog sender [] [] stop sender :=
  (Fails.ofExcept refused sender).bind _

theorem message_never_throws (positive : 0 < sender.chunkSizeSend)
    (serialized : call.data.serializeToBuffer = .ok call.payload) (nonempty : call.payload ≠ [])
    {sender' : RTMPEndpoint} {stop : Stop} {output : Bytes} :
    ¬ Fails (SendOp.message call).prog sender [] output stop sender' := by
  intro thrown
  obtain ⟨stream, -, sends⟩ := sendRTMPMessage_returns serialized nonempty positive
    call.chunkStreamId call.messageStreamId call.messageType call.timestamp
  obtain ⟨same, -, -⟩ := Runs.unique sends thrown (Eq.refl ([] ++ [])) (Returns.finished _ _)
    (Fails.finished _ _)
  cases congrArg Config.prog same

theorem InStep.faithful (large : 2 ^ 24 ≤ room) (valid : ∀ call ∈ calls, call.AnyLength)
    (narrow : ∀ call ∈ calls, call.Narrow) :
    ∀ {sender receiver : RTMPEndpoint}, InStep room sender receiver →
      Faithful sender receiver calls := by
  induction calls with
  | nil => exact fun {sender receiver} _ => .done sender receiver
  | cons call calls ih =>
      intro sender receiver inStep
      have rest := @ih (fun other member => valid other (List.mem_cons_of_mem call member))
        (fun other member => narrow other (List.mem_cons_of_mem call member))
      cases refused : call.data.serializeToBuffer with
      | error stop => exact .throws (message_throws refused sender) (rest inStep)
      | ok payload =>
          have same : call.payload = payload := by rw [SendCall.payload, refused]
          have serialized : call.data.serializeToBuffer = .ok call.payload := by
            rw [refused, same]
          have within := valid call List.mem_cons_self
          obtain ⟨idBound, short⟩ := narrow call List.mem_cons_self serialized
          obtain ⟨stream, receiver', sends, receives, -, inStep'⟩ :=
            inStep.transfer serialized (within.nonempty serialized) idBound within.streamBound
              (by omega) short call.messageType call.timestamp
          exact .arrives sends receives rfl rfl (rest inStep')

theorem Faithful.narrow (faithful : Faithful sender receiver calls)
    (valid : ∀ call ∈ calls, call.AnyLength) (positive : 0 < sender.chunkSizeSend)
    (bounded : Bounded receiver) : ∀ call ∈ calls, call.Narrow := by
  induction faithful with
  | done => exact fun call member => absurd member List.not_mem_nil
  | @throws sender _ _ call calls _ thrown _ ih =>
      have first : call.Narrow := fun serialized =>
        absurd thrown (message_never_throws positive serialized
          ((valid call List.mem_cons_self).nonempty serialized))
      have size := message_keeps_chunkSizeSend thrown
      have later := ih (fun other member => valid other (List.mem_cons_of_mem call member))
        (Nat.lt_of_lt_of_eq positive size.symm) bounded
      exact List.forall_mem_cons.mpr ⟨first, later⟩
  | @arrives sender _ _ _ call calls _ message sends receives length chunkStream _ ih =>
      obtain ⟨bounded', idBound, short⟩ := bounded.receives receives
      have first : call.Narrow := by
        intro _
        rw [← chunkStream, ← length]
        exact ⟨idBound, short⟩
      have size := message_keeps_chunkSizeSend sends
      have later := ih (fun other member => valid other (List.mem_cons_of_mem call member))
        (Nat.lt_of_lt_of_eq positive size.symm) bounded'
      exact List.forall_mem_cons.mpr ⟨first, later⟩

end Run

/-- No message changes its length or chunk stream on the way exactly if the header
fields hold those of every call that has a payload. -/
theorem faithful_iff_narrow {room : Nat} (sufficient : 2 ^ 31 ≤ room)
    {sender receiver : RTMPEndpoint} (connected : Connected room sender receiver)
    {calls : List SendCall} (valid : ∀ call ∈ calls, call.AnyLength) :
    Faithful sender receiver calls ↔ ∀ call ∈ calls, call.Narrow := by
  obtain ⟨inStep, bounded⟩ := connected.ready (Nat.le_trans (by decide) sufficient)
  constructor
  · exact fun faithful => faithful.narrow valid inStep.positive bounded
  · exact fun narrow => inStep.faithful (Nat.le_trans (by decide) sufficient) valid narrow

def callOn (id : UInt8) : SendCall := ⟨⟨.ok 1, .ok [5]⟩, id, 1, .audio, 0⟩

theorem callOn_anyLength (id : UInt8) : ∀ call ∈ [callOn id], call.AnyLength := by
  intro call member
  obtain rfl := List.mem_singleton.mp member
  exact ⟨show 1 < 2 ^ 24 by decide, fun _ => List.cons_ne_nil 5 [],
    fun _ => show 1 < 2 ^ 31 by decide⟩

/-- Calls on two streams, one of them of two chunks, and one whose data cannot be serialized. -/
def severalCalls : List SendCall :=
  [callOn 3, ⟨⟨.ok 200, .ok (List.replicate 200 7)⟩, 63, 1, .video, 40⟩,
    ⟨⟨.error .runtimeError, .ok []⟩, 3, 1, .audio, 50⟩, ⟨⟨.ok 2, .ok [1, 2]⟩, 3, 1, .audio, 60⟩]

theorem several_calls_faithful : Faithful {} { maxMessageSize := 2 ^ 31 } severalCalls := by
  refine (faithful_iff_narrow (Nat.le_refl _) .handshake ?_).mpr ?_
  · simp only [severalCalls, List.forall_mem_cons, List.not_mem_nil, false_implies, implies_true,
      and_true]
    exact ⟨callOn_anyLength 3 _ List.mem_cons_self,
      ⟨by decide, fun _ => by decide +kernel, fun _ => by decide +kernel⟩,
      ⟨by decide, (fun serialized => by cases serialized), fun serialized => by cases serialized⟩,
      ⟨by decide, fun _ => by decide +kernel, fun _ => by decide +kernel⟩⟩
  · simp only [severalCalls, List.forall_mem_cons, List.not_mem_nil, false_implies, implies_true,
      and_true]
    refine ⟨?_, ?_, ?_, ?_⟩
    all_goals
      intro _
      decide +kernel

/-- Six bits of 67 are 3. -/
theorem call_on_sixty_seven_misdelivered : (∀ call ∈ [callOn 67], call.AnyLength) ∧
    ¬ Faithful {} { maxMessageSize := 2 ^ 31 } [callOn 67] := by
  refine ⟨callOn_anyLength 67, fun faithful => ?_⟩
  have bounded : Bounded { maxMessageSize := 2 ^ 31 } :=
    (Connected.ready (by decide) (@Connected.handshake (2 ^ 31))).2
  have narrow := faithful.narrow (callOn_anyLength 67) (by decide) bounded _ List.mem_cons_self rfl
  exact absurd narrow.1 (show ¬ (67 : UInt8).toNat < 64 by decide)

end EasyRtmp
