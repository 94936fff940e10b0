import EasyRtmp.Framing

/-!
# Timestamps on the wire

A header has three bytes for a time or a time difference and the endpoint knows
no extended timestamp.  `Representable` is the exact condition under which the
receiver reports the times that were sent: each must fit in the header that the
sender picks for it.
-/

set_option autoImplicit false

namespace EasyRtmp

open Lib Lib.ByteCodec

/-! ## A sequence of calls -/

structure SendCall where
  data : Serializable
  chunkStreamId : UInt8
  messageStreamId : Nat
  messageType : RTMPMessageType
  timestamp : Nat

structure SendCall.Valid (call : SendCall) : Prop where
  idBounds : 2 ≤ call.chunkStreamId.toNat ∧ call.chunkStreamId.toNat ≤ 63
  streamBound : call.messageStreamId < 2 ^ 24
  serialized : ∃ payload, call.data.serializeToBuffer = .ok payload ∧ payload ≠ [] ∧
    payload.length ≤ 512000
  timeBound : call.timestamp < 2 ^ 32

def sendAll : List SendCall → EndpointProg Unit
  | [] => pure ()
  | call :: calls => do
      sendRTMPMessage call.data call.chunkStreamId call.messageStreamId call.messageType
        call.timestamp
      sendAll calls

def getAll : Nat → EndpointProg (List RTMPMessage)
  | 0 => pure []
  | count + 1 => do
      let message ← getRTMPMessage
      let messages ← getAll count
      pure (message :: messages)

/-- Two endpoints after `DoHandshake` and any changes of the chunk size, such as
the one the constructor makes. -/
inductive Opened : RTMPEndpoint → RTMPEndpoint → Prop where
  | handshake : Opened {} {}
  | resize {sender sender' receiver middle receiver' : RTMPEndpoint} {chunkSize : Nat}
      {stream : Bytes} {message : RTMPMessage} (opened : Opened sender receiver)
      (bounds : 1 ≤ chunkSize ∧ chunkSize < 2 ^ 31)
      (sends : Returns (changeChunkSizeOutput chunkSize) sender [] stream () sender')
      (receives : Returns getRTMPMessage receiver stream [] message middle)
      (handled : Returns (handleMessage message) middle [] [] () receiver') :
      Opened sender' receiver'

/-! ## Which times fit -/

/-- Message stream and time of the last message on each chunk stream. -/
abbrev Clock := UInt8 → Option (Nat × Nat)

/-- A delta is written after a message of the same message stream that is not
later, the time itself otherwise. -/
def Fits (last : Option (Nat × Nat)) (messageStreamId timestamp : Nat) : Prop :=
  match last with
  | none => timestamp < 2 ^ 24
  | some (stream, time) =>
      if stream = messageStreamId ∧ time ≤ timestamp then timestamp - time < 2 ^ 24
      else timestamp < 2 ^ 24

def Representable (clock : Clock) : List SendCall → Prop
  | [] => True
  | call :: calls =>
      Fits (clock call.chunkStreamId) call.messageStreamId call.timestamp ∧
        Representable (Function.update clock call.chunkStreamId
          (some (call.messageStreamId, call.timestamp))) calls

/-! ## What one message's time becomes -/

/-- Both records of a stream hold its last time.  After changes of the chunk size
alone that time is zero, which asks the same of the next message as no time. -/
def Keeps (output input : ChunkStream) : Option (Nat × Nat) → Prop
  | none => output.messageStreamId = 2 ^ 32 - 1 ∨
      (output.messageStreamId = 0 ∧ output.timestamp = 0 ∧ input.timestamp = 0)
  | some (stream, time) => output.messageStreamId = stream ∧ output.timestamp = time ∧
      input.timestamp = time ∧ time < 2 ^ 32

structure Clocked (clock : Clock) (sender receiver : RTMPEndpoint) : Prop where
  synced : Synced sender receiver
  keeps : ∀ id, Keeps (sender.outputStream id) (receiver.inputStream id) (clock id)

theorem announce_time_iff {output input : ChunkStream} {last : Option (Nat × Nat)}
    (keeps : Keeps output input last) (idle : input.messageBytesRead = 0) {messageStreamId : Nat}
    (streamBound : messageStreamId < 2 ^ 24) {timestamp : Nat} (timeBound : timestamp < 2 ^ 32)
    (messageType : RTMPMessageType) (size : Nat) :
    (output.announce input messageStreamId messageType timestamp size).timestamp = timestamp ↔
      Fits last messageStreamId timestamp := by
  have deltaTime : ∀ time, time ≤ timestamp → input.timestamp = time → time < 2 ^ 32 →
      ((input.timestamp + (timestamp - time) % 2 ^ 24) % 2 ^ 64 = timestamp ↔
        timestamp - time < 2 ^ 24) := by
    intro time ordered known timeBound'
    omega
  have wholeTime : timestamp % 2 ^ 24 = timestamp ↔ timestamp < 2 ^ 24 := by omega
  -- Either the sender writes a delta to a time that both sides hold, or the time itself.
  have written : (output.announce input messageStreamId messageType timestamp size).timestamp =
      if output.messageStreamId = messageStreamId ∧ output.timestamp ≤ timestamp then
        (input.timestamp + (timestamp - output.timestamp) % 2 ^ 24) % 2 ^ 64
      else timestamp % 2 ^ 24 := by
    unfold ChunkStream.announce ChunkStream.nextHeader
    by_cases later : output.messageStreamId = messageStreamId ∧ output.timestamp ≤ timestamp
    · rw [if_pos later, if_pos later]
      split
      · simp [MessageHeader.received, MessageHeader.apply, ChunkStream.applyHeader2,
          ChunkStream.applyDelta, idle]
      · simp [MessageHeader.received, MessageHeader.apply, ChunkStream.applyHeader1,
          ChunkStream.applyDelta, idle]
    · rw [if_neg (fun same => later ⟨same.2.2.1, same.2.2.2⟩), if_neg later, if_neg later]
      simp [MessageHeader.received, MessageHeader.apply, ChunkStream.applyHeader0]
  rw [written]
  cases last with
  | none =>
      rcases keeps with fresh | ⟨stream, zero, zero'⟩
      · rw [if_neg (by omega)]
        exact wholeTime
      · by_cases same : output.messageStreamId = messageStreamId ∧ output.timestamp ≤ timestamp
        · rw [if_pos same, zero, deltaTime 0 (Nat.zero_le _) zero' (by decide), Nat.sub_zero]
          exact Iff.rfl
        · rw [if_neg same]
          exact wholeTime
  | some last =>
      obtain ⟨stream, time⟩ := last
      obtain ⟨rfl, rfl, known, bound⟩ := keeps
      unfold Fits
      by_cases same : output.messageStreamId = messageStreamId ∧ output.timestamp ≤ timestamp
      · rw [if_pos same]
        simp only [if_pos same]
        exact deltaTime _ same.2 known bound
      · rw [if_neg same]
        simp only [if_neg same]
        exact wholeTime

section Exchange
variable {clock : Clock} {sender receiver : RTMPEndpoint}

theorem clocked_default : Clocked (fun _ => none) {} {} :=
  ⟨synced_default, fun _ => Or.inl rfl⟩

theorem Clocked.tick (clocked : Clocked clock sender receiver) (id : UInt8)
    {messageStreamId timestamp size : Nat} {messageType : RTMPMessageType} {cs : ChunkStream}
    (last : Option (Nat × Nat))
    (keeps : ∀ output : ChunkStream, output.messageStreamId = messageStreamId →
      output.timestamp = timestamp → Keeps output cs last) (other : UInt8) :
    Keeps ((sender.recordSent id messageStreamId messageType timestamp size).outputStream other)
      ((receiver.setInput id cs).inputStream other) (Function.update clock id last other) := by
  by_cases same : other = id
  · subst same
    rw [RTMPEndpoint.recordSent, RTMPEndpoint.outputStream_setOutput,
      RTMPEndpoint.inputStream_setInput, Function.update_self]
    exact keeps _ rfl rfl
  · rw [RTMPEndpoint.recordSent, RTMPEndpoint.outputStream_setOutput_of_ne _ _ same,
      RTMPEndpoint.inputStream_setInput_of_ne _ _ same, Function.update_of_ne same]
    exact clocked.keeps other

/-- What a change of the chunk size makes of both ends. -/
theorem Synced.resized (synced : Synced sender receiver) {sender' middle receiver' : RTMPEndpoint}
    {chunkSize : Nat} {stream : Bytes} {message : RTMPMessage}
    (bounds : 1 ≤ chunkSize ∧ chunkSize < 2 ^ 31)
    (sends : Returns (changeChunkSizeOutput chunkSize) sender [] stream () sender')
    (receives : Returns getRTMPMessage receiver stream [] message middle)
    (handled : Returns (handleMessage message) middle [] [] () receiver') :
    ∃ buffer,
      sender' = { sender.recordSent 2 0 .setChunkSize 0 4 with chunkSizeSend := chunkSize } ∧
      receiver' = { sender.afterSetChunkSize receiver buffer with
        chunkSizeReceive := chunkSize } ∧
      Synced sender' receiver' := by
  obtain ⟨positive, signed⟩ := bounds
  obtain ⟨stream', buffer, sends', receives', handled', synced'⟩ :=
    synced.changeChunkSize positive signed
  obtain ⟨-, rfl, -, rfl⟩ := sends.unique sends' (Eq.refl ([] ++ []))
  obtain ⟨rfl, rfl, -, -⟩ := receives.unique receives' (Eq.refl (_ ++ []))
  obtain ⟨-, rfl, -, -⟩ := handled.unique handled' (Eq.refl ([] ++ []))
  exact ⟨buffer, rfl, rfl, synced'⟩

theorem Clocked.resized (clocked : Clocked (fun _ => none) sender receiver)
    {sender' middle receiver' : RTMPEndpoint} {chunkSize : Nat} {stream : Bytes}
    {message : RTMPMessage} (bounds : 1 ≤ chunkSize ∧ chunkSize < 2 ^ 31)
    (sends : Returns (changeChunkSizeOutput chunkSize) sender [] stream () sender')
    (receives : Returns getRTMPMessage receiver stream [] message middle)
    (handled : Returns (handleMessage message) middle [] [] () receiver') :
    Clocked (fun _ => none) sender' receiver' := by
  obtain ⟨buffer, rfl, rfl, synced⟩ := clocked.synced.resized bounds sends receives handled
  have time : (((sender.outputStream 2).announce (receiver.inputStream 2) 0 .setChunkSize 0
      4).delivered buffer).timestamp = 0 :=
    (announce_time_iff (clocked.keeps 2) (clocked.synced.streams 2).idle (by decide) (by decide)
      _ _).mpr (show 0 < 2 ^ 24 by decide)
  refine ⟨synced, fun id => ?_⟩
  have same : Function.update (fun _ => none : Clock) 2 none = fun _ => none :=
    Function.update_eq_self_iff.mpr rfl
  rw [← congrFun same id]
  exact clocked.tick 2 none (fun output stream zero => Or.inr ⟨stream, zero, time⟩) id

theorem Opened.clocked (opened : Opened sender receiver) :
    Clocked (fun _ => none) sender receiver := by
  induction opened with
  | handshake => exact clocked_default
  | resize _ bounds sends receives handled ih => exact ih.resized bounds sends receives handled

/-- A message arrives with all but its time in any case, with its time if that fits. -/
theorem Synced.timed_transfer (synced : Synced sender receiver) {data : Serializable}
    {payload : Bytes} (serialized : data.serializeToBuffer = .ok payload) {id : UInt8}
    {messageStreamId : Nat} (sendable : Sendable id messageStreamId payload)
    (messageType : RTMPMessageType) {timestamp : Nat} (timeBound : timestamp < 2 ^ 32) :
    ∃ stream sender' receiver' time,
      Returns (sendRTMPMessage data id messageStreamId messageType timestamp) sender [] stream ()
        sender' ∧
      Returns getRTMPMessage receiver stream []
        ⟨messageType, messageStreamId, payload.length, id, time, payload⟩ receiver' ∧
      Synced sender' receiver' ∧
      ∀ clock, Clocked clock sender receiver →
        (time = timestamp ↔ Fits (clock id) messageStreamId timestamp) ∧
        (time = timestamp →
          Clocked (Function.update clock id (some (messageStreamId, timestamp))) sender'
            receiver') := by
  obtain ⟨stream, _, sends, receives, ⟨buffer, rfl⟩, synced'⟩ :=
    synced.transfer serialized sendable messageType timestamp
  refine ⟨stream, _, _, _, sends, receives, synced', fun clock clocked => ⟨?_, fun arrived => ?_⟩⟩
  · exact announce_time_iff (clocked.keeps _) (synced.streams _).idle sendable.streamBound
      timeBound _ _
  · exact ⟨synced', clocked.tick _ (some (_, _)) fun output stream time =>
      ⟨stream, time, arrived, timeBound⟩⟩

theorem Clocked.send (synced : Synced sender receiver) {call : SendCall} (valid : call.Valid) :
    ∃ stream sender' receiver' message,
      Returns (sendRTMPMessage call.data call.chunkStreamId call.messageStreamId call.messageType
        call.timestamp) sender [] stream () sender' ∧
      Returns getRTMPMessage receiver stream [] message receiver' ∧ Synced sender' receiver' ∧
      ∀ clock, Clocked clock sender receiver →
        (message.timestamp = call.timestamp ↔
          Fits (clock call.chunkStreamId) call.messageStreamId call.timestamp) ∧
        (message.timestamp = call.timestamp →
          Clocked (Function.update clock call.chunkStreamId
            (some (call.messageStreamId, call.timestamp))) sender' receiver') := by
  obtain ⟨idBounds, streamBound, ⟨payload, serialized, nonempty, limited⟩, timeBound⟩ := valid
  have sendable : Sendable call.chunkStreamId call.messageStreamId payload :=
    ⟨by omega, streamBound, nonempty, limited⟩
  obtain ⟨stream, sender', receiver', time, sends, receives, synced', clocks⟩ :=
    synced.timed_transfer serialized sendable call.messageType timeBound
  exact ⟨stream, sender', receiver', _, sends, receives, synced', clocks⟩

end Exchange

theorem Synced.calls {calls : List SendCall} (valid : ∀ call ∈ calls, call.Valid) :
    ∀ {sender receiver : RTMPEndpoint}, Synced sender receiver →
      ∃ stream sender' receiver' messages,
        Returns (sendAll calls) sender [] stream () sender' ∧
        Returns (getAll calls.length) receiver stream [] messages receiver' ∧
        messages.length = calls.length ∧
        ∀ clock, Clocked clock sender receiver →
          (messages.map RTMPMessage.timestamp = calls.map SendCall.timestamp ↔
            Representable clock calls) := by
  induction calls with
  | nil =>
      intro sender receiver _
      exact ⟨[], sender, receiver, [], .pure _ _, .pure _ _, rfl,
        fun _ _ => ⟨fun _ => trivial, fun _ => rfl⟩⟩
  | cons call calls ih =>
      intro sender receiver synced
      obtain ⟨stream, sender₁, receiver₁, message, sends, receives, synced₁, times⟩ :=
        Clocked.send synced (valid call List.mem_cons_self)
      obtain ⟨stream', sender', receiver', messages, sends', receives', length, times'⟩ :=
        ih (fun other member => valid other (List.mem_cons_of_mem call member)) synced₁
      have collects : Returns (getAll calls.length >>= fun messages => pure (message :: messages))
          receiver₁ (stream' ++ []) ([] ++ []) (message :: messages) receiver' :=
        receives'.bind (.pure _ _)
      rw [List.append_nil] at collects
      refine ⟨stream ++ stream', sender', receiver', message :: messages, sends.bind sends',
        receives.bind collects, by rw [List.length_cons, List.length_cons, length], ?_⟩
      intro clock clocked
      obtain ⟨arrives, clocked'⟩ := times clock clocked
      rw [List.map_cons, List.map_cons, List.cons.injEq, Representable, ← arrives]
      exact and_congr_right fun arrived => times' _ (clocked' arrived)

/-- The times of all messages survive exactly if every one is representable. -/
theorem timestamps_survive_iff {sender receiver : RTMPEndpoint} (opened : Opened sender receiver)
    {calls : List SendCall} (valid : ∀ call ∈ calls, call.Valid) :
    ∃ stream sender' receiver' messages,
      Returns (sendAll calls) sender [] stream () sender' ∧
      Returns (getAll calls.length) receiver stream [] messages receiver' ∧
      messages.length = calls.length ∧
      (messages.map RTMPMessage.timestamp = calls.map SendCall.timestamp ↔
        Representable (fun _ => none) calls) := by
  obtain ⟨stream, sender', receiver', messages, sends, receives, length, times⟩ :=
    opened.clocked.synced.calls valid
  exact ⟨stream, sender', receiver', messages, sends, receives, length, times _ opened.clocked⟩

def mediaCall (messageType : RTMPMessageType) (timestamp : Nat) : SendCall :=
  ⟨⟨.ok 1, .ok [0]⟩, 4, 1, messageType, timestamp⟩

theorem mediaCall_valid {messageType : RTMPMessageType} {timestamp : Nat}
    (timeBound : timestamp < 2 ^ 32) : (mediaCall messageType timestamp).Valid :=
  ⟨show 2 ≤ (4 : UInt8).toNat ∧ (4 : UInt8).toNat ≤ 63 by decide, show 1 < 2 ^ 24 by decide,
    ⟨[0], rfl, by decide, by decide⟩, timeBound⟩

/-- Audio and video out of order on one chunk stream. -/
theorem unordered_media_survives : ∃ stream sender' receiver' messages,
    Returns (sendAll [mediaCall .video 40, mediaCall .audio 23]) {} [] stream () sender' ∧
    Returns (getAll 2) {} stream [] messages receiver' ∧
    messages.map RTMPMessage.timestamp = [40, 23] := by
  have valid : ∀ call ∈ [mediaCall .video 40, mediaCall .audio 23], call.Valid := by
    intro call member
    simp only [List.mem_cons, List.not_mem_nil, or_false] at member
    rcases member with rfl | rfl
    · exact mediaCall_valid (by decide)
    · exact mediaCall_valid (by decide)
  obtain ⟨stream, sender', receiver', messages, sends, receives, -, times⟩ :=
    timestamps_survive_iff .handshake valid
  refine ⟨stream, sender', receiver', messages, sends, receives, times.mpr ?_⟩
  exact ⟨show 40 < 2 ^ 24 by decide, show 23 < 2 ^ 24 by decide, trivial⟩

/-- Four hours and forty minutes into a stream the time starts again. -/
theorem late_timestamp_lost : (mediaCall .video (2 ^ 24)).Valid ∧
    ∃ stream sender' receiver' message,
      Returns (sendAll [mediaCall .video (2 ^ 24)]) {} [] stream () sender' ∧
      Returns (getAll 1) {} stream [] [message] receiver' ∧ message.timestamp ≠ 2 ^ 24 := by
  have valid : (mediaCall .video (2 ^ 24)).Valid := mediaCall_valid (by decide)
  have each : ∀ call ∈ [mediaCall .video (2 ^ 24)], call.Valid := by
    intro call member
    rwa [List.mem_singleton.mp member]
  obtain ⟨stream, sender', receiver', messages, sends, receives, length, times⟩ :=
    synced_default.calls each
  obtain ⟨message, rfl⟩ := List.length_eq_one_iff.mp length
  refine ⟨valid, stream, sender', receiver', message, sends, receives, fun same => ?_⟩
  have fits := (times _ clocked_default).mp (by
    rw [List.map_singleton, same]
    rfl)
  exact absurd fits.1 (show ¬ 2 ^ 24 < 2 ^ 24 from Nat.lt_irrefl _)

end EasyRtmp
