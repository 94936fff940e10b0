import EasyRtmp.Timestamps

/-!
# Records of messages that were not sent

`SendRTMPMessage` records the header of a message when its loop is done, also when
the payload was empty and the loop sent nothing.  `Described` is the exact condition
under which no later header relies on what the peer was never told.
-/

set_option autoImplicit false

namespace EasyRtmp

open Lib Lib.ByteCodec

def SendCall.payload (call : SendCall) : Bytes :=
  match call.data.serializeToBuffer with
  | .ok payload => payload
  | .error _ => []

structure SendCall.MayBeEmpty (call : SendCall) : Prop where
  idBounds : 2 ≤ call.chunkStreamId.toNat ∧ call.chunkStreamId.toNat ≤ 63
  streamBound : call.messageStreamId < 2 ^ 24
  serialized : call.data.serializeToBuffer = .ok call.payload
  limited : call.payload.length ≤ 512000

def transmitted (calls : List SendCall) : List SendCall :=
  calls.filter fun call => call.payload ≠ []

/-- What the peer is to learn of a message. -/
structure Content where
  messageType : RTMPMessageType
  messageLength : Nat
  messageStreamId : Nat
  data : Bytes
  deriving DecidableEq

def SendCall.content (call : SendCall) : Content :=
  ⟨call.messageType, call.payload.length, call.messageStreamId, call.payload⟩

def RTMPMessage.content (message : RTMPMessage) : Content :=
  ⟨message.messageType, message.messageLength, message.messageStreamId, message.data⟩

/-! ## Which headers the peer can complete -/

/-- Of one chunk stream: message stream and time of the last call, and the message
stream that the peer was last told. -/
structure Ledger where
  called : Nat
  time : Nat
  told : Nat

def Ledger.enter (ledger : Ledger) (call : SendCall) : Ledger where
  called := call.messageStreamId
  time := call.timestamp
  told := if call.payload = [] then ledger.told else call.messageStreamId

/-- A header that leaves the message stream out means the one that the peer was told. -/
def Ledger.Covers (ledger : Ledger) (call : SendCall) : Prop :=
  ledger.called = call.messageStreamId → ledger.time ≤ call.timestamp →
    ledger.told = call.messageStreamId

def Described (ledgers : UInt8 → Ledger) : List SendCall → Prop
  | [] => True
  | call :: calls =>
      (call.payload ≠ [] → (ledgers call.chunkStreamId).Covers call) ∧
        Described (Function.update ledgers call.chunkStreamId
          ((ledgers call.chunkStreamId).enter call)) calls

/-- The ledgers of an endpoint that sent all it recorded. -/
def RTMPEndpoint.ledgers (sender : RTMPEndpoint) (id : UInt8) : Ledger :=
  ⟨(sender.outputStream id).messageStreamId, (sender.outputStream id).timestamp,
    (sender.outputStream id).messageStreamId⟩

def Kept (ledgers : UInt8 → Ledger) (sender receiver : RTMPEndpoint) : Prop :=
  ∀ id, ledgers id = ⟨(sender.outputStream id).messageStreamId,
    (sender.outputStream id).timestamp, (receiver.inputStream id).messageStreamId⟩

section Calls
variable {ledgers : UInt8 → Ledger} {sender receiver : RTMPEndpoint} {call : SendCall}

theorem Kept.enter (kept : Kept ledgers sender receiver) (id : UInt8) (messageStreamId : Nat)
    (messageType : RTMPMessageType) (timestamp size : Nat) {receiver' : RTMPEndpoint}
    (others : ∀ other, other ≠ id → receiver'.inputStream other = receiver.inputStream other) :
    Kept (Function.update ledgers id
        ⟨messageStreamId, timestamp, (receiver'.inputStream id).messageStreamId⟩)
      (sender.recordSent id messageStreamId messageType timestamp size) receiver' := by
  intro other
  by_cases same : other = id
  · subst same
    rw [Function.update_self, RTMPEndpoint.recordSent, RTMPEndpoint.outputStream_setOutput]
  · rw [Function.update_of_ne same, RTMPEndpoint.recordSent,
      RTMPEndpoint.outputStream_setOutput_of_ne _ _ same, others other same]
    exact kept other

theorem Kept.covers_iff (kept : Kept ledgers sender receiver)
    (streamBound : call.messageStreamId < 2 ^ 24) :
    ((sender.outputStream call.chunkStreamId).announce (receiver.inputStream call.chunkStreamId)
      call.messageStreamId call.messageType call.timestamp call.payload.length).messageStreamId =
        call.messageStreamId ↔ (ledgers call.chunkStreamId).Covers call := by
  rw [ChunkStream.announce_messageStreamId, kept call.chunkStreamId, Ledger.Covers]
  simp only
  split
  · rename_i same
    exact ⟨fun told _ _ => told, fun covers => covers same.1 same.2⟩
  · rename_i different
    constructor
    · exact fun _ called time => absurd ⟨called, time⟩ different
    · exact fun _ => Nat.mod_eq_of_lt streamBound

theorem Opened.kept (opened : Opened sender receiver) : Kept sender.ledgers sender receiver := by
  have told : ∀ id, (sender.outputStream id).messageStreamId =
      (receiver.inputStream id).messageStreamId := by
    induction opened with
    | handshake => exact fun _ => rfl
    | @resize sender _ receiver _ _ _ _ _ opened bounds sends receives handled ih =>
        obtain ⟨buffer, rfl, rfl, -⟩ :=
          opened.clocked.synced.resized bounds sends receives handled
        have learnt := (opened.clocked.synced.streams 2).announce (show 0 < 2 ^ 24 by decide)
          .setChunkSize 0 4
        intro id
        have alike : ((sender.recordSent 2 0 .setChunkSize 0 4).outputStream id).messageStreamId =
            ((sender.afterSetChunkSize receiver buffer).inputStream id).messageStreamId := by
          rw [RTMPEndpoint.recordSent, RTMPEndpoint.afterSetChunkSize]
          by_cases same : id = 2
          · subst same
            rw [RTMPEndpoint.outputStream_setOutput, RTMPEndpoint.inputStream_setInput]
            exact learnt.symm
          · rw [RTMPEndpoint.outputStream_setOutput_of_ne _ _ same,
              RTMPEndpoint.inputStream_setInput_of_ne _ _ same]
            exact ih id
        exact alike
  intro id
  rw [RTMPEndpoint.ledgers, told id]

/-- A call that transmits: its message arrives, whole if the ledger covers the call. -/
theorem InStep.send (inStep : InStep payloadLimit sender receiver) (valid : call.MayBeEmpty)
    (nonempty : call.payload ≠ []) :
    ∃ stream sender' receiver' message,
      Returns (sendRTMPMessage call.data call.chunkStreamId call.messageStreamId call.messageType
        call.timestamp) sender [] stream () sender' ∧
      Returns getRTMPMessage receiver stream [] message receiver' ∧
      InStep payloadLimit sender' receiver' ∧
      ∀ ledgers, Kept ledgers sender receiver →
        (message.content = call.content ↔ (ledgers call.chunkStreamId).Covers call) ∧
        (message.content = call.content →
          Kept (Function.update ledgers call.chunkStreamId
            ((ledgers call.chunkStreamId).enter call)) sender' receiver') := by
  obtain ⟨idBounds, streamBound, serialized, limited⟩ := valid
  have idBound : call.chunkStreamId.toNat < 64 := by omega
  obtain ⟨stream, _, sends, receives, ⟨buffer, rfl⟩, inStep'⟩ :=
    inStep.transfer serialized nonempty idBound streamBound limited (by omega) call.messageType
      call.timestamp
  refine ⟨stream, _, _, _, sends, receives, inStep', fun ledgers kept => ?_⟩
  have covers := kept.covers_iff streamBound
  generalize (sender.outputStream call.chunkStreamId).announce
    (receiver.inputStream call.chunkStreamId) call.messageStreamId call.messageType call.timestamp
    call.payload.length = announced at covers ⊢
  have told : RTMPMessage.content ⟨call.messageType, announced.messageStreamId,
        call.payload.length, call.chunkStreamId, announced.timestamp, call.payload⟩ =
      call.content ↔ announced.messageStreamId = call.messageStreamId := by
    simp [RTMPMessage.content, SendCall.content]
  refine ⟨told.trans covers, fun arrived => ?_⟩
  have ledger : (ledgers call.chunkStreamId).enter call = ⟨call.messageStreamId, call.timestamp,
      ((receiver.setInput call.chunkStreamId (announced.delivered buffer)).inputStream
        call.chunkStreamId).messageStreamId⟩ := by
    rw [Ledger.enter, if_neg nonempty, RTMPEndpoint.inputStream_setInput]
    exact congrArg _ (told.mp arrived).symm
  rw [ledger]
  exact kept.enter _ _ _ _ _ fun other different =>
    receiver.inputStream_setInput_of_ne (announced.delivered buffer) different

theorem InStep.recordEmpty (inStep : InStep payloadLimit sender receiver) (valid : call.MayBeEmpty)
    (empty : call.payload = []) :
    ∃ sender',
      Returns (sendRTMPMessage call.data call.chunkStreamId call.messageStreamId call.messageType
        call.timestamp) sender [] [] () sender' ∧
      InStep payloadLimit sender' receiver ∧
      ∀ ledgers, Kept ledgers sender receiver →
        Kept (Function.update ledgers call.chunkStreamId
          ((ledgers call.chunkStreamId).enter call)) sender' receiver := by
  have serialized := valid.serialized
  rw [empty] at serialized
  refine ⟨_, sendRTMPMessage_empty serialized _ _ _ _, inStep.skip _ _ _ _, fun ledgers kept => ?_⟩
  rw [Ledger.enter, if_pos empty, kept call.chunkStreamId]
  exact kept.enter _ _ _ _ _ fun _ _ => rfl

end Calls

theorem InStep.calls {calls : List SendCall} (valid : ∀ call ∈ calls, call.MayBeEmpty) :
    ∀ {sender receiver : RTMPEndpoint}, InStep payloadLimit sender receiver →
      ∃ stream sender' receiver' messages,
        Returns (sendAll calls) sender [] stream () sender' ∧
        Returns (getAll (transmitted calls).length) receiver stream [] messages receiver' ∧
        ∀ ledgers, Kept ledgers sender receiver →
          (messages.map RTMPMessage.content = (transmitted calls).map SendCall.content ↔
            Described ledgers calls) := by
  induction calls with
  | nil =>
      intro sender receiver _
      exact ⟨[], sender, receiver, [], .pure _ _, .pure _ _,
        fun _ _ => ⟨fun _ => trivial, fun _ => rfl⟩⟩
  | cons call calls ih =>
      intro sender receiver inStep
      have rest : ∀ other ∈ calls, other.MayBeEmpty :=
        fun other member => valid other (List.mem_cons_of_mem call member)
      by_cases empty : call.payload = []
      · obtain ⟨sender₁, sends, inStep', enters⟩ :=
          inStep.recordEmpty (valid call List.mem_cons_self) empty
        obtain ⟨stream, sender', receiver', messages, sends', receives, contents⟩ :=
          ih rest inStep'
        have same : transmitted (call :: calls) = transmitted calls :=
          List.filter_cons_of_neg (by simp [empty])
        rw [same]
        refine ⟨stream, sender', receiver', messages, sends.silent_bind sends', receives, ?_⟩
        intro ledgers kept
        rw [contents _ (enters ledgers kept), Described]
        exact ⟨fun described => ⟨fun nonempty => absurd empty nonempty, described⟩,
          fun described => described.2⟩
      · obtain ⟨stream, sender₁, receiver₁, message, sends, receives, inStep', enters⟩ :=
          inStep.send (valid call List.mem_cons_self) empty
        obtain ⟨stream', sender', receiver', messages, sends', receives', contents⟩ :=
          ih rest inStep'
        have same : transmitted (call :: calls) = call :: transmitted calls :=
          List.filter_cons_of_pos (by simp [empty])
        have collects : Returns (getAll (transmitted calls).length >>= fun messages =>
            pure (message :: messages)) receiver₁ stream' [] (message :: messages) receiver' :=
          receives'.bind_silent (.pure _ _)
        rw [same]
        refine ⟨stream ++ stream', sender', receiver', message :: messages, sends.bind sends',
          receives.bind collects, ?_⟩
        intro ledgers kept
        obtain ⟨arrives, kept'⟩ := enters ledgers kept
        rw [List.map_cons, List.map_cons, List.cons.injEq, Described, arrives, imp_iff_right empty]
        exact and_congr_right fun arrived => contents _ (kept' (arrives.mpr arrived))

/-- The messages arrive as they were sent exactly if their headers are described. -/
theorem sender_records_described_iff {sender receiver : RTMPEndpoint}
    (opened : Opened sender receiver) {calls : List SendCall}
    (valid : ∀ call ∈ calls, call.MayBeEmpty) :
    ∃ stream sender' receiver' messages,
      Returns (sendAll calls) sender [] stream () sender' ∧
      Returns (getAll (transmitted calls).length) receiver stream [] messages receiver' ∧
      (messages.map RTMPMessage.content = (transmitted calls).map SendCall.content ↔
        Described sender.ledgers calls) := by
  obtain ⟨stream, sender', receiver', messages, sends, receives, contents⟩ :=
    opened.clocked.synced.inStep.calls valid
  exact ⟨stream, sender', receiver', messages, sends, receives, contents _ opened.kept⟩

def emptyCall : SendCall := ⟨⟨.ok 0, .ok []⟩, 4, 1, .amf0, 0⟩

def byteCall (messageStreamId : Nat) : SendCall := ⟨⟨.ok 1, .ok [5]⟩, 4, messageStreamId, .amf0, 0⟩

theorem byteCall_mayBeEmpty {messageStreamId : Nat} (streamBound : messageStreamId < 2 ^ 24) :
    ∀ call ∈ [emptyCall, byteCall messageStreamId], call.MayBeEmpty := by
  intro call member
  simp only [List.mem_cons, List.not_mem_nil, or_false] at member
  rcases member with rfl | rfl
  · exact ⟨by decide, by decide, rfl, by decide⟩
  · exact ⟨show 2 ≤ (4 : UInt8).toNat ∧ (4 : UInt8).toNat ≤ 63 by decide, streamBound, rfl,
      show 1 ≤ 512000 by decide⟩

theorem transmitted_byteCall (messageStreamId : Nat) :
    transmitted [emptyCall, byteCall messageStreamId] = [byteCall messageStreamId] := by
  have sends : (byteCall messageStreamId).payload ≠ [] := List.cons_ne_nil 5 []
  rw [transmitted, List.filter_cons_of_neg (by decide), List.filter_cons_of_pos (by simpa),
    List.filter_nil]

theorem other_stream_described : ∃ stream sender' receiver' messages,
    Returns (sendAll [emptyCall, byteCall 2]) {} [] stream () sender' ∧
    Returns (getAll 1) {} stream [] messages receiver' ∧
    messages.map RTMPMessage.content = [(byteCall 2).content] := by
  obtain ⟨stream, sender', receiver', messages, sends, receives, contents⟩ :=
    sender_records_described_iff .handshake (byteCall_mayBeEmpty (show 2 < 2 ^ 24 by decide))
  rw [transmitted_byteCall] at receives contents
  refine ⟨stream, sender', receiver', messages, sends, receives, contents.mpr ?_⟩
  refine ⟨fun nonempty => absurd rfl nonempty, fun _ called => ?_, trivial⟩
  exact absurd called (show (1 : Nat) ≠ 2 by decide)

/-- The message stream of the empty message is not told again. -/
theorem empty_message_hides_stream :
    (∀ call ∈ [emptyCall, byteCall 1], call.MayBeEmpty) ∧
    ∃ stream sender' receiver' messages,
      Returns (sendAll [emptyCall, byteCall 1]) {} [] stream () sender' ∧
      Returns (getAll 1) {} stream [] messages receiver' ∧
      messages.map RTMPMessage.content ≠ [(byteCall 1).content] := by
  have valid := byteCall_mayBeEmpty (show 1 < 2 ^ 24 by decide)
  obtain ⟨stream, sender', receiver', messages, sends, receives, contents⟩ :=
    synced_default.inStep.calls valid
  rw [transmitted_byteCall] at receives contents
  refine ⟨valid, stream, sender', receiver', messages, sends, receives, fun arrived => ?_⟩
  have described := (contents _ Opened.handshake.kept).mp arrived
  have told : 2 ^ 32 - 1 = 1 := described.2.1 (List.cons_ne_nil 5 []) rfl (Nat.le_refl 0)
  exact absurd told (by decide)

end EasyRtmp
