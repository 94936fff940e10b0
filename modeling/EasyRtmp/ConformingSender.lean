import EasyRtmp.Calls
import EasyRtmp.SenderRecords

/-!
# What an endpoint sends conforms to the format

`Speaks` ties the sending half of an endpoint to the peer of the format: the record of
each chunk stream describes the last of the messages that were sent on it.  The header
that `SendRTMPMessage` picks is then one of those the format admits, as long as its time
can be said without an extended timestamp.
-/

set_option autoImplicit false

namespace EasyRtmp

open Lib Lib.ByteCodec

/-! ## Calls and their messages -/

def sendOps : List SendOp → EndpointProg Unit
  | [] => pure ()
  | op :: ops => do
      op.prog
      sendOps ops

namespace SendOp

def chunkStreamId : SendOp → UInt8
  | .message call => call.chunkStreamId
  | .resize _ => 2

def timed : SendOp → TimedMessage
  | .message call => ⟨call.messageType, call.messageStreamId, call.timestamp, call.payload⟩
  | .resize chunkSize => ⟨.setChunkSize, 0, 0, beBytes 4 chunkSize⟩

/-- Chunk sizes are announced by `ChangeChunkSizeOutput` alone. -/
inductive Valid : SendOp → Prop where
  | message {call : SendCall}
      (idBounds : 2 ≤ call.chunkStreamId.toNat ∧ call.chunkStreamId.toNat ≤ 63)
      (serialized : call.data.serializeToBuffer = .ok call.payload)
      (notSize : call.messageType ≠ .setChunkSize)
      (valid : (SendOp.message call).timed.Valid) : Valid (.message call)
  | resize {chunkSize : Nat} (bounds : 1 ≤ chunkSize ∧ chunkSize < 2 ^ 31) :
      Valid (.resize chunkSize)

end SendOp

/-- The time that goes into the header, whole or as the difference to the message
before, is below the mark of an extended timestamp. -/
def TimedMessage.Short (message : TimedMessage) : List TimedMessage → Prop
  | [] => message.timestamp < 0xFFFFFF
  | previous :: _ =>
      if previous.messageStreamId = message.messageStreamId ∧
          previous.timestamp ≤ message.timestamp then
        message.timestamp - previous.timestamp < 0xFFFFFF
      else message.timestamp < 0xFFFFFF

abbrev Histories := UInt8 → List TimedMessage

def Histories.note (histories : Histories) (op : SendOp) : Histories :=
  Function.update histories op.chunkStreamId (op.timed :: histories op.chunkStreamId)

def ShortTimes (histories : Histories) : List SendOp → Prop
  | [] => True
  | op :: ops => op.timed.Short (histories op.chunkStreamId) ∧ ShortTimes (histories.note op) ops

def SendOp.resized (chunkSize : Nat) : SendOp → Nat
  | .message _ => chunkSize
  | .resize chunkSize => chunkSize

/-- No chunk carries more than `limit` bytes. -/
def ChunksWithin (limit : Nat) : Nat → List SendOp → Prop
  | _, [] => True
  | chunkSize, op :: ops => min chunkSize op.timed.payload.length ≤ limit ∧
      ChunksWithin limit (op.resized chunkSize) ops

/-! ## The sender's records -/

/-- The record of a chunk stream describes the last message of its history. -/
def Describes (cs : ChunkStream) : List TimedMessage → Prop
  | [] => cs.messageStreamId = 2 ^ 32 - 1
  | last :: _ => cs.messageLength = last.payload.length ∧ cs.messageType = last.messageType ∧
      cs.messageStreamId = last.messageStreamId ∧ cs.timestamp = last.timestamp

structure Speaks (peer : Peer) (histories : Histories) (endpoint : RTMPEndpoint) : Prop where
  positive : 0 < endpoint.chunkSizeSend
  sizes : peer.chunkSize = endpoint.chunkSizeSend
  streams : ∀ id, peer.streams id = ⟨histories id, []⟩
  records : ∀ id, Describes (endpoint.outputStream id) (histories id)

theorem speaks_default : Speaks {} (fun _ => []) {} where
  positive := by decide
  sizes := rfl
  streams _ := rfl
  records _ := rfl

theorem Describes.admissible {cs : ChunkStream} {history : List TimedMessage}
    (describes : Describes cs history) {message : TimedMessage}
    (streamBound : message.messageStreamId < 2 ^ 24) (short : message.Short history) :
    Admissible message history (cs.nextHeader message.messageStreamId message.messageType
      message.timestamp message.payload.length) := by
  rw [ChunkStream.nextHeader]
  cases history with
  | nil =>
      have fresh : cs.messageStreamId = 2 ^ 32 - 1 := describes
      have other : cs.messageStreamId ≠ message.messageStreamId := by omega
      rw [if_neg (fun same => other same.2.2.1), if_neg (fun same => other same.1)]
      exact .full short
  | cons previous older =>
      obtain ⟨length, type, stream, time⟩ := describes
      rw [length, type, stream, time]
      by_cases later : previous.messageStreamId = message.messageStreamId ∧
          previous.timestamp ≤ message.timestamp
      · have follows : Follows previous message := by
          rw [TimedMessage.Short, if_pos later] at short
          exact ⟨later.1, later.2, short⟩
        rw [if_pos later]
        split
        · rename_i same
          exact .timeOnly follows same.1 same.2.1
        · exact .sameStream follows
      · rw [if_neg (fun same => later same.2.2), if_neg later]
        rw [TimedMessage.Short, if_neg later] at short
        exact .full short

/-! ## The chunks of one message -/

theorem Peer.advance_advance (peer : Peer) (id : UInt8) (message : TimedMessage)
    (older : List TimedMessage) {rest : Bytes} (partly : rest ≠ []) (rest' : Bytes) :
    (peer.advance id message older rest).advance id message older rest' =
      peer.advance id message older rest' := by
  simp only [Peer.advance, Function.update_idem, partly, false_and, if_false]

/-- The rest of a message, from the chunk that `emits` is on. -/
theorem ChunkedBy.encodes {id : UInt8} (idBounds : 2 ≤ id.toNat ∧ id.toNat ≤ 63) {chunkSize : Nat}
    (positive : 0 < chunkSize) {header : MessageHeader} {rest : Bytes} {calls : List Bytes}
    (chunked : ChunkedBy id chunkSize header rest calls) {message : TimedMessage}
    {older : List TimedMessage} :
    ∀ {peer : Peer} {before : List Bytes} {messages : List RTMPMessage},
      peer.chunkSize = chunkSize → EncodesBy before messages peer →
      Emits peer (chunkHeaderLayout id header ++ rest.take chunkSize)
        (completed id message (rest.drop chunkSize))
        (peer.advance id message older (rest.drop chunkSize)) →
      EncodesBy (before ++ calls) (messages ++ [message.toMessage id])
        (peer.advance id message older []) := by
  induction chunked with
  | @last header rest nonempty short =>
      intro peer before messages sizes encodes emits
      rw [List.drop_eq_nil_of_le short, List.take_of_length_le short, completed,
        if_pos rfl] at emits
      exact encodes.chunk (.chunk idBounds.2 nonempty emits)
  | @more header rest calls long _ ih =>
      intro peer before messages sizes encodes emits
      have partly : rest.drop chunkSize ≠ [] := by
        rw [ne_eq, List.drop_eq_nil_iff]
        omega
      have some : rest.take chunkSize ≠ [] := by
        apply List.ne_nil_of_length_pos
        rw [List.length_take]
        omega
      rw [completed, if_neg partly] at emits
      have encodes' := encodes.chunk (.chunk idBounds.2 some emits)
      rw [List.append_nil] at encodes'
      have found : (peer.advance id message older (rest.drop chunkSize)).streams id =
          ⟨message :: older, rest.drop chunkSize⟩ := Function.update_self _ _ _
      have size : (peer.advance id message older (rest.drop chunkSize)).chunkSize = chunkSize := by
        rw [Peer.advance, if_neg (fun done => partly done.1), sizes]
      have next := @Emits.next (peer.advance id message older (rest.drop chunkSize)) id message
        older idBounds (by rw [found]; exact partly) (by rw [found])
      rw [found, size] at next
      have whole := ih size encodes' next
      rwa [List.append_assoc, Peer.advance_advance _ _ _ _ partly] at whole

section Send
variable {peer : Peer} {histories : Histories} {endpoint : RTMPEndpoint} {before : List Bytes}
  {messages : List RTMPMessage}

theorem Speaks.sends (speaks : Speaks peer histories endpoint)
    (encodes : EncodesBy before messages peer) {data : Serializable} {id : UInt8}
    {message : TimedMessage} (idBounds : 2 ≤ id.toNat ∧ id.toNat ≤ 63)
    (serialized : data.serializeToBuffer = .ok message.payload) (valid : message.Valid)
    (short : message.Short (histories id)) :
    ∃ calls header, ChunkedBy id endpoint.chunkSizeSend header message.payload calls ∧
      ReturnsBy (sendRTMPMessage data id message.messageStreamId message.messageType
        message.timestamp) endpoint [] calls () (endpoint.recordSent id message.messageStreamId
          message.messageType message.timestamp message.payload.length) ∧
      EncodesBy (before ++ calls) (messages ++ [message.toMessage id])
        (peer.advance id message (histories id) []) ∧
      (∀ other, (peer.advance id message (histories id) []).streams other =
        ⟨Function.update histories id (message :: histories id) other, []⟩) ∧
      ∀ other, Describes ((endpoint.recordSent id message.messageStreamId message.messageType
        message.timestamp message.payload.length).outputStream other)
          (Function.update histories id (message :: histories id) other) := by
  obtain ⟨calls, chunked, sent⟩ := sendRTMPMessage_by serialized valid.nonempty
    speaks.positive id message.messageStreamId message.messageType message.timestamp
  have found := speaks.streams id
  have admissible := (speaks.records id).admissible valid.streamBound short
  have emits := @Emits.first peer id message _ idBounds (by rw [found]) valid
    (by rw [found]; exact admissible)
  rw [found, speaks.sizes] at emits
  refine ⟨calls, _, chunked, sent,
    chunked.encodes idBounds speaks.positive speaks.sizes encodes emits, ?_, ?_⟩
  · intro other
    by_cases same : other = id
    · subst same
      simp only [Peer.advance, Function.update_self]
    · simp only [Peer.advance, ne_eq, same, not_false_eq_true, Function.update_of_ne]
      exact speaks.streams other
  · intro other
    by_cases same : other = id
    · subst same
      rw [RTMPEndpoint.recordSent, RTMPEndpoint.outputStream_setOutput, Function.update_self]
      exact ⟨rfl, rfl, rfl, rfl⟩
    · rw [RTMPEndpoint.recordSent, RTMPEndpoint.outputStream_setOutput_of_ne _ _ same,
        Function.update_of_ne same]
      exact speaks.records other

theorem SendOp.resize_valid {chunkSize : Nat} (bounds : 1 ≤ chunkSize ∧ chunkSize < 2 ^ 31) :
    (SendOp.resize chunkSize).timed.Valid := by
  have size : beValue ((beBytes 4 chunkSize).take 4) = chunkSize := by
    rw [List.take_of_length_le (by rw [beBytes_length]), beValue_beBytes_of_lt (by omega)]
  refine ⟨?_, ?_, show 0 < 2 ^ 24 by decide, show RTMPMessageType.setChunkSize ≠ .abort by decide,
    fun _ => ?_, ?_, ?_⟩
  · exact List.ne_nil_of_length_pos (by rw [SendOp.timed, beBytes_length]; decide)
  · rw [SendOp.timed, beBytes_length]
    decide
  · rw [SendOp.timed, beBytes_length, size]
    exact ⟨Nat.le_refl 4, bounds⟩
  · exact fun window => absurd window
      (show RTMPMessageType.setChunkSize ≠ .windowAcknowledgementSize by decide)
  · exact fun bandwith => absurd bandwith
      (show RTMPMessageType.setChunkSize ≠ .setPeerBandwith by decide)

theorem Speaks.op (speaks : Speaks peer histories endpoint)
    (encodes : EncodesBy before messages peer) {op : SendOp} (valid : op.Valid)
    (short : op.timed.Short (histories op.chunkStreamId)) :
    ∃ calls header endpoint' peer', ChunkedBy op.chunkStreamId endpoint.chunkSizeSend header
        op.timed.payload calls ∧
      ReturnsBy op.prog endpoint [] calls () endpoint' ∧
      EncodesBy (before ++ calls) (messages ++ [op.timed.toMessage op.chunkStreamId]) peer' ∧
      Speaks peer' (histories.note op) endpoint' ∧
      endpoint'.chunkSizeSend = op.resized endpoint.chunkSizeSend := by
  cases valid with
  | @message call idBounds serialized notSize valid =>
      obtain ⟨calls, header, chunked, sent, encodes', streams, records⟩ :=
        speaks.sends encodes idBounds serialized valid short
      refine ⟨calls, header, _, _, chunked, sent, encodes',
        ⟨speaks.positive, ?_, streams, records⟩, rfl⟩
      rw [Peer.advance, if_neg (fun size => notSize size.2)]
      exact speaks.sizes
  | @resize chunkSize bounds =>
      obtain ⟨calls, header, chunked, sent, encodes', streams, records⟩ :=
        speaks.sends encodes (show 2 ≤ (2 : UInt8).toNat ∧ (2 : UInt8).toNat ≤ 63 by decide)
          (setChunkSize_payload chunkSize) (SendOp.resize_valid bounds) short
      refine ⟨calls, header, _, _, chunked, changeChunkSizeOutput_by sent, encodes',
        ⟨bounds.1, ?_, streams, records⟩, rfl⟩
      rw [Peer.advance, if_pos ⟨rfl, rfl⟩]
      show beValue ((beBytes 4 chunkSize).take 4) = chunkSize
      rw [List.take_of_length_le (by rw [beBytes_length]), beValue_beBytes_of_lt (by omega)]

theorem Speaks.ops {ops : List SendOp} (valid : ∀ op ∈ ops, op.Valid) :
    ∀ {peer : Peer} {histories : Histories} {endpoint : RTMPEndpoint} {before : List Bytes}
      {messages : List RTMPMessage}, Speaks peer histories endpoint →
      EncodesBy before messages peer → ShortTimes histories ops →
      ∃ calls endpoint' peer', ReturnsBy (sendOps ops) endpoint [] calls () endpoint' ∧
        EncodesBy (before ++ calls)
          (messages ++ ops.map fun op => op.timed.toMessage op.chunkStreamId) peer' ∧
        (∀ id, (peer'.streams id).rest = []) ∧
        ∀ limit, 11 ≤ limit → ((∀ call ∈ calls, call.length ≤ limit) ↔
          ChunksWithin limit endpoint.chunkSizeSend ops) := by
  induction ops with
  | nil =>
      intro peer histories endpoint before messages speaks encodes _
      refine ⟨[], endpoint, peer, .pure _ _, ?_, fun id => by rw [speaks.streams id],
        fun limit _ => iff_of_true (List.forall_mem_nil _) trivial⟩
      rwa [List.append_nil, List.map_nil, List.append_nil]
  | cons op ops ih =>
      intro peer histories endpoint before messages speaks encodes short
      obtain ⟨calls, header, endpoint₁, peer₁, chunked, sent, encodes₁, speaks₁, size⟩ :=
        speaks.op encodes (valid op List.mem_cons_self) short.1
      obtain ⟨calls', endpoint', peer', later, encodes', closed, within⟩ :=
        ih (fun other member => valid other (List.mem_cons_of_mem op member)) speaks₁ encodes₁
          short.2
      refine ⟨calls ++ calls', endpoint', peer', sent.bind later, ?_, closed, fun limit fits => ?_⟩
      · rwa [List.append_assoc, List.append_assoc] at encodes'
      · rw [List.forall_mem_append, chunked.within_iff fits, within limit fits, size, ChunksWithin]

end Send

/-- Whatever an endpoint is asked to send, what it emits is a conforming encoding of the
messages of the calls, with none of them open at the end. -/
theorem sender_conforms {ops : List SendOp} (valid : ∀ op ∈ ops, op.Valid)
    (short : ShortTimes (fun _ => []) ops) :
    ∃ stream endpoint peer, Returns (sendOps ops) {} [] stream () endpoint ∧
      Encodes stream (ops.map fun op => op.timed.toMessage op.chunkStreamId) peer ∧
      ∀ id, (peer.streams id).rest = [] := by
  obtain ⟨calls, endpoint, peer, sent, encodes, closed, -⟩ :=
    speaks_default.ops valid .none short
  exact ⟨calls.flatten, endpoint, peer, sent.returns, encodes.encodes, closed⟩

/-- Chunks of two bytes are announced, then used. -/
theorem resized_audio_conforms : ∃ stream endpoint peer,
    Returns (sendOps [.resize 2, .message ⟨⟨.ok 3, .ok [1, 2, 3]⟩, 4, 1, .audio, 23⟩]) {} [] stream
        () endpoint ∧
      Encodes stream [⟨.setChunkSize, 0, 4, 2, 0, [0, 0, 0, 2]⟩, ⟨.audio, 1, 3, 4, 23, [1, 2, 3]⟩]
        peer ∧
      ∀ id, (peer.streams id).rest = [] := by
  have valid : ∀ op ∈ [SendOp.resize 2, .message ⟨⟨.ok 3, .ok [1, 2, 3]⟩, 4, 1, .audio, 23⟩],
      op.Valid := by
    intro op member
    simp only [List.mem_cons, List.not_mem_nil, or_false] at member
    rcases member with rfl | rfl
    · exact .resize (by decide)
    · exact .message (by decide) rfl (by decide) (by decide)
  exact sender_conforms valid ⟨show 0 < 0xFFFFFF by decide, show 23 < 0xFFFFFF by decide, trivial⟩

end EasyRtmp
