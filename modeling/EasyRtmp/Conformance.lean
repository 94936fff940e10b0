import EasyRtmp.Transfer

/-!
# Any conforming peer is understood

`Encodes` is the chunk format as a peer may use it: it chooses at every chunk
which stream to continue, and at every first chunk which of the admissible
headers to write.  It is stated over byte layouts and message histories, without
the endpoint's functions.  `Tracks` ties the peer's view of a chunk stream to the
receiver's record of it.
-/

set_option autoImplicit false

namespace EasyRtmp

open Lib Lib.ByteCodec

/-! ## The format -/

/-- A message as the peer means it; its time is not cut to any width. -/
structure TimedMessage where
  messageType : RTMPMessageType
  messageStreamId : Nat
  timestamp : Nat
  payload : Bytes

@[mk_iff]
structure TimedMessage.Valid (message : TimedMessage) : Prop where
  nonempty : message.payload ≠ []
  limited : message.payload.length ≤ 512000
  streamBound : message.messageStreamId < 2 ^ 24
  notAbort : message.messageType ≠ .abort
  size : message.messageType = .setChunkSize → 4 ≤ message.payload.length ∧
    1 ≤ beValue (message.payload.take 4) ∧ beValue (message.payload.take 4) < 2 ^ 31
  window : message.messageType = .windowAcknowledgementSize → 4 ≤ message.payload.length
  bandwith : message.messageType = .setPeerBandwith → 5 ≤ message.payload.length

instance (message : TimedMessage) : Decidable message.Valid :=
  decidable_of_iff' _ message.valid_iff

def MessageHeader.layout : MessageHeader → Bytes
  | .full header => beBytes 3 header.timestamp ++ beBytes 3 header.messageLength ++
      [header.messageTypeId] ++ leBytes 4 header.messageStreamId
  | .sameStream header => beBytes 3 header.timestampDelta ++ beBytes 3 header.messageLength ++
      [header.messageTypeId]
  | .timeOnly header => beBytes 3 header.timestampDelta
  | .continuation => []

def chunkHeaderLayout (id : UInt8) (header : MessageHeader) : Bytes :=
  UInt8.ofNat (id.toNat + 64 * header.fmt) :: header.layout

/-- The time from one message of a stream to the next, when a header can say it. -/
def Follows (previous message : TimedMessage) : Prop :=
  previous.messageStreamId = message.messageStreamId ∧ previous.timestamp ≤ message.timestamp ∧
    message.timestamp - previous.timestamp < 0xFFFFFF

/-- The headers a message may have after the messages in `history`, last first. -/
inductive Admissible (message : TimedMessage) : List TimedMessage → MessageHeader → Prop where
  | full {history : List TimedMessage} (small : message.timestamp < 0xFFFFFF) :
      Admissible message history (.full ⟨message.timestamp, message.payload.length,
        message.messageType.value, message.messageStreamId⟩)
  | sameStream {previous : TimedMessage} {older : List TimedMessage}
      (follows : Follows previous message) :
      Admissible message (previous :: older) (.sameStream
        ⟨message.timestamp - previous.timestamp, message.payload.length,
          message.messageType.value⟩)
  | timeOnly {previous : TimedMessage} {older : List TimedMessage}
      (follows : Follows previous message)
      (sameLength : previous.payload.length = message.payload.length)
      (sameType : previous.messageType = message.messageType) :
      Admissible message (previous :: older) (.timeOnly ⟨message.timestamp - previous.timestamp⟩)
  | continuation {previous before : TimedMessage} {older : List TimedMessage}
      (follows : Follows previous message)
      (sameLength : previous.payload.length = message.payload.length)
      (sameType : previous.messageType = message.messageType)
      (ordered : before.timestamp ≤ previous.timestamp)
      (sameDelta : message.timestamp - previous.timestamp = previous.timestamp - before.timestamp) :
      Admissible message (previous :: before :: older) .continuation

/-- The peer's view of a chunk stream: its messages, last first, and what is
left of the last one. -/
structure PeerStream where
  history : List TimedMessage := []
  rest : Bytes := []

structure Peer where
  chunkSize : Nat := 128
  streams : UInt8 → PeerStream := fun _ => {}

/-- The peer after a chunk that left `rest` of `message`. -/
def Peer.advance (peer : Peer) (id : UInt8) (message : TimedMessage) (older : List TimedMessage)
    (rest : Bytes) : Peer where
  streams := Function.update peer.streams id ⟨message :: older, rest⟩
  chunkSize :=
    if rest = [] ∧ message.messageType = .setChunkSize then beValue (message.payload.take 4)
    else peer.chunkSize

theorem Peer.advance_rest (peer : Peer) (id other : UInt8) (message : TimedMessage)
    (older : List TimedMessage) (rest : Bytes) :
    ((peer.advance id message older rest).streams other).rest =
      if other = id then rest else (peer.streams other).rest := by
  simp only [Peer.advance, Function.update_apply]
  split <;> rfl

def TimedMessage.toMessage (message : TimedMessage) (id : UInt8) : RTMPMessage :=
  ⟨message.messageType, message.messageStreamId, message.payload.length, id,
    message.timestamp % 2 ^ 64, message.payload⟩

def completed (id : UInt8) (message : TimedMessage) (rest : Bytes) : List RTMPMessage :=
  if rest = [] then [message.toMessage id] else []

/-- One chunk of the peer: its bytes and the message it completes. -/
inductive Emits (peer : Peer) : Bytes → List RTMPMessage → Peer → Prop where
  | first {id : UInt8} {message : TimedMessage} {header : MessageHeader}
      (idBounds : 2 ≤ id.toNat ∧ id.toNat ≤ 63) (idle : (peer.streams id).rest = [])
      (valid : message.Valid) (admissible : Admissible message (peer.streams id).history header) :
      Emits peer (chunkHeaderLayout id header ++ message.payload.take peer.chunkSize)
        (completed id message (message.payload.drop peer.chunkSize))
        (peer.advance id message (peer.streams id).history (message.payload.drop peer.chunkSize))
  | next {id : UInt8} {message : TimedMessage} {older : List TimedMessage}
      (idBounds : 2 ≤ id.toNat ∧ id.toNat ≤ 63) (partly : (peer.streams id).rest ≠ [])
      (current : (peer.streams id).history = message :: older) :
      Emits peer
        (chunkHeaderLayout id .continuation ++ (peer.streams id).rest.take peer.chunkSize)
        (completed id message ((peer.streams id).rest.drop peer.chunkSize))
        (peer.advance id message older ((peer.streams id).rest.drop peer.chunkSize))

/-- A conforming byte stream and its messages, in the order of their last chunks. -/
inductive Encodes : Bytes → List RTMPMessage → Peer → Prop where
  | none : Encodes [] [] {}
  | chunk {peer peer' : Peer} {bytes more : Bytes} {messages done : List RTMPMessage}
      (encodes : Encodes bytes messages peer) (emits : Emits peer more done peer') :
      Encodes (bytes ++ more) (messages ++ done) peer'

/-! ## The receiver -/

/-- Calls of `GetRTMPMessage`, each result passed to `HandleMessage`. -/
inductive Receives (start : RTMPEndpoint) : Bytes → List RTMPMessage → RTMPEndpoint → Prop where
  | none : Receives start [] [] start
  | call {endpoint middle after : RTMPEndpoint} {bytes input : Bytes} {messages : List RTMPMessage}
      {message : RTMPMessage} (receives : Receives start bytes messages endpoint)
      (call : Returns getRTMPMessage endpoint input [] message middle)
      (handled : Returns (handleMessage message) middle [] [] () after) :
      Receives start (bytes ++ input) (messages ++ [message]) after

/-! ## Layouts -/

theorem MessageHeader.layout_eq (header : MessageHeader) : header.layout = header.bytes := by
  cases header with
  | full header => simp [layout, bytes, ChunkMessageHeader0.serialize_eq]
  | sameStream header => simp [layout, bytes, ChunkMessageHeader1.serialize_eq]
  | timeOnly header => simp [layout, bytes, ChunkMessageHeader2.serialize_eq]
  | continuation => rfl

theorem chunkHeaderLayout_eq {id : UInt8} (idBound : id.toNat ≤ 63) (header : MessageHeader) :
    chunkHeaderLayout id header = chunkHeaderBytes id header := by
  have low : id.toNat % 64 = id.toNat := by omega
  have high : header.fmt % 4 = header.fmt := Nat.mod_eq_of_lt header.fmt_lt
  rw [chunkHeaderLayout, chunkHeaderBytes, ChunkBasicHeader.serialize_eq, header.layout_eq]
  simp only [low, high, List.singleton_append]

/-! ## What the receiver's record has to do with the peer's -/

structure Knows (message : TimedMessage) (older : List TimedMessage) (cs : ChunkStream) : Prop where
  length : cs.messageLength = message.payload.length
  type : cs.messageType = message.messageType
  stream : cs.messageStreamId = message.messageStreamId
  time : cs.timestamp = message.timestamp % 2 ^ 64
  delta : ∀ before rest, older = before :: rest → before.timestamp ≤ message.timestamp →
    message.timestamp - before.timestamp < 0xFFFFFF →
      cs.timestampDelta = message.timestamp - before.timestamp

/-- `rest` is missing of the payload the record collects. -/
structure Collects (message : TimedMessage) (rest : Bytes) (cs : ChunkStream) : Prop where
  count : cs.messageBytesRead + rest.length = message.payload.length
  contents : cs.chunksBuffer.contents cs.messageBytesRead ++ rest = message.payload

structure Tracks (peer : PeerStream) (cs : ChunkStream) : Prop where
  roomy : payloadLimit ≤ cs.chunksBuffer.size
  idle : peer.rest = [] → cs.messageBytesRead = 0
  partly : peer.rest ≠ [] → cs.messageBytesRead ≠ 0 ∧
    ∃ message older, peer.history = message :: older ∧ Collects message peer.rest cs
  known : ∀ message older, peer.history = message :: older →
    message.Valid ∧ Knows message older cs

/-- A header that may introduce a message makes the record repeat it. -/
theorem Admissible.announce {message : TimedMessage} {history : List TimedMessage}
    {header : MessageHeader} (admissible : Admissible message history header)
    (valid : message.Valid) {cs : ChunkStream} (idle : cs.messageBytesRead = 0)
    (known : ∀ previous older, history = previous :: older → Knows previous older cs) :
    Knows message history (header.received.apply cs) := by
  have limited := valid.limited
  have lengthCut : message.payload.length % 2 ^ 24 = message.payload.length := by omega
  have streamCut : message.messageStreamId % 2 ^ 24 = message.messageStreamId :=
    Nat.mod_eq_of_lt valid.streamBound
  cases admissible with
  | full small =>
      have timeCut : message.timestamp % 2 ^ 24 = message.timestamp := by omega
      simp only [MessageHeader.received, MessageHeader.apply, ChunkStream.applyHeader0, lengthCut,
        streamCut, timeCut, if_pos idle]
      refine ⟨rfl, rfl, rfl, by simp only; omega, ?_⟩
      rintro before rest rfl ordered -
      have time := (known before rest rfl).time
      simp only [subSize]
      omega
  | sameStream follows =>
      obtain ⟨sameStream, ordered, near⟩ := follows
      have previous := known _ _ rfl
      have time := previous.time
      have stream := previous.stream
      simp only [MessageHeader.received, MessageHeader.apply, ChunkStream.applyHeader1,
        ChunkStream.applyDelta, lengthCut, if_pos idle]
      refine ⟨rfl, rfl, by simp only; omega, by simp only; omega, ?_⟩
      rintro before rest same - -
      cases same
      simp only
      omega
  | timeOnly follows sameLength sameType =>
      obtain ⟨sameStream, ordered, near⟩ := follows
      have previous := known _ _ rfl
      have time := previous.time
      simp only [MessageHeader.received, MessageHeader.apply, ChunkStream.applyHeader2,
        ChunkStream.applyDelta, if_pos idle]
      refine ⟨previous.length.trans sameLength, previous.type.trans sameType,
        previous.stream.trans sameStream, by simp only; omega, ?_⟩
      rintro before rest same - -
      cases same
      simp only
      omega
  | continuation follows sameLength sameType ordered' sameDelta =>
      obtain ⟨sameStream, ordered, near⟩ := follows
      have previous := known _ _ rfl
      have time := previous.time
      have delta := previous.delta _ _ rfl ordered' (by omega)
      simp only [MessageHeader.received, MessageHeader.apply, ChunkStream.applyHeader3,
        ChunkStream.applyDelta, if_pos idle]
      refine ⟨previous.length.trans sameLength, previous.type.trans sameType,
        previous.stream.trans sameStream, by simp only; omega, ?_⟩
      rintro before rest same - -
      cases same
      simp only
      omega

structure Agrees (peer : Peer) (endpoint : RTMPEndpoint) : Prop where
  positive : 0 < peer.chunkSize
  signed : peer.chunkSize < 2 ^ 31
  sizes : endpoint.chunkSizeReceive = peer.chunkSize
  maximum : payloadLimit ≤ endpoint.maxMessageSize
  streams : ∀ id, Tracks (peer.streams id) (endpoint.inputStream id)

theorem agrees_default : Agrees {} {} where
  positive := by decide
  signed := by decide
  sizes := rfl
  maximum := Nat.le_refl _
  streams := fun _ => ⟨Nat.le_refl _, fun _ => rfl, fun partly => absurd rfl partly,
    fun _ _ known => nomatch known⟩

section Chunk
variable {endpoint : RTMPEndpoint} {id : UInt8} {header : MessageHeader} {cs : ChunkStream}
  {message : TimedMessage} {older : List TimedMessage} {rest : Bytes}

theorem receiveChunk_of_rest (idBound : id.toNat ≤ 63) (signed : endpoint.chunkSizeReceive < 2 ^ 31)
    (maximum : payloadLimit ≤ endpoint.maxMessageSize)
    (applied : header.received.apply (endpoint.inputStream id) = cs) (valid : message.Valid)
    (knows : Knows message older cs) (roomy : payloadLimit ≤ cs.chunksBuffer.size)
    (collects : Collects message rest cs) :
    Returns receiveChunk endpoint
      (chunkHeaderLayout id header ++ rest.take endpoint.chunkSizeReceive) []
      ((cs.accept (rest.take endpoint.chunkSizeReceive)).outcome id)
      (endpoint.setInput id (cs.accept (rest.take endpoint.chunkSizeReceive)).settle) := by
  have limited : message.payload.length ≤ payloadLimit := valid.limited
  have length := knows.length
  have count := collects.count
  simp only [payloadLimit] at limited roomy maximum
  have taken : (rest.take endpoint.chunkSizeReceive).length =
      min endpoint.chunkSizeReceive rest.length := List.length_take
  have wanted : toReceiveBytes cs endpoint.chunkSizeReceive =
      min rest.length endpoint.chunkSizeReceive :=
    toReceiveBytes_of_rest (by omega) (by omega)
  rw [chunkHeaderLayout_eq idBound]
  exact receiveChunk_returns (by omega) applied (by omega) (by omega) (by omega) (by omega)

theorem Collects.accept (collects : Collects message rest cs) (size : Nat) :
    Collects message (rest.drop size) (cs.accept (rest.take size)) where
  count := by
    have count := collects.count
    have whole := congrArg List.length (List.take_append_drop size rest)
    rw [List.length_append] at whole
    rw [ChunkStream.accept_messageBytesRead]
    omega
  contents := by
    rw [ChunkStream.accept_contents, List.append_assoc, List.take_append_drop]
    exact collects.contents

theorem Knows.accept (knows : Knows message older cs) (data : Bytes) :
    Knows message older (cs.accept data) :=
  ⟨knows.length, knows.type, knows.stream, knows.time, knows.delta⟩

theorem Collects.complete (collects : Collects message [] cs) (id : UInt8)
    (knows : Knows message older cs) :
    cs.outcome id = .inr (message.toMessage id) ∧
      cs.settle = { cs with messageBytesRead := 0 } := by
  have count := collects.count
  have contents := collects.contents
  rw [List.length_nil, Nat.add_zero] at count
  rw [List.append_nil, count, ← knows.length] at contents
  have complete : cs.Complete := count.trans knows.length.symm
  rw [ChunkStream.outcome, if_pos complete, ChunkStream.settle, if_pos complete,
    ChunkStream.message, contents, knows.length, knows.type, knows.stream, knows.time]
  exact ⟨rfl, rfl⟩

theorem Collects.incomplete (collects : Collects message rest cs) (id : UInt8)
    (knows : Knows message older cs) (partly : rest ≠ []) :
    cs.outcome id = .inl () ∧ cs.settle = cs := by
  have count := collects.count
  have length := knows.length
  have positive := List.length_pos_of_ne_nil partly
  have incomplete : ¬ cs.Complete := by
    unfold ChunkStream.Complete
    omega
  rw [ChunkStream.outcome, if_neg incomplete, ChunkStream.settle, if_neg incomplete]
  exact ⟨rfl, rfl⟩

end Chunk

/-- `HandleMessage` accepts every valid message and heeds `SET_CHUNK_SIZE`. -/
theorem handleMessage_valid {message : TimedMessage} (valid : message.Valid) (id : UInt8)
    (endpoint : RTMPEndpoint) :
    Returns (handleMessage (message.toMessage id)) endpoint [] [] ()
      { endpoint with chunkSizeReceive :=
          if message.messageType = .setChunkSize then beValue (message.payload.take 4)
          else endpoint.chunkSizeReceive } := by
  have limited := valid.limited
  have fits : (message.toMessage id).data.length < 2 ^ 31 := by
    simp only [TimedMessage.toMessage]
    omega
  by_cases isSize : message.messageType = .setChunkSize
  · rw [if_pos isSize]
    have whole : (message.toMessage id).data = message.payload.take 4 ++ message.payload.drop 4 :=
      (List.take_append_drop 4 _).symm
    exact handleMessage_setChunkSize isSize whole (List.length_take_of_le (valid.size isSize).1)
      fits endpoint
  · rw [if_neg isSize]
    by_cases isWindow : message.messageType = .windowAcknowledgementSize
    · exact handleMessage_window isWindow (valid.window isWindow) fits endpoint
    · by_cases isBandwith : message.messageType = .setPeerBandwith
      · exact handleMessage_bandwith isBandwith (valid.bandwith isBandwith) fits endpoint
      · exact handleMessage_other isSize valid.notAbort isWindow isBandwith endpoint

section Step
variable {peer : Peer} {endpoint : RTMPEndpoint} {id : UInt8} {cs : ChunkStream}
  {message : TimedMessage} {older : List TimedMessage} {rest : Bytes}

theorem Agrees.update (agrees : Agrees peer endpoint) {chunkSize : Nat} (positive : 0 < chunkSize)
    (signed : chunkSize < 2 ^ 31) {stream : PeerStream} (tracks : Tracks stream cs)
    {after : RTMPEndpoint} (sizes : after.chunkSizeReceive = chunkSize)
    (same : after.chunkStreamsInput = (endpoint.setInput id cs).chunkStreamsInput)
    (maximum : after.maxMessageSize = endpoint.maxMessageSize) :
    Agrees ⟨chunkSize, Function.update peer.streams id stream⟩ after := by
  have found : ∀ other, after.inputStream other = (endpoint.setInput id cs).inputStream other := by
    intro other
    simp only [RTMPEndpoint.inputStream, same, maximum, RTMPEndpoint.maxMessageSize_setInput]
  refine ⟨positive, signed, sizes, maximum ▸ agrees.maximum, fun other => ?_⟩
  rw [found other]
  by_cases same : other = id
  · subst same
    simp only [endpoint.inputStream_setInput, Function.update_self]
    exact tracks
  · simp only [endpoint.inputStream_setInput_of_ne cs same, ne_eq, same, not_false_eq_true,
      Function.update_of_ne]
    exact agrees.streams other

theorem Agrees.chunk (agrees : Agrees peer endpoint) {header : MessageHeader}
    (idBound : id.toNat ≤ 63) (applied : header.received.apply (endpoint.inputStream id) = cs)
    (valid : message.Valid) (knows : Knows message older cs)
    (roomy : payloadLimit ≤ cs.chunksBuffer.size) (collects : Collects message rest cs)
    (nonempty : rest ≠ []) :
    (completed id message (rest.drop peer.chunkSize) = [] ∧ ∃ after,
      Returns receiveChunk endpoint
        (chunkHeaderLayout id header ++ rest.take peer.chunkSize) [] (.inl ()) after ∧
      Agrees (peer.advance id message older (rest.drop peer.chunkSize)) after) ∨
    ∃ done middle after, completed id message (rest.drop peer.chunkSize) = [done] ∧
      Returns receiveChunk endpoint
        (chunkHeaderLayout id header ++ rest.take peer.chunkSize) [] (.inr done) middle ∧
      Returns (handleMessage done) middle [] [] () after ∧
      Agrees (peer.advance id message older (rest.drop peer.chunkSize)) after := by
  have sizes := agrees.sizes
  have pass := receiveChunk_of_rest idBound (by rw [sizes]; exact agrees.signed) agrees.maximum
    applied valid knows roomy collects
  rw [sizes] at pass
  have collects' := collects.accept peer.chunkSize
  have knows' := knows.accept (rest.take peer.chunkSize)
  have known : ∀ other others, message :: older = other :: others → other.Valid ∧
      Knows other others (cs.accept (rest.take peer.chunkSize)) := by
    intro other others same
    cases same
    exact ⟨valid, knows'⟩
  by_cases last : rest.drop peer.chunkSize = []
  · rw [last] at collects'
    obtain ⟨answers, settles⟩ := collects'.complete id knows'
    rw [answers, settles] at pass
    have handled := handleMessage_valid valid id (endpoint.setInput id
      { cs.accept (rest.take peer.chunkSize) with messageBytesRead := 0 })
    refine Or.inr ⟨_, _, _, if_pos last, pass, handled, ?_⟩
    have tracks : Tracks ⟨message :: older, []⟩
        { cs.accept (rest.take peer.chunkSize) with messageBytesRead := 0 } := by
      refine ⟨roomy, fun _ => rfl, fun partly => absurd rfl partly, fun other others same => ?_⟩
      obtain ⟨otherValid, repeats⟩ := known other others same
      exact ⟨otherValid, repeats.length, repeats.type, repeats.stream, repeats.time, repeats.delta⟩
    simp only [Peer.advance, last, true_and]
    split
    · rename_i isSize
      obtain ⟨-, positive, signed⟩ := valid.size isSize
      exact agrees.update positive signed tracks rfl rfl rfl
    · exact agrees.update agrees.positive agrees.signed tracks sizes rfl rfl
  · obtain ⟨answers, settles⟩ := collects'.incomplete id knows' last
    rw [answers, settles] at pass
    refine Or.inl ⟨if_neg last, _, pass, ?_⟩
    have positive := agrees.positive
    have length := List.length_pos_of_ne_nil nonempty
    have tracks : Tracks ⟨message :: older, rest.drop peer.chunkSize⟩
        (cs.accept (rest.take peer.chunkSize)) := by
      refine ⟨roomy, fun empty => absurd empty last, fun _ => ⟨?_, _, _, rfl, collects'⟩, known⟩
      rw [ChunkStream.accept_messageBytesRead, List.length_take]
      omega
    simp only [Peer.advance, last, false_and, if_false]
    exact agrees.update agrees.positive agrees.signed tracks sizes rfl rfl

end Step

/-- A chunk that completes nothing leaves its stream open. -/
theorem Emits.leaves {peer peer' : Peer} {bytes : Bytes} {messages : List RTMPMessage}
    (emits : Emits peer bytes messages peer') (nothing : messages = []) :
    ∃ id, (peer'.streams id).rest ≠ [] := by
  cases emits with
  | @first id message header idBounds idle valid admissible =>
      refine ⟨id, fun closed => ?_⟩
      simp only [Peer.advance, Function.update_self] at closed
      simp [completed, closed] at nothing
  | @next id message older idBounds partly current =>
      refine ⟨id, fun closed => ?_⟩
      simp only [Peer.advance, Function.update_self] at closed
      simp [completed, closed] at nothing

theorem Agrees.emits {peer peer' : Peer} {endpoint : RTMPEndpoint} {bytes : Bytes}
    {messages : List RTMPMessage} (agrees : Agrees peer endpoint)
    (emits : Emits peer bytes messages peer') :
    (messages = [] ∧ ∃ after, Returns receiveChunk endpoint bytes [] (.inl ()) after ∧
      Agrees peer' after) ∨
    ∃ done middle after, messages = [done] ∧
      Returns receiveChunk endpoint bytes [] (.inr done) middle ∧
      Returns (handleMessage done) middle [] [] () after ∧ Agrees peer' after := by
  cases emits with
  | @first id message header idBounds idle valid admissible =>
      have tracks := agrees.streams id
      have read := tracks.idle idle
      have knows := admissible.announce valid read fun previous older same =>
        (tracks.known previous older same).2
      have stillIdle := header.received.apply_messageBytesRead (endpoint.inputStream id)
      have sameBuffer := header.received.apply_chunksBuffer (endpoint.inputStream id)
      refine agrees.chunk idBounds.2 rfl valid knows ?_ ⟨?_, ?_⟩ valid.nonempty
      · rw [sameBuffer]
        exact tracks.roomy
      · rw [stillIdle, read, Nat.zero_add]
      · rw [stillIdle, read, GrowBuffer.contents_zero, List.nil_append]
  | @next id message older idBounds partly current =>
      have tracks := agrees.streams id
      obtain ⟨valid, knows⟩ := tracks.known message older current
      obtain ⟨started, message', older', current', collects⟩ := tracks.partly partly
      rw [current] at current'
      cases current'
      exact agrees.chunk idBounds.2 (ChunkStream.continuation_partly started) valid knows
        tracks.roomy collects partly

theorem Encodes.received {bytes : Bytes} {messages : List RTMPMessage} {peer : Peer}
    (encodes : Encodes bytes messages peer) :
    ∃ whole part endpoint endpoint', bytes = whole ++ part ∧ Receives {} whole messages endpoint ∧
      Runs ⟨endpoint, getRTMPMessage⟩ part [] ⟨endpoint', getRTMPMessage⟩ ∧
      Agrees peer endpoint' ∧ (part ≠ [] → ∃ id, (peer.streams id).rest ≠ []) := by
  induction encodes with
  | none =>
      exact ⟨[], [], {}, {}, rfl, .none, .refl _, agrees_default, fun more => absurd rfl more⟩
  | @chunk peer peer' bytes more messages done encodes emits ih =>
      obtain ⟨whole, part, endpoint, endpoint', rfl, receives, within, agrees, -⟩ := ih
      rcases agrees.emits emits with ⟨rfl, after, pass, agrees'⟩ |
        ⟨message, middle, after, rfl, pass, handled, agrees'⟩
      · refine ⟨whole, part ++ more, endpoint, after, by rw [List.append_assoc], ?_,
          within.trans (Runs.loop_again pass), agrees', fun _ => ?_⟩
        · rwa [List.append_nil]
        · exact emits.leaves rfl
      · have call : Returns getRTMPMessage endpoint (part ++ more) [] message middle :=
          within.trans (Runs.loop_done pass)
        refine ⟨whole ++ (part ++ more), [], after, after, by simp, .call receives call handled,
          .refl _, agrees', fun more => absurd rfl more⟩

/-- Every conforming byte stream is decoded into its messages, each delivered at
its last chunk with its type, stream ids, time and payload.  What is behind the
last message is the beginning of further messages, if any is open. -/
theorem conforming_stream_decoded {bytes : Bytes} {messages : List RTMPMessage} {peer : Peer}
    (encodes : Encodes bytes messages peer) :
    ∃ whole part endpoint endpoint', bytes = whole ++ part ∧ Receives {} whole messages endpoint ∧
      Runs ⟨endpoint, getRTMPMessage⟩ part [] ⟨endpoint', getRTMPMessage⟩ ∧
      ((∀ id, (peer.streams id).rest = []) → part = []) := by
  obtain ⟨whole, part, endpoint, endpoint', split, receives, within, -, openPart⟩ :=
    encodes.received
  refine ⟨whole, part, endpoint, endpoint', split, receives, within, fun closed => ?_⟩
  by_contra more
  obtain ⟨id, partly⟩ := openPart more
  exact partly (closed id)

def audioAt (timestamp : Nat) (payload : Bytes) : TimedMessage := ⟨.audio, 1, timestamp, payload⟩

def videoAt (timestamp : Nat) (payload : Bytes) : TimedMessage := ⟨.video, 1, timestamp, payload⟩

/-- Behind a `SET_CHUNK_SIZE` of 2: audio on stream 4 whose messages begin with the headers
0, 2 and 3, and between its chunks video on stream 6 with the headers 0 and 1. -/
theorem interleaved_encodes : ∃ peer, Encodes
    [2, 0, 0, 0, 0, 0, 4, 1, 0, 0, 0, 0, 0, 0, 0, 2,
      4, 0, 0, 5, 0, 0, 3, 8, 1, 0, 0, 0, 1, 2, 6, 0, 0, 7, 0, 0, 1, 9, 1, 0, 0, 0, 9, 196, 3,
      132, 0, 0, 10, 4, 5, 70, 0, 0, 2, 0, 0, 2, 9, 8, 8, 196, 6, 196, 7, 8, 196, 9]
    [⟨.setChunkSize, 0, 4, 2, 0, [0, 0, 0, 2]⟩, ⟨.video, 1, 1, 6, 7, [9]⟩,
      ⟨.audio, 1, 3, 4, 5, [1, 2, 3]⟩, ⟨.video, 1, 2, 6, 9, [8, 8]⟩,
      ⟨.audio, 1, 3, 4, 15, [4, 5, 6]⟩, ⟨.audio, 1, 3, 4, 25, [7, 8, 9]⟩] peer ∧
    ∀ id, (peer.streams id).rest = [] := by
  have size := Encodes.chunk .none (@Emits.first {} 2 ⟨.setChunkSize, 0, 0, [0, 0, 0, 2]⟩ _
    (by decide) rfl (by decide) (.full (by decide)))
  have audio₁ := size.chunk (@Emits.first _ 4 (audioAt 5 [1, 2, 3]) _ (by decide) rfl (by decide)
    (.full (by decide)))
  have video₁ := audio₁.chunk (@Emits.first _ 6 (videoAt 7 [9]) _ (by decide) rfl (by decide)
    (.full (by decide)))
  have audio₁' := video₁.chunk (@Emits.next _ 4 (audioAt 5 [1, 2, 3]) _ (by decide) (by decide) rfl)
  have audio₂ := audio₁'.chunk (@Emits.first _ 4 (audioAt 15 [4, 5, 6]) _ (by decide) rfl
    (by decide) (@Admissible.timeOnly _ (audioAt 5 [1, 2, 3]) [] (.intro rfl (by decide)) rfl rfl))
  have video₂ := audio₂.chunk (@Emits.first _ 6 (videoAt 9 [8, 8]) _ (by decide) rfl (by decide)
    (@Admissible.sameStream _ (videoAt 7 [9]) [] (.intro rfl (by decide))))
  have audio₂' := video₂.chunk (@Emits.next _ 4 (audioAt 15 [4, 5, 6]) _ (by decide) (by decide)
    rfl)
  have audio₃ := audio₂'.chunk (@Emits.first _ 4 (audioAt 25 [7, 8, 9]) _ (by decide) rfl
    (by decide) (@Admissible.continuation _ (audioAt 15 [4, 5, 6]) (audioAt 5 [1, 2, 3]) []
      (.intro rfl (by decide)) rfl rfl (by decide) rfl))
  have audio₃' := audio₃.chunk (@Emits.next _ 4 (audioAt 25 [7, 8, 9]) _ (by decide) (by decide)
    rfl)
  refine ⟨_, audio₃', fun id => ?_⟩
  by_cases audio : id = 4
  · subst audio
    rfl
  by_cases video : id = 6
  · subst video
    rfl
  by_cases control : id = 2
  · subst control
    rfl
  simp only [Peer.advance_rest, if_neg audio, if_neg video, if_neg control]

theorem interleaved_streams_decoded : ∃ endpoint, Receives {}
    [2, 0, 0, 0, 0, 0, 4, 1, 0, 0, 0, 0, 0, 0, 0, 2,
      4, 0, 0, 5, 0, 0, 3, 8, 1, 0, 0, 0, 1, 2, 6, 0, 0, 7, 0, 0, 1, 9, 1, 0, 0, 0, 9, 196, 3,
      132, 0, 0, 10, 4, 5, 70, 0, 0, 2, 0, 0, 2, 9, 8, 8, 196, 6, 196, 7, 8, 196, 9]
    [⟨.setChunkSize, 0, 4, 2, 0, [0, 0, 0, 2]⟩, ⟨.video, 1, 1, 6, 7, [9]⟩,
      ⟨.audio, 1, 3, 4, 5, [1, 2, 3]⟩, ⟨.video, 1, 2, 6, 9, [8, 8]⟩,
      ⟨.audio, 1, 3, 4, 15, [4, 5, 6]⟩, ⟨.audio, 1, 3, 4, 25, [7, 8, 9]⟩]
    endpoint := by
  obtain ⟨peer, encodes, closed⟩ := interleaved_encodes
  obtain ⟨whole, part, endpoint, -, split, receives, -, ends⟩ := conforming_stream_decoded encodes
  rw [ends closed, List.append_nil] at split
  exact ⟨endpoint, split ▸ receives⟩

end EasyRtmp
