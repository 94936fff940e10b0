import EasyRtmp.Arrivals

/-!
# How far reassembly can be trusted

Two bounds on what `GetRTMPMessage` reads and stores, for any peer.  The length
still missing never wraps exactly if no header takes back what was announced
(`Honest`).  Payloads stay inside their buffers exactly if every length finds a
buffer that grew for it (`HasRoom`): one maximum is shared by all streams, but
each stream owns its buffer.
-/

set_option autoImplicit false

namespace EasyRtmp

open Lib Lib.ByteCodec

/-! ## What a header does to the records -/

namespace RTMPEndpoint

variable (endpoint : RTMPEndpoint) (id : UInt8) (cs : ChunkStream)

@[simp] theorem storeHeader_chunkSizeReceive :
    (endpoint.storeHeader id cs).chunkSizeReceive = endpoint.chunkSizeReceive := by
  unfold storeHeader
  split <;> rfl

@[simp] theorem storeHeader_maxMessageSize :
    (endpoint.storeHeader id cs).maxMessageSize = max endpoint.maxMessageSize cs.messageLength := by
  unfold storeHeader
  split
  · simp only
    omega
  · simp only [maxMessageSize_setInput]
    omega

theorem storeHeader_inputStream :
    (endpoint.storeHeader id cs).inputStream id =
      if endpoint.maxMessageSize < cs.messageLength then
        { cs with chunksBuffer := cs.chunksBuffer.resize cs.messageLength }
      else cs := by
  unfold storeHeader
  split
  · simp [inputStream, setInput]
  · exact endpoint.inputStream_setInput id cs

theorem storeHeader_found : (endpoint.storeHeader id cs).chunkStreamsInput id =
    some ((endpoint.storeHeader id cs).inputStream id) := by
  rw [storeHeader_inputStream]
  unfold storeHeader
  split <;> simp [setInput]

theorem storeHeader_other {other : UInt8} (ne : other ≠ id) :
    (endpoint.storeHeader id cs).chunkStreamsInput other = endpoint.chunkStreamsInput other := by
  unfold storeHeader
  split <;> simp [setInput, ne]

/-- A stream that is not yet known may find a larger buffer, nothing else. -/
theorem storeHeader_inputStream_other {other : UInt8} (ne : other ≠ id) :
    ∃ buffer, (endpoint.storeHeader id cs).inputStream other =
      { endpoint.inputStream other with chunksBuffer := buffer } := by
  have kept := endpoint.storeHeader_other id cs ne
  cases found : endpoint.chunkStreamsInput other with
  | none => exact ⟨_, by rw [inputStream, kept, inputStream, found]; rfl⟩
  | some record => exact ⟨record.chunksBuffer, by rw [inputStream, kept, inputStream, found]; rfl⟩

theorem storeHeader_fields :
    ((endpoint.storeHeader id cs).inputStream id).messageLength = cs.messageLength ∧
    ((endpoint.storeHeader id cs).inputStream id).messageBytesRead = cs.messageBytesRead := by
  rw [storeHeader_inputStream]
  split <;> exact ⟨rfl, rfl⟩

end RTMPEndpoint

theorem MessageHeader.apply_messageLength (header : MessageHeader) (cs : ChunkStream) :
    (header.apply cs).messageLength = header.announced.getD cs.messageLength := by
  cases header <;>
    simp [apply, announced, ChunkStream.applyHeader0, ChunkStream.applyHeader1,
      ChunkStream.applyHeader2, ChunkStream.applyHeader3]

theorem receiveChunkHeader_after {endpoint after : RTMPEndpoint} {output : Bytes} {id : UInt8}
    {header : MessageHeader}
    (call : Returns receiveChunkHeader endpoint (chunkHeaderBytes id header) output id after) :
    after = endpoint.storeHeader id (header.received.apply (endpoint.inputStream id)) := by
  obtain ⟨_, -, idBound, -⟩ := receiveChunkHeader_encoded call
  have expected := receiveChunkHeader_returns endpoint idBound header
  exact (call.unique expected (Eq.refl (_ ++ []))).2.1

/-- Two endpoints that store the same record, or none, for a stream. -/
theorem RTMPEndpoint.inputStream_of_none {endpoint : RTMPEndpoint} {id : UInt8}
    (unknown : endpoint.chunkStreamsInput id = none) :
    endpoint.inputStream id = { chunksBuffer := .ofSize endpoint.maxMessageSize } := by
  rw [inputStream, unknown, Option.getD_none]

theorem RTMPEndpoint.inputStream_of_some {endpoint : RTMPEndpoint} {id : UInt8} {cs : ChunkStream}
    (known : endpoint.chunkStreamsInput id = some cs) : endpoint.inputStream id = cs := by
  rw [inputStream, known, Option.getD_some]

@[simp] theorem ChunkStream.settle_messageLength (cs : ChunkStream) :
    cs.settle.messageLength = cs.messageLength := by
  unfold settle
  split <;> rfl

@[simp] theorem ChunkStream.settle_chunksBuffer (cs : ChunkStream) :
    cs.settle.chunksBuffer = cs.chunksBuffer := by
  unfold settle
  split <;> rfl

theorem ChunkStream.settle_messageBytesRead_le (cs : ChunkStream) :
    cs.settle.messageBytesRead ≤ cs.messageBytesRead := by
  unfold settle
  split
  · exact Nat.zero_le _
  · exact Nat.le_refl _

/-! ## The missing length -/

/-- A header does not announce less than has been read. -/
def Arrival.Honest (arrival : Arrival) : Prop :=
  ∀ length, arrival.header.announced = some length → arrival.before.messageBytesRead ≤ length

/-- The subtraction does not wrap, and no more is read than is missing. -/
structure Arrival.NoUnderflow (arrival : Arrival) : Prop where
  read : arrival.current.messageBytesRead ≤ arrival.current.messageLength
  missing : subSize arrival.current.messageLength arrival.current.messageBytesRead =
    arrival.current.messageLength - arrival.current.messageBytesRead
  atMost : arrival.toReceive ≤ arrival.current.messageLength - arrival.current.messageBytesRead

/-- No record has read more than its message's length. -/
structure Sound (endpoint : RTMPEndpoint) : Prop where
  chunkSize : endpoint.chunkSizeReceive < 2 ^ 32
  streams : ∀ id, (endpoint.inputStream id).messageBytesRead ≤
    (endpoint.inputStream id).messageLength ∧ (endpoint.inputStream id).messageLength < 2 ^ 24

theorem sound_default : Sound {} :=
  ⟨by decide, fun _ => ⟨Nat.le_refl _, show 0 < 2 ^ 24 by decide⟩⟩

section Sound
variable {endpoint after : RTMPEndpoint} {id : UInt8}

theorem Sound.setInput (sound : Sound endpoint) {cs : ChunkStream}
    (read : cs.messageBytesRead ≤ cs.messageLength) (small : cs.messageLength < 2 ^ 24) :
    Sound (endpoint.setInput id cs) := by
  refine ⟨sound.chunkSize, fun other => ?_⟩
  by_cases same : other = id
  · subst same
    rw [endpoint.inputStream_setInput]
    exact ⟨read, small⟩
  · rw [endpoint.inputStream_setInput_of_ne cs same]
    exact sound.streams other

theorem Sound.storeHeader (sound : Sound endpoint) {cs : ChunkStream}
    (read : cs.messageBytesRead ≤ cs.messageLength) (small : cs.messageLength < 2 ^ 24) :
    Sound (endpoint.storeHeader id cs) := by
  refine ⟨?_, fun other => ?_⟩
  · rw [RTMPEndpoint.storeHeader_chunkSizeReceive]
    exact sound.chunkSize
  · by_cases same : other = id
    · subst same
      obtain ⟨length, bytesRead⟩ := endpoint.storeHeader_fields other cs
      rw [length, bytesRead]
      exact ⟨read, small⟩
    · obtain ⟨buffer, kept⟩ := endpoint.storeHeader_inputStream_other id cs same
      rw [kept]
      exact sound.streams other

theorem Sound.header (sound : Sound endpoint) {header : MessageHeader} {output : Bytes}
    (call : Returns receiveChunkHeader endpoint (chunkHeaderBytes id header) output id after)
    (honest : ∀ length, header.received.announced = some length →
      (endpoint.inputStream id).messageBytesRead ≤ length) : Sound after := by
  rw [receiveChunkHeader_after call]
  obtain ⟨read, small⟩ := sound.streams id
  have length := header.received.apply_messageLength (endpoint.inputStream id)
  have bytesRead := header.received.apply_messageBytesRead (endpoint.inputStream id)
  cases announces : header.received.announced with
  | none =>
      rw [announces, Option.getD_none] at length
      exact sound.storeHeader (by omega) (by omega)
  | some announced =>
      rw [announces, Option.getD_some] at length
      have bound := MessageHeader.announced_received_lt announces
      have enough := honest announced announces
      exact sound.storeHeader (by omega) (by omega)

theorem Sound.missing (sound : Sound endpoint) (id : UInt8) :
    subSize (endpoint.inputStream id).messageLength (endpoint.inputStream id).messageBytesRead =
      (endpoint.inputStream id).messageLength - (endpoint.inputStream id).messageBytesRead := by
  obtain ⟨read, small⟩ := sound.streams id
  unfold subSize
  omega

theorem Sound.payload (sound : Sound endpoint) {input output : Bytes}
    {result : Unit ⊕ RTMPMessage}
    (call : Returns (receiveChunkPayload id) endpoint input output result after) : Sound after := by
  obtain ⟨data, length, -, -, -, rfl⟩ :=
    (receiveChunkPayload_post endpoint id sound.chunkSize).returns call
  obtain ⟨read, small⟩ := sound.streams id
  have missing := sound.missing id
  have atMost : data.length ≤ (endpoint.inputStream id).messageLength -
      (endpoint.inputStream id).messageBytesRead := by
    rw [length, toReceiveBytes, missing]
    exact Nat.min_le_left _ _
  apply sound.setInput
  · refine Nat.le_trans (ChunkStream.settle_messageBytesRead_le _) ?_
    rw [ChunkStream.settle_messageLength, ChunkStream.accept_messageBytesRead,
      ChunkStream.accept_messageLength]
    omega
  · rw [ChunkStream.settle_messageLength]
    exact small

theorem Sound.handled (sound : Sound endpoint) {message : RTMPMessage}
    (changed : after = endpoint ∨
      (∃ chunkSize, chunkSize < 2 ^ 32 ∧
        after = { endpoint with chunkSizeReceive := chunkSize }) ∨
      ∃ cs, endpoint.chunkStreamsInput message.chunkStreamId = some cs ∧
        after = endpoint.setInput message.chunkStreamId { cs with messageBytesRead := 0 }) :
    Sound after := by
  rcases changed with rfl | ⟨chunkSize, bound, rfl⟩ | ⟨cs, found, rfl⟩
  · exact sound
  · exact ⟨bound, sound.streams⟩
  · have record := sound.streams message.chunkStreamId
    rw [RTMPEndpoint.inputStream_of_some found] at record
    exact sound.setInput (Nat.zero_le _) record.2

/-- Honest headers keep every record sound, whatever else arrives. -/
theorem Arrives.sound {trace : List Arrival} {phase : Option UInt8}
    (arrives : Arrives trace phase endpoint) (honest : ∀ arrival ∈ trace, arrival.Honest) :
    Sound endpoint := by
  induction arrives with
  | start => exact sound_default
  | header _ call ih =>
      have before := ih fun arrival member => honest arrival (List.mem_cons_of_mem _ member)
      exact before.header call (honest _ List.mem_cons_self)
  | payload _ call ih => exact (ih honest).payload call
  | @payloadFails trace endpoint after id input output stop _ call ih =>
      have kept := (receiveChunkPayload_post endpoint id (ih honest).chunkSize).fails call
      rw [kept]
      exact ih honest
  | @handle trace endpoint after message input output _ call ih =>
      exact (ih honest).handled ((handleMessage_post message endpoint).returns call)
  | @handleFails trace endpoint after message input output stop _ call ih =>
      rw [(handleMessage_post message endpoint).fails call]
      exact ih honest

end Sound

theorem Sound.noUnderflow {endpoint : RTMPEndpoint} (sound : Sound endpoint) {id : UInt8}
    {header : MessageHeader} {before : ChunkStream} :
    Arrival.NoUnderflow
      ⟨id, header, endpoint.chunkSizeReceive, before, endpoint.inputStream id⟩ := by
  obtain ⟨read, small⟩ := sound.streams id
  have missing := sound.missing id
  refine ⟨read, missing, ?_⟩
  unfold Arrival.toReceive toReceiveBytes
  rw [missing]
  exact Nat.min_le_left _ _

/-- A header that takes back part of what was read makes the length wrap. -/
theorem honest_of_noUnderflow {endpoint after : RTMPEndpoint} {id : UInt8}
    {header : MessageHeader} {output : Bytes}
    (call : Returns receiveChunkHeader endpoint (chunkHeaderBytes id header) output id after)
    (noUnderflow : (after.inputStream id).messageBytesRead ≤ (after.inputStream id).messageLength)
    {length : Nat} (announces : header.received.announced = some length) :
    (endpoint.inputStream id).messageBytesRead ≤ length := by
  rw [receiveChunkHeader_after call] at noUnderflow
  obtain ⟨fields, bytesRead⟩ := endpoint.storeHeader_fields id
    (header.received.apply (endpoint.inputStream id))
  rw [fields, bytesRead, MessageHeader.apply_messageLength, announces,
    MessageHeader.apply_messageBytesRead, Option.getD_some] at noUnderflow
  exact noUnderflow

/-- In every run of a receiver on any bytes, the missing length never wraps
exactly if every header is honest. -/
theorem no_underflow_iff {trace : List Arrival} {phase : Option UInt8} {endpoint : RTMPEndpoint}
    (arrives : Arrives trace phase endpoint) :
    (∀ arrival ∈ trace, arrival.NoUnderflow) ↔ ∀ arrival ∈ trace, arrival.Honest := by
  induction arrives with
  | start => simp
  | @header trace endpoint after id header output arrives call ih =>
      rw [List.forall_mem_cons, List.forall_mem_cons, ih]
      constructor
      · rintro ⟨noUnderflow, older⟩
        exact ⟨fun length announces => honest_of_noUnderflow call noUnderflow.read announces, older⟩
      · rintro ⟨honest, older⟩
        exact ⟨((arrives.sound older).header call honest).noUnderflow, older⟩
  | payload _ _ ih => exact ih
  | payloadFails _ _ ih => exact ih
  | handle _ _ ih => exact ih
  | handleFails _ _ ih => exact ih

/-- A message of `length` bytes begins on chunk stream 3. -/
def announcing (length : Nat) : MessageHeader := .full ⟨0, length, 8, 1⟩

section Runs
variable {trace : List Arrival} {endpoint : RTMPEndpoint} {id : UInt8} {cs : ChunkStream}

/-- A header whose length needs no larger buffer. -/
theorem Arrives.announced (arrives : Arrives trace none endpoint) (idBound : id.toNat < 64)
    (header : MessageHeader) (applied : header.received.apply (endpoint.inputStream id) = cs)
    (small : cs.messageLength ≤ endpoint.maxMessageSize) :
    Arrives (⟨id, header.received, endpoint.chunkSizeReceive, endpoint.inputStream id, cs⟩ :: trace)
      (some id) (endpoint.setInput id cs) := by
  have call := receiveChunkHeader_returns endpoint idBound header
  rw [applied, endpoint.storeHeader_of_le id small] at call
  have step := arrives.header call
  rwa [endpoint.inputStream_setInput, endpoint.chunkSizeReceive_setInput] at step

theorem Arrives.stored (arrives : Arrives trace (some id) endpoint) (data : Bytes)
    (length : data.length = toReceiveBytes (endpoint.inputStream id) endpoint.chunkSizeReceive)
    (signed : data.length < 2 ^ 31)
    (fits : (endpoint.inputStream id).messageBytesRead + data.length ≤
      (endpoint.inputStream id).chunksBuffer.size) :
    Arrives trace none
      (endpoint.setInput id ((endpoint.inputStream id).accept data).settle) :=
  arrives.payload (receiveChunkPayload_returns rfl length signed fits)

end Runs

/-- Amid a message of 1000 bytes a second header announces 600, on a stream that has
read 128. -/
theorem length_lowered_no_underflow : ∃ trace endpoint, Arrives trace (some 3) endpoint ∧
    (trace.map fun arrival => (arrival.before.messageBytesRead, arrival.current.messageLength)) =
      [(128, 600), (0, 200), (0, 1000)] ∧ ∀ arrival ∈ trace, arrival.NoUnderflow := by
  have three : (3 : UInt8).toNat < 64 := by decide
  have first := Arrives.start.announced three (announcing 1000) rfl (by decide +kernel)
  have partly := first.stored (List.replicate 128 0) (by decide +kernel) (by decide +kernel)
    (by decide +kernel)
  have other := (partly.announced (show (4 : UInt8).toNat < 64 by decide) (announcing 200) rfl
    (by decide +kernel)).stored (List.replicate 128 0) (by decide +kernel) (by decide +kernel)
    (by decide +kernel)
  have second := other.announced three (announcing 600) rfl (by decide +kernel)
  refine ⟨_, _, second, by decide +kernel, (no_underflow_iff second).mpr ?_⟩
  simp only [List.forall_mem_cons, List.not_mem_nil, false_implies, implies_true, and_true]
  refine ⟨?_, ?_, ?_⟩
  all_goals
    intro length announces
    rw [← Option.some.inj announces]
    decide +kernel

/-- Of a message of 1000 bytes 128 have come when its length is taken back to 50. -/
theorem length_taken_back : ∃ trace endpoint, Arrives trace (some 3) endpoint ∧
    ∃ arrival ∈ trace, arrival.current.messageBytesRead = 128 ∧
      arrival.current.messageLength = 50 ∧ arrival.toReceive = 128 := by
  have idBound : (3 : UInt8).toNat < 64 := by decide
  have first := Arrives.start.announced idBound (announcing 1000) rfl (by decide +kernel)
  have partly := first.stored (List.replicate 128 0) (by decide +kernel) (by decide +kernel)
    (by decide +kernel)
  have second := partly.announced idBound (announcing 50) rfl (by decide +kernel)
  exact ⟨_, _, second, _, List.mem_cons_self, by decide +kernel, by decide +kernel,
    by decide +kernel⟩

/-! ## The buffers -/

/-- What was heard of a chunk: its stream and the length its header announced. -/
abbrev Heard := UInt8 × Option Nat

def Arrival.heard (arrival : Arrival) : Heard := (arrival.id, arrival.header.announced)

/-- The largest length announced on any stream, last chunk first. -/
def peak : List Heard → Nat
  | [] => 512000
  | (_, length) :: older => max (length.getD 0) (peak older)

/-- The largest length announced on a stream itself, or on any stream before its
first chunk. -/
def room (id : UInt8) : List Heard → Nat
  | [] => 512000
  | (other, length) :: older =>
      if other ≠ id ∧ id ∈ older.map Prod.fst then room id older
      else max (length.getD 0) (room id older)

/-- Each announced length is a new maximum or not above its stream's room. -/
def HasRoom : List Heard → Prop
  | [] => True
  | (id, length) :: older => HasRoom older ∧
      ∀ announced, length = some announced → peak older < announced ∨ announced ≤ room id older

/-- A header that announces a length finds no message partly read. -/
def Arrival.Orderly (arrival : Arrival) : Prop :=
  arrival.header.announced ≠ none → arrival.before.messageBytesRead = 0

/-- The range written and the range copied out lie in the stream's buffer. -/
structure Arrival.Inside (arrival : Arrival) : Prop where
  written : arrival.current.messageBytesRead + arrival.toReceive ≤
    arrival.current.chunksBuffer.size
  copied : arrival.current.messageLength ≤ arrival.current.chunksBuffer.size

theorem Arrival.Orderly.honest {arrival : Arrival} (orderly : arrival.Orderly) :
    arrival.Honest := by
  intro length announces
  rw [orderly (by rw [announces]; exact Option.some_ne_none length)]
  exact Nat.zero_le length

theorem room_le_peak (id : UInt8) (history : List Heard) : room id history ≤ peak history := by
  induction history with
  | nil => exact Nat.le_refl _
  | cons entry older ih =>
      simp only [room, peak]
      split <;> omega

theorem room_of_unheard {id : UInt8} {history : List Heard}
    (unheard : id ∉ history.map Prod.fst) : room id history = peak history := by
  induction history with
  | nil => rfl
  | cons entry older ih =>
      rw [List.map_cons, List.mem_cons, not_or] at unheard
      simp only [room, peak]
      rw [if_neg (fun heard => unheard.2 heard.2), ih unheard.2]

/-- The maximum is the peak, and each buffer has its stream's room. -/
structure Roomy (history : List Heard) (endpoint : RTMPEndpoint) : Prop where
  maximum : endpoint.maxMessageSize = peak history
  known : ∀ id, endpoint.chunkStreamsInput id = none ↔ id ∉ history.map Prod.fst
  sizes : ∀ id, (endpoint.inputStream id).chunksBuffer.size = room id history
  lengths : ∀ id, (endpoint.inputStream id).messageLength ≤ room id history

theorem roomy_default : Roomy [] {} :=
  ⟨rfl, fun _ => ⟨fun _ => List.not_mem_nil, fun _ => rfl⟩, fun _ => rfl, fun _ => Nat.zero_le _⟩

section Roomy
variable {history : List Heard} {endpoint after : RTMPEndpoint} {id : UInt8}

theorem Roomy.setInput (roomy : Roomy history endpoint) (heard : id ∈ history.map Prod.fst)
    {cs : ChunkStream} (size : cs.chunksBuffer.size = (endpoint.inputStream id).chunksBuffer.size)
    (length : cs.messageLength = (endpoint.inputStream id).messageLength) :
    Roomy history (endpoint.setInput id cs) := by
  refine ⟨roomy.maximum, fun other => ?_, fun other => ?_, fun other => ?_⟩
  · by_cases same : other = id
    · subst same
      simp [RTMPEndpoint.setInput, heard]
    · rw [← roomy.known other]
      simp [RTMPEndpoint.setInput, same]
  · by_cases same : other = id
    · subst same
      rw [endpoint.inputStream_setInput, size, roomy.sizes]
    · rw [endpoint.inputStream_setInput_of_ne cs same, roomy.sizes]
  · by_cases same : other = id
    · subst same
      rw [endpoint.inputStream_setInput, length]
      exact roomy.lengths other
    · rw [endpoint.inputStream_setInput_of_ne cs same]
      exact roomy.lengths other

/-- What a header leaves behind, from the record it is applied to. -/
theorem Roomy.storeHeader (roomy : Roomy history endpoint) {cs : ChunkStream}
    {length : Option Nat} (buffer : cs.chunksBuffer = (endpoint.inputStream id).chunksBuffer)
    (announced : cs.messageLength = length.getD (endpoint.inputStream id).messageLength)
    (fits : ∀ value, length = some value → peak history < value ∨ value ≤ room id history) :
    Roomy ((id, length) :: history) (endpoint.storeHeader id cs) := by
  have belowPeak := room_le_peak id history
  have lengthBelow := roomy.lengths id
  have size := roomy.sizes id
  -- The new length is the peak, or the buffer already has room for it.
  have grown : cs.messageLength ≤ room id ((id, length) :: history) ∧
      max (peak history) cs.messageLength = peak ((id, length) :: history) ∧
      ((endpoint.storeHeader id cs).inputStream id).chunksBuffer.size =
        room id ((id, length) :: history) := by
    rw [RTMPEndpoint.storeHeader_inputStream, roomy.maximum]
    simp only [room, peak, ne_eq, not_true_eq_false, false_and, if_false]
    cases length with
    | none =>
        rw [Option.getD_none] at announced ⊢
        rw [if_neg (by omega), buffer, size]
        omega
    | some value =>
        rw [Option.getD_some] at announced ⊢
        rcases fits value rfl with larger | inside
        · rw [if_pos (by omega)]
          simp only [GrowBuffer.resize_size]
          omega
        · rw [if_neg (by omega), buffer, size]
          omega
  obtain ⟨below, newPeak, newSize⟩ := grown
  have others : ∀ other, other ≠ id →
      ((endpoint.storeHeader id cs).inputStream other).chunksBuffer.size =
        room other ((id, length) :: history) ∧
      ((endpoint.storeHeader id cs).inputStream other).messageLength ≤
        room other ((id, length) :: history) := by
    intro other ne
    have kept := endpoint.storeHeader_other id cs ne
    simp only [room, ne_eq, ne.symm, not_false_eq_true, true_and]
    cases found : endpoint.chunkStreamsInput other with
    | none =>
        have unheard := (roomy.known other).mp found
        rw [found] at kept
        rw [if_neg unheard, room_of_unheard unheard, RTMPEndpoint.inputStream_of_none kept,
          RTMPEndpoint.storeHeader_maxMessageSize, roomy.maximum, newPeak]
        exact ⟨rfl, Nat.zero_le _⟩
    | some record =>
        have heard : other ∈ history.map Prod.fst := by
          by_contra unheard
          rw [(roomy.known other).mpr unheard] at found
          cases found
        rw [found] at kept
        rw [if_pos heard, RTMPEndpoint.inputStream_of_some kept,
          ← RTMPEndpoint.inputStream_of_some found]
        exact ⟨roomy.sizes other, roomy.lengths other⟩
  refine ⟨?_, fun other => ?_, fun other => ?_, fun other => ?_⟩
  · rw [RTMPEndpoint.storeHeader_maxMessageSize, roomy.maximum, newPeak]
  · by_cases same : other = id
    · subst same
      simp [endpoint.storeHeader_found]
    · rw [endpoint.storeHeader_other id cs same, roomy.known other]
      simp [same]
  · by_cases same : other = id
    · subst same
      exact newSize
    · exact (others other same).1
  · by_cases same : other = id
    · subst same
      rw [(endpoint.storeHeader_fields other cs).1]
      exact below
    · exact (others other same).2

theorem Roomy.header (roomy : Roomy history endpoint) {header : MessageHeader} {output : Bytes}
    (call : Returns receiveChunkHeader endpoint (chunkHeaderBytes id header) output id after)
    (fits : ∀ value, header.received.announced = some value →
      peak history < value ∨ value ≤ room id history) :
    Roomy ((id, header.received.announced) :: history) after := by
  rw [receiveChunkHeader_after call]
  exact roomy.storeHeader (header.received.apply_chunksBuffer _)
    (header.received.apply_messageLength _) fits

theorem Roomy.fits (roomy : Roomy history endpoint) {header : MessageHeader} {output : Bytes}
    (call : Returns receiveChunkHeader endpoint (chunkHeaderBytes id header) output id after)
    (copied : (after.inputStream id).messageLength ≤ (after.inputStream id).chunksBuffer.size)
    {value : Nat} (announces : header.received.announced = some value) :
    peak history < value ∨ value ≤ room id history := by
  by_contra neither
  rw [not_or] at neither
  have length := header.received.apply_messageLength (endpoint.inputStream id)
  have buffer := header.received.apply_chunksBuffer (endpoint.inputStream id)
  rw [announces, Option.getD_some] at length
  rw [receiveChunkHeader_after call, RTMPEndpoint.storeHeader_inputStream, roomy.maximum,
    if_neg (by omega), length, buffer, roomy.sizes] at copied
  exact neither.2 copied

theorem Roomy.payload (roomy : Roomy history endpoint) (heard : id ∈ history.map Prod.fst)
    (chunkSize : endpoint.chunkSizeReceive < 2 ^ 32) {input output : Bytes}
    {result : Unit ⊕ RTMPMessage}
    (call : Returns (receiveChunkPayload id) endpoint input output result after) :
    Roomy history after := by
  obtain ⟨data, -, -, -, -, rfl⟩ := (receiveChunkPayload_post endpoint id chunkSize).returns call
  apply roomy.setInput heard
  · rw [ChunkStream.settle_chunksBuffer, ChunkStream.accept_size]
  · rw [ChunkStream.settle_messageLength, ChunkStream.accept_messageLength]

theorem Roomy.handled (roomy : Roomy history endpoint) {message : RTMPMessage}
    (changed : after = endpoint ∨
      (∃ chunkSize, chunkSize < 2 ^ 32 ∧
        after = { endpoint with chunkSizeReceive := chunkSize }) ∨
      ∃ cs, endpoint.chunkStreamsInput message.chunkStreamId = some cs ∧
        after = endpoint.setInput message.chunkStreamId { cs with messageBytesRead := 0 }) :
    Roomy history after := by
  rcases changed with rfl | ⟨chunkSize, -, rfl⟩ | ⟨cs, found, rfl⟩
  · exact roomy
  · exact ⟨roomy.maximum, roomy.known, roomy.sizes, roomy.lengths⟩
  · have heard : message.chunkStreamId ∈ history.map Prod.fst := by
      by_contra unheard
      rw [(roomy.known _).mpr unheard] at found
      cases found
    have record := RTMPEndpoint.inputStream_of_some found
    exact roomy.setInput heard (by rw [record]) (by rw [record])

/-- While a payload is awaited its stream was the last one heard. -/
theorem Arrives.phase_heard {trace : List Arrival} {phase : Option UInt8}
    (arrives : Arrives trace phase endpoint) (waiting : phase = some id) :
    id ∈ (trace.map Arrival.heard).map Prod.fst := by
  cases arrives with
  | header _ _ =>
      cases waiting
      exact List.mem_cons_self
  | start | payload | payloadFails | handle | handleFails => cases waiting

theorem Arrives.roomy {trace : List Arrival} {phase : Option UInt8}
    (arrives : Arrives trace phase endpoint) (orderly : ∀ arrival ∈ trace, arrival.Orderly)
    (hasRoom : HasRoom (trace.map Arrival.heard)) : Roomy (trace.map Arrival.heard) endpoint := by
  induction arrives with
  | start => exact roomy_default
  | header _ call ih =>
      have before := ih (fun arrival member => orderly arrival (List.mem_cons_of_mem _ member))
        hasRoom.1
      exact before.header call hasRoom.2
  | payload arrives call ih =>
      have sound := arrives.sound fun arrival member => (orderly arrival member).honest
      exact (ih orderly hasRoom).payload (arrives.phase_heard rfl) sound.chunkSize call
  | @payloadFails trace endpoint after id input output stop arrives call ih =>
      have sound := arrives.sound fun arrival member => (orderly arrival member).honest
      rw [(receiveChunkPayload_post endpoint id sound.chunkSize).fails call]
      exact ih orderly hasRoom
  | @handle trace endpoint after message input output _ call ih =>
      exact (ih orderly hasRoom).handled ((handleMessage_post message endpoint).returns call)
  | @handleFails trace endpoint after message input output stop _ call ih =>
      rw [(handleMessage_post message endpoint).fails call]
      exact ih orderly hasRoom

theorem Roomy.inside (roomy : Roomy history endpoint) (sound : Sound endpoint)
    {header : MessageHeader} {before : ChunkStream} :
    Arrival.Inside ⟨id, header, endpoint.chunkSizeReceive, before, endpoint.inputStream id⟩ := by
  obtain ⟨read, -⟩ := sound.streams id
  have length := roomy.lengths id
  have atMost : Arrival.toReceive ⟨id, header, endpoint.chunkSizeReceive, before,
      endpoint.inputStream id⟩ ≤ (endpoint.inputStream id).messageLength -
        (endpoint.inputStream id).messageBytesRead := sound.noUnderflow.atMost
  rw [← roomy.sizes id] at length
  exact ⟨by simp only; omega, length⟩

end Roomy

/-- In every run in which no length is announced amid a message, all ranges lie
in their buffers exactly if every announced length has room. -/
theorem buffers_hold_iff {trace : List Arrival} {phase : Option UInt8} {endpoint : RTMPEndpoint}
    (arrives : Arrives trace phase endpoint) (orderly : ∀ arrival ∈ trace, arrival.Orderly) :
    (∀ arrival ∈ trace, arrival.Inside) ↔ HasRoom (trace.map Arrival.heard) := by
  induction arrives with
  | start => simp [HasRoom]
  | @header trace endpoint after id header output arrives call ih =>
      have older := fun arrival member => orderly arrival (List.mem_cons_of_mem _ member)
      rw [List.forall_mem_cons, ih older, List.map_cons]
      constructor
      · rintro ⟨inside, hasRoom⟩
        exact ⟨hasRoom, fun value announces =>
          (arrives.roomy older hasRoom).fits call inside.copied announces⟩
      · rintro ⟨hasRoom, fits⟩
        have roomy := (arrives.roomy older hasRoom).header call fits
        have sound := (arrives.header call).sound fun arrival member =>
          (orderly arrival member).honest
        exact ⟨roomy.inside sound, hasRoom⟩
  | payload _ _ ih => exact ih orderly
  | payloadFails _ _ ih => exact ih orderly
  | handle _ _ ih => exact ih orderly
  | handleFails _ _ ih => exact ih orderly

/-- Two large messages on two streams, each in a buffer that grew for it. -/
theorem grown_buffers_hold : ∃ trace endpoint, Arrives trace (some 4) endpoint ∧
    trace.map Arrival.heard = [(4, some 700000), (3, some 600000)] ∧
    ∀ arrival ∈ trace, arrival.Inside := by
  have three : (3 : UInt8).toNat < 64 := by decide
  have four : (4 : UInt8).toNat < 64 := by decide
  have raised := Arrives.start.header (receiveChunkHeader_returns _ three (announcing 600000))
  have partly := raised.stored (List.replicate 128 0) (by decide +kernel) (by decide +kernel)
    (by decide +kernel)
  have arrives := partly.header (receiveChunkHeader_returns _ four (announcing 700000))
  refine ⟨_, _, arrives, by decide +kernel, (buffers_hold_iff arrives ?_).mpr ?_⟩
  · simp only [List.forall_mem_cons, List.not_mem_nil, false_implies, implies_true, and_true]
    constructor
    all_goals
      intro _
      decide +kernel
  · refine ⟨⟨trivial, ?_⟩, ?_⟩
    all_goals
      intro value announces
      left
      rw [← Option.some.inj announces]
      decide +kernel

/-- A payload that leaves its buffer is a fault. -/
theorem receiveChunkPayload_overruns {endpoint : RTMPEndpoint} {id : UInt8} {data : Bytes}
    (length : data.length = toReceiveBytes (endpoint.inputStream id) endpoint.chunkSizeReceive)
    (signed : data.length < 2 ^ 31)
    (overruns : (endpoint.inputStream id).chunksBuffer.size <
      (endpoint.inputStream id).messageBytesRead + data.length) :
    Fails (receiveChunkPayload id) endpoint data [] .outOfBounds endpoint := by
  unfold receiveChunkPayload
  refine Fails.after (Returns.getState endpoint) ?_
  simp only
  rw [← length, toInt_of_lt signed]
  refine Fails.after_silent (receiveData_returns data endpoint) ?_
  simp only [GrowBuffer.write?_of_lt _ _ _ overruns]
  exact .refl _

/-- Stream 3 exists when stream 4 raises the maximum to 600000.  The 550000 bytes
then announced on stream 3 find the buffer of 512000 that it was created with. -/
theorem shared_maximum_overruns : ∃ trace endpoint, Arrives trace (some 3) endpoint ∧
    (∀ arrival ∈ trace, arrival.Orderly) ∧ (∃ arrival ∈ trace, ¬ arrival.Inside) ∧
    Fails (receiveChunkPayload 3) endpoint (List.replicate 550000 0) [] .outOfBounds endpoint := by
  have two : (2 : UInt8).toNat < 64 := by decide
  have three : (3 : UInt8).toNat < 64 := by decide
  have four : (4 : UInt8).toNat < 64 := by decide
  have created := (Arrives.start.announced three (announcing 1) rfl (by decide +kernel)).stored [0]
    (by decide +kernel) (by decide +kernel) (by decide +kernel)
  have raised := created.header (receiveChunkHeader_returns _ four (announcing 600000))
  have partly := raised.stored (List.replicate 128 0) (by decide +kernel) (by decide +kernel)
    (by decide +kernel)
  have sized := (partly.announced two (.full ⟨0, 4, 1, 0⟩) rfl (by decide +kernel)).stored
    [0, 9, 39, 192] (by decide +kernel) (by decide +kernel) (by decide +kernel)
  have isSize : (RTMPMessage.mk .setChunkSize 0 4 2 0 [0, 9, 39, 192]).messageType =
      .setChunkSize := rfl
  have handled := sized.handle (handleMessage_setChunkSize isSize (List.append_nil _).symm rfl
    (by decide) _)
  have last := handled.announced three (announcing 550000) rfl (by decide +kernel)
  refine ⟨_, _, last, ?_, ⟨_, List.mem_cons_self, ?_⟩, ?_⟩
  · simp only [List.forall_mem_cons, List.not_mem_nil, false_implies, implies_true, and_true]
    refine ⟨?_, ?_, ?_, ?_⟩
    all_goals
      intro _
      decide +kernel
  · intro inside
    exact absurd inside.copied (by decide +kernel)
  · apply receiveChunkPayload_overruns
    · rw [List.length_replicate]
      decide +kernel
    · rw [List.length_replicate]
      decide +kernel
    · rw [List.length_replicate]
      decide +kernel

end EasyRtmp
