import EasyRtmp.Halves
import EasyRtmp.Reassembly
import EasyRtmp.StartTimes

/-!
# What the start-up values of a record reach

`Hears` runs the loop of `GetRTMPMessage` and `HandleMessage` chunk by chunk, from
records that start with any values.  Two such runs on the same bytes go through the
same chunks; what can differ are the times, and `TimeForm` says how.
-/

set_option autoImplicit false

namespace EasyRtmp

open Lib Lib.ByteCodec

/-- One chunk: whether it is the first on its chunk stream, whether it begins a message,
and the message that it completes. -/
structure ChunkHeard where
  id : UInt8
  header : MessageHeader
  fresh : Bool
  starts : Bool
  message : Option RTMPMessage

def RTMPEndpoint.chunkHeard (endpoint : RTMPEndpoint) (id : UInt8) (header : MessageHeader)
    (result : Unit ⊕ RTMPMessage) : ChunkHeard :=
  ⟨id, header.received, (endpoint.chunkStreamsInput id).isNone,
    (endpoint.inputStream id).messageBytesRead = 0, result.getRight?⟩

/-- A message that is complete goes to `HandleMessage`, which returns or throws. -/
def PassesOn : Unit ⊕ RTMPMessage → RTMPEndpoint → RTMPEndpoint → Prop
  | .inl _, after, ready => ready = after
  | .inr message, after, ready =>
      ∃ rest, Runs ⟨after, handleMessage message⟩ [] [] ⟨ready, rest⟩ ∧
        (⟨ready, rest⟩ : Config RTMPEndpoint Stop Unit).Finished

inductive Hears (sentinels : Sentinels) :
    RTMPEndpoint → Bytes → List ChunkHeard → RTMPEndpoint → Prop where
  | done (endpoint : RTMPEndpoint) : Hears sentinels endpoint [] [] endpoint
  | chunk {endpoint middle after ready final : RTMPEndpoint} {id : UInt8} {header : MessageHeader}
      {data bytes : Bytes} {result : Unit ⊕ RTMPMessage} {trace : List ChunkHeard}
      (head : Returns (receiveChunkHeaderFrom sentinels) endpoint (chunkHeaderBytes id header) []
        id middle)
      (body : Returns (receiveChunkPayload id) middle data [] result after)
      (passed : PassesOn result after ready) (rest : Hears sentinels ready bytes trace final) :
      Hears sentinels endpoint (chunkHeaderBytes id header ++ (data ++ bytes))
        (endpoint.chunkHeard id header result :: trace) final

def deliveries (trace : List ChunkHeard) : List RTMPMessage := trace.filterMap ChunkHeard.message

/-- What the caller is told of a message. -/
def RTMPMessage.told (message : RTMPMessage) : RTMPMessageType × Nat × Bytes × Nat :=
  (message.messageType, message.messageStreamId, message.data, message.timestamp)

/-- Whatever values records start from, the same messages are delivered. -/
def Unaffected (start : RTMPEndpoint) (bytes : Bytes) : Prop :=
  ∀ one other trace trace' final final', Hears one start bytes trace final →
    Hears other start bytes trace' final' →
      (deliveries trace).map RTMPMessage.told = (deliveries trace').map RTMPMessage.told

/-! ## The times of a run -/

/-- The times of a stream behind one more chunk.  A first chunk has a full header. -/
def ChunkHeard.form (heard : ChunkHeard) : Option TimeForm → TimeForm
  | some form => form.meet heard.starts heard.header
  | none =>
      match heard.header with
      | .full header => .opened header.timestamp
      | _ => .opened 0

/-- The messages of a run, each with what its time is for every start-up value. -/
def stamps (forms : UInt8 → Option TimeForm) : List ChunkHeard → List (RTMPMessage × TimeForm)
  | [] => []
  | heard :: trace =>
      (heard.message.map fun message => (message, heard.form (forms heard.id))).toList ++
        stamps (Function.update forms heard.id (some (heard.form (forms heard.id)))) trace

/-! ## Records that differ in their times -/

def RTMPMessage.withTime (timestamp : Nat) (message : RTMPMessage) : RTMPMessage :=
  { message with timestamp := timestamp }

namespace ChunkStream

variable {cs cs' : ChunkStream}

def untimed (cs : ChunkStream) : ChunkStream :=
  { cs with
    timestamp := 0
    timestampDelta := 0 }

theorem of_untimed (same : cs'.untimed = cs.untimed) :
    ∃ timestamp timestampDelta, cs' =
      { cs with
        timestamp := timestamp
        timestampDelta := timestampDelta } := by
  obtain ⟨length, read, type, stream, timestamp, timestampDelta, buffer⟩ := cs'
  simp only [untimed, ChunkStream.mk.injEq] at same
  obtain ⟨rfl, rfl, rfl, rfl, -, -, rfl⟩ := same
  exact ⟨timestamp, timestampDelta, rfl⟩

theorem untimed_apply (same : cs'.untimed = cs.untimed) (header : MessageHeader) :
    (header.apply cs').untimed = (header.apply cs).untimed := by
  obtain ⟨timestamp, timestampDelta, rfl⟩ := of_untimed same
  by_cases begins : cs.messageBytesRead = 0
  all_goals
    cases header <;>
      simp [MessageHeader.apply, applyHeader0, applyHeader1, applyHeader2, applyHeader3,
        applyDelta, untimed, begins]

theorem untimed_settle (same : cs'.untimed = cs.untimed) :
    cs'.settle.untimed = cs.settle.untimed := by
  obtain ⟨timestamp, timestampDelta, rfl⟩ := of_untimed same
  by_cases complete : cs.messageBytesRead = cs.messageLength
  all_goals simp [settle, Complete, untimed, complete]

theorem untimed_accept (same : cs'.untimed = cs.untimed) (data : Bytes) :
    (cs'.accept data).untimed = (cs.accept data).untimed := by
  obtain ⟨timestamp, timestampDelta, rfl⟩ := of_untimed same
  rfl

theorem settle_times (cs : ChunkStream) : cs.settle.timestamp = cs.timestamp ∧
    cs.settle.timestampDelta = cs.timestampDelta := by
  unfold settle
  split <;> exact ⟨rfl, rfl⟩

theorem outcome_untimed (same : cs'.untimed = cs.untimed) (id : UInt8) :
    cs'.outcome id = (cs.outcome id).map (fun _ => ()) (RTMPMessage.withTime cs'.timestamp) := by
  obtain ⟨timestamp, timestampDelta, rfl⟩ := of_untimed same
  by_cases complete : cs.messageBytesRead = cs.messageLength
  all_goals simp [outcome, Complete, message, RTMPMessage.withTime, complete]

end ChunkStream

/-! ## Two runs side by side -/

/-- The records of one stream in two runs, where the second starts from `start`. -/
inductive Mirrored (start : Nat) : Option TimeForm → Option ChunkStream → Option ChunkStream → Prop
  where
  | unknown : Mirrored start none none none
  | known {form : TimeForm} {cs cs' : ChunkStream} (same : cs'.untimed = cs.untimed)
      (stamped : form.Stamped start cs') : Mirrored start (some form) (some cs) (some cs')

structure SameButTimes (forms : UInt8 → Option TimeForm) (start : Nat)
    (endpoint endpoint' : RTMPEndpoint) : Prop where
  maxMessageSize : endpoint'.maxMessageSize = endpoint.maxMessageSize
  chunkSizeReceive : endpoint'.chunkSizeReceive = endpoint.chunkSizeReceive
  streams : ∀ id, Mirrored start (forms id) (endpoint.chunkStreamsInput id)
    (endpoint'.chunkStreamsInput id)

section Runs
variable {forms : UInt8 → Option TimeForm} {start : Nat} {endpoint endpoint' : RTMPEndpoint}
  {form : TimeForm} {cs cs' : ChunkStream}

theorem SameButTimes.setInput (mirrors : SameButTimes forms start endpoint endpoint')
    (same : cs'.untimed = cs.untimed) (stamped : form.Stamped start cs') (id : UInt8) :
    SameButTimes (Function.update forms id (some form)) start (endpoint.setInput id cs)
      (endpoint'.setInput id cs') := by
  refine ⟨mirrors.maxMessageSize, mirrors.chunkSizeReceive, fun other => ?_⟩
  by_cases this : other = id
  · subst this
    simp only [RTMPEndpoint.setInput, Function.update_self]
    exact .known same stamped
  · simp only [RTMPEndpoint.setInput, Function.update_of_ne this]
    exact mirrors.streams other

theorem SameButTimes.storeHeader (mirrors : SameButTimes forms start endpoint endpoint')
    (same : cs'.untimed = cs.untimed) (stamped : form.Stamped start cs') (id : UInt8) :
    SameButTimes (Function.update forms id (some form)) start (endpoint.storeHeader id cs)
      (endpoint'.storeHeader id cs') := by
  obtain ⟨timestamp, timestampDelta, rfl⟩ := ChunkStream.of_untimed same
  unfold RTMPEndpoint.storeHeader
  rw [mirrors.maxMessageSize]
  split
  · have grown : ChunkStream.untimed
        { cs with
          timestamp := timestamp
          timestampDelta := timestampDelta
          chunksBuffer := cs.chunksBuffer.resize cs.messageLength } =
        ChunkStream.untimed
          { cs with
            chunksBuffer := cs.chunksBuffer.resize cs.messageLength } := rfl
    obtain ⟨-, chunkSize, streams⟩ :=
      mirrors.setInput grown ⟨stamped.timestamp, stamped.timestampDelta⟩ id
    exact ⟨rfl, chunkSize, streams⟩
  · exact mirrors.setInput same stamped id

theorem SameButTimes.known (mirrors : SameButTimes forms start endpoint endpoint') {id : UInt8}
    (form' : forms id = some form) :
    (endpoint'.inputStream id).untimed = (endpoint.inputStream id).untimed ∧
      form.Stamped start (endpoint'.inputStream id) := by
  have mirrored := mirrors.streams id
  rw [form'] at mirrored
  generalize records : endpoint.chunkStreamsInput id = old at mirrored
  generalize records' : endpoint'.chunkStreamsInput id = old' at mirrored
  cases mirrored with
  | known same stamped =>
      rw [RTMPEndpoint.inputStream_of_some records, RTMPEndpoint.inputStream_of_some records']
      exact ⟨same, stamped⟩

/-- What a header leaves in the records of both runs. -/
theorem SameButTimes.header (one : Sentinels) {other : Sentinels}
    (mirrors : SameButTimes forms other.timestamp.toNat endpoint endpoint') {id : UInt8}
    {header : MessageHeader} {result : Unit ⊕ RTMPMessage}
    (full : (endpoint.chunkHeard id header result).fresh → header.fmt = 0) :
    (header.received.apply (endpoint'.inputStreamFrom other id)).untimed =
        (header.received.apply (endpoint.inputStreamFrom one id)).untimed ∧
      ((endpoint.chunkHeard id header result).form (forms id)).Stamped other.timestamp.toNat
        (header.received.apply (endpoint'.inputStreamFrom other id)) := by
  have mirrored := mirrors.streams id
  generalize records : endpoint.chunkStreamsInput id = old at mirrored
  generalize records' : endpoint'.chunkStreamsInput id = old' at mirrored
  generalize known : forms id = form at mirrored
  cases mirrored with
  | unknown =>
      simp only [RTMPEndpoint.chunkHeard, records, Option.isNone_none, forall_const] at full
      simp only [RTMPEndpoint.inputStreamFrom, records, records', Option.getD_none,
        mirrors.maxMessageSize]
      cases header with
      | full header =>
          refine ⟨?_, TimeForm.opened_stamped rfl rfl header⟩
          simp [MessageHeader.received, MessageHeader.apply, ChunkStream.applyHeader0,
            ChunkStream.untimed]
      | sameStream | timeOnly | continuation => cases full
  | @known form cs cs' same stamped =>
      have read : (endpoint.inputStream id).messageBytesRead = cs'.messageBytesRead := by
        rw [RTMPEndpoint.inputStream_of_some records]
        exact (congrArg ChunkStream.messageBytesRead same).symm
      simp only [RTMPEndpoint.inputStreamFrom, records, records', Option.getD_some]
      refine ⟨ChunkStream.untimed_apply same _, ?_⟩
      simp only [ChunkHeard.form, RTMPEndpoint.chunkHeard, read]
      exact stamped.meet header

/-- The same chunk in both runs. -/
theorem SameButTimes.chunk {one other : Sentinels}
    (mirrors : SameButTimes forms other.timestamp.toNat endpoint endpoint')
    (small : endpoint.chunkSizeReceive < 2 ^ 32) {middle after : RTMPEndpoint} {id : UInt8}
    {header : MessageHeader} {data : Bytes} {result : Unit ⊕ RTMPMessage}
    (head : Returns (receiveChunkHeaderFrom one) endpoint (chunkHeaderBytes id header) [] id middle)
    (body : Returns (receiveChunkPayload id) middle data [] result after)
    (full : (endpoint.chunkHeard id header result).fresh → header.fmt = 0) :
    ∃ middle' after',
      Returns (receiveChunkHeaderFrom other) endpoint' (chunkHeaderBytes id header) [] id middle' ∧
      Returns (receiveChunkPayload id) middle' data []
        (result.map (fun _ => ()) (RTMPMessage.withTime
          (((endpoint.chunkHeard id header result).form (forms id)).time
            other.timestamp.toNat))) after' ∧
      SameButTimes
        (Function.update forms id
          (some ((endpoint.chunkHeard id header result).form (forms id))))
        other.timestamp.toNat after after' ∧
      after.chunkSizeReceive = endpoint.chunkSizeReceive := by
  obtain ⟨same, stamped⟩ := mirrors.header one full
  obtain ⟨_, -, idBound, -, -⟩ := receiveChunkHeaderFrom_encoded head
  have expected := receiveChunkHeaderFrom_returns one endpoint idBound header
  obtain ⟨-, rfl, -, -⟩ := head.unique expected (Eq.refl (_ ++ []))
  have stored := mirrors.storeHeader same stamped id
  generalize (endpoint.chunkHeard id header result).form (forms id) = form at stored ⊢
  have announced := receiveChunkHeaderFrom_returns other endpoint' idBound header
  have size := endpoint.storeHeader_chunkSizeReceive id
    (header.received.apply (endpoint.inputStreamFrom one id))
  generalize endpoint.storeHeader id (header.received.apply (endpoint.inputStreamFrom one id)) =
    middle at stored body size
  generalize endpoint'.storeHeader id (header.received.apply (endpoint'.inputStreamFrom other id)) =
    middle' at stored announced
  -- From here on the record of the stream is known to both runs.
  obtain ⟨alike, timed⟩ := stored.known (Function.update_self id (some form) forms)
  obtain ⟨length, short, fits, rfl, rfl, -⟩ := receiveChunkPayload_inv (by omega) body
  have messageLength := congrArg ChunkStream.messageLength alike
  have messageBytesRead := congrArg ChunkStream.messageBytesRead alike
  have buffer := congrArg ChunkStream.chunksBuffer alike
  simp only [ChunkStream.untimed] at messageLength messageBytesRead buffer
  have filled := @receiveChunkPayload_returns middle' id (middle'.inputStream id) data rfl
    (by rw [toReceiveBytes, messageLength, messageBytesRead, stored.chunkSizeReceive]; exact length)
    short (by rw [messageBytesRead, buffer]; exact fits)
  have accepted := ChunkStream.untimed_accept alike data
  have times := ((middle'.inputStream id).accept data).settle_times
  rw [ChunkStream.outcome_untimed accepted id] at filled
  refine ⟨middle', middle'.setInput id ((middle'.inputStream id).accept data).settle, announced,
    ?_, ?_, size⟩
  · rw [← timed.timestamp]
    exact filled
  · have settled := stored.setInput (ChunkStream.untimed_settle accepted)
      ⟨times.1.trans timed.timestamp, times.2.trans timed.timestampDelta⟩ id
    rwa [Function.update_idem] at settled

theorem handleMessage_mirrors (message : RTMPMessage) :
    Lockstep (SameButTimes forms start) (handleMessage message) (handleMessage message) := by
  refine .ite ?_ (.ite ?_ (.ite ?_ (.ite ?_ (.ret ()))))
  · refine .bind (.ofExcept _) fun scz => .modifyState fun _ _ mirrors => ?_
    exact ⟨mirrors.maxMessageSize, rfl, mirrors.streams⟩
  · refine .getState fun endpoint endpoint' mirrors => ?_
    have mirrored := mirrors.streams message.chunkStreamId
    generalize records : endpoint.chunkStreamsInput message.chunkStreamId = old at mirrored
    generalize records' : endpoint'.chunkStreamsInput message.chunkStreamId = old' at mirrored
    generalize known : forms message.chunkStreamId = form at mirrored
    cases mirrored with
    | unknown => exact .fail _
    | @known form cs cs' same stamped =>
        have emptied : ({ cs' with messageBytesRead := 0 } : ChunkStream).untimed =
            ({ cs with messageBytesRead := 0 } : ChunkStream).untimed := by
          obtain ⟨timestamp, timestampDelta, rfl⟩ := ChunkStream.of_untimed same
          rfl
        have kept := mirrors.setInput emptied ⟨stamped.timestamp, stamped.timestampDelta⟩
          message.chunkStreamId
        rw [← known, Function.update_eq_self] at kept
        exact .put kept (.ret ())
  · exact .bind (.ofExcept _) fun _ => .ret ()
  · exact .bind (.ofExcept _) fun _ => .ret ()

theorem SameButTimes.passesOn (mirrors : SameButTimes forms start endpoint endpoint')
    {result : Unit ⊕ RTMPMessage} {ready : RTMPEndpoint} (passed : PassesOn result endpoint ready)
    (timestamp : Nat) :
    ∃ ready',
      PassesOn (result.map (fun _ => ()) (RTMPMessage.withTime timestamp)) endpoint' ready' ∧
      SameButTimes forms start ready ready' := by
  cases result with
  | inl again =>
      obtain rfl : ready = endpoint := passed
      exact ⟨endpoint', rfl, mirrors⟩
  | inr message =>
      obtain ⟨rest, run, finished⟩ := passed
      obtain ⟨ready', rest', run', mirrors', tail⟩ :=
        (handleMessage_mirrors message).reaches mirrors run
      refine ⟨ready', ⟨rest', run', ?_⟩, mirrors'⟩
      rcases finished with ⟨value, ended⟩ | ⟨stop, ended⟩
      all_goals
        simp only at ended tail
        subst ended
        cases tail
      · exact Or.inl ⟨value, rfl⟩
      · exact Or.inr ⟨stop, rfl⟩

theorem PassesOn.small {result : Unit ⊕ RTMPMessage} {ready : RTMPEndpoint}
    (passed : PassesOn result endpoint ready) (small : endpoint.chunkSizeReceive < 2 ^ 32) :
    ready.chunkSizeReceive < 2 ^ 32 := by
  cases result with
  | inl again =>
      obtain rfl : ready = endpoint := passed
      exact small
  | inr message =>
      obtain ⟨rest, run, finished⟩ := passed
      rcases finished with ⟨value, ended⟩ | ⟨stop, ended⟩
      · simp only at ended
        subst ended
        rcases (handleMessage_post message endpoint).returns run with rfl |
          ⟨chunkSize, bound, rfl⟩ | ⟨cs, -, rfl⟩
        · exact small
        · exact bound
        · exact small
      · simp only at ended
        subst ended
        rw [(handleMessage_post message endpoint).fails run]
        exact small

end Runs

/-! ## Whole runs -/

theorem deliveries_cons (heard : ChunkHeard) (trace : List ChunkHeard) :
    deliveries (heard :: trace) = heard.message.toList ++ deliveries trace := by
  cases message : heard.message <;> simp [deliveries, message]

/-- A pass of the loop is a chunk. -/
theorem receiveChunkFrom_inv {sentinels : Sentinels} {endpoint after : RTMPEndpoint}
    {input output : Bytes} {result : Unit ⊕ RTMPMessage}
    (small : endpoint.chunkSizeReceive < 2 ^ 32)
    (pass : Returns (receiveChunkFrom sentinels) endpoint input output result after) :
    ∃ id header data middle,
      Returns (receiveChunkHeaderFrom sentinels) endpoint (chunkHeaderBytes id header) [] id
        middle ∧
      Returns (receiveChunkPayload id) middle data [] result after ∧
      input = chunkHeaderBytes id header ++ data ∧
      after.chunkSizeReceive = endpoint.chunkSizeReceive := by
  obtain ⟨id, middle, front, data, sent, later, head, body, rfl, -⟩ := pass.bind_inv
  obtain ⟨header, rfl, -, rfl, rfl⟩ := receiveChunkHeaderFrom_encoded head
  have size := endpoint.storeHeader_chunkSizeReceive id
    (header.received.apply (endpoint.inputStreamFrom sentinels id))
  have stored := receiveChunkPayload_inv (by omega) body
  obtain ⟨-, -, -, -, kept, rfl⟩ := stored
  exact ⟨id, header, data, _, head, body, rfl, by rw [kept]; exact size⟩

theorem Hears.passes {sentinels : Sentinels} {begin : Unit}
    {endpoint middle ready final : RTMPEndpoint} {message : RTMPMessage}
    {input output bytes : Bytes} {trace : List ChunkHeard}
    (passes : Runs.Iterates (fun _ => receiveChunkFrom sentinels) begin endpoint input output
      message middle) (passed : PassesOn (.inr message) middle ready)
    (rest : Hears sentinels ready bytes trace final) :
    endpoint.chunkSizeReceive < 2 ^ 32 → ∃ trace', Hears sentinels endpoint (input ++ bytes) trace'
      final ∧ deliveries trace' = message :: deliveries trace := by
  induction passes with
  | last pass =>
      intro small
      obtain ⟨id, header, data, reached, head, body, rfl, -⟩ := receiveChunkFrom_inv small pass
      have hears := Hears.chunk head body passed rest
      rw [← List.append_assoc] at hears
      exact ⟨_, hears, by rw [deliveries_cons]; rfl⟩
  | again pass _ inductionHypothesis =>
      intro small
      obtain ⟨id, header, data, reached, head, body, rfl, size⟩ := receiveChunkFrom_inv small pass
      obtain ⟨trace', hears', delivered⟩ := inductionHypothesis passed (by omega)
      have hears := Hears.chunk head body rfl hears'
      rw [← List.append_assoc, ← List.append_assoc] at hears
      exact ⟨_, hears, by rw [deliveries_cons, delivered]; rfl⟩

/-- A call of `GetRTMPMessage` in front of a run. -/
theorem Hears.call {sentinels : Sentinels} {endpoint middle ready final : RTMPEndpoint}
    {message : RTMPMessage} {input output bytes : Bytes} {trace : List ChunkHeard}
    (small : endpoint.chunkSizeReceive < 2 ^ 32)
    (call : Returns (getRTMPMessageFrom sentinels) endpoint input output message middle)
    (passed : PassesOn (.inr message) middle ready)
    (rest : Hears sentinels ready bytes trace final) :
    ∃ trace', Hears sentinels endpoint (input ++ bytes) trace' final ∧
      deliveries trace' = message :: deliveries trace :=
  Hears.passes call.iterates passed rest small

/-- A run can be made from any other start-up values, and delivers the same but for times. -/
theorem Hears.mirrored {one other : Sentinels} {endpoint final : RTMPEndpoint} {bytes : Bytes}
    {trace : List ChunkHeard} (hears : Hears one endpoint bytes trace final) :
    ∀ {forms : UInt8 → Option TimeForm} {endpoint' : RTMPEndpoint},
      SameButTimes forms other.timestamp.toNat endpoint endpoint' →
      endpoint.chunkSizeReceive < 2 ^ 32 → (∀ heard ∈ trace, heard.fresh → heard.header.fmt = 0) →
      ∃ trace' final', Hears other endpoint' bytes trace' final' ∧
        deliveries trace' = (stamps forms trace).map fun stamp =>
          stamp.1.withTime (stamp.2.time other.timestamp.toNat) := by
  induction hears with
  | done endpoint => exact fun {_ endpoint'} _ _ _ => ⟨[], endpoint', .done endpoint', rfl⟩
  | @chunk endpoint middle after ready final id header data bytes result trace head body passed rest
      inductionHypothesis =>
      intro forms endpoint' mirrors small full
      have first : (endpoint.chunkHeard id header result).fresh → header.fmt = 0 := by
        intro fresh
        have zero := full _ List.mem_cons_self fresh
        cases header <;> first | rfl | cases zero
      obtain ⟨middle', after', head', body', mirrors', size⟩ := mirrors.chunk small head body first
      obtain ⟨ready', passed', ready⟩ := mirrors'.passesOn passed _
      obtain ⟨trace', final', hears', delivered⟩ := inductionHypothesis ready
        (passed.small (by rw [size]; exact small))
        fun heard member => full heard (List.mem_cons_of_mem _ member)
      refine ⟨_, final', .chunk head' body' passed' hears', ?_⟩
      rw [deliveries_cons, delivered, stamps, List.map_append]
      congr 1
      cases result <;> rfl

theorem PassesOn.unique {result : Unit ⊕ RTMPMessage} {after ready ready' : RTMPEndpoint}
    (passed : PassesOn result after ready) (passed' : PassesOn result after ready') :
    ready = ready' := by
  cases result with
  | inl again => exact Eq.trans passed (Eq.symm passed')
  | inr message =>
      obtain ⟨rest, run, finished⟩ := passed
      obtain ⟨rest', run', finished'⟩ := passed'
      have same := (Runs.unique run run' (Eq.refl ([] ++ [])) finished finished').1
      exact congrArg Config.state same

/-- A run is determined by its bytes. -/
theorem Hears.unique {sentinels : Sentinels} {endpoint final : RTMPEndpoint} {bytes : Bytes}
    {trace : List ChunkHeard} (hears : Hears sentinels endpoint bytes trace final) :
    ∀ {bytes' : Bytes} {trace' : List ChunkHeard} {final' : RTMPEndpoint},
      Hears sentinels endpoint bytes' trace' final' → bytes = bytes' →
        deliveries trace = deliveries trace' := by
  induction hears with
  | done endpoint =>
      intro bytes' trace' final' hears' same
      cases hears' with
      | done => rfl
      | chunk => simp [chunkHeaderBytes, ChunkBasicHeader.serialize_eq] at same
  | chunk head body passed rest inductionHypothesis =>
      intro bytes' trace' final' hears' same
      cases hears' with
      | done => simp [chunkHeaderBytes, ChunkBasicHeader.serialize_eq] at same
      | chunk head' body' passed' rest' =>
          obtain ⟨rfl, rfl, headers, -⟩ := head.unique head' same
          rw [headers, List.append_cancel_left_eq] at same
          obtain ⟨rfl, rfl, rfl, -⟩ := body.unique body' same
          obtain rfl := passed.unique passed'
          rw [List.append_cancel_left_eq] at same
          rw [deliveries_cons, deliveries_cons, inductionHypothesis rest' same]
          rfl

theorem mirrors_unused {start : RTMPEndpoint} (unused : ∀ id, start.chunkStreamsInput id = none)
    (other : Sentinels) : SameButTimes (fun _ => none) other.timestamp.toNat start start :=
  ⟨rfl, rfl, fun id => by rw [unused id]; exact .unknown⟩

/-- What every run from a fresh receiver delivers. -/
theorem Hears.delivers {start final final' : RTMPEndpoint} {bytes : Bytes}
    {trace trace' : List ChunkHeard} {other : Sentinels}
    (unused : ∀ id, start.chunkStreamsInput id = none) (small : start.chunkSizeReceive < 2 ^ 32)
    (hears : Hears {} start bytes trace final)
    (full : ∀ heard ∈ trace, heard.fresh → heard.header.fmt = 0)
    (hears' : Hears other start bytes trace' final') :
    deliveries trace' = (stamps (fun _ => none) trace).map fun stamp =>
      stamp.1.withTime (stamp.2.time other.timestamp.toNat) := by
  obtain ⟨trace'', final'', mirrored, delivered⟩ :=
    hears.mirrored (mirrors_unused unused other) small full
  rw [← delivered]
  exact hears'.unique mirrored rfl

section Fresh
variable {start final : RTMPEndpoint} {bytes : Bytes} {trace : List ChunkHeard}

theorem Unaffected.constant (unaffected : Unaffected start bytes)
    (unused : ∀ id, start.chunkStreamsInput id = none) (small : start.chunkSizeReceive < 2 ^ 32)
    (hears : Hears {} start bytes trace final)
    (full : ∀ heard ∈ trace, heard.fresh → heard.header.fmt = 0) :
    ∀ stamp ∈ stamps (fun _ => none) trace, stamp.2.Constant := by
  intro stamp member
  refine (TimeForm.constant_iff _).mp fun one other => ?_
  obtain ⟨_, _, hears₁, -⟩ := hears.mirrored (mirrors_unused unused { timestamp := one }) small full
  obtain ⟨_, _, hears₂, -⟩ :=
    hears.mirrored (mirrors_unused unused { timestamp := other }) small full
  have same := unaffected _ _ _ _ _ _ hears₁ hears₂
  rw [hears.delivers unused small full hears₁, hears.delivers unused small full hears₂,
    List.map_map, List.map_map, List.map_inj_left] at same
  exact congrArg (fun told => told.2.2.2) (same stamp member)

theorem unaffected_of_constant (unused : ∀ id, start.chunkStreamsInput id = none)
    (small : start.chunkSizeReceive < 2 ^ 32) (hears : Hears {} start bytes trace final)
    (full : ∀ heard ∈ trace, heard.fresh → heard.header.fmt = 0)
    (constant : ∀ stamp ∈ stamps (fun _ => none) trace, stamp.2.Constant) :
    Unaffected start bytes := by
  intro one other trace₁ trace₂ final₁ final₂ hears₁ hears₂
  rw [hears.delivers unused small full hears₁, hears.delivers unused small full hears₂,
    List.map_map, List.map_map, List.map_inj_left]
  intro stamp member
  have times := (TimeForm.constant_iff _).mpr (constant stamp member) one.timestamp other.timestamp
  simp only [Function.comp_apply, times]

/-- The start-up values show exactly if some message is delivered with a time that is not
constant. -/
theorem sentinels_unseen_iff (unused : ∀ id, start.chunkStreamsInput id = none)
    (small : start.chunkSizeReceive < 2 ^ 32) (hears : Hears {} start bytes trace final)
    (full : ∀ heard ∈ trace, heard.fresh → heard.header.fmt = 0) :
    Unaffected start bytes ↔ ∀ stamp ∈ stamps (fun _ => none) trace, stamp.2.Constant :=
  ⟨fun unaffected => unaffected.constant unused small hears full,
    unaffected_of_constant unused small hears full⟩

end Fresh

/-! ## Two messages of one byte -/

/-- A chunk that is a whole message, of a type that `HandleMessage` ignores. -/
theorem Hears.whole {sentinels : Sentinels} {endpoint final : RTMPEndpoint} {id : UInt8}
    (idBound : id.toNat < 64) {header : MessageHeader} {cs : ChunkStream} {byte : UInt8}
    {bytes : Bytes} {trace : List ChunkHeard}
    (applied : header.received.apply (endpoint.inputStreamFrom sentinels id) = cs)
    (video : cs.messageType = .video) (one : cs.messageLength = 1)
    (begins : cs.messageBytesRead = 0) (small : 1 ≤ endpoint.maxMessageSize)
    (large : 1 ≤ endpoint.chunkSizeReceive)
    (room : 1 ≤ cs.chunksBuffer.size)
    (rest : Hears sentinels (endpoint.setInput id (cs.accept [byte]).settle) bytes trace final) :
    Hears sentinels endpoint (chunkHeaderBytes id header ++ ([byte] ++ bytes))
      (endpoint.chunkHeard id header (.inr ((cs.accept [byte]).message id)) :: trace) final := by
  have head := receiveChunkHeaderFrom_returns sentinels endpoint idBound header
  rw [applied, endpoint.storeHeader_of_le id (by omega)] at head
  have length : [byte].length = toReceiveBytes cs (endpoint.setInput id cs).chunkSizeReceive := by
    rw [toReceiveBytes, one, begins, RTMPEndpoint.chunkSizeReceive_setInput]
    exact (Nat.min_eq_left large).symm
  have body := receiveChunkPayload_returns (endpoint.inputStream_setInput id cs) length
    (show 1 < 2 ^ 31 by decide) (by rw [begins]; exact room)
  have complete : (cs.accept [byte]).Complete := by
    rw [ChunkStream.Complete, ChunkStream.accept_messageBytesRead, begins]
    exact one.symm
  rw [RTMPEndpoint.setInput_setInput, ChunkStream.outcome, if_pos complete] at body
  have isVideo : ((cs.accept [byte]).message id).messageType = .video := video
  exact .chunk head body
    ⟨_, handleMessage_idle isVideo (by decide) _, Returns.finished _ _⟩ rest

/-- A message with a full header and one with `second`, of one byte each. -/
def twoBytes (second : MessageHeader) : Bytes :=
  chunkHeaderBytes 4 (.full ⟨0, 1, 9, 1⟩) ++ ([5] ++ (chunkHeaderBytes 4 second ++ ([6] ++ [])))

theorem twoBytes_heard {second : MessageHeader} (keeps : second.received.announced = none) :
    ∃ trace final first last, Hears {} {} (twoBytes second) trace final ∧
      (∀ heard ∈ trace, heard.fresh → heard.header.fmt = 0) ∧
      (∀ heard ∈ trace, ∀ length, heard.header.announced = some length →
        1 ≤ length ∧ length ≤ 512000) ∧
      stamps (fun _ => none) trace =
        [(first, .opened 0), (last, (TimeForm.opened 0).meet true second.received)] := by
  have idBound : (4 : UInt8).toNat < 64 := by decide
  cases second with
  | full | sameStream => cases keeps
  | timeOnly | continuation =>
      refine ⟨_, _, _, _, .whole idBound rfl rfl rfl rfl ?_ ?_ ?_
        (.whole idBound rfl rfl rfl rfl ?_ ?_ ?_ (.done _)), ?_, ?_, rfl⟩
      · exact show 1 ≤ 512000 by decide
      · exact show 1 ≤ 128 by decide
      · exact show 1 ≤ 512000 by decide
      · exact show 1 ≤ 512000 by decide
      · exact show 1 ≤ 128 by decide
      · exact show 1 ≤ 512000 by decide
      · intro heard member fresh
        simp only [List.mem_cons, List.not_mem_nil, or_false] at member
        rcases member with rfl | rfl
        · rfl
        · cases fresh
      · intro heard member length announces
        simp only [List.mem_cons, List.not_mem_nil, or_false] at member
        rcases member with rfl | rfl
        · cases announces
          decide
        · cases announces

theorem times_told_again_unaffected :
    Unaffected {} (twoBytes (.timeOnly ⟨20⟩)) := by
  obtain ⟨trace, final, first, last, hears, full, -, stamped⟩ :=
    @twoBytes_heard (.timeOnly ⟨20⟩) rfl
  refine (sentinels_unseen_iff (fun _ => rfl) (by decide) hears full).mpr ?_
  rw [stamped]
  intro stamp member
  simp only [List.mem_cons, List.not_mem_nil, or_false] at member
  rcases member with rfl | rfl
  · exact show (TimeForm.opened 0).Constant by decide
  · exact show ((TimeForm.opened 0).meet true (.timeOnly ⟨20⟩)).Constant by decide

/-- The second message repeats a delta that no header told. -/
theorem repeated_delta_shows : ∃ bytes trace final, Hears {} {} bytes trace final ∧
    (∀ heard ∈ trace, heard.fresh → heard.header.fmt = 0) ∧
    (∀ heard ∈ trace, ∀ length, heard.header.announced = some length →
      1 ≤ length ∧ length ≤ 512000) ∧ ¬ Unaffected {} bytes := by
  obtain ⟨trace, final, first, last, hears, full, lengths, stamped⟩ :=
    @twoBytes_heard .continuation rfl
  refine ⟨_, trace, final, hears, full, lengths, fun unaffected => ?_⟩
  have constant := unaffected.constant (fun _ => rfl) (by decide) hears full
  rw [stamped] at constant
  exact absurd (constant _ (List.mem_cons_of_mem _ List.mem_cons_self))
    (show ¬ ((TimeForm.opened 0).meet true .continuation).Constant by decide)

end EasyRtmp
