import EasyRtmp.Deliveries
import EasyRtmp.FailedSends
import EasyRtmp.Notifications

/-!
# Chunk sizes that let both loops go on

`ChangeChunkSizeOutput` and `HandleMessage` store any number as a chunk size.  The
loops of `SendRTMPMessage` and `GetRTMPMessage` need one that is not zero and fits
an `int`.  `Resizing` collects the numbers stored in a run and the states it passes.
-/

set_option autoImplicit false

namespace EasyRtmp

open Lib Lib.ByteCodec

/-- One of the 31 bits that the format allows. -/
def ValidSize (chunkSize : Nat) : Prop := 1 ≤ chunkSize ∧ chunkSize < 2 ^ 31

/-- Whatever the payload, the call of `SendRTMPMessage` comes to an end. -/
def SendsEnd (endpoint : RTMPEndpoint) : Prop :=
  ∀ call : SendCall, ∃ output after,
    Returns (SendOp.message call).prog endpoint [] output () after ∨
      ∃ stop, Fails (SendOp.message call).prog endpoint [] output stop after

/-- Every chunk that is read of an unfinished message has a payload. -/
def ReadsPayload (endpoint : RTMPEndpoint) : Prop :=
  ∀ (id : UInt8) (header output : Bytes) (middle : RTMPEndpoint),
    Returns receiveChunkHeader endpoint header output id middle →
      (middle.inputStream id).messageBytesRead < (middle.inputStream id).messageLength →
        (middle.inputStream id).messageLength < 2 ^ 64 →
          ∀ (payload sent : Bytes) (result : Unit ⊕ RTMPMessage) (after : RTMPEndpoint),
            Returns (receiveChunkPayload id) middle payload sent result after → payload ≠ []

structure Progresses (endpoint : RTMPEndpoint) : Prop where
  sendSize : ValidSize endpoint.chunkSizeSend
  receiveSize : ValidSize endpoint.chunkSizeReceive
  sends : SendsEnd endpoint
  receives : ReadsPayload endpoint

/-! ## Valid sizes suffice -/

theorem sendsEnd_of_positive {endpoint : RTMPEndpoint} (positive : 0 < endpoint.chunkSizeSend) :
    SendsEnd endpoint := by
  intro call
  cases serialized : call.data.serializeToBuffer with
  | error stop =>
      exact ⟨[], endpoint, Or.inr ⟨stop, (Fails.ofExcept serialized endpoint).bind _⟩⟩
  | ok payload =>
      by_cases empty : payload = []
      · subst empty
        exact ⟨[], _, Or.inl (sendRTMPMessage_empty serialized _ _ _ _)⟩
      · obtain ⟨stream, -, sends⟩ := sendRTMPMessage_returns serialized empty positive
          call.chunkStreamId call.messageStreamId call.messageType call.timestamp
        exact ⟨stream, _, Or.inl sends⟩

theorem readsPayload_of_valid {endpoint : RTMPEndpoint}
    (valid : ValidSize endpoint.chunkSizeReceive) : ReadsPayload endpoint := by
  intro id header output middle announced unfinished wide payload sent result after call
  obtain ⟨form, -, -, rfl⟩ := receiveChunkHeader_encoded announced
  rw [ValidSize, ← endpoint.storeHeader_chunkSizeReceive id
    (form.received.apply (endpoint.inputStream id))] at valid
  obtain ⟨positive, bound⟩ := valid
  obtain ⟨length, -⟩ := receiveChunkPayload_inv (by omega) call
  intro empty
  rw [empty, toReceiveBytes, subSize, List.length_nil] at length
  omega

theorem progresses_of_valid {endpoint : RTMPEndpoint} (send : ValidSize endpoint.chunkSizeSend)
    (receive : ValidSize endpoint.chunkSizeReceive) : Progresses endpoint :=
  ⟨send, receive, sendsEnd_of_positive send.1, readsPayload_of_valid receive⟩

/-! ## What is stored -/

/-- The chunk size that a message sets when it is handled. -/
def announcedSize (message : RTMPMessage) : Option Nat :=
  if message.messageType = .setChunkSize then
    match parseBuffer SetChunkSize.parseRef message.data with
    | .ok scz => some scz.chunkSize
    | .error _ => none
  else none

theorem announcedSize_lt {message : RTMPMessage} {chunkSize : Nat}
    (announces : announcedSize message = some chunkSize) : chunkSize < 2 ^ 32 := by
  unfold announcedSize at announces
  split at announces
  · split at announces
    · rename_i scz parsed
      obtain rfl := Option.some.inj announces
      exact SetChunkSize.parse_lt parsed
    · cases announces
  · cases announces

theorem handleMessage_sizes (message : RTMPMessage) (endpoint : RTMPEndpoint) :
    Post (handleMessage message) endpoint
      (fun _ after => after.chunkSizeSend = endpoint.chunkSizeSend ∧
        after.chunkSizeReceive = (announcedSize message).getD endpoint.chunkSizeReceive)
      fun _ after => after = endpoint := by
  unfold handleMessage announcedSize
  by_cases isSize : message.messageType = .setChunkSize
  · simp only [if_pos isSize]
    refine Post.seq (Post.ofExcept ?_ fun _ _ => rfl)
    intro scz parsed
    refine Post.modifyState ?_
    rw [parsed]
    exact ⟨rfl, rfl⟩
  · simp only [if_neg isSize]
    split
    · refine Post.seq (Post.getState ?_)
      split
      · exact Post.fail rfl
      · exact Post.putState ⟨rfl, rfl⟩
    · split
      · exact Post.seq (Post.ofExcept (fun _ _ => Post.pure ⟨rfl, rfl⟩) fun _ _ => rfl)
      · split
        · exact Post.seq (Post.ofExcept (fun _ _ => Post.pure ⟨rfl, rfl⟩) fun _ _ => rfl)
        · exact Post.pure ⟨rfl, rfl⟩

/-- No call of the sending half, interrupted or not, changes the size received with. -/
theorem SendOp.keeps_chunkSizeReceive {op : SendOp} {before : RTMPEndpoint} {input output : Bytes}
    {config : Config RTMPEndpoint Stop Unit} (run : Runs ⟨before, op.prog⟩ input output config) :
    config.state.chunkSizeReceive = before.chunkSizeReceive := by
  have relation : SendingRelation fun endpoint other : RTMPEndpoint =>
      endpoint = other ∧ endpoint.chunkSizeReceive = before.chunkSizeReceive := by
    constructor
    · rintro endpoint _ ⟨rfl, -⟩
      exact ⟨rfl, fun _ => rfl⟩
    · rintro endpoint _ ⟨rfl, size⟩ id cs
      exact ⟨rfl, size⟩
    · rintro endpoint _ ⟨rfl, size⟩ chunkSize
      exact ⟨rfl, size⟩
  obtain ⟨_, _, -, related, -⟩ := (relation.lockstep op).reaches ⟨rfl, rfl⟩ run
  exact related.2

theorem message_keeps_chunkSizeSend {call : SendCall} {before : RTMPEndpoint}
    {input output : Bytes} {config : Config RTMPEndpoint Stop Unit}
    (run : Runs ⟨before, (SendOp.message call).prog⟩ input output config) :
    config.state.chunkSizeSend = before.chunkSizeSend := by
  have same : ∀ {endpoint other : RTMPEndpoint},
      endpoint = other ∧ endpoint.chunkSizeSend = before.chunkSizeSend →
        endpoint.SameOutput other := by
    rintro endpoint _ ⟨rfl, -⟩
    exact ⟨rfl, fun _ => rfl⟩
  have lockstep := sendRTMPMessage_alike same (fun related id cs => ⟨related.1 ▸ rfl, related.2⟩)
    call.data call.chunkStreamId call.messageStreamId call.messageType call.timestamp
  obtain ⟨_, _, -, related, -⟩ := lockstep.reaches ⟨rfl, rfl⟩ run
  exact related.2

theorem SendOp.Ends.run {op : SendOp} {before after : RTMPEndpoint} {output : Bytes}
    {ending : Ending} (ends : op.Ends before output ending after) :
    ∃ rest, Runs ⟨before, op.prog⟩ [] output ⟨after, rest⟩ := by
  cases ends with
  | returned call => exact ⟨_, call⟩
  | threw call => exact ⟨_, call⟩
  | refused run => exact ⟨_, run⟩

theorem changeChunkSizeOutput_sets {before after : RTMPEndpoint} {chunkSize : Nat} {output : Bytes}
    (call : Returns (changeChunkSizeOutput chunkSize) before [] output () after) :
    after.chunkSizeSend = chunkSize := by
  have sets : Post (changeChunkSizeOutput chunkSize) before
      (fun _ after => after.chunkSizeSend = chunkSize) fun _ _ => True :=
    Post.seq ((Post.trivial _ _).mono (fun _ _ _ => Post.modifyState rfl) fun _ _ _ => trivial)
  exact sets.returns call

/-- The chunk sizes after a step that stored these. -/
inductive Stores (before after : RTMPEndpoint) : List Nat → Prop where
  | none (send : after.chunkSizeSend = before.chunkSizeSend)
      (receive : after.chunkSizeReceive = before.chunkSizeReceive) : Stores before after []
  | send (receive : after.chunkSizeReceive = before.chunkSizeReceive) :
      Stores before after [after.chunkSizeSend]
  | receive (send : after.chunkSizeSend = before.chunkSizeSend) :
      Stores before after [after.chunkSizeReceive]

/-! ## Runs -/

/-- A run from a new endpoint: the chunk sizes that were stored, the states passed,
last first, and the state reached.  Messages come from any peer. -/
inductive Resizing : List Nat → List RTMPEndpoint → RTMPEndpoint → Prop where
  | start : Resizing [] [{}] {}
  | change {sizes : List Nat} {states : List RTMPEndpoint} {before after : RTMPEndpoint}
      {chunkSize : Nat} {output : Bytes} (resizing : Resizing sizes states before)
      (call : Returns (changeChunkSizeOutput chunkSize) before [] output () after) :
      Resizing (chunkSize :: sizes) (after :: states) after
  | changeFails {sizes : List Nat} {states : List RTMPEndpoint} {before after : RTMPEndpoint}
      {chunkSize : Nat} {output : Bytes} {ending : Ending} (resizing : Resizing sizes states before)
      (ends : (SendOp.resize chunkSize).Ends before output ending after)
      (failed : ending ≠ .returned) : Resizing sizes (after :: states) after
  | handle {sizes : List Nat} {states : List RTMPEndpoint} {before after : RTMPEndpoint}
      {message : RTMPMessage} {input output : Bytes} (resizing : Resizing sizes states before)
      (call : Returns (handleMessage message) before input output () after) :
      Resizing ((announcedSize message).toList ++ sizes) (after :: states) after
  | handleFails {sizes : List Nat} {states : List RTMPEndpoint} {before after : RTMPEndpoint}
      {message : RTMPMessage} {input output : Bytes} {stop : Stop}
      (resizing : Resizing sizes states before)
      (call : Fails (handleMessage message) before input output stop after) :
      Resizing sizes (after :: states) after
  | message {sizes : List Nat} {states : List RTMPEndpoint} {before after : RTMPEndpoint}
      {call : SendCall} {output : Bytes} {ending : Ending} (resizing : Resizing sizes states before)
      (ends : (SendOp.message call).Ends before output ending after) :
      Resizing sizes (after :: states) after
  | receive {sizes : List Nat} {states : List RTMPEndpoint} {before after : RTMPEndpoint}
      {message : RTMPMessage} {input output : Bytes} (resizing : Resizing sizes states before)
      (call : Returns getRTMPMessage before input output message after) :
      Resizing sizes (after :: states) after

/-- A state progresses after a step exactly if what was stored is valid. -/
theorem Stores.progresses_iff {before after : RTMPEndpoint} {stored sizes : List Nat}
    {states : List RTMPEndpoint} (stores : Stores before after stored) (current : before ∈ states)
    (earlier : (∀ state ∈ states, Progresses state) ↔ ∀ chunkSize ∈ sizes, ValidSize chunkSize) :
    (∀ state ∈ after :: states, Progresses state) ↔
      ∀ chunkSize ∈ stored ++ sizes, ValidSize chunkSize := by
  rw [List.forall_mem_cons, List.forall_mem_append, ← earlier]
  refine and_congr_left fun progress => ?_
  obtain ⟨send, receive, -, -⟩ := progress before current
  constructor
  · intro progresses
    cases stores with
    | none => simp
    | send => simpa using progresses.sendSize
    | receive => simpa using progresses.receiveSize
  · intro valid
    cases stores with
    | none sameSend sameReceive =>
        rw [← sameSend] at send
        rw [← sameReceive] at receive
        exact progresses_of_valid send receive
    | send sameReceive =>
        rw [← sameReceive] at receive
        exact progresses_of_valid (by simpa using valid) receive
    | receive sameSend =>
        rw [← sameSend] at send
        exact progresses_of_valid send (by simpa using valid)

theorem handleMessage_stores {before after : RTMPEndpoint} {message : RTMPMessage}
    {input output : Bytes} (call : Returns (handleMessage message) before input output () after) :
    Stores before after (announcedSize message).toList := by
  obtain ⟨send, receive⟩ := (handleMessage_sizes message before).returns call
  cases announces : announcedSize message with
  | none =>
      rw [announces] at receive
      exact .none send receive
  | some chunkSize =>
      rw [announces, Option.getD_some] at receive
      rw [← receive]
      exact .receive send

theorem handleMessage_small {before after : RTMPEndpoint} {message : RTMPMessage}
    {input output : Bytes} (small : before.chunkSizeReceive < 2 ^ 32)
    (call : Returns (handleMessage message) before input output () after) :
    after.chunkSizeReceive < 2 ^ 32 := by
  rw [((handleMessage_sizes message before).returns call).2]
  cases announces : announcedSize message with
  | none => exact small
  | some chunkSize => exact announcedSize_lt announces

theorem progresses_default : Progresses {} :=
  progresses_of_valid ⟨by decide, by decide⟩ ⟨by decide, by decide⟩

/-- In every run both chunk sizes stay valid and both loops go on exactly if only valid
sizes are given to `ChangeChunkSizeOutput` and announced by the peer. -/
theorem chunk_sizes_valid_iff {sizes : List Nat} {states : List RTMPEndpoint}
    {endpoint : RTMPEndpoint} (resizing : Resizing sizes states endpoint) :
    (∀ state ∈ states, Progresses state) ↔ ∀ chunkSize ∈ sizes, ValidSize chunkSize := by
  have run : endpoint ∈ states ∧ endpoint.chunkSizeReceive < 2 ^ 32 ∧
      ((∀ state ∈ states, Progresses state) ↔ ∀ chunkSize ∈ sizes, ValidSize chunkSize) := by
    induction resizing with
    | start => exact ⟨List.mem_singleton_self _, by decide, by simp [progresses_default]⟩
    | @change sizes states before after chunkSize output _ call ih =>
        obtain ⟨current, small, earlier⟩ := ih
        have receive := @SendOp.keeps_chunkSizeReceive (.resize chunkSize) _ _ _ _ call
        have set := changeChunkSizeOutput_sets call
        subst set
        exact ⟨List.mem_cons_self, receive.trans_lt small,
          Stores.progresses_iff (.send receive) current earlier⟩
    | changeFails _ ends failed ih =>
        obtain ⟨current, small, earlier⟩ := ih
        obtain ⟨_, partly⟩ := ends.run
        have receive := SendOp.keeps_chunkSizeReceive partly
        exact ⟨List.mem_cons_self, receive.trans_lt small,
          Stores.progresses_iff (.none (ends.untouched failed).chunkSizeSend receive) current
            earlier⟩
    | handle _ call ih =>
        obtain ⟨current, small, earlier⟩ := ih
        exact ⟨List.mem_cons_self, handleMessage_small small call,
          (handleMessage_stores call).progresses_iff current earlier⟩
    | @handleFails sizes states before after message input output stop _ call ih =>
        obtain ⟨current, small, earlier⟩ := ih
        obtain rfl : after = before := (handleMessage_post message before).fails call
        exact ⟨List.mem_cons_self, small, Stores.progresses_iff (.none rfl rfl) current earlier⟩
    | message _ ends ih =>
        obtain ⟨current, small, earlier⟩ := ih
        obtain ⟨_, partly⟩ := ends.run
        have receive := SendOp.keeps_chunkSizeReceive partly
        exact ⟨List.mem_cons_self, receive.trans_lt small,
          Stores.progresses_iff (.none (message_keeps_chunkSizeSend partly) receive) current
            earlier⟩
    | receive _ call ih =>
        obtain ⟨current, small, earlier⟩ := ih
        have receive := ((getRTMPMessage_post small chunkInvariant_true trivial).returns call).2.1
        have send := (receiving_frame (fun _ => getRTMPMessage_lockstep) call).chunkSizeSend
        exact ⟨List.mem_cons_self, receive.trans_lt small,
          Stores.progresses_iff (.none send receive) current earlier⟩
  exact run.2.2

theorem constructor_size_progresses : ∃ endpoint,
    Resizing [4096] [endpoint, {}] endpoint ∧ endpoint.chunkSizeSend = 4096 ∧
      ∀ state ∈ [endpoint, {}], Progresses state := by
  obtain ⟨stream, -, sends⟩ := @sendRTMPMessage_returns {} _ _ (setChunkSize_payload 4096)
    (by decide) (by decide) 2 0 .setChunkSize 0
  have run := Resizing.start.change (changeChunkSizeOutput_returns sends)
  refine ⟨_, run, rfl, (chunk_sizes_valid_iff run).mpr ?_⟩
  intro chunkSize member
  rw [List.mem_singleton.mp member]
  exact ⟨by decide, by decide⟩

/-- After `ChangeChunkSizeOutput(0)` no message that has a payload is ever sent, and a peer
that announces 0 makes every chunk empty. -/
theorem zero_sizes_stored :
    (∃ endpoint, Resizing [0] [endpoint, {}] endpoint ∧ ¬ ValidSize endpoint.chunkSizeSend ∧
      ¬ SendsEnd endpoint) ∧
    ∃ endpoint, Resizing [0] [endpoint, {}] endpoint ∧ ¬ ValidSize endpoint.chunkSizeReceive ∧
      ∀ cs, toReceiveBytes cs endpoint.chunkSizeReceive = 0 := by
  constructor
  · obtain ⟨stream, -, sends⟩ := @sendRTMPMessage_returns {} _ _ (setChunkSize_payload 0)
      (by decide) (by decide) 2 0 .setChunkSize 0
    refine ⟨_, Resizing.start.change (changeChunkSizeOutput_returns sends), ?_, ?_⟩
    · exact fun valid => absurd valid.1 (by decide)
    · intro ends
      have endless := fun endpoint : RTMPEndpoint => @sendRTMPMessage_stuck endpoint _ _
        (setChunkSize_payload 0) (List.cons_ne_nil _ _) 2 0 .setChunkSize 0
      obtain ⟨output, after, ending⟩ :=
        ends ⟨(SetChunkSize.mk 0).toSerializable, 2, 0, .setChunkSize, 0⟩
      rcases ending with call | ⟨stop, failed⟩
      · exact (endless _ rfl).returns call
      · exact (endless _ rfl).fails failed
  · have handled := @handleMessage_setChunkSize ⟨.setChunkSize, 0, 4, 2, 0, [0, 0, 0, 0]⟩
      [0, 0, 0, 0] [] rfl rfl rfl (by decide) {}
    have run := Resizing.start.handle handled
    refine ⟨_, run, ?_, ?_⟩
    · exact fun valid => absurd valid.1 (by decide)
    · exact fun cs => Nat.min_zero _

end EasyRtmp
