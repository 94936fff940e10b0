import EasyRtmp.Halves
import EasyRtmp.Timestamps

/-!
# Calls that fail on the way

A call of the sending half can end in an exception before anything is sent, or at
any of its calls of `send_data`.  Up to there it has written no record of the
message, so that whatever is sent later is sent as without it.
-/

set_option autoImplicit false

namespace EasyRtmp

open Lib Lib.ByteCodec

inductive SendOp where
  | message (call : SendCall)
  | resize (chunkSize : Nat)

def SendOp.prog : SendOp → EndpointProg Unit
  | .message call => sendRTMPMessage call.data call.chunkStreamId call.messageStreamId
      call.messageType call.timestamp
  | .resize chunkSize => changeChunkSizeOutput chunkSize

/-- `refused data` is the exception of the `send_data` call with these bytes. -/
inductive Ending where
  | returned
  | threw (stop : Stop)
  | refused (data : Bytes)
  deriving DecidableEq

inductive SendOp.Ends (op : SendOp) (before : RTMPEndpoint) (output : Bytes) :
    Ending → RTMPEndpoint → Prop where
  | returned {after : RTMPEndpoint} (call : Returns op.prog before [] output () after) :
      Ends op before output .returned after
  | threw {stop : Stop} {after : RTMPEndpoint} (call : Fails op.prog before [] output stop after) :
      Ends op before output (.threw stop) after
  | refused {data : Bytes} {next : EndpointProg Unit} {after : RTMPEndpoint}
      (run : Runs ⟨before, op.prog⟩ [] output ⟨after, .send data next⟩) :
      Ends op before output (.refused data) after

/-- A call as the data layer sees it; one that is under way has no ending. -/
structure Emission where
  op : SendOp
  output : Bytes
  ending : Option Ending

inductive Transmits : RTMPEndpoint → List Emission → Prop where
  | none {endpoint : RTMPEndpoint} : Transmits endpoint []
  | call {before after : RTMPEndpoint} {op : SendOp} {output : Bytes} {ending : Ending}
      {later : List Emission} (ends : op.Ends before output ending after)
      (transmits : Transmits after later) : Transmits before (⟨op, output, some ending⟩ :: later)
  | underway {endpoint : RTMPEndpoint} {op : SendOp} {output : Bytes}
      {config : Config RTMPEndpoint Stop Unit}
      (run : Runs ⟨endpoint, op.prog⟩ [] output config) : Transmits endpoint [⟨op, output, none⟩]

/-! ## Endpoints that send alike -/

open RTMPEndpoint

theorem RTMPEndpoint.SameOutput.symm {endpoint other : RTMPEndpoint}
    (same : endpoint.SameOutput other) : other.SameOutput endpoint :=
  ⟨same.chunkSizeSend.symm, fun id => (same.outputStream id).symm⟩

theorem SendingRelation.lockstep {R : RTMPEndpoint → RTMPEndpoint → Prop}
    (relation : SendingRelation R) (op : SendOp) : Lockstep R op.prog op.prog := by
  cases op with
  | message call => exact relation.message _ _ _ _ _
  | resize chunkSize => exact relation.changeChunkSize chunkSize

theorem SendOp.Ends.alike {op : SendOp} {before after before' : RTMPEndpoint} {output : Bytes}
    {ending : Ending} (ends : op.Ends before output ending after)
    (same : before.SameOutput before') :
    ∃ after', op.Ends before' output ending after' ∧ after.SameOutput after' := by
  cases ends with
  | returned call =>
      obtain ⟨after', _, run, same', rest⟩ := (sameOutput_relation.lockstep op).reaches same call
      cases rest
      exact ⟨after', .returned run, same'⟩
  | threw call =>
      obtain ⟨after', _, run, same', rest⟩ := (sameOutput_relation.lockstep op).reaches same call
      cases rest
      exact ⟨after', .threw run, same'⟩
  | refused call =>
      obtain ⟨after', _, run, same', rest⟩ := (sameOutput_relation.lockstep op).reaches same call
      cases rest
      exact ⟨after', .refused run, same'⟩

theorem Transmits.alike {history : List Emission} {endpoint : RTMPEndpoint}
    (transmits : Transmits endpoint history) :
    ∀ {other : RTMPEndpoint}, endpoint.SameOutput other → Transmits other history := by
  induction transmits with
  | none => exact fun _ => .none
  | call ends _ ih =>
      intro other same
      obtain ⟨after', ends', same'⟩ := ends.alike same
      exact .call ends' (ih same')
  | @underway endpoint op _ _ run =>
      intro other same
      obtain ⟨_, _, run', -, -⟩ := (sameOutput_relation.lockstep op).reaches same run
      exact .underway run'

/-! ## What a call has written when it is interrupted -/

/-- Everything before the record is written. -/
theorem sendChunks_untouched {before : RTMPEndpoint} {bb : Bytes} {id : UInt8}
    {messageStreamId : Nat} {messageType : RTMPMessageType} {timestamp : Nat} {input output : Bytes}
    {config : Config RTMPEndpoint Stop Unit}
    (run : Runs ⟨before, do
      Prog.modifyState fun endpoint => endpoint.setOutput id (endpoint.outputStream id)
      Prog.repeatUntil (sendChunk bb id messageStreamId messageType timestamp) 0⟩
      input output config) : config.state.SameOutput before := by
  have created : ∀ endpoint : RTMPEndpoint,
      (endpoint.setOutput id (endpoint.outputStream id)).SameOutput endpoint := by
    intro endpoint
    refine ⟨rfl, fun other => ?_⟩
    by_cases same : other = id
    · rw [same, endpoint.outputStream_setOutput]
    · exact endpoint.outputStream_setOutput_of_ne _ same
  -- The program compared with itself, while its state sends as `before` does.
  have lockstep : Lockstep (fun endpoint other => endpoint = other ∧ endpoint.SameOutput before)
      (do
        Prog.modifyState fun endpoint => endpoint.setOutput id (endpoint.outputStream id)
        Prog.repeatUntil (sendChunk bb id messageStreamId messageType timestamp) 0)
      (do
        Prog.modifyState fun endpoint => endpoint.setOutput id (endpoint.outputStream id)
        Prog.repeatUntil (sendChunk bb id messageStreamId messageType timestamp) 0) := by
    refine .bind (.modifyState fun endpoint other related => ?_) fun _ => ?_
    · obtain ⟨rfl, same⟩ := related
      have keeps := created endpoint
      exact ⟨rfl, keeps.chunkSizeSend.trans same.chunkSizeSend,
        fun other => (keeps.outputStream other).trans (same.outputStream other)⟩
    · refine .repeatUntil 0 fun sent => sendChunk_lockstep (fun related => ?_) _ _ _ _ _ sent
      rw [related.1]
      exact ⟨rfl, fun _ => rfl⟩
  obtain ⟨_, _, -, related, -⟩ := lockstep.reaches ⟨rfl, rfl, fun _ => rfl⟩ run
  exact related.2

theorem sendRTMPMessage_untouched {before : RTMPEndpoint} {data : Serializable} {id : UInt8}
    {messageStreamId : Nat} {messageType : RTMPMessageType} {timestamp : Nat} {input output : Bytes}
    {config : Config RTMPEndpoint Stop Unit}
    (run : Runs ⟨before, sendRTMPMessage data id messageStreamId messageType timestamp⟩ input output
      config)
    (exposed : config.prog.MayThrow) : config.state.SameOutput before := by
  have finished : (⟨before, Prog.ofExcept data.serializeToBuffer⟩ :
      Config RTMPEndpoint Stop Bytes).Finished := by
    cases data.serializeToBuffer with
    | ok bb => exact Or.inl ⟨bb, rfl⟩
    | error stop => exact Or.inr ⟨stop, rfl⟩
  rcases run.bind_inv rfl with ⟨middle, within, rfl⟩ |
    ⟨bb, middle, _, _, _, _, serialized, tail, -, -⟩
  · obtain ⟨rfl, -, -⟩ := Runs.of_finished finished within
    exact ⟨rfl, fun _ => rfl⟩
  · obtain ⟨same, -, -⟩ := Runs.of_finished finished serialized
    obtain rfl : middle = before := congrArg Config.state same
    -- What is left is the chunks and then the record.
    rcases tail.bind_inv (congrArg (Config.mk middle) (Prog.bind_assoc _ _ _).symm) with
      ⟨last, within, rfl⟩ | ⟨_, _, _, _, _, _, -, record, -, -⟩
    · have kept := sendChunks_untouched within
      exact kept
    · exact absurd exposed record.modifyState_quiet

theorem SendOp.untouched {op : SendOp} {before : RTMPEndpoint} {input output : Bytes}
    {config : Config RTMPEndpoint Stop Unit} (run : Runs ⟨before, op.prog⟩ input output config)
    (exposed : config.prog.MayThrow) : config.state.SameOutput before := by
  cases op with
  | message call => exact sendRTMPMessage_untouched run exposed
  | resize chunkSize =>
      rcases run.bind_inv rfl with ⟨⟨middle, rest⟩, within, rfl⟩ | ⟨_, _, _, _, _, _, -, tail, -, -⟩
      · rcases Prog.mayThrow_bind exposed with inside | ⟨value, returned⟩
        · have kept := sendRTMPMessage_untouched within inside
          exact kept
        · rw [returned] at exposed
          exact exposed.elim
      · exact absurd exposed tail.modifyState_quiet

theorem SendOp.Ends.untouched {op : SendOp} {before after : RTMPEndpoint} {output : Bytes}
    {ending : Ending} (ends : op.Ends before output ending after) (failed : ending ≠ .returned) :
    after.SameOutput before := by
  cases ends with
  | returned call => exact absurd rfl failed
  | threw call => exact op.untouched call trivial
  | refused run => exact op.untouched run trivial

/-- After a call that failed, wherever it did, every later run emits what it would have
emitted without the call. -/
theorem failed_send_leaves_no_trace {op : SendOp} {before after : RTMPEndpoint} {output : Bytes}
    {ending : Ending} (ends : op.Ends before output ending after) (failed : ending ≠ .returned) :
    ∀ history, Transmits after history ↔ Transmits before history := by
  have same := ends.untouched failed
  intro history
  exact ⟨fun transmits => transmits.alike same, fun transmits => transmits.alike same.symm⟩

/-- The data layer refuses the message header behind the basic header of a first chunk. -/
theorem refused_header_leaves_no_trace : ∃ after output data,
    (SendOp.message (mediaCall .video 40)).Ends {} output (.refused data) after ∧ output ≠ [] ∧
      after.chunkStreamsOutput 4 ≠ none ∧
      ∀ history, Transmits after history ↔ Transmits {} history := by
  have run : ∃ data next, Runs ⟨{}, (SendOp.message (mediaCall .video 40)).prog⟩ []
      ((ChunkBasicHeader.mk 4 0).serialize ++ [])
      ⟨RTMPEndpoint.setOutput {} 4 {}, .send data next⟩ :=
    ⟨_, _, Runs.get (Runs.put (Runs.loop (Runs.get (Runs.send (.refl _)))))⟩
  obtain ⟨data, next, run⟩ := run
  refine ⟨_, _, data, .refused run, ?_, ?_, failed_send_leaves_no_trace (.refused run) ?_⟩
  · rw [ChunkBasicHeader.serialize_eq]
    exact List.cons_ne_nil _ _
  · simp [RTMPEndpoint.setOutput]
  · intro same
    cases same

end EasyRtmp
