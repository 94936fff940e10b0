import EasyRtmp.Dialogue
import EasyRtmp.Notifications
import EasyRtmp.ServerRuns

/-!
# What the server answers

The bytes that a session sends while it takes messages are the replies to the accepted
requests, each once and in the order of the requests, as a client reads them whose
receiving half is in step with the session's endpoint.
-/

set_option autoImplicit false

namespace EasyRtmp

open Lib Lib.ByteCodec AMFValue

/-! ## The replies to a request -/

def AMFValue.payload (root : AMFValue) : Bytes :=
  match root.toSerializable.serializeToBuffer with
  | .ok payload => payload
  | .error _ => []

theorem AMFValue.Travels.payload_eq {root : AMFValue} {payload : Bytes}
    (travels : Travels root payload) : root.payload = payload := by
  rw [AMFValue.payload, travels.serialized]

def Command.replies (command : Command) : List Delivery :=
  if command.cmdName = ascii "connect" then
    connectPreamble ++ [⟨.amf0, 0, 3, (amfResult connectResult command.cmdId).payload⟩]
  else if command.cmdName = ascii "createStream" then
    [⟨.amf0, 0, 3, (amfResult createStreamResult command.cmdId).payload⟩]
  else if command.cmdName = ascii "publish" then
    [⟨.amf0, 1, 3, (publishStatus command.cmdId).payload⟩]
  else []

/-- What is answered to the values of an AMF message. -/
def AMFValue.replies (root : AMFValue) : List Delivery :=
  match readCommand root with
  | .ok command => command.replies
  | .error _ => []

def RTMPMessage.replies (message : RTMPMessage) : List Delivery :=
  match message.command? with
  | some command => command.replies
  | none => []

/-! ## One request -/

namespace RTMPServerSession

section Requests
variable {held : ClientParameters} {it : List AMFValue} {session after : RTMPServerSession}
  {output : Bytes}

theorem command_answers {root : AMFValue} (travels : ∃ payload, Travels root payload)
    (messageStreamId : Nat) (streamBound : messageStreamId < 2 ^ 24) :
    Answers (onEndpoint (sendCommand root 3 messageStreamId .amf0)) held
      [⟨.amf0, messageStreamId, 3, root.payload⟩] held := by
  obtain ⟨payload, travels⟩ := travels
  rw [travels.payload_eq]
  exact answers_command travels (by decide) streamBound

theorem handleConnect_answers {app : Bytes} (read : readApp it = .ok app) (cmdId : Int32) :
    Answers (handleConnect cmdId it) held
      (connectPreamble ++ [⟨.amf0, 0, 3, (amfResult connectResult cmdId).payload⟩])
      { held with app := app } := by
  refine Answers.silent (fun endpoint => Returns.ofExcept read _) ?_
  refine Answers.silent (fun endpoint => modifyParameters_returns _ endpoint) ?_
  exact answers_window.bind (answers_bandwith.bind (answers_streamBegin.bind
    (command_answers (connectResult_travels cmdId) 0 (by decide))))

theorem handlePublish_answers {key : Bytes} (read : readKey it = .ok key) (cmdId : Int32) :
    Answers (handlePublish cmdId it) held [⟨.amf0, 1, 3, (publishStatus cmdId).payload⟩]
      { held with key := key } := by
  refine Answers.silent (fun endpoint => Returns.ofExcept read _) ?_
  refine Answers.silent (fun endpoint => modifyParameters_returns _ endpoint) ?_
  exact command_answers (publishStatus_travels cmdId) 1 (by decide)

/-- Metadata is stored, if it is any, and not answered. -/
theorem handleMetadata_answers {cmdName : Bytes}
    (call : Returns (handleMetadata cmdName it) session [] output () after) :
    ∃ left, Answers (handleMetadata cmdName it) session.clientParameters [] left := by
  rw [handleMetadata] at call ⊢
  split at call
  · rename_i isMetadata
    rw [if_pos isMetadata]
    obtain ⟨obj, found, call⟩ := call.ofExcept_inv
    obtain ⟨outcome, left, applied⟩ : ∃ outcome left,
        applyMetadata obj session.clientParameters = (outcome, left) := ⟨_, _, rfl⟩
    cases outcome with
    | ok done =>
        refine ⟨left, Answers.quiet fun endpoint => ?_⟩
        refine (Returns.ofExcept found _).silent_bind ((Returns.getState _).silent_bind ?_)
        simp only [applied]
        exact (Returns.putState _ _).silent_bind (.pure () _)
    | error stop =>
        refine absurd call (@Fails.not_returns _ _ _ _ _ { session with clientParameters := left } _
          stop _ [] [] [] _ [] [] ?_ (Eq.refl ([] ++ [])))
        refine Fails.after_silent (Returns.getState session) ?_
        simp only [applied]
        exact Fails.after_silent
          (Returns.putState session { session with clientParameters := left })
          (Fails.ofExcept rfl _)
  · rename_i other
    rw [if_neg other]
    exact ⟨_, Answers.quiet fun endpoint => .pure () _⟩

theorem handleAMF_answers {root : AMFValue}
    (call : Returns (handleAMF root) session [] output () after) :
    ∃ left, Answers (handleAMF root) session.clientParameters root.replies left := by
  rw [handleAMF_then] at call ⊢
  obtain ⟨command, read, call⟩ := call.ofExcept_inv
  suffices answers : ∃ left,
      Answers (handleCommand command) session.clientParameters command.replies left by
    obtain ⟨left, answers⟩ := answers
    have replied : root.replies = command.replies := by rw [AMFValue.replies, read]
    rw [replied]
    exact ⟨left, Answers.silent (fun endpoint => Returns.ofExcept read _) answers⟩
  rw [handleCommand] at call ⊢
  rw [Command.replies]
  split at call
  · rename_i isConnect
    obtain ⟨app, found, -⟩ := call.ofExcept_inv
    rw [if_pos isConnect, if_pos isConnect]
    exact ⟨_, handleConnect_answers found _⟩
  rename_i notConnect
  rw [if_neg notConnect, if_neg notConnect]
  split at call
  · rename_i isCreate
    rw [if_pos isCreate, if_pos isCreate]
    exact ⟨_, command_answers (createStreamResult_travels _) 0 (by decide)⟩
  rename_i notCreate
  rw [if_neg notCreate, if_neg notCreate]
  split at call
  · rename_i isPublish
    obtain ⟨key, found, -⟩ := call.ofExcept_inv
    rw [if_pos isPublish, if_pos isPublish]
    exact ⟨_, handlePublish_answers found _⟩
  rename_i notPublish
  rw [if_neg notPublish, if_neg notPublish]
  split at call
  · rename_i isFrame
    obtain ⟨frame, found, call⟩ := call.ofExcept_inv
    obtain ⟨left, answers⟩ := handleMetadata_answers call
    rw [if_pos isFrame]
    exact ⟨left, Answers.silent (fun endpoint => Returns.ofExcept found _) answers⟩
  · rename_i notFrame
    rw [if_neg notFrame]
    exact handleMetadata_answers call

end Requests

end RTMPServerSession

/-! ## All requests -/

theorem Applies.inFlight {start applied : RTMPServerSession} {roots : List AMFValue} {sent : Bytes}
    (applies : Applies start roots sent applied) :
    ∀ {receiver : RTMPEndpoint} {channel : Bytes} {pending : List Delivery},
      InFlight start.endpoint receiver channel pending →
        InFlight applied.endpoint receiver (channel ++ sent)
          (pending ++ roots.flatMap AMFValue.replies) := by
  induction applies with
  | none session =>
      intro receiver channel pending flight
      rwa [List.append_nil, List.flatMap_nil, List.append_nil]
  | @command session middle after root roots output sent call rest ih =>
      intro receiver channel pending flight
      obtain ⟨left, answers⟩ := RTMPServerSession.handleAMF_answers call
      obtain ⟨output', endpoint, call', flight', -⟩ :=
        answers session.endpoint receiver channel pending flight
      obtain ⟨-, rfl, -, rfl⟩ := call.unique call' (Eq.refl ([] ++ []))
      have later := ih flight'
      rwa [List.append_assoc, List.append_assoc, ← List.flatMap_cons] at later

theorem replies_filterMap (messages : List RTMPMessage) :
    (messages.filterMap RTMPMessage.command?).flatMap AMFValue.replies =
      messages.flatMap RTMPMessage.replies := by
  induction messages with
  | nil => rfl
  | cons message messages ih =>
      rw [List.flatMap_cons, RTMPMessage.replies, List.filterMap_cons]
      cases message.command? with
      | none => exact ih
      | some root => rw [List.flatMap_cons, ih]

/-- Once a server has taken the messages of a wire, its client has been sent the replies to
the accepted requests, each once and in their order, and nothing else. -/
theorem requests_answered {start : RTMPServerSession} {wire : Bytes} {messages : List RTMPMessage}
    {now client : RTMPEndpoint} (ready : Ready start.endpoint)
    (delivers : Delivers start.endpoint wire messages now)
    (readable : ∀ message ∈ messages, message.Readable) (synced : Synced start.endpoint client) :
    ∃ session sent ends, Serves start wire sent ends session ∧
      ∃ replies after, Receives client sent replies after ∧
        replies.map RTMPMessage.delivery = (accepted messages).flatMap RTMPMessage.replies := by
  obtain ⟨-, session, applied, sent, ends, serves, accompanies, -⟩ :=
    serves_messages synced.positive ready delivers readable
  have flight := accompanies.applies.inFlight (.synced synced)
  rw [List.nil_append, List.nil_append, replies_filterMap] at flight
  obtain ⟨replies, after, receives, deliveries, -⟩ := flight.receives
  exact ⟨session, sent, ends, serves, replies, after, receives, deliveries⟩

/-- A client that asks for a stream. -/
theorem createStream_answered_once : ∃ wire message now session sent ends,
    Delivers {} wire [message] now ∧ Serves {} wire sent ends session ∧
      ∃ replies after, Receives {} sent replies after ∧
        replies.map RTMPMessage.delivery =
          [⟨.amf0, 0, 3, (amfResult createStreamResult 4).payload⟩] := by
  have travel : ∀ container ∈ [createStreamCommand], ∃ payload, Travels container payload := by
    intro container member
    rw [List.mem_singleton.mp member]
    exact createStreamCommand_travels
  obtain ⟨wire, messages, now, receives, carry⟩ := synced_default.deliver travel
  obtain ⟨message, rest, carries, none, rfl⟩ := List.forall₂_cons_right_iff.mp carry
  rw [List.forall₂_nil_right_iff] at none
  subst none
  have isAMF : message.IsAMF := Or.inl carries.1
  have command : message.command? = some createStreamCommand := by
    rw [RTMPMessage.command?, if_pos isAMF, carries.2]
    rfl
  have read : readCommand createStreamCommand = .ok ⟨ascii "createStream", 4, [.nul]⟩ :=
    readCommand_numbered (ascii "createStream") 4 [.nul]
  have kept : message.rejected = false := by
    rw [RTMPMessage.rejected, if_pos isAMF, command, Option.all_some, lacksApp, read]
    rfl
  have readable : message.Readable := by
    refine ⟨fun _ stop failed => ?_, fun root found => ?_, fun abort => ?_⟩
    · rw [carries.2] at failed
      cases failed
    · rw [command] at found
      cases found
      refine ⟨_, rfl, _, _, _, rfl, ?_⟩
      rw [ArgumentsShape, if_neg (by decide), if_pos rfl]
      trivial
    · rw [carries.1] at abort
      cases abort
  obtain ⟨session, sent, ends, serves, replies, after, received, same⟩ :=
    @requests_answered {} _ _ _ _ ready_default receives.delivers
      (fun other member => List.mem_singleton.mp member ▸ readable) synced_default
  refine ⟨wire, message, now, session, sent, ends, receives.delivers, serves, replies, after,
    received, same.trans ?_⟩
  rw [accepted_kept kept, List.flatMap_cons, RTMPMessage.replies, command]
  simp only [AMFValue.replies, read, Command.replies]
  rfl

end EasyRtmp
