import EasyRtmp.Lib.Rounds
import EasyRtmp.Commands
import EasyRtmp.Timestamps

/-!
# One command and its reply

Between two steps of the dialogue the client's half is in step with the server's
receiving half, and the answers of the server are under way (`Linked`).  A command
moves both sides to the next such state, and so does the wait for a reply.
-/

set_option autoImplicit false

namespace EasyRtmp

open Lib Lib.ByteCodec

/-- What is sent behind the messages under way arrives behind them. -/
theorem InFlight.sends {sender receiver : RTMPEndpoint} {channel : Bytes} {pending : List Delivery}
    (flight : InFlight sender receiver channel pending) {data : Serializable} {payload : Bytes}
    {id : UInt8} {messageStreamId : Nat} {messageType : RTMPMessageType} (timestamp : Nat)
    (serialized : data.serializeToBuffer = .ok payload)
    (sendable : Sendable id messageStreamId payload)
    (harmless : ∀ (message : RTMPMessage) (endpoint : RTMPEndpoint),
      message.messageType = messageType → message.data = payload →
        Returns (handleMessage message) endpoint [] [] () endpoint) :
    ∃ stream sender',
      Returns (sendRTMPMessage data id messageStreamId messageType timestamp) sender [] stream ()
        sender' ∧
      InFlight sender' receiver (channel ++ stream)
        (pending ++ [⟨messageType, messageStreamId, id, payload⟩]) := by
  obtain ⟨stream, -, call⟩ := sendRTMPMessage_returns serialized sendable.nonempty flight.positive
    id messageStreamId messageType timestamp
  refine ⟨stream, _, call, flight.send ?_⟩
  intro receiver' synced
  exact synced.harmless serialized sendable harmless call

theorem InFlight.of_nil {sender receiver : RTMPEndpoint} {channel : Bytes}
    (flight : InFlight sender receiver channel []) : channel = [] := by
  cases flight with
  | synced => rfl

theorem Synced.receiver_congr {sender receiver receiver' : RTMPEndpoint}
    (synced : Synced sender receiver) (same : receiver.SameReceiving receiver') :
    Synced sender receiver' := ((InFlight.synced synced).receiver_congr same).of_empty.2

theorem Synced.sender_congr {sender sender' receiver : RTMPEndpoint}
    (synced : Synced sender receiver) (same : sender.SameSending sender') :
    Synced sender' receiver := ((InFlight.synced synced).sender_congr same).of_empty.2

theorem Clocked.receiver_congr {clock : Clock} {sender receiver receiver' : RTMPEndpoint}
    (clocked : Clocked clock sender receiver) (same : receiver.SameReceiving receiver') :
    Clocked clock sender receiver' := by
  refine ⟨clocked.synced.receiver_congr same, fun id => ?_⟩
  rw [← same.inputStream id]
  exact clocked.keeps id

theorem Clocked.sender_congr {clock : Clock} {sender sender' receiver : RTMPEndpoint}
    (clocked : Clocked clock sender receiver) (same : sender.SameSending sender') :
    Clocked clock sender' receiver := by
  refine ⟨clocked.synced.sender_congr same, fun id => ?_⟩
  rw [← same.outputStream id]
  exact clocked.keeps id

/-! ## What the server does with a command -/

namespace RTMPServerSession

theorem onEndpoint_returns {α : Type} {program : EndpointProg α} {session : RTMPServerSession}
    {input output : Bytes} {value : α} {after : RTMPEndpoint}
    (call : Returns program session.endpoint input output value after) :
    Returns (onEndpoint program) session input output value { session with endpoint := after } :=
  call.zoom endpointLens session

/-- A program that only sends: `replies`, in this order, changing the parameters
from `held` to `left`. -/
def Answers (program : ServerProg Unit) (held : ClientParameters) (replies : List Delivery)
    (left : ClientParameters) : Prop :=
  ∀ (endpoint receiver : RTMPEndpoint) (channel : Bytes) (pending : List Delivery),
    InFlight endpoint receiver channel pending →
      ∃ output after, Returns program ⟨endpoint, held⟩ [] output () ⟨after, left⟩ ∧
        InFlight after receiver (channel ++ output) (pending ++ replies) ∧
        after.SameReceiving endpoint

section Answers
variable {program : ServerProg Unit} {held middle left : ClientParameters}
  {replies later : List Delivery}

theorem Answers.bind {next : Unit → ServerProg Unit} (first : Answers program held replies middle)
    (second : Answers (next ()) middle later left) :
    Answers (program >>= next) held (replies ++ later) left := by
  intro endpoint receiver channel pending flight
  obtain ⟨output, between, ran, flight', same⟩ := first endpoint receiver channel pending flight
  obtain ⟨output', after, ran', flight'', same'⟩ := second between receiver _ _ flight'
  refine ⟨output ++ output', after, ran.bind ran', ?_, same'.trans same⟩
  rw [← List.append_assoc, ← List.append_assoc]
  exact flight''

theorem Answers.silent {α : Type} {program : ServerProg α} {next : α → ServerProg Unit} {value : α}
    (runs : ∀ endpoint, Returns program ⟨endpoint, held⟩ [] [] value ⟨endpoint, middle⟩)
    (rest : Answers (next value) middle replies left) :
    Answers (program >>= next) held replies left := by
  intro endpoint receiver channel pending flight
  obtain ⟨output, after, ran, flight', same⟩ := rest endpoint receiver channel pending flight
  exact ⟨output, after, (runs endpoint).silent_bind ran, flight', same⟩

theorem Answers.quiet (runs : ∀ endpoint, Returns program ⟨endpoint, held⟩ [] [] ()
    ⟨endpoint, left⟩) : Answers program held [] left := by
  intro endpoint receiver channel pending flight
  refine ⟨[], endpoint, runs endpoint, ?_, .refl endpoint⟩
  rw [List.append_nil, List.append_nil]
  exact flight

theorem Answers.send {data : Serializable} {payload : Bytes} {id : UInt8} {messageStreamId : Nat}
    {messageType : RTMPMessageType} (timestamp : Nat)
    (serialized : data.serializeToBuffer = .ok payload)
    (sendable : Sendable id messageStreamId payload)
    (harmless : ∀ (message : RTMPMessage) (endpoint : RTMPEndpoint),
      message.messageType = messageType → message.data = payload →
        Returns (handleMessage message) endpoint [] [] () endpoint) (held : ClientParameters) :
    Answers (onEndpoint (sendRTMPMessage data id messageStreamId messageType timestamp)) held
      [⟨messageType, messageStreamId, id, payload⟩] held := by
  intro endpoint receiver channel pending flight
  obtain ⟨stream, after, call, flight'⟩ := flight.sends timestamp serialized sendable harmless
  exact ⟨stream, after, onEndpoint_returns call, flight',
    sending_frame (fun _ => sendRTMPMessage_lockstep _ _ _ _ _) call⟩

end Answers

end RTMPServerSession

/-- The server's loop comes to wait for a byte. -/
theorem serverLoop_waits {α : Type} (server : RTMPServerSession)
    (return_ : RTMPMediaMessage → ServerProg α) : ∃ wait,
    Runs ⟨server, .loop (fun _ => RTMPServerSession.serverPass) () return_⟩ [] []
      ⟨server, .recv 1 wait⟩ := by
  obtain ⟨next, waits⟩ := receiveChunk_waits
  have inner : ∀ rest : RTMPMessage → ServerProg α, ∃ wait,
      Runs ⟨server, .loop (fun _ => receiveChunk.zoom RTMPServerSession.endpointLens) () rest⟩ [] []
        ⟨server, .recv 1 wait⟩ := by
    intro rest
    rw [waits]
    exact ⟨_, Runs.loop (.refl _)⟩
  obtain ⟨wait, run⟩ := inner _
  exact ⟨wait, Runs.loop run⟩

/-! ## The two sides together -/

abbrev Dialogue := Duplex RTMPClientSession RTMPServerSession Stop Unit Unit

namespace Dialogue

/-- The client is about to run `rest`, the server in its loop, behind which `return_`
follows; nothing is under way to the server. -/
def between (client : RTMPClientSession) (rest : ClientProg Unit) (server : RTMPServerSession)
    (return_ : RTMPMediaMessage → ServerProg Unit) (channel : Bytes) : Dialogue where
  left := ⟨client, rest⟩
  right := ⟨server, .loop (fun _ => RTMPServerSession.serverPass) () return_⟩
  toRight := []
  toLeft := channel

structure Linked (client : RTMPClientSession) (server : RTMPServerSession) (channel : Bytes)
    (pending : List Delivery) : Prop where
  toServer : Synced client.endpoint server.endpoint
  toClient : InFlight server.endpoint client.endpoint channel pending

section Linked
variable {client : RTMPClientSession} {server : RTMPServerSession} {channel : Bytes}
  {pending : List Delivery}

/-- The server takes a command in one pass of its loop. -/
theorem serverPass_command {root : AMFValue} {message : RTMPMessage} {middle : RTMPEndpoint}
    {input output : Bytes} {after : RTMPServerSession}
    (call : Returns getRTMPMessage server.endpoint input [] message middle)
    (isAmf : message.messageType = .amf0 ∨ message.messageType = .metadataAmf0)
    (parsed : parseBuffer (AMFValue.parseRoot []) message.data = .ok root)
    (handled : Returns (RTMPServerSession.handleAMF root) ⟨middle, server.clientParameters⟩ []
      output () after) :
    Returns RTMPServerSession.serverPass server input output (.inl ()) after := by
  have pass : Returns RTMPServerSession.serverPass server (input ++ []) ([] ++ output) (.inl ())
      after := by
    refine (RTMPServerSession.onEndpoint_returns call).bind ?_
    rw [if_pos isAmf]
    exact (Returns.ofExcept parsed _).silent_bind (handled.bind_silent (.pure _ _))
  rwa [List.append_nil] at pass

/-- The messages that `HandleMessage` gets. -/
theorem serverPass_other {message : RTMPMessage} {messageType : RTMPMessageType}
    {middle after : RTMPEndpoint} {input : Bytes}
    (call : Returns getRTMPMessage server.endpoint input [] message middle)
    (type : message.messageType = messageType)
    (other : messageType ∉ [RTMPMessageType.amf0, .metadataAmf0, .audio, .video])
    (handled : Returns (handleMessage message) middle [] [] () after) :
    Returns RTMPServerSession.serverPass server input [] (.inl ())
      { server with endpoint := after } := by
  simp only [List.mem_cons, List.not_mem_nil, or_false, not_or] at other
  obtain ⟨notAmf, notMetadata, notAudio, notVideo⟩ := other
  refine (RTMPServerSession.onEndpoint_returns call).bind_silent ?_
  simp only [type, notAmf, notMetadata, notAudio, notVideo, or_self, if_false]
  exact (RTMPServerSession.onEndpoint_returns handled).bind_silent (.pure _ _)

/-- Where the commands have time 0 nothing is asked of it. -/
theorem fits_zero (last : Option (Nat × Nat)) (messageStreamId : Nat) :
    Fits last messageStreamId 0 := by
  cases last with
  | none => exact show 0 < 2 ^ 24 by decide
  | some last =>
      rw [Fits]
      split <;> omega

/-- A command and the answers to it. -/
theorem Linked.command_round (linked : Linked client server channel pending) {root : AMFValue}
    {payload : Bytes} (travels : AMFValue.Travels root payload) (id : UInt8)
    (idBound : id.toNat < 64) (messageStreamId : Nat) (streamBound : messageStreamId < 2 ^ 24)
    {messageType : RTMPMessageType} (isAmf : messageType = .amf0 ∨ messageType = .metadataAmf0)
    {replies : List Delivery} {left : ClientParameters}
    (answers : RTMPServerSession.Answers (RTMPServerSession.handleAMF root)
      server.clientParameters replies left) :
    ∃ client' server' channel',
      (∀ rest : Unit → ClientProg Unit, Round RTMPServerSession.serverPass
        ⟨⟨client, RTMPClientSession.onEndpoint
          (sendCommand root id messageStreamId messageType) >>= rest⟩, server, channel⟩
        ⟨⟨client', rest ()⟩, server', channel'⟩) ∧
      Linked client' server' channel' (pending ++ replies) ∧
      client'.sentParams = client.sentParams ∧ server'.clientParameters = left ∧
      ∀ clock, Clocked clock client.endpoint server.endpoint →
        Clocked (Function.update clock id (some (messageStreamId, 0))) client'.endpoint
          server'.endpoint := by
  obtain ⟨stream, sender, receiver, time, sends, receives, synced, clocks⟩ :=
    linked.toServer.timed_transfer travels.serialized
      ⟨idBound, streamBound, travels.nonempty, travels.limited⟩ messageType
      (show 0 < 2 ^ 32 by decide)
  have sameReceiving := sending_frame (fun _ => sendRTMPMessage_lockstep _ _ _ _ _) sends
  have sameSending := receiving_frame (fun _ => getRTMPMessage_lockstep) receives
  have flight := (linked.toClient.sender_congr sameSending.symm).receiver_congr sameReceiving.symm
  obtain ⟨output, after, handled, flight', sameReceiver⟩ := answers _ _ _ _ flight
  refine ⟨⟨sender, client.sentParams⟩, ⟨after, left⟩, channel ++ output, ?_, ?_, rfl, rfl, ?_⟩
  · intro rest
    have sent : Runs ⟨client, RTMPClientSession.onEndpoint
        (sendCommand root id messageStreamId messageType) >>= rest⟩ [] stream ⟨_, rest ()⟩ :=
      (RTMPClientSession.onEndpoint_returns sends).before rest
    exact .request channel sent (serverPass_command receives isAmf travels.parsed handled)
  · exact ⟨synced.receiver_congr sameReceiver.symm, flight'⟩
  · intro clock clocked
    obtain ⟨fits, ticks⟩ := clocks clock clocked
    exact (ticks (fits.mpr (fits_zero _ _))).receiver_congr sameReceiver.symm

/-- The server's loop in a dialogue. -/
theorem between_reaches {client client' : RTMPClientSession} {server server' : RTMPServerSession}
    {channel channel' : Bytes} {program rest : ClientProg Unit}
    (rounds : Rounds RTMPServerSession.serverPass ⟨⟨client, program⟩, server, channel⟩
      ⟨⟨client', rest⟩, server', channel'⟩)
    (return_ : RTMPMediaMessage → ServerProg Unit) :
    Duplex.Reaches (between client program server return_ channel)
      (between client' rest server' return_ channel') :=
  rounds.reaches
    (fun server => ⟨server, .loop (fun _ => RTMPServerSession.serverPass) () return_⟩)
    Runs.loop_again

/-- The client takes what is under way, up to the reply it waits for. -/
theorem Linked.response_round {skipped : List Delivery} {reply : Delivery}
    (linked : Linked client server channel (skipped ++ [reply]))
    {clb : AMFValue → Except Stop Bool} {cmdId : Int}
    (ignored : ∀ earlier ∈ skipped, replyTo clb cmdId earlier.messageType earlier.data = .ok none)
    (answered : replyTo clb cmdId reply.messageType reply.data = .ok (some true)) :
    ∃ client',
      (∀ rest : Unit → ClientProg Unit, Round RTMPServerSession.serverPass
        ⟨⟨client, RTMPClientSession.expectSuccess clb cmdId >>= rest⟩, server, channel⟩
        ⟨⟨client', rest ()⟩, server, []⟩) ∧
      Linked client' server [] [] ∧ client'.sentParams = client.sentParams ∧
      client'.endpoint.SameSending client.endpoint := by
  obtain ⟨messages, after, receives, deliveries, synced⟩ := linked.toClient.receives
  obtain ⟨before, last, rfl, rfl, one⟩ := List.map_eq_append_iff.mp deliveries
  obtain ⟨message, rfl, rfl⟩ := List.map_eq_singleton_iff.mp one
  have ignores : ∀ earlier ∈ before,
      replyTo clb cmdId earlier.messageType earlier.data = .ok none := by
    intro earlier member
    exact ignored earlier.delivery (List.mem_map_of_mem member)
  have responds := RTMPClientSession.getCommandResponse_returns receives ignores answered
  refine ⟨{ client with endpoint := after }, ?_, ?_, rfl, receives.frame⟩
  · intro rest
    have round := @Round.reply _ _ _ _ _ RTMPServerSession.serverPass _ _ _ server []
      ((RTMPClientSession.expectSuccess_returns responds).before rest)
    rwa [List.append_nil] at round
  · exact ⟨linked.toServer.sender_congr receives.frame.symm, .synced synced⟩

end Linked

end Dialogue

end EasyRtmp
