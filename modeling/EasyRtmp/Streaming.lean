import EasyRtmp.Dialogue
import EasyRtmp.PacketFields
import EasyRtmp.Lib.Growing

/-!
# A client streams media to a server

Behind `SendClientParameters` the client calls `RTMPClientSession::SendRTMPMessage`
for one media message after another.  The server is the example of the README: it asks
for messages forever and hands each to a handler, together with the parameters it holds
at that time.
-/

set_option autoImplicit false

namespace EasyRtmp

open Lib Lib.ByteCodec AMFValue

/-! ## The two programs -/

/-- `SendRTMPMessage` of the client session, whose asserts are compiled out.  `before`
is the memory in front of the composition time of a video packet. -/
def RTMPClientSession.sendRTMPMessage (before : Nat → UInt8) (message : RTMPMediaMessage) :
    ClientProg Unit :=
  if message.messageType = .audio then
    onEndpoint (EasyRtmp.sendRTMPMessage message.audio.toSerializable 4 message.messageStreamId
      message.messageType message.timestamp)
  else if message.messageType = .video then
    onEndpoint (EasyRtmp.sendRTMPMessage (message.video.toSerializable before) 4
      message.messageStreamId message.messageType message.timestamp)
  else pure ()

structure Broadcast where
  message : RTMPMediaMessage
  before : Nat → UInt8

def sendMedia : List Broadcast → ClientProg Unit
  | [] => pure ()
  | broadcast :: media => do
      RTMPClientSession.sendRTMPMessage broadcast.before broadcast.message
      sendMedia media

def streamingClient (params : ClientParameters) (media : List Broadcast) : ClientProg Unit := do
  RTMPClientSession.onEndpoint constructEndpoint
  RTMPClientSession.sendClientParameters params
  sendMedia media

/-- A server session and what its handlers got. -/
structure MediaServer where
  session : RTMPServerSession := {}
  handled : List (RTMPMediaMessage × ClientParameters) := []

namespace MediaServer

def sessionLens : Lens MediaServer RTMPServerSession where
  view server := server.session
  update session server := { server with session := session }
  view_update _ _ := rfl
  update_update _ _ _ := rfl
  update_view _ := rfl

def onSession {α : Type} (program : ServerProg α) : Prog MediaServer Stop α :=
  program.zoom sessionLens

/-- The message goes to a handler, with what `GetClientParameters` points to. -/
def handle (message : RTMPMediaMessage) : Prog MediaServer Stop (Unit ⊕ Unit) := do
  Prog.modifyState fun server =>
    { server with handled := server.handled ++ [(message, server.session.clientParameters)] }
  pure (.inl ())

def mediaPass : Prog MediaServer Stop (Unit ⊕ Unit) := do
  let message ← onSession RTMPServerSession.getRTMPMessage
  handle message

def mediaLoop : Prog MediaServer Stop Unit := Prog.repeatUntil (fun _ => mediaPass) ()

def main : Prog MediaServer Stop Unit := do
  onSession (RTMPServerSession.onEndpoint constructEndpoint)
  mediaLoop

end MediaServer

abbrev Streaming := Duplex RTMPClientSession MediaServer Stop Unit Unit

def streaming (params : ClientParameters) (media : List Broadcast) : Streaming :=
  ⟨⟨{}, streamingClient params media⟩, ⟨{}, MediaServer.main⟩, [], []⟩

/-! ## The messages -/

namespace Broadcast

def serializable (broadcast : Broadcast) : Serializable :=
  if broadcast.message.messageType = .audio then broadcast.message.audio.toSerializable
  else broadcast.message.video.toSerializable broadcast.before

def payload (broadcast : Broadcast) : Bytes :=
  if broadcast.message.messageType = .audio then broadcast.message.audio.serialize
  else broadcast.message.video.serialize broadcast.before

structure Valid (broadcast : Broadcast) : Prop where
  isMedia : broadcast.message.messageType = .audio ∨ broadcast.message.messageType = .video
  streamBound : broadcast.message.messageStreamId < 2 ^ 24
  timeBound : broadcast.message.timestamp < 2 ^ 32
  audio : broadcast.message.messageType = .audio → broadcast.message.audio.InRange ∧
    broadcast.message.audio.audioDataSend.length + 2 ≤ 512000
  video : broadcast.message.messageType = .video →
    (broadcast.message.video.codecId < 16 ∧ broadcast.message.video.frameType < 16 ∧
      broadcast.message.video.avcPacketType < 256) ∧
    broadcast.message.video.videoDataSend.length + 5 ≤ 512000

/-- The message as the server's handler gets it.  Of a composition time only the low
byte is the client's. -/
def arrival (broadcast : Broadcast) : RTMPMediaMessage :=
  if broadcast.message.messageType = .audio then
    { broadcast.message with video := {} }
  else
    { broadcast.message with
      audio := {}
      video := { broadcast.message.video with
        compositionTime := (broadcast.before 1).toNat * 2 ^ 16 +
          (broadcast.before 0).toNat * 2 ^ 8 +
          broadcast.message.video.compositionTime % 2 ^ 8 } }

def call (broadcast : Broadcast) : SendCall :=
  ⟨broadcast.serializable, 4, broadcast.message.messageStreamId, broadcast.message.messageType,
    broadcast.message.timestamp⟩

end Broadcast

def RTMPMediaMessage.untimed (message : RTMPMediaMessage) : RTMPMediaMessage :=
  { message with timestamp := 0 }

/-- What `SendClientParameters` leaves on the media's chunk stream: a message of
stream 1 with time 0. -/
def publishedClock : Clock := fun id => if id = 4 then some (1, 0) else none

section Messages
variable {broadcast : Broadcast}

theorem Broadcast.arrival_timestamp (broadcast : Broadcast) :
    broadcast.arrival.timestamp = broadcast.message.timestamp := by
  rw [Broadcast.arrival]
  split <;> rfl

theorem audio_ne_video : RTMPMessageType.video ≠ .audio := by decide

theorem Broadcast.Valid.serialized (valid : broadcast.Valid) :
    broadcast.serializable.serializeToBuffer = .ok broadcast.payload ∧
      Sendable 4 broadcast.message.messageStreamId broadcast.payload := by
  have limit : payloadLimit = 512000 := rfl
  rcases valid.isMedia with audio | video
  · obtain ⟨inRange, short⟩ := valid.audio audio
    rw [Broadcast.serializable, Broadcast.payload, if_pos audio, if_pos audio]
    refine ⟨AudioPacketAAC.produces inRange (by omega), by decide, valid.streamBound, ?_, ?_⟩
    · rw [AudioPacketAAC.serialize_eq inRange]
      exact List.cons_ne_nil _ _
    · rw [AudioPacketAAC.serialize_eq inRange, List.length_cons, List.length_cons]
      omega
  · obtain ⟨⟨codec, frame, type⟩, short⟩ := valid.video video
    have notAudio : broadcast.message.messageType ≠ .audio := video ▸ audio_ne_video
    rw [Broadcast.serializable, Broadcast.payload, if_neg notAudio, if_neg notAudio]
    have inRange : { broadcast.message.video with
        compositionTime := broadcast.message.video.compositionTime % 2 ^ 24 }.InRange :=
      ⟨codec, frame, type, Nat.mod_lt _ (by decide)⟩
    have same := VideoPacket.serialize_low_byte broadcast.before broadcast.message.video
    have produced := VideoPacket.produces broadcast.before inRange (by simp only; omega)
    rw [VideoPacket.toSerializable, VideoPacket.getLength, ← same] at produced
    refine ⟨produced, by decide, valid.streamBound, ?_, ?_⟩
    · rw [same, VideoPacket.serialize_eq broadcast.before inRange]
      exact List.cons_ne_nil _ _
    · rw [same, VideoPacket.serialize_eq broadcast.before inRange]
      simp only [List.length_cons, List.length_append, List.length_nil]
      omega

theorem Broadcast.Valid.taken (valid : broadcast.Valid) {server : RTMPServerSession}
    {input : Bytes} {time : Nat} {after : RTMPEndpoint}
    (call : Returns getRTMPMessage server.endpoint input []
      ⟨broadcast.message.messageType, broadcast.message.messageStreamId,
        broadcast.payload.length, 4, time, broadcast.payload⟩ after) :
    Returns RTMPServerSession.serverPass server input []
      (.inr { broadcast.arrival with timestamp := time }) { server with endpoint := after } := by
  refine (RTMPServerSession.onEndpoint_returns call).bind_silent ?_
  rcases valid.isMedia with audio | video
  · obtain ⟨inRange, short⟩ := valid.audio audio
    have notAmf : ¬ (broadcast.message.messageType = .amf0 ∨
        broadcast.message.messageType = .metadataAmf0) := by
      rw [audio]
      decide
    have parsed := AudioPacketAAC.parse_serialize inRange (by omega)
    simp only [notAmf, if_false, if_pos audio, Broadcast.payload, Broadcast.arrival]
    exact (Returns.ofExcept parsed _).silent_bind (.pure _ _)
  · obtain ⟨⟨codec, frame, type⟩, short⟩ := valid.video video
    have notAudio : broadcast.message.messageType ≠ .audio := video ▸ audio_ne_video
    have notAmf : ¬ (broadcast.message.messageType = .amf0 ∨
        broadcast.message.messageType = .metadataAmf0) := by
      rw [video]
      decide
    have inRange : { broadcast.message.video with
        compositionTime := broadcast.message.video.compositionTime % 2 ^ 24 }.InRange :=
      ⟨codec, frame, type, Nat.mod_lt _ (by decide)⟩
    have parsed := VideoPacket.parse_produced inRange
      (VideoPacket.produces broadcast.before inRange (by simp only; omega))
    rw [← VideoPacket.serialize_low_byte] at parsed
    have low : broadcast.message.video.compositionTime % 2 ^ 24 % 2 ^ 8 =
        broadcast.message.video.compositionTime % 2 ^ 8 := by omega
    simp only [low] at parsed
    simp only [notAmf, if_false, if_pos video, notAudio, Broadcast.payload, Broadcast.arrival]
    exact (Returns.ofExcept parsed _).silent_bind (.pure _ _)

theorem Broadcast.Valid.sends (valid : broadcast.Valid) {client : RTMPClientSession}
    {stream : Bytes} {after : RTMPEndpoint}
    (call : Returns (EasyRtmp.sendRTMPMessage broadcast.serializable 4
      broadcast.message.messageStreamId broadcast.message.messageType
      broadcast.message.timestamp) client.endpoint [] stream () after) :
    Returns (RTMPClientSession.sendRTMPMessage broadcast.before broadcast.message) client [] stream
      () { client with endpoint := after } := by
  rw [Broadcast.serializable] at call
  rw [RTMPClientSession.sendRTMPMessage]
  rcases valid.isMedia with audio | video
  · rw [if_pos audio] at call ⊢
    exact RTMPClientSession.onEndpoint_returns call
  · have notAudio : broadcast.message.messageType ≠ .audio := video ▸ audio_ne_video
    rw [if_neg notAudio] at call ⊢
    rw [if_pos video]
    exact RTMPClientSession.onEndpoint_returns call

end Messages

/-! ## The server's loop -/

namespace MediaServer

variable {server : MediaServer} {session : RTMPServerSession} {message : RTMPMediaMessage}
  {input output : Bytes}

/-- What follows a message: its handler, and the loop again. -/
def next (message : RTMPMediaMessage) : Prog MediaServer Stop Unit :=
  handle message >>= Prog.afterPass (fun _ => mediaPass) .ret

def waiting (server : MediaServer) : Config MediaServer Stop Unit :=
  ⟨server, onSession RTMPServerSession.getRTMPMessage >>= next⟩

theorem mediaLoop_waits (server : MediaServer) :
    Runs ⟨server, mediaLoop⟩ [] [] (waiting server) := by
  refine Runs.loop ?_
  show Runs ⟨server, mediaPass >>= Prog.afterPass (fun _ => mediaPass) .ret⟩ [] [] _
  rw [mediaPass, bind_assoc]
  exact .refl _

theorem waiting_runs {program final : ServerProg RTMPMediaMessage} {after : RTMPServerSession}
    (run : Runs ⟨session, program⟩ input output ⟨after, final⟩)
    (handled : List (RTMPMediaMessage × ClientParameters)) :
    Runs ⟨⟨session, handled⟩, onSession program >>= next⟩ input output
      ⟨⟨after, handled⟩, onSession final >>= next⟩ :=
  (run.zoom sessionLens ⟨session, handled⟩).bindLeft next

theorem waiting_passes {after : RTMPServerSession}
    (pass : Returns RTMPServerSession.serverPass session input output (.inl ()) after)
    (handled : List (RTMPMediaMessage × ClientParameters)) :
    Runs (waiting ⟨session, handled⟩) input output (waiting ⟨after, handled⟩) :=
  waiting_runs (Runs.loop_again pass) handled

theorem waiting_handles {after : RTMPServerSession}
    (pass : Returns RTMPServerSession.serverPass session input output (.inr message) after)
    (handled : List (RTMPMediaMessage × ClientParameters)) :
    Runs (waiting ⟨session, handled⟩) input output
      (waiting ⟨after, handled ++ [(message, after.clientParameters)]⟩) := by
  have returned : Returns RTMPServerSession.getRTMPMessage session input output message after :=
    Runs.loop_done pass
  have noted : Returns (handle message) ⟨after, handled⟩ [] [] (.inl ())
      ⟨after, handled ++ [(message, after.clientParameters)]⟩ :=
    (Returns.modifyState _ _).silent_bind (.pure _ _)
  have onward := (noted.before (Prog.afterPass (fun _ => mediaPass) .ret)).trans
    (mediaLoop_waits _)
  have whole := (waiting_runs returned handled).trans onward
  rwa [List.append_nil, List.append_nil, List.append_nil] at whole

theorem waiting_rests (server : MediaServer) : ∃ wait,
    Runs (waiting server) [] [] ⟨server, .recv 1 wait⟩ := by
  obtain ⟨wait, run⟩ := serverLoop_waits server.session .ret
  exact ⟨_, waiting_runs run server.handled⟩

def Later (before after : MediaServer) : Prop := before.handled <+: after.handled

theorem onSession_grows {α : Type} (program : ServerProg α) (server : MediaServer) :
    Grows Later (onSession program) server :=
  Grows.zoom (fun _ whole => List.prefix_refl whole.handled) program server

theorem handle_grows (message : RTMPMediaMessage) (server : MediaServer) :
    Grows Later (handle message) server := by
  have noted : Later server
      { server with handled := server.handled ++ [(message, server.session.clientParameters)] } :=
    List.prefix_append _ _
  exact (Grows.modifyState noted).bind fun _ _ => .pure

theorem mediaPass_grows (server : MediaServer) : Grows Later mediaPass server :=
  (onSession_grows _ server).bind handle_grows

theorem main_grows (server : MediaServer) : Grows Later main server :=
  (onSession_grows _ server).bind fun _ _ => Grows.repeatUntil fun _ => mediaPass_grows

theorem handled_stays {first : Config RTMPClientSession Stop Unit}
    {program : Prog MediaServer Stop Unit} (grows : Grows Later program {})
    {net after : Duplex RTMPClientSession MediaServer Stop Unit Unit}
    (path : Duplex.Reaches ⟨first, ⟨{}, program⟩, [], []⟩ net) (onward : net.Reaches after) :
    net.right.state.handled <+: after.right.state.handled := by
  have refl : ∀ server, Later server server := fun server => List.prefix_refl server.handled
  have trans : ∀ {first second third}, Later first second → Later second third →
      Later first third := List.IsPrefix.trans
  have growing := (Grows.right refl trans grows path).2
  exact (Grows.right refl trans growing onward).1

end MediaServer

/-! ## The media -/

section Media
open MediaServer
variable {client : RTMPClientSession} {server : RTMPServerSession}

/-- One message goes from the client's call to the server's handler. -/
theorem Broadcast.Valid.reaches {broadcast : Broadcast} (valid : broadcast.Valid)
    (synced : Synced client.endpoint server.endpoint) (rest : ClientProg Unit)
    (handled : List (RTMPMediaMessage × ClientParameters)) :
    ∃ client' server' time,
      Duplex.Reaches
        ⟨⟨client, RTMPClientSession.sendRTMPMessage broadcast.before broadcast.message >>=
          fun _ => rest⟩, waiting ⟨server, handled⟩, [], []⟩
        ⟨⟨client', rest⟩, waiting ⟨server', handled ++
          [({ broadcast.arrival with timestamp := time }, server.clientParameters)]⟩, [], []⟩ ∧
      Synced client'.endpoint server'.endpoint ∧
      server'.clientParameters = server.clientParameters ∧
      ∀ clock, Clocked clock client.endpoint server.endpoint →
        (time = broadcast.message.timestamp ↔
          Fits (clock 4) broadcast.message.messageStreamId broadcast.message.timestamp) ∧
        (time = broadcast.message.timestamp →
          Clocked (Function.update clock 4
            (some (broadcast.message.messageStreamId, broadcast.message.timestamp)))
            client'.endpoint server'.endpoint) := by
  obtain ⟨serialized, sendable⟩ := valid.serialized
  obtain ⟨stream, sender, receiver, time, sends, receives, synced', clocks⟩ :=
    synced.timed_transfer serialized sendable broadcast.message.messageType valid.timeBound
  have asks := Duplex.reaches_left ((valid.sends sends).before fun _ => rest)
    (waiting ⟨server, handled⟩) [] []
  have takes := Duplex.reaches_right (waiting_handles (valid.taken receives) handled)
    ⟨{ client with endpoint := sender }, rest⟩ [] []
  simp only [List.append_nil] at asks takes
  exact ⟨_, _, time, asks.trans takes, synced', rfl, clocks⟩

/-- All media arrive, with their times exactly if each fits. -/
theorem media_reaches {media : List Broadcast} (valid : ∀ broadcast ∈ media, broadcast.Valid) :
    ∀ {client : RTMPClientSession} {server : RTMPServerSession},
      Synced client.endpoint server.endpoint →
      ∀ handled : List (RTMPMediaMessage × ClientParameters), ∃ client' server' received,
        Duplex.Reaches ⟨⟨client, sendMedia media⟩, waiting ⟨server, handled⟩, [], []⟩
          ⟨⟨client', .ret ()⟩, waiting ⟨server', handled ++
            received.map fun message => (message, server.clientParameters)⟩, [], []⟩ ∧
        received.map RTMPMediaMessage.untimed = media.map (fun b => b.arrival.untimed) ∧
        ∀ clock, Clocked clock client.endpoint server.endpoint →
          (received = media.map Broadcast.arrival ↔
            Representable clock (media.map Broadcast.call)) := by
  induction media with
  | nil =>
      intro client server _ handled
      refine ⟨client, server, [], ?_, rfl, fun _ _ => ⟨fun _ => trivial, fun _ => rfl⟩⟩
      rw [List.map_nil, List.append_nil]
      exact .refl
  | cons broadcast media ih =>
      intro client server synced handled
      have first := valid broadcast List.mem_cons_self
      obtain ⟨client₁, server₁, time, path, synced₁, kept, clocks⟩ :=
        first.reaches synced (sendMedia media) handled
      obtain ⟨client', server', received, path', same, times⟩ :=
        ih (fun other member => valid other (List.mem_cons_of_mem broadcast member)) synced₁
          (handled ++ [({ broadcast.arrival with timestamp := time }, server.clientParameters)])
      rw [kept, List.append_assoc] at path'
      refine ⟨client', server', { broadcast.arrival with timestamp := time } :: received,
        path.trans path', ?_, ?_⟩
      · rw [List.map_cons, List.map_cons, same]
        rfl
      · intro clock clocked
        obtain ⟨arrives, clocked'⟩ := clocks clock clocked
        have timed : ({ broadcast.arrival with timestamp := time } : RTMPMediaMessage) =
            broadcast.arrival ↔ time = broadcast.message.timestamp := by
          rw [← broadcast.arrival_timestamp]
          refine ⟨fun same => (congrArg RTMPMediaMessage.timestamp same :), fun same => ?_⟩
          rw [same]
        rw [List.map_cons, List.map_cons, List.cons.injEq, Representable, timed, arrives]
        exact and_congr_right fun fits => times _ (clocked' (arrives.mpr fits))

/-- Only the clock of the media's own chunk stream counts. -/
theorem representable_media (media : List Broadcast) :
    ∀ {clock clock' : Clock}, clock 4 = clock' 4 →
      (Representable clock (media.map Broadcast.call) ↔
        Representable clock' (media.map Broadcast.call)) := by
  induction media with
  | nil => exact fun _ => Iff.rfl
  | cons broadcast media ih =>
      intro clock clock' same
      have later : Function.update clock 4
            (some (broadcast.message.messageStreamId, broadcast.message.timestamp)) 4 =
          Function.update clock' 4
            (some (broadcast.message.messageStreamId, broadcast.message.timestamp)) 4 := by
        rw [Function.update_self, Function.update_self]
      rw [List.map_cons, Representable, Representable]
      exact and_congr (by rw [Broadcast.call, same]) (ih later)

theorem streaming_completes (params : ClientParameters) (appFits : FitsString params.app)
    (urlFits : FitsString params.url) (keyFits : FitsString params.key) {media : List Broadcast}
    (valid : ∀ broadcast ∈ media, broadcast.Valid) :
    ∃ client server held received wait,
      (streaming params media).Reaches ⟨⟨client, .ret ()⟩,
        ⟨⟨server, received.map fun message => (message, held)⟩, .recv 1 wait⟩, [], []⟩ ∧
      held.Received params ∧
      received.map RTMPMediaMessage.untimed = media.map (fun b => b.arrival.untimed) ∧
      (received = media.map Broadcast.arrival ↔
        Representable publishedClock (media.map Broadcast.call)) := by
  obtain ⟨client₀, opened, server₀, stream, channel₀, linked₀, clocked₀, clientSends, serverSends,
    pass⟩ := chunkSizes_changed
  obtain ⟨client₁, server₁, clock, sent, known, linked, clocked, ticked, rounds⟩ :=
    publish_rounds params appFits urlFits keyFits linked₀ clocked₀
  obtain ⟨client, server, received, path, same, times⟩ :=
    media_reaches valid linked.toServer []
  obtain ⟨wait, rests⟩ := waiting_rests
    ⟨server, received.map fun message => (message, server₁.clientParameters)⟩
  refine ⟨client, server, server₁.clientParameters, received, wait, ?_, known, same, ?_⟩
  · have shakes : Duplex.Reaches (streaming params media)
        ⟨⟨{}, RTMPClientSession.onEndpoint (changeChunkSizeOutput 4096) >>= fun _ =>
          RTMPClientSession.sendClientParameters params >>= fun _ => sendMedia media⟩,
          ⟨⟨{}, []⟩, onSession (RTMPServerSession.onEndpoint (changeChunkSizeOutput 4096)) >>=
            fun _ => mediaLoop⟩, [], []⟩ := by
      have alone := @handshake_reaches {} {}
        (fun _ => RTMPClientSession.sendClientParameters params >>= fun _ => sendMedia media) pure
      rw [bind_pure, bind_pure] at alone
      exact alone.host_right
        (fun config => ⟨⟨config.state, []⟩, onSession config.prog >>= fun _ => mediaLoop⟩)
        fun run => (run.zoom sessionLens ⟨{}, []⟩).bindLeft fun _ => mediaLoop
    have asks := Duplex.reaches_left (clientSends.before fun _ =>
        RTMPClientSession.sendClientParameters params >>= fun _ => sendMedia media)
      ⟨⟨{}, []⟩, onSession (RTMPServerSession.onEndpoint (changeChunkSizeOutput 4096)) >>=
        fun _ => mediaLoop⟩ [] []
    have announces : Returns
        (onSession (RTMPServerSession.onEndpoint (changeChunkSizeOutput 4096))) ⟨{}, []⟩ [] channel₀
        () ⟨opened, []⟩ := serverSends.zoom sessionLens ⟨{}, []⟩
    have answers := Duplex.reaches_right
      ((announces.before fun _ => mediaLoop).trans (mediaLoop_waits _))
      ⟨client₀, RTMPClientSession.sendClientParameters params >>= fun _ => sendMedia media⟩ []
      stream
    have takes := Duplex.reaches_right (waiting_passes pass [])
      ⟨client₀, RTMPClientSession.sendClientParameters params >>= fun _ => sendMedia media⟩
      channel₀ []
    have publishes := (rounds fun _ => sendMedia media).reaches (fun server => waiting ⟨server, []⟩)
      fun pass => waiting_passes pass []
    have settles := Duplex.reaches_right rests ⟨client, .ret ()⟩ [] []
    simp only [List.append_nil, List.nil_append] at asks answers takes path settles
    exact shakes.trans (asks.trans (answers.trans (takes.trans (publishes.trans
      (path.trans settles)))))
  · rw [times clock clocked]
    exact representable_media media ticked

end Media

namespace Streaming

def Throws (net : Streaming) : Prop :=
  (∃ stop, net.left.prog = .fail stop) ∨ ∃ stop, net.right.prog = .fail stop

/-- What the handlers have got so far: the first media in the client's order, each with
the parameters of the client, and with its time if the time of every message fits. -/
structure InOrder (params : ClientParameters) (media : List Broadcast) (net : Streaming) :
    Prop where
  contents : (net.right.state.handled.map fun entry => entry.1.untimed) <+:
    media.map fun broadcast => broadcast.arrival.untimed
  parameters : ∀ entry ∈ net.right.state.handled, entry.2.Received params
  times : Representable publishedClock (media.map Broadcast.call) →
    net.right.state.handled.map Prod.fst <+: media.map Broadcast.arrival

structure Done (media : List Broadcast) (net : Streaming) : Prop where
  returned : net.left.prog = .ret ()
  emptied : net.toRight = [] ∧ net.toLeft = []
  contents : (net.right.state.handled.map fun entry => entry.1.untimed) =
    media.map fun broadcast => broadcast.arrival.untimed
  times : net.right.state.handled.map Prod.fst = media.map Broadcast.arrival ↔
    Representable publishedClock (media.map Broadcast.call)

end Streaming

def audioAndVideo : List Broadcast :=
  [⟨⟨.audio, 1, 23, ⟨1, 1, 3, 10, 1, [33]⟩, {}⟩, fun _ => 0⟩,
    ⟨⟨.video, 1, 23, {}, ⟨7, 1, 1, 5, [0, 0]⟩⟩, fun _ => 9⟩]

theorem audioAndVideo_valid : ∀ broadcast ∈ audioAndVideo, broadcast.Valid := by
  intro broadcast member
  simp only [audioAndVideo, List.mem_cons, List.not_mem_nil, or_false] at member
  rcases member with rfl | rfl
  · exact ⟨by decide, by decide, by decide, fun _ => ⟨by constructor <;> decide, by decide⟩,
      fun video => absurd video (by decide)⟩
  · exact ⟨by decide, by decide, by decide, fun audio => absurd audio (by decide),
      fun _ => by decide⟩

end EasyRtmp
