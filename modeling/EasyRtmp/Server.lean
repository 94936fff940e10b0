import EasyRtmp.Framing
import EasyRtmp.Conformance
import EasyRtmp.Metadata

/-!
# `rtmp_server_session.cpp`: accepting a stream

`GetRTMPMessage` returns the media messages and passes the others on, AMF
messages to `HandleAMF`.  The head of a command is its name and, if there is one,
its transaction id; `readCommand` leaves the iterator behind them.
-/

set_option autoImplicit false

namespace EasyRtmp

open Lib Lib.ByteCodec

structure RTMPMediaMessage where
  messageType : RTMPMessageType := .unknown
  messageStreamId : Nat := 0
  timestamp : Nat := 0
  audio : AudioPacketAAC := {}
  video : VideoPacket := {}
  deriving DecidableEq, Repr

structure RTMPServerSession where
  endpoint : RTMPEndpoint := {}
  clientParameters : ClientParameters := {}

abbrev ServerProg := Prog RTMPServerSession Stop

/-! ## The answers -/

def connectResult : List AMFValue :=
  [.object (AMFValue.assigned
      [(ascii "fmsVer", .string (ascii "FMS/3,5,3,824")),
        (ascii "capabilities", .ofInt 127),
        (ascii "mode", .ofInt 1)]),
    .object (AMFValue.assigned
      [(ascii "level", .string (ascii "status")),
        (ascii "code", .string (ascii "NetConnection.Connect.Success")),
        (ascii "description", .string (ascii "Connection succeeded.")),
        (ascii "objectEncoding", .ofInt 0),
        (ascii "data", .ecmaArray (AMFValue.assigned
          [(ascii "version", .string (ascii "3,5,3,824"))]))])]

def createStreamResult : List AMFValue := [.nul, .ofInt 1]

/-- The container that `SendAMFResult` sends. -/
def amfResult (data : List AMFValue) (id : Int32) : AMFValue :=
  .root ([.string (ascii "_result"), .ofInt id.toInt] ++ data)

def publishStatus (cmdId : Int32) : AMFValue :=
  .root [.string (ascii "onStatus"), .ofInt cmdId.toInt, .nul,
    .object (AMFValue.assigned
      [(ascii "level", .string (ascii "status")),
        (ascii "code", .string (ascii "NetStream.Publish.Start"))])]

/-! ## Commands -/

structure Command where
  cmdName : Bytes
  cmdId : Int32
  it : List AMFValue

def readCommand (data : AMFValue) : Except Stop Command := do
  let it ← data.begin
  let first ← AMFValue.deref it
  let cmdName ← first.getString
  let it ← AMFValue.next it
  let second ← AMFValue.deref it
  if second.type = .number then
    let cmdId ← second.getNumber
    let it ← AMFValue.next it
    pure ⟨cmdName, doubleToInt cmdId, it⟩
  else pure ⟨cmdName, 0, it⟩

/-- The `app` of the object that `connect` carries. -/
def readApp (it : List AMFValue) : Except Stop Bytes := do
  let conObj ← AMFValue.deref it
  let app ← conObj.atKey (ascii "app")
  app.getString

/-- The stream key of `publish`, behind one more value. -/
def readKey (it : List AMFValue) : Except Stop Bytes := do
  let it ← AMFValue.next it
  let key ← AMFValue.deref it
  key.getString

/-- The command inside a `@setDataFrame`. -/
def readDataFrame (it : List AMFValue) : Except Stop (Bytes × List AMFValue) := do
  let value ← AMFValue.deref it
  let cmdName ← value.getString
  let it ← AMFValue.next it
  pure (cmdName, it)

namespace RTMPServerSession

def endpointLens : Lens RTMPServerSession RTMPEndpoint where
  view session := session.endpoint
  update endpoint session := { session with endpoint := endpoint }
  view_update _ _ := rfl
  update_update _ _ _ := rfl
  update_view _ := rfl

/-- A call on `m_Endpoint`. -/
def onEndpoint {α : Type} (program : EndpointProg α) : ServerProg α :=
  program.zoom endpointLens

def modifyParameters (change : ClientParameters → ClientParameters) : ServerProg Unit :=
  Prog.modifyState fun session =>
    { session with clientParameters := change session.clientParameters }

def sendAMFResult (data : List AMFValue) (id : Int32) : ServerProg Unit :=
  onEndpoint (sendCommand (amfResult data id) 3 0 .amf0)

def handleConnect (cmdId : Int32) (it : List AMFValue) : ServerProg Unit := do
  let app ← Prog.ofExcept (readApp it)
  modifyParameters fun params => { params with app := app }
  onEndpoint (sendWindowsAcknowledgementSize 2500000)
  onEndpoint (sendSetPeerBandwith 10000000)
  onEndpoint (sendUserControlMessage (UCMStreamBegin.mk 0 0).toSerializable)
  sendAMFResult connectResult cmdId

def handlePublish (cmdId : Int32) (it : List AMFValue) : ServerProg Unit := do
  let key ← Prog.ofExcept (readKey it)
  modifyParameters fun params => { params with key := key }
  onEndpoint (sendCommand (publishStatus cmdId) 3 1 .amf0)

def handleMetadata (cmdName : Bytes) (it : List AMFValue) : ServerProg Unit :=
  if cmdName = ascii "onMetaData" then do
    let obj ← Prog.ofExcept (AMFValue.deref it)
    let session ← Prog.getState
    let (outcome, params) := applyMetadata obj session.clientParameters
    Prog.putState { session with clientParameters := params }
    Prog.ofExcept outcome
  else pure ()

def handleAMF (data : AMFValue) : ServerProg Unit := do
  let ⟨cmdName, cmdId, it⟩ ← Prog.ofExcept (readCommand data)
  if cmdName = ascii "connect" then handleConnect cmdId it
  else if cmdName = ascii "createStream" then sendAMFResult createStreamResult cmdId
  else if cmdName = ascii "publish" then handlePublish cmdId it
  else if cmdName = ascii "@setDataFrame" then do
    let (cmdName, it) ← Prog.ofExcept (readDataFrame it)
    handleMetadata cmdName it
  else handleMetadata cmdName it

/-- One pass of the loop of `GetRTMPMessage`. -/
def serverPass : ServerProg (Unit ⊕ RTMPMediaMessage) := do
  let message ← onEndpoint getRTMPMessage
  if message.messageType = .amf0 ∨ message.messageType = .metadataAmf0 then do
    let root ← Prog.ofExcept (parseBuffer (AMFValue.parseRoot []) message.data)
    handleAMF root
    pure (.inl ())
  else if message.messageType = .audio then do
    let audio ← Prog.ofExcept (parseBuffer AudioPacketAAC.parseRef message.data)
    pure (.inr ⟨message.messageType, message.messageStreamId, message.timestamp, audio, {}⟩)
  else if message.messageType = .video then do
    let video ← Prog.ofExcept (parseBuffer VideoPacket.parseRef message.data)
    pure (.inr ⟨message.messageType, message.messageStreamId, message.timestamp, {}, video⟩)
  else do
    onEndpoint (handleMessage message)
    pure (.inl ())

def getRTMPMessage : ServerProg RTMPMediaMessage := Prog.repeatUntil (fun _ => serverPass) ()

end RTMPServerSession

end EasyRtmp
