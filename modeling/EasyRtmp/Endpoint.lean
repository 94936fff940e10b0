import Mathlib.Logic.Function.Basic
import EasyRtmp.Lib.ChannelLogic
import EasyRtmp.Lib.GrowBuffer
import EasyRtmp.Proto
import EasyRtmp.Amf

/-!
# `rtmp_endpoint.cpp`: chunking and reassembly

An `RTMPEndpoint` cuts messages into chunks and reassembles those of its peer.
Its methods are programs over the endpoint's fields and one byte channel, the
`DataLayer`.  `getRTMPMessage` is a loop whose pass is split where the source
computes `message_length - message_bytes_read`: `receiveChunkHeader` before,
`receiveChunkPayload` after.
-/

set_option autoImplicit false

namespace EasyRtmp

open Lib Lib.ByteCodec

/-- The enumeration is open: the receiver casts any header byte to it. -/
structure RTMPMessageType where
  value : UInt8
  deriving DecidableEq, Repr

namespace RTMPMessageType

def setChunkSize : RTMPMessageType := ⟨1⟩
def abort : RTMPMessageType := ⟨2⟩
def acknowledgement : RTMPMessageType := ⟨3⟩
def userControlMessage : RTMPMessageType := ⟨4⟩
def windowAcknowledgementSize : RTMPMessageType := ⟨5⟩
def setPeerBandwith : RTMPMessageType := ⟨6⟩
def audio : RTMPMessageType := ⟨8⟩
def video : RTMPMessageType := ⟨9⟩
def metadataAmf0 : RTMPMessageType := ⟨18⟩
def amf0 : RTMPMessageType := ⟨20⟩
def unknown : RTMPMessageType := ⟨100⟩

end RTMPMessageType

/-- One message as `GetRTMPMessage` hands it to its caller. -/
structure RTMPMessage where
  messageType : RTMPMessageType
  messageStreamId : Nat
  messageLength : Nat
  chunkStreamId : UInt8
  timestamp : Nat
  data : Bytes
  deriving DecidableEq, Repr

structure ChunkStream where
  messageLength : Nat := 0
  messageBytesRead : Nat := 0
  messageType : RTMPMessageType := .unknown
  messageStreamId : Nat := 2 ^ 32 - 1
  timestamp : Nat := 2 ^ 64 - 1
  timestampDelta : Nat := 0
  chunksBuffer : GrowBuffer := .ofSize 0

structure RTMPEndpoint where
  maxMessageSize : Nat := 512000
  chunkSizeSend : Nat := 128
  chunkSizeReceive : Nat := 128
  chunkStreamsInput : UInt8 → Option ChunkStream := fun _ => none
  chunkStreamsOutput : UInt8 → Option ChunkStream := fun _ => none

namespace RTMPEndpoint

def setInput (endpoint : RTMPEndpoint) (id : UInt8) (cs : ChunkStream) : RTMPEndpoint :=
  { endpoint with
    chunkStreamsInput := Function.update endpoint.chunkStreamsInput id (some cs) }

def setOutput (endpoint : RTMPEndpoint) (id : UInt8) (cs : ChunkStream) : RTMPEndpoint :=
  { endpoint with
    chunkStreamsOutput := Function.update endpoint.chunkStreamsOutput id (some cs) }

/-- The record `GetChunkStreamInput` finds or creates. -/
def inputStream (endpoint : RTMPEndpoint) (id : UInt8) : ChunkStream :=
  (endpoint.chunkStreamsInput id).getD { chunksBuffer := .ofSize endpoint.maxMessageSize }

/-- The record `m_ChunkStreamsOutput[id]` finds or creates. -/
def outputStream (endpoint : RTMPEndpoint) (id : UInt8) : ChunkStream :=
  (endpoint.chunkStreamsOutput id).getD {}

end RTMPEndpoint

abbrev EndpointProg := Prog RTMPEndpoint Stop

/-- `size_t` subtraction. -/
def subSize (left right : Nat) : Nat := (left + 2 ^ 64 - right) % 2 ^ 64

/-! ## The data layer -/

/-- `DataLayer::receive_data(int len)`: a negative length overflows `resize`. -/
def receiveData (len : Int) : EndpointProg Bytes :=
  if len < 0 then .fail .lengthError else Prog.recvBytes len.toNat

def receiveSerializable {α : Type} (getLength : Nat) (parseRef : Reader Stop α) :
    EndpointProg α := do
  let data ← receiveData getLength
  Prog.ofExcept (parseBuffer parseRef data)

/-! ## Receiving -/

namespace ChunkStream

/-- A full header.  The delta is `uint32_t - uint64_t`, cut to 32 bits. -/
def applyHeader0 (cs : ChunkStream) (header : ChunkMessageHeader0) : ChunkStream :=
  { cs with
    timestampDelta :=
      if cs.messageBytesRead = 0 then subSize header.timestamp cs.timestamp % 2 ^ 32
      else cs.timestampDelta
    timestamp := header.timestamp
    messageLength := header.messageLength
    messageType := ⟨header.messageTypeId⟩
    messageStreamId := header.messageStreamId }

/-- The time of a new message under headers 1 and 2. -/
def applyDelta (cs : ChunkStream) (timestampDelta : Nat) : ChunkStream :=
  if cs.messageBytesRead = 0 then
    { cs with
      timestampDelta := timestampDelta
      timestamp := (cs.timestamp + timestampDelta) % 2 ^ 64 }
  else cs

def applyHeader1 (cs : ChunkStream) (header : ChunkMessageHeader1) : ChunkStream :=
  { cs.applyDelta header.timestampDelta with
    messageLength := header.messageLength
    messageType := ⟨header.messageTypeId⟩ }

def applyHeader2 (cs : ChunkStream) (header : ChunkMessageHeader2) : ChunkStream :=
  cs.applyDelta header.timestampDelta

def applyHeader3 (cs : ChunkStream) : ChunkStream := cs.applyDelta cs.timestampDelta

end ChunkStream

/-- Reads the message header of a chunk and updates the stream's record. -/
def receiveMessageHeader (fmt : Nat) (cs : ChunkStream) : EndpointProg ChunkStream :=
  match fmt with
  | 0 => do
      let header ← receiveSerializable ChunkMessageHeader0.getLength ChunkMessageHeader0.parseRef
      pure (cs.applyHeader0 header)
  | 1 => do
      let header ← receiveSerializable ChunkMessageHeader1.getLength ChunkMessageHeader1.parseRef
      pure (cs.applyHeader1 header)
  | 2 => do
      let header ← receiveSerializable ChunkMessageHeader2.getLength ChunkMessageHeader2.parseRef
      pure (cs.applyHeader2 header)
  | _ => pure cs.applyHeader3

/-- The resize test, on the one maximum that all chunk streams share. -/
def RTMPEndpoint.storeHeader (endpoint : RTMPEndpoint) (id : UInt8) (cs : ChunkStream) :
    RTMPEndpoint :=
  if endpoint.maxMessageSize < cs.messageLength then
    { endpoint.setInput id { cs with chunksBuffer := cs.chunksBuffer.resize cs.messageLength } with
      maxMessageSize := cs.messageLength }
  else endpoint.setInput id cs

def receiveChunkHeader : EndpointProg UInt8 := do
  let basicHeader ← receiveSerializable ChunkBasicHeader.getLength ChunkBasicHeader.parseRef
  let chunkStreamId := UInt8.ofNat basicHeader.csId
  Prog.modifyState fun endpoint =>
    endpoint.setInput chunkStreamId (endpoint.inputStream chunkStreamId)
  let endpoint ← Prog.getState
  let cs ← receiveMessageHeader basicHeader.fmt (endpoint.inputStream chunkStreamId)
  Prog.modifyState fun endpoint => endpoint.storeHeader chunkStreamId cs
  pure chunkStreamId

/-- `message_length - message_bytes_read`, cut to the chunk size. -/
def toReceiveBytes (cs : ChunkStream) (chunkSizeReceive : Nat) : Nat :=
  min (subSize cs.messageLength cs.messageBytesRead) chunkSizeReceive

def receiveChunkPayload (chunkStreamId : UInt8) : EndpointProg (Unit ⊕ RTMPMessage) := do
  let endpoint ← Prog.getState
  let cs := endpoint.inputStream chunkStreamId
  let toReceive := toReceiveBytes cs endpoint.chunkSizeReceive
  let recData ← receiveData (toInt toReceive)
  match cs.chunksBuffer.write? cs.messageBytesRead recData with
  | none => .fail .outOfBounds
  | some buffer =>
      let cs := { cs with
        chunksBuffer := buffer
        messageBytesRead := cs.messageBytesRead + toReceive }
      if cs.messageBytesRead = cs.messageLength then do
        Prog.modifyState fun endpoint =>
          endpoint.setInput chunkStreamId { cs with messageBytesRead := 0 }
        match buffer.read? cs.messageLength with
        | none => .fail .outOfBounds
        | some data =>
            pure (.inr ⟨cs.messageType, cs.messageStreamId, cs.messageLength, chunkStreamId,
              cs.timestamp, data⟩)
      else do
        Prog.modifyState fun endpoint => endpoint.setInput chunkStreamId cs
        pure (.inl ())

/-- One pass of the loop of `GetRTMPMessage`. -/
def receiveChunk : EndpointProg (Unit ⊕ RTMPMessage) := do
  let chunkStreamId ← receiveChunkHeader
  receiveChunkPayload chunkStreamId

def getRTMPMessage : EndpointProg RTMPMessage := Prog.repeatUntil (fun _ => receiveChunk) ()

/-! The same loop, where a new record of `m_ChunkStreamsInput` starts from other values. -/

structure Sentinels where
  timestamp : UInt64 := 0xffffffffffffffff
  timestampDelta : UInt32 := 0
  messageType : RTMPMessageType := .unknown
  messageStreamId : UInt32 := 0xffffffff

def RTMPEndpoint.inputStreamFrom (sentinels : Sentinels) (endpoint : RTMPEndpoint) (id : UInt8) :
    ChunkStream :=
  (endpoint.chunkStreamsInput id).getD
    { messageType := sentinels.messageType
      messageStreamId := sentinels.messageStreamId.toNat
      timestamp := sentinels.timestamp.toNat
      timestampDelta := sentinels.timestampDelta.toNat
      chunksBuffer := .ofSize endpoint.maxMessageSize }

def receiveChunkHeaderFrom (sentinels : Sentinels) : EndpointProg UInt8 := do
  let basicHeader ← receiveSerializable ChunkBasicHeader.getLength ChunkBasicHeader.parseRef
  let chunkStreamId := UInt8.ofNat basicHeader.csId
  Prog.modifyState fun endpoint =>
    endpoint.setInput chunkStreamId (endpoint.inputStreamFrom sentinels chunkStreamId)
  let endpoint ← Prog.getState
  let cs ← receiveMessageHeader basicHeader.fmt (endpoint.inputStream chunkStreamId)
  Prog.modifyState fun endpoint => endpoint.storeHeader chunkStreamId cs
  pure chunkStreamId

def receiveChunkFrom (sentinels : Sentinels) : EndpointProg (Unit ⊕ RTMPMessage) := do
  let chunkStreamId ← receiveChunkHeaderFrom sentinels
  receiveChunkPayload chunkStreamId

def getRTMPMessageFrom (sentinels : Sentinels) : EndpointProg RTMPMessage :=
  Prog.repeatUntil (fun _ => receiveChunkFrom sentinels) ()

theorem inputStreamFrom_default (endpoint : RTMPEndpoint) (id : UInt8) :
    endpoint.inputStreamFrom {} id = endpoint.inputStream id := by
  have time : (0xffffffffffffffff : UInt64).toNat = 2 ^ 64 - 1 := by decide
  have stream : (0xffffffff : UInt32).toNat = 2 ^ 32 - 1 := by decide
  rw [RTMPEndpoint.inputStreamFrom, time, stream]
  rfl

theorem receiveChunkHeaderFrom_default : receiveChunkHeaderFrom {} = receiveChunkHeader := by
  simp only [receiveChunkHeaderFrom, inputStreamFrom_default]
  rfl

theorem getRTMPMessageFrom_default : getRTMPMessageFrom {} = getRTMPMessage := by
  simp only [getRTMPMessageFrom, receiveChunkFrom, receiveChunkHeaderFrom_default]
  rfl

def handleMessage (message : RTMPMessage) : EndpointProg Unit :=
  if message.messageType = .setChunkSize then do
    let scz ← Prog.ofExcept (parseBuffer SetChunkSize.parseRef message.data)
    Prog.modifyState fun endpoint => { endpoint with chunkSizeReceive := scz.chunkSize }
  else if message.messageType = .abort then do
    let endpoint ← Prog.getState
    match endpoint.chunkStreamsInput message.chunkStreamId with
    | none => .fail .outOfRange
    | some cs => Prog.putState (endpoint.setInput message.chunkStreamId
        { cs with messageBytesRead := 0 })
  else if message.messageType = .windowAcknowledgementSize then do
    let _ ← Prog.ofExcept (parseBuffer WindowsAcknowledgementSize.parseRef message.data)
    pure ()
  else if message.messageType = .setPeerBandwith then do
    let _ ← Prog.ofExcept (parseBuffer SetPeerBandwith.parseRef message.data)
    pure ()
  else pure ()

/-! ## Sending -/

/-- The header of a chunk, chosen from the stream's record: `size` is the
payload's length and `bytesSent` what of it has been sent. -/
def sendChunkHeader (cs : ChunkStream) (chunkStreamId : UInt8) (messageStreamId : Nat)
    (messageType : RTMPMessageType) (timestamp size bytesSent : Nat) : EndpointProg Unit :=
  if bytesSent ≠ 0 then
    Prog.sendBytes (ChunkBasicHeader.mk chunkStreamId.toNat 3).serialize
  else if cs.messageLength = size ∧ cs.messageType = messageType ∧
      cs.messageStreamId = messageStreamId ∧ cs.timestamp ≤ timestamp then do
    Prog.sendBytes (ChunkBasicHeader.mk chunkStreamId.toNat 2).serialize
    Prog.sendBytes (ChunkMessageHeader2.mk (timestamp - cs.timestamp)).serialize
  else if cs.messageStreamId = messageStreamId ∧ cs.timestamp ≤ timestamp then do
    Prog.sendBytes (ChunkBasicHeader.mk chunkStreamId.toNat 1).serialize
    Prog.sendBytes (ChunkMessageHeader1.mk (timestamp - cs.timestamp) size
      messageType.value).serialize
  else do
    Prog.sendBytes (ChunkBasicHeader.mk chunkStreamId.toNat 0).serialize
    Prog.sendBytes (ChunkMessageHeader0.mk timestamp size messageType.value
      messageStreamId).serialize

/-- One pass of the loop of `SendRTMPMessage`. -/
def sendChunk (bb : Bytes) (chunkStreamId : UInt8) (messageStreamId : Nat)
    (messageType : RTMPMessageType) (timestamp bytesSent : Nat) : EndpointProg (Nat ⊕ Unit) :=
  if bytesSent = bb.length then pure (.inr ())
  else do
    let endpoint ← Prog.getState
    sendChunkHeader (endpoint.outputStream chunkStreamId) chunkStreamId messageStreamId
      messageType timestamp bb.length bytesSent
    let bytesToSend := min endpoint.chunkSizeSend (bb.length - bytesSent)
    Prog.sendBytes ((bb.drop bytesSent).take bytesToSend)
    pure (.inl (bytesSent + bytesToSend))

def sendRTMPMessage (data : Serializable) (chunkStreamId : UInt8) (messageStreamId : Nat)
    (messageType : RTMPMessageType) (timestamp : Nat) : EndpointProg Unit := do
  let bb ← Prog.ofExcept data.serializeToBuffer
  Prog.modifyState fun endpoint =>
    endpoint.setOutput chunkStreamId (endpoint.outputStream chunkStreamId)
  Prog.repeatUntil (sendChunk bb chunkStreamId messageStreamId messageType timestamp) 0
  Prog.modifyState fun endpoint =>
    endpoint.setOutput chunkStreamId { endpoint.outputStream chunkStreamId with
      timestamp := timestamp
      messageLength := bb.length
      messageType := messageType
      messageStreamId := messageStreamId }

def sendControlMessage (data : Serializable) (messageType : RTMPMessageType) : EndpointProg Unit :=
  sendRTMPMessage data 2 0 messageType 0

def sendUserControlMessage (data : Serializable) : EndpointProg Unit :=
  sendControlMessage data .userControlMessage

def sendWindowsAcknowledgementSize (ackSize : Nat) : EndpointProg Unit :=
  sendControlMessage (WindowsAcknowledgementSize.mk ackSize).toSerializable
    .windowAcknowledgementSize

def sendSetPeerBandwith (bandwith : Nat) : EndpointProg Unit :=
  sendControlMessage (SetPeerBandwith.mk bandwith 2).toSerializable .setPeerBandwith

def sendCommand (data : AMFValue) (chunkStreamId : UInt8) (messageStreamId : Nat)
    (messageType : RTMPMessageType) : EndpointProg Unit :=
  sendRTMPMessage data.toSerializable chunkStreamId messageStreamId messageType 0

def changeChunkSizeOutput (chunkSize : Nat) : EndpointProg Unit := do
  sendControlMessage (SetChunkSize.mk chunkSize).toSerializable .setChunkSize
  Prog.modifyState fun endpoint => { endpoint with chunkSizeSend := chunkSize }

end EasyRtmp
