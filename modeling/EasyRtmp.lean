import EasyRtmp.Lib.ByteCodec
import EasyRtmp.Lib.OrdMap
import EasyRtmp.Lib.GrowBuffer
import EasyRtmp.Lib.ChannelLogic
import EasyRtmp.Lib.Lockstep
import EasyRtmp.Lib.Duplex
import EasyRtmp.Lib.CursorReader
import EasyRtmp.Lib.Scan
import EasyRtmp.Lib.StreamCalls
import EasyRtmp.Lib.ByteText
import EasyRtmp.Lib.Binary64
import EasyRtmp.Framework
import EasyRtmp.Proto
import EasyRtmp.Amf
import EasyRtmp.Endpoint
import EasyRtmp.Chunk
import EasyRtmp.Halves
import EasyRtmp.Transfer
import EasyRtmp.Framing
import EasyRtmp.Conformance
import EasyRtmp.Timestamps
import EasyRtmp.Arrivals
import EasyRtmp.Reassembly
import EasyRtmp.AmfRoundTrip
import EasyRtmp.AmfBounds
import EasyRtmp.Client
import EasyRtmp.Commands
import EasyRtmp.Handshake
import EasyRtmp.CommandSafety
import EasyRtmp.Dialogue
import EasyRtmp.PacketFields
import EasyRtmp.FailedSends
import EasyRtmp.Deliveries
import EasyRtmp.ChunkSizes
import EasyRtmp.Aborts
import EasyRtmp.SenderRecords
import EasyRtmp.Truncations
import EasyRtmp.StrictArrays
import EasyRtmp.ParsedEntries
import EasyRtmp.AmfLengths
import EasyRtmp.AmfCalls
import EasyRtmp.HostOrders
import EasyRtmp.PacketLengths
import EasyRtmp.PriorContents
import EasyRtmp.Initialisation
import EasyRtmp.DataLayers
import EasyRtmp.Utils
import EasyRtmp.StartTimes
import EasyRtmp.Sentinels
import EasyRtmp.ServerRuns
import EasyRtmp.Lib.Growing
import EasyRtmp.Lib.Rounds
import EasyRtmp.Streaming
import EasyRtmp.Lib.Transport
import EasyRtmp.Calls
import EasyRtmp.ConformingSender
import EasyRtmp.Connections
import EasyRtmp.Answers
import EasyRtmp.AmfNormalForm
import EasyRtmp.Sockets
import EasyRtmp.TlsSessions
import EasyRtmp.HeldMemory
import EasyRtmp.Lib.RefCount
import EasyRtmp.Lib.StateLogic
import EasyRtmp.TlsHandles
import EasyRtmp.TlsOwnership
import EasyRtmp.TlsProcesses
import EasyRtmp.ClientScript
import EasyRtmp.Lib.Descriptors
import EasyRtmp.TcpDescriptors
import EasyRtmp.Lib.Asking
import EasyRtmp.Lib.TransportRefinement
import EasyRtmp.SocketServers
import EasyRtmp.TlsOverSockets
