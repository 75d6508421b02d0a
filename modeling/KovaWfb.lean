import KovaWfb.Lib.BigEndian
import KovaWfb.Lib.FifoSet
import KovaWfb.Lib.Dedupe
import KovaWfb.Lib.Aead
import KovaWfb.Lib.Flood
import KovaWfb.Lib.Relational
import KovaWfb.Lib.Descriptors
import KovaWfb.Lib.Ring
import KovaWfb.Lib.Slots
import KovaWfb.Lib.Steps
import KovaWfb.Lib.Timer
import KovaWfb.Lib.Queue
import KovaWfb.Lib.Actions
import KovaWfb.Python.Basics
import KovaWfb.Python.Text
import KovaWfb.Python.Struct
import KovaWfb.Python.Integers
import KovaWfb.Python.Dict
import KovaWfb.AppProto.Names
import KovaWfb.AppProto.Codec
import KovaWfb.AppProto.Secure
import KovaWfb.AppProto.RoundTrip
import KovaWfb.Mesh.State
import KovaWfb.Mesh.Schedule
import KovaWfb.Mesh.LinkHealth
import KovaWfb.Mesh.Recovery
import KovaWfb.Mesh.Crypto
import KovaWfb.Python.Json
import KovaWfb.Python.Loads
import KovaWfb.Python.Dumps
import KovaWfb.Python.Html
import KovaWfb.Python.JsonRoundTrip
import KovaWfb.Python.LoadsPlain
import KovaWfb.Python.JsonSize
import KovaWfb.Python.Numbers
import KovaWfb.Python.Floats
import KovaWfb.C2.Upload
import KovaWfb.C2.Server
import KovaWfb.C2.Gateway
import KovaWfb.Mesh.Send
import KovaWfb.Mesh.Outbound
import KovaWfb.Mesh.Heartbeat
import KovaWfb.Mesh.LocalControl
import KovaWfb.Mesh.Receive
import KovaWfb.Mesh.Forward
import KovaWfb.Mesh.Run
import KovaWfb.Mesh.Windows
import KovaWfb.Mesh.Network
import KovaWfb.Mesh.FloodSafety
import KovaWfb.Mesh.FloodReach
import KovaWfb.Mesh.Replay
import KovaWfb.Mesh.Suppression
import KovaWfb.Mesh.Authenticity
import KovaWfb.Mesh.Rejection
import KovaWfb.Mesh.Sequence
import KovaWfb.Mesh.Addresses
import KovaWfb.C2.Integrity
import KovaWfb.C2.ForwardOnce
import KovaWfb.C2.Pipeline
import KovaWfb.C2.StoreReplay
import KovaWfb.C2.StoreInvariant
import KovaWfb.C2.IngestErrors
import KovaWfb.C2.ControlInput
import KovaWfb.C2.Post
import KovaWfb.C2.FailedUpload
import KovaWfb.C2.Page
import KovaWfb.C2.Listing
import KovaWfb.C2.Http
import KovaWfb.C2.Conversation
import KovaWfb.C2.Tap
import KovaWfb.Mesh.Originate
import KovaWfb.Mesh.OriginSound
import KovaWfb.Mesh.MainLoop
import KovaWfb.Mesh.MainPass
import KovaWfb.Mesh.MainRun
import KovaWfb.Mesh.MainReturns
import KovaWfb.C2.GatewayLoop
import KovaWfb.Rust.Basics
import KovaWfb.Radio.Proto
import KovaWfb.Radio.Radiotap
import KovaWfb.Radio.Rx
import KovaWfb.Radio.RxRing
import KovaWfb.Radio.Capture
import KovaWfb.Radio.Fifo
import KovaWfb.Radio.Safety
import KovaWfb.Radio.Tx
import KovaWfb.Radio.Layout
import KovaWfb.Radio.HeaderExtent
import KovaWfb.Radio.Antennas
import KovaWfb.Radio.RoundTrip
import KovaWfb.Radio.Timeout
import KovaWfb.Radio.Handles
import KovaWfb.Demo.Dashboard
import KovaWfb.Demo.Status
import KovaWfb.Demo.Observation
import KovaWfb.Demo.Threads
import KovaWfb.Demo.LossAccounting
import KovaWfb.Demo.Payload
import KovaWfb.Demo.Records
import KovaWfb.Demo.StatusTx
import KovaWfb.Demo.StatusLink
import KovaWfb.Demo.Simulation
import KovaWfb.Demo.Tidy
import KovaWfb.Demo.Snapshot
