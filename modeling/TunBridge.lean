import TunBridge.Text.Hex
import TunBridge.Text.Decimal
import TunBridge.Text.Shortest
import TunBridge.Net.ByteOrder
import TunBridge.Net.Ipv4
import TunBridge.Net.Ipv6
import TunBridge.Net.SocketAddr
import TunBridge.Net.Frame
import TunBridge.Net.TcpState
import TunBridge.Net.UdpHeader
import TunBridge.Proofs.Net.UdpCodec
import TunBridge.Unicode.Table
import TunBridge.Unicode.Category
import TunBridge.Unicode.Bidi
import TunBridge.Unicode.Joining
import TunBridge.Unicode.CombiningClass
import TunBridge.Unicode.Decomposition
import TunBridge.Unicode.Normalization
import TunBridge.Unicode.IdnaMapping
import TunBridge.Url.Punycode
import TunBridge.Url.Domain
import TunBridge.Url.Host
import TunBridge.Url.Parse
import TunBridge.Url.Query
import TunBridge.Error
import TunBridge.Device.Spec
import TunBridge.Device.Open
import TunBridge.Json.Error
import TunBridge.Json.Cursor
import TunBridge.Json.Number
import TunBridge.Json.Value
import TunBridge.Config.Basic
import TunBridge.Config.Text
import TunBridge.Config.Value
import TunBridge.Link.Packet
import TunBridge.Flow.Target
import TunBridge.Link.Endpoint
import TunBridge.Link.Probe
import TunBridge.Net.FlowId
import TunBridge.Flow.Channel
import TunBridge.Flow.Conn
import TunBridge.Flow.MemStack
import TunBridge.Flow.Bench
import TunBridge.Kernel.Tun
import TunBridge.Device.Basic
import TunBridge.Proofs.Device.Specification
import TunBridge.Stack.Record
import TunBridge.Adapter.Wiring
import TunBridge.Host.Basic
import TunBridge.Proofs.Device.Opening
import TunBridge.Host.Step
import TunBridge.Link.ReadLoop
import TunBridge.Proofs.Endpoint.Ledger
import TunBridge.Link.Outbound
import TunBridge.Proofs.Endpoint.Outbound
import TunBridge.Device.Threads
import TunBridge.Proofs.Device.Run
import TunBridge.Proofs.Device.Close
import TunBridge.Proofs.Device.ReadThread
import TunBridge.Proofs.Flow.Datagram
import TunBridge.Proofs.Flow.Direction
import TunBridge.Proofs.Adapter.WiringTrace
import TunBridge.Adapter.Teardown
import TunBridge.Proofs.Adapter.Teardown
import TunBridge.Proofs.Flow.TargetFormat
import TunBridge.Proofs.Flow.Accept
import TunBridge.Proofs.Link.Inbound
import TunBridge.Proofs.Device.Registry
