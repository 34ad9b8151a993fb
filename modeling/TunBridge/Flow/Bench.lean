import TunBridge.Flow.Channel
import TunBridge.Flow.Conn
import TunBridge.Flow.MemStack
import TunBridge.Config.Basic
import TunBridge.Net.UdpHeader
import TunBridge.Link.Packet
/-!
The flow adapter on an in-memory stack, driven one event at a time. A SYN gets an endpoint or a
reset; a live endpoint becomes a connection for the TCP consumer and any other is closed. A
datagram is counted as malformed or becomes a packet for the UDP consumer. A refused hand-off
drops what was offered, and a refused step changes nothing.
-/
namespace TunBridge

structure Bench where
  handoff : Handoff
  stack : MemStack := {}
  endpoints : List TcpEndpoint := []
  tcp : Channel InboundConn
  udp : Channel InboundPacket
  conns : List (Option Conn) := []
  packets : List (Option Datagram) := []
  /-- The malformed count the bench read when it let go of the stack. -/
  lastMalformed : UInt64 := 0

inductive BenchStep where
  | syn (flow : FlowId) (offered : Option EndpointSpec) (failure : String)
  | recvTcp
  | tcpRead (conn len : Nat)
  | tcpWrite (conn : Nat) (data : List UInt8)
  | tcpFlush (conn : Nat)
  | tcpClose (conn : Nat)
  | tcpInfo (conn : Nat)
  | tcpDrop (conn : Nat)
  | endpoints
  | datagram (flow : FlowId) (p : PacketBuffer)
  | recvUdp
  | udpWriteBack (packet : Nat) (data : List UInt8) (source : Option SocketAddr)
  | udpDrop (packet : Nat)
  | sent
  | malformed
  | stackClose
  | stackFailSend (e : Option StackError)
  | dropStack
  | dropTcpConsumer
  | dropUdpConsumer

inductive BenchReply where
  /-- The endpoint's number, if one was made, and the request's completions (`true`: reset). -/
  | syn (endpoint : Option Nat) (completions : List Bool)
  | nothing
  | conn (index : Nat) (target : Target) (endpoint : TcpEndpoint)
  | info (endpoint : TcpEndpoint)
  | bytes (data : List UInt8)
  | count (n : Nat)
  | io (e : IoError)
  | done
  | state (s : TcpState)
  | flag (b : Bool)
  | endpoints (es : List TcpEndpoint)
  | handled (accepted : Bool) (malformed : Nat)
  | packet (index : Nat) (item : InboundPacket)
  | stackError (e : StackError)
  | sent (records : List Sent)
  | alive (b : Bool)
  | refused (reason : String)

namespace Bench

/-- A bench for a configuration. A capacity only makes sense with non-blocking hand-off: a
blocking send into a full channel would never return. -/
def create (config : TunConfig) (tcpCapacity udpCapacity : Option Nat) : Except String Bench :=
  match config.handoff, tcpCapacity, udpCapacity with
  | .block, none, none => .ok { handoff := .block, tcp := {}, udp := {} }
  | .block, _, _ => .error "capacities only apply to drop_newest"
  | .dropNewest, t, u => .ok { handoff := .dropNewest, tcp := { capacity := t }, udp := { capacity := u } }

/-- The stack lives while the bench holds it or a packet, queued or received, still does. -/
def alive (b : Bench) : Bool :=
  b.stack.held || !b.udp.queue.isEmpty || b.packets.any Option.isSome

/-- The malformed count as the bench sees it: the stack's own while the stack lives, else the
count read when the bench let go of it. -/
def malformedSeen (b : Bench) : UInt64 := if b.alive then b.stack.malformed else b.lastMalformed

def warn (e : TunError) : String := "WARN: " ++ e.message

def closeEndpoint (b : Bench) (k : Nat) : Bench :=
  { b with endpoints := b.endpoints.modify k TcpEndpoint.close }

def release (b : Bench) (c : Conn) : Bench := if c.closed then b else b.closeEndpoint c.endpoint

def releaseAll (b : Bench) (cs : List Conn) : Bench := cs.foldl release b

/-- Handles one SYN: the bench after, the request's completions (`true`: answered with a
reset), the number of the endpoint made for it, if any, and `ok` exactly when a connected
endpoint was handed on, whether or not the consumer took it. -/
def handleRequest (b : Bench) (flow : FlowId) (offered : Option EndpointSpec) (failure : String) :
    Bench × List Bool × Option Nat × Except TunError Unit :=
  match offered with
  | none =>
    (b, [true], none, .error (.handshakeRejected ("can't create tcp endpoint for " ++
      flow.remoteAddr.render ++ " -> " ++ flow.localAddr.render ++ ": " ++
      (StackError.endpointCreation failure).message)))
  | some spec =>
    let e := spec.build flow
    let k := b.endpoints.length
    let b := { b with endpoints := b.endpoints ++ [e] }
    if e.remote?.isNone || e.state.isClosed then
      (b.closeEndpoint k, [false], some k, .error (.handshakeRejected ("tcp endpoint for " ++
        flow.localAddr.render ++ " is not connected, current state: " ++ e.state.text)))
    else
      match b.tcp.handOff b.handoff ⟨Target.ofFlow e.flow, ⟨k, false⟩⟩ with
      | (ch, true) => ({ b with tcp := ch }, [false], some k, .ok ())
      | (_, false) => (b.closeEndpoint k, [false], some k, .ok ())

def liveConn (b : Bench) (i : Nat) : Except String (Conn × TcpEndpoint) :=
  match b.conns[i]? with
  | none => .error "no such connection"
  | some none => .error "no such connection"
  | some (some c) =>
    match b.endpoints[c.endpoint]? with
    | none => .error "no such endpoint"
    | some e => .ok (c, e)

def livePacket (b : Bench) (i : Nat) : Except String Datagram :=
  match b.packets[i]? with
  | none => .error "no such packet"
  | some none => .error "no such packet"
  | some (some p) => .ok p

/-- Handles one datagram of a live stack. A datagram whose header is shorter than 8 bytes, or
declares more than it carries, is counted as malformed and reported; any other is handed on as
a packet of its payload, addressed to its flow's local side. -/
def handleDatagram (b : Bench) (flow : FlowId) (p : PacketBuffer) : Bench × Except TunError Unit :=
  let malformed (declared : Nat) : Bench × Except TunError Unit :=
    ({ b with stack.malformed := b.stack.malformed + 1 },
      .error (.malformedPacket declared (p.data.length + p.header.length)))
  match UdpHeader.ofBytes? p.header with
  | some h =>
    if h.fitsPayload p.data.length then
      let item := InboundPacket.new (Target.ofFlow flow) ⟨flow, p.data⟩
      ({ b with udp := (b.udp.handOff b.handoff item).1 }, .ok ())
    else malformed h.length.toNat
  | none => malformed 0

/-- The UDP handler the adapter installs: once the stack is gone it does nothing; it always
answers that it handled the datagram. -/
def udpHandler (b : Bench) (flow : FlowId) (p : PacketBuffer) : Bench × Bool :=
  if b.alive then ((b.handleDatagram flow p).1, true) else (b, true)

def withConn (b : Bench) (i : Nat) (f : Conn → TcpEndpoint → Bench × BenchReply) :
    Bench × BenchReply × List String :=
  match b.liveConn i with
  | .error r => (b, .refused r, [])
  | .ok (c, e) => let (b, r) := f c e; (b, r, [])

def step (b : Bench) : BenchStep → Bench × BenchReply × List String
  | .syn flow offered failure =>
    let (b, completions, endpoint, result) := b.handleRequest flow offered failure
    (b, .syn endpoint completions, match result with
      | .ok () => []
      | .error e => [warn e])
  | .recvTcp =>
    if !b.tcp.listening then (b, .refused "tcp consumer dropped", []) else
    match b.tcp.take with
    | (none, _) => (b, .nothing, [])
    | (some item, ch) =>
      match b.endpoints[item.conn.endpoint]? with
      | none => (b, .refused "no such endpoint", [])
      | some e =>
        let i := b.conns.length
        ({ b with tcp := ch, conns := b.conns ++ [some item.conn] }, .conn i item.target e, [])
  | .tcpRead i len => b.withConn i fun c e =>
    let (data, e) := e.read len
    ({ b with endpoints := b.endpoints.set c.endpoint e }, .bytes data)
  | .tcpWrite i data => b.withConn i fun c e =>
    match e.write data with
    | .ok (n, e) => ({ b with endpoints := b.endpoints.set c.endpoint e }, .count n)
    | .error err => (b, .io err)
  | .tcpFlush i => b.withConn i fun _ _ => (b, .done)
  | .tcpClose i => b.withConn i fun c e =>
    if c.closed then (b, .state e.state)
    else ({ b.closeEndpoint c.endpoint with conns := b.conns.set i (some { c with closed := true }) },
      .state .closed)
  | .tcpInfo i => b.withConn i fun _ e => (b, .info e)
  | .tcpDrop i =>
    match b.conns[i]? with
    | none => (b, .refused "no such connection", [])
    | some none => (b, .flag false, [])
    | some (some c) => ({ b.release c with conns := b.conns.set i none }, .flag true, [])
  | .endpoints => (b, .endpoints b.endpoints, [])
  | .datagram flow p =>
    let (b, handled) := b.udpHandler flow p
    (b, .handled handled b.malformedSeen.toNat, [])
  | .recvUdp =>
    if !b.udp.listening then (b, .refused "udp consumer dropped", []) else
    match b.udp.take with
    | (none, _) => (b, .nothing, [])
    | (some item, ch) =>
      let i := b.packets.length
      ({ b with udp := ch, packets := b.packets ++ [some item.packet] }, .packet i item, [])
  | .udpWriteBack i data source =>
    match b.livePacket i with
    | .error r => (b, .refused r, [])
    | .ok p =>
      match p.writeBack b.stack data source with
      | .ok (n, s) => ({ b with stack := s }, .count n, [])
      | .error e => (b, .stackError e, [])
  | .udpDrop i =>
    match b.packets[i]? with
    | none => (b, .refused "no such packet", [])
    | some none => (b, .flag false, [])
    | some (some _) => ({ b with packets := b.packets.set i none }, .flag true, [])
  | .sent => (b, .sent b.stack.sent, [])
  | .malformed => (b, .count b.malformedSeen.toNat, [])
  | .stackClose => ({ b with stack.closed := true }, .done, [])
  | .stackFailSend e => ({ b with stack.sendError := e }, .done, [])
  | .dropStack =>
    let b := if b.stack.held then { b with stack.held := false, lastMalformed := b.stack.malformed } else b
    (b, .alive b.alive, [])
  | .dropTcpConsumer =>
    if !b.tcp.listening then (b, .refused "tcp consumer dropped", []) else
    let (items, ch) := b.tcp.hangUp
    ({ b.releaseAll (items.map (·.conn)) with tcp := ch }, .count items.length, [])
  | .dropUdpConsumer =>
    if !b.udp.listening then (b, .refused "udp consumer dropped", []) else
    let (items, ch) := b.udp.hangUp
    ({ b with udp := ch }, .count items.length, [])

def run (b : Bench) : List BenchStep → List (BenchReply × List String)
  | [] => []
  | s :: ss => let (b, r, log) := b.step s; (r, log) :: run b ss

end Bench

end TunBridge
