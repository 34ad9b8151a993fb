import TunBridge.Net.FlowId
import TunBridge.Net.TcpState
import TunBridge.Flow.Target
import TunBridge.Error
/-!
What the adapter hands its consumers. A TCP connection wraps an endpoint that the stack
accepted; closing the connection closes the endpoint, once, and dropping it closes it too. A
UDP packet is one datagram's payload with the flow it arrived on. Each travels inside an
inbound item that carries the target the consumer should reach: the flow's local side.
-/
namespace TunBridge

/-- An accepted TCP endpoint in memory: bytes waiting to be read, bytes written, and how often
it was closed. -/
structure TcpEndpoint where
  flow : FlowId
  connected : Bool := true
  reported : TcpState := .established
  closed : Bool := false
  closeCalls : Nat := 0
  incoming : List UInt8 := []
  written : List UInt8 := []
  deriving DecidableEq, Repr

namespace TcpEndpoint

def remote? (e : TcpEndpoint) : Option SocketAddr :=
  if e.connected then some e.flow.remoteAddr else none

/-- A closed endpoint reports `Closed`, whatever state it reported before. -/
def state (e : TcpEndpoint) : TcpState := if e.closed then .closed else e.reported

def close (e : TcpEndpoint) : TcpEndpoint := { e with closed := true, closeCalls := e.closeCalls + 1 }

def read (e : TcpEndpoint) (len : Nat) : List UInt8 × TcpEndpoint :=
  (e.incoming.take len, { e with incoming := e.incoming.drop len })

def brokenPipe : IoError := .custom .brokenPipe "broken pipe"

def write (e : TcpEndpoint) (data : List UInt8) : Except IoError (Nat × TcpEndpoint) :=
  if e.closed then .error brokenPipe else .ok (data.length, { e with written := e.written ++ data })

def describe (e : TcpEndpoint) : String :=
  "TunTcpConn \x7b local: " ++ e.flow.localAddr.render ++ ", remote: " ++ e.flow.remoteAddr.render ++
    ", state: " ++ e.state.name ++ " \x7d"

@[simp] theorem closeCalls_close (e : TcpEndpoint) : e.close.closeCalls = e.closeCalls + 1 := rfl

@[simp] theorem state_close (e : TcpEndpoint) : e.close.state = .closed := rfl

end TcpEndpoint

/-- How an endpoint offered to a SYN starts out; its flow is the request's unless given. -/
structure EndpointSpec where
  flow : Option FlowId := none
  connected : Bool := true
  state : TcpState := .established
  closed : Bool := false
  incoming : List UInt8 := []
  deriving DecidableEq, Repr

def EndpointSpec.build (s : EndpointSpec) (request : FlowId) : TcpEndpoint :=
  { flow := s.flow.getD request, connected := s.connected, reported := s.state, closed := s.closed,
    incoming := s.incoming }

structure Conn where
  endpoint : Nat
  closed : Bool := false
  deriving DecidableEq, Repr

structure Datagram where
  flow : FlowId
  payload : List UInt8
  deriving DecidableEq, Repr

namespace Datagram

/-- The client that sent the datagram. -/
def localAddr (d : Datagram) : SocketAddr := d.flow.remoteAddr

/-- The address the datagram was sent to. -/
def destination (d : Datagram) : SocketAddr := d.flow.localAddr

def describe (d : Datagram) : String :=
  "TunUdpPacket \x7b local: " ++ d.localAddr.render ++ ", destination: " ++
    d.destination.render ++ ", len: " ++ toString d.payload.length ++ " \x7d"

end Datagram

structure InboundConn where
  target : Target
  conn : Conn
  deriving DecidableEq, Repr

structure InboundPacket where
  target : Target
  udpAddr : SocketAddr
  packet : Datagram
  deriving DecidableEq, Repr

/-- A packet for the consumer, with the address it was sent to decoded from its target. -/
def InboundPacket.new (target : Target) (packet : Datagram) : InboundPacket :=
  ⟨target, target.toSocket, packet⟩

end TunBridge
