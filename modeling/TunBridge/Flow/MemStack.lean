import TunBridge.Flow.Conn
namespace TunBridge

structure Sent where
  source : SocketAddr
  dest : SocketAddr
  payload : List UInt8
  deriving DecidableEq, Repr

structure MemStack where
  closed : Bool := false
  sendError : Option StackError := none
  sent : List Sent := []
  malformed : UInt64 := 0
  held : Bool := true

namespace MemStack

/-- Sends a datagram. A closed stack refuses first, then a set send error; otherwise the send is
recorded and its payload length returned. -/
def sendUdp (s : MemStack) (source dest : SocketAddr) (payload : List UInt8) :
    Except StackError (Nat × MemStack) :=
  if s.closed then .error .closed
  else match s.sendError with
    | some e => .error e
    | none => .ok (payload.length, { s with sent := s.sent ++ [⟨source, dest, payload⟩] })

theorem sendUdp_closed (s : MemStack) (source dest : SocketAddr) (payload : List UInt8)
    (h : s.closed = true) : s.sendUdp source dest payload = .error .closed := by
  simp [sendUdp, h]

end MemStack

/-- Answers the client of a received datagram through the stack: the reply leaves from
`source`, or from the address the datagram was sent to. -/
def Datagram.writeBack (d : Datagram) (s : MemStack) (payload : List UInt8)
    (source : Option SocketAddr) : Except StackError (Nat × MemStack) :=
  s.sendUdp (source.getD d.destination) d.localAddr payload

end TunBridge
