import TunBridge.Net.SocketAddr
namespace TunBridge

/-- A transport flow: the address and port the client addressed, and the client's own. -/
structure FlowId where
  localIp : IpAddr
  localPort : UInt16
  remoteIp : IpAddr
  remotePort : UInt16
  deriving DecidableEq, Repr

namespace FlowId

def localAddr (f : FlowId) : SocketAddr := ⟨f.localIp, f.localPort, 0⟩

def remoteAddr (f : FlowId) : SocketAddr := ⟨f.remoteIp, f.remotePort, 0⟩

/-- The flow between two socket addresses. A transport endpoint is an address and a port, so
a scope does not carry over. -/
def ofEnds (localAddr remoteAddr : SocketAddr) : FlowId :=
  ⟨localAddr.ip, localAddr.port, remoteAddr.ip, remoteAddr.port⟩

end FlowId

end TunBridge
