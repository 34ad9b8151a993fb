namespace TunBridge

inductive Handoff where
  /-- Wait for room; fails only when the consumer is gone. -/
  | block
  | dropNewest
  deriving DecidableEq, Repr

structure ForwarderConfig where
  receiveBufferSize : Nat
  maxInFlight : Nat
  deriving DecidableEq, Repr

structure TunConfig where
  tcpReceiveBuffer : Nat := 20480
  tcpMaxInFlight : Nat := 1024
  outboundQueueLen : Nat := 512
  handoff : Handoff := .block
  deriving DecidableEq, Repr

namespace TunConfig

def forwarder (c : TunConfig) : ForwarderConfig := ⟨c.tcpReceiveBuffer, c.tcpMaxInFlight⟩

def isDefault (c : TunConfig) : Bool := c = {}

end TunConfig

end TunBridge
