import TunBridge.Config.Basic
import TunBridge.Link.Endpoint
namespace TunBridge

structure StackOptions where
  networkProtocols : List NetworkProtocol
  transportProtocols : List UInt8
  deriving DecidableEq, Repr

/-- What every adapter builds its stack with: IPv4 and IPv6, TCP and UDP. -/
def stackOptions : StackOptions := ⟨[.ipv4, .ipv6], [6, 17]⟩

def nicId : Nat := 1

structure Route where
  ipv4 : Bool
  nic : Nat
  deriving DecidableEq, Repr

def Route.destination (r : Route) : String := if r.ipv4 then "0.0.0.0/0" else "::/0"

inductive StackFault where
  | nic
  | promiscuous
  | spoofing
  deriving DecidableEq, Repr

structure StackRecord where
  options : Option StackOptions := none
  /-- NICs by id, each with the number of its link. -/
  nics : List (Nat × Nat) := []
  promiscuous : List (Nat × Bool) := []
  spoofing : List (Nat × Bool) := []
  routes : List Route := []
  forwarder : Option ForwarderConfig := none
  hasHandlers : Bool := false
  closed : Bool := false
  frames : List Delivery := []
  fault : Option StackFault := none
  deriving Repr

namespace StackRecord

def createNic (s : StackRecord) (id link : Nat) : Except StackError StackRecord :=
  if s.fault = some .nic then .error (.duplicateNic id) else .ok { s with nics := s.nics ++ [(id, link)] }

def setPromiscuous (s : StackRecord) (id : Nat) (on : Bool) : Except StackError StackRecord :=
  if s.fault = some .promiscuous then .error (.unknownNic id)
  else .ok { s with promiscuous := s.promiscuous ++ [(id, on)] }

def setSpoofing (s : StackRecord) (id : Nat) (on : Bool) : Except StackError StackRecord :=
  if s.fault = some .spoofing then .error (.unknownNic id)
  else .ok { s with spoofing := s.spoofing ++ [(id, on)] }

/-- The link of the first NIC, which closing the stack detaches. -/
def firstLink? (s : StackRecord) : Option Nat := s.nics.head?.map (·.2)

end StackRecord

end TunBridge
