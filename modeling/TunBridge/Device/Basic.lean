import TunBridge.Device.Spec
import TunBridge.Kernel.Tun
/-!
An open TUN device: the specification it came from, its interface's name, and the file of the
TUN device it holds until it is closed. Once its link endpoint is asked for, the device has a
read loop, which feeds the endpoint what the interface receives, and a writer registered on the
endpoint, which writes each queued frame to the device.
-/
namespace TunBridge

inductive LoopState where
  | idle
  | running (link bufLen : Nat)
  | finished
  deriving DecidableEq, Repr

structure Device where
  spec : DeviceSpec
  name : String
  queueLen : Nat
  /-- The file of the TUN device it reads and writes; `none` once closed. -/
  file : Option Nat
  closed : Bool := false
  /-- Its link endpoint and the handle of its writer there, once started. -/
  bridge : Option (Nat × UInt64) := none
  loop : LoopState := .idle
  freed : Bool := false
  deriving DecidableEq, Repr

namespace Device

/-- The MTU asked for in the specification, else the interface's. -/
def mtu? (d : Device) (k : Kernel) : Except TunError Nat :=
  match d.spec.mtuOverride with
  | some m => .ok m
  | none =>
    match k.ifaceMtu d.name with
    | .ok m => .ok m
    | .error e => .error (.openFailed "query mtu" (.os e))

def url (d : Device) : String := d.spec.url

def loopRunning (d : Device) : Bool :=
  match d.loop with
  | .running .. => true
  | _ => false

end Device

end TunBridge
