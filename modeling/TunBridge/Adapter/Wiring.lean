import TunBridge.Stack.Record
/-!
Building an adapter on a device: a stack is built with `stackOptions`, and the device's link
endpoint becomes its NIC `nicId`, set promiscuous and allowed to spoof, with a default route per
family and the flow handlers installed. The first failure ends the wiring; the device is then
closed, then the stack. A `Wiring` is what this asks of any device and stack.
-/
namespace TunBridge

/-- What building an adapter asks of the world: a stack to build, the device's link endpoint,
the stack's configuration calls, and closing the device and the stack. -/
structure Wiring (ω : Type) where
  buildStack : ω → StackOptions → ω
  linkEndpoint : ω → ω × Except TunError Nat
  createNic : ω → Nat → Nat → ω × Except StackError Unit
  setPromiscuous : ω → Nat → Bool → ω × Except StackError Unit
  setSpoofing : ω → Nat → Bool → ω × Except StackError Unit
  addRoute : ω → Route → ω
  setTcpForwarder : ω → ForwarderConfig → ω
  setUdpHandler : ω → ω
  closeDevice : ω → ω
  closeStack : ω → ω

namespace Wiring

variable {ω : Type} (W : Wiring ω)

def defaultRoutes : List Route := [⟨true, nicId⟩, ⟨false, nicId⟩]

def wire (w : ω) (config : TunConfig) : ω × Except TunError Unit :=
  match W.linkEndpoint w with
  | (w, .error e) => (w, .error e)
  | (w, .ok link) =>
    match W.createNic w nicId link with
    | (w, .error e) => (w, .error (.stack "create nic" e))
    | (w, .ok ()) =>
      match W.setPromiscuous w nicId true with
      | (w, .error e) => (w, .error (.stack "set promiscuous mode" e))
      | (w, .ok ()) =>
        match W.setSpoofing w nicId true with
        | (w, .error e) => (w, .error (.stack "set spoofing" e))
        | (w, .ok ()) =>
          let w := defaultRoutes.foldl W.addRoute w
          let w := W.setTcpForwarder w config.forwarder
          (W.setUdpHandler w, .ok ())

/-- Builds a stack and wires the device into it; when the wiring fails, closes the device and
then the stack. -/
def withDevice (w : ω) (config : TunConfig) : ω × Except TunError Unit :=
  match W.wire (W.buildStack w stackOptions) config with
  | (w, .ok ()) => (w, .ok ())
  | (w, .error e) => (W.closeStack (W.closeDevice w), .error e)

end Wiring

end TunBridge
