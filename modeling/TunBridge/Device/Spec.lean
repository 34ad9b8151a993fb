import TunBridge.Url.Parse
import TunBridge.Url.Query
import TunBridge.Text.Decimal
import TunBridge.Error
/-!
Device specifications: URLs that name a TUN device. `dev://NAME` names an interface and
`fd://N` a descriptor the process already holds; the first `mtu` query value, if it is a
signed 32-bit decimal, asks for an MTU, which is used when it lies in `1..=65535`.
-/
namespace TunBridge

inductive DeviceKind where
  | name (name : String)
  | fd (fd : Int)
  deriving DecidableEq, Repr

structure DeviceSpec where
  url : String
  kind : DeviceKind
  mtu : Int
  deriving DecidableEq, Repr

namespace DeviceSpec

def maxMtu : Nat := 65535

/-- The MTU the specification asks for, when it is one a device can have. -/
def mtuOverride (spec : DeviceSpec) : Option Nat :=
  if 1 ≤ spec.mtu ∧ spec.mtu ≤ maxMtu then some spec.mtu.toNat else none

/-- The `mtu` of a query: its first `mtu` value read as a signed 32-bit decimal, else 0. -/
def queryMtu (query : Option String) : Int :=
  match query.bind (Url.firstValue · "mtu") with
  | some value =>
    match Decimal.parseInt32 (value.map fun b => Char.ofNat b.toNat) with
    | .ok n => n
    | .error _ => 0
  | none => 0

def parse (s : String) : Except TunError DeviceSpec :=
  match Url.parse s with
  | .error e => .error (.invalidUrl s e.message)
  | .ok u =>
    let host := u.host.getD ""
    let mtu := queryMtu u.query
    if u.scheme = "dev" then .ok ⟨s, .name host, mtu⟩
    else if u.scheme = "fd" then
      match Decimal.parseInt32 host.toList with
      | .ok n => .ok ⟨s, .fd n, mtu⟩
      | .error e => .error (.invalidUrl s ("bad descriptor `" ++ host ++ "`: " ++ e.message))
    else .error (.unsupportedKind ("unsupported device type `" ++ u.scheme ++ "`"))

end DeviceSpec

end TunBridge
