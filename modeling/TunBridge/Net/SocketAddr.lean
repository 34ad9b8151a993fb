import TunBridge.Net.Ipv6
/-!
IP addresses of either family, and socket addresses: an address with a port and, for IPv6, a
scope that names an interface. The text of a socket address is `a.b.c.d:port` or `[v6]:port`,
with the scope written after the IPv6 address when it is not zero (`[fe80::1%2]:80`).
-/
namespace TunBridge

inductive IpAddr where
  | v4 (ip : Ipv4Addr)
  | v6 (ip : Ipv6Addr)
  deriving DecidableEq, Repr

namespace IpAddr

def octets : IpAddr → List UInt8
  | .v4 ip => ip.octets
  | .v6 ip => ip.octets

def render : IpAddr → String
  | .v4 ip => ip.render
  | .v6 ip => ip.render

def isV4 : IpAddr → Bool
  | .v4 _ => true
  | .v6 _ => false

def parse? (s : String) : Option IpAddr :=
  match Ipv4Addr.parse? s with
  | some ip => some (.v4 ip)
  | none => (Ipv6Addr.parse? s).map .v6

end IpAddr

structure SocketAddr where
  ip : IpAddr
  port : UInt16
  /-- The interface an IPv6 address is scoped to; zero for none, and always zero for IPv4. -/
  scope : UInt32 := 0
  deriving DecidableEq, Repr

namespace SocketAddr

def render (sa : SocketAddr) : String :=
  match sa.ip with
  | .v4 ip => ip.render ++ ":" ++ toString sa.port.toNat
  | .v6 ip =>
    let scope := if sa.scope == 0 then "" else "%" ++ toString sa.scope.toNat
    "[" ++ ip.render ++ scope ++ "]:" ++ toString sa.port.toNat

def withoutScope (sa : SocketAddr) : SocketAddr := { sa with scope := 0 }

def readDigits (cs : List Char) : Option (Nat × List Char) :=
  let ds := cs.takeWhile Char.isDigit
  if ds.isEmpty then none else some (Ipv4Addr.digitValue ds, cs.dropWhile Char.isDigit)

def readPort : List Char → Option (UInt16 × List Char)
  | ':' :: cs => do
    let (n, rest) ← readDigits cs
    if n < 65536 then some (n.toUInt16, rest) else none
  | _ => none

/-- An optional `%` and numeric scope of at most 32 bits; zero when there is none. -/
def readScope : List Char → UInt32 × List Char
  | '%' :: cs =>
    match readDigits cs with
    | some (n, rest) => if n < 4294967296 then (n.toUInt32, rest) else (0, '%' :: cs)
    | none => (0, '%' :: cs)
  | cs => (0, cs)

def readV4 (cs : List Char) : Option SocketAddr := do
  let (ip, r) ← Ipv4Addr.read cs
  let (port, r) ← readPort r
  if r.isEmpty then some ⟨.v4 ip, port, 0⟩ else none

def readV6 : List Char → Option SocketAddr
  | '[' :: cs => do
    let (ip, r) ← Ipv6Addr.read cs
    let (scope, r) := readScope r
    let r ← match r with | ']' :: r => some r | _ => none
    let (port, r) ← readPort r
    if r.isEmpty then some ⟨.v6 ip, port, scope⟩ else none
  | _ => none

def parse? (s : String) : Option SocketAddr :=
  match readV4 s.toList with
  | some sa => some sa
  | none => readV6 s.toList

end SocketAddr

end TunBridge
