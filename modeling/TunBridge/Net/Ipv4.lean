/-!
IPv4 addresses: four octets, written as four decimals joined by dots. Reading is strict: each
part has one to three digits, no leading zero unless it is a lone `0`, and a value of at most
255.
-/
namespace TunBridge

structure Ipv4Addr where
  a : UInt8
  b : UInt8
  c : UInt8
  d : UInt8
  deriving DecidableEq, Repr

namespace Ipv4Addr

def octets (ip : Ipv4Addr) : List UInt8 := [ip.a, ip.b, ip.c, ip.d]

def ofOctets? : List UInt8 → Option Ipv4Addr
  | [a, b, c, d] => some ⟨a, b, c, d⟩
  | _ => none

@[simp] theorem ofOctets?_octets (ip : Ipv4Addr) : ofOctets? ip.octets = some ip := rfl

def render (ip : Ipv4Addr) : String :=
  ".".intercalate ([ip.a, ip.b, ip.c, ip.d].map fun o => toString o.toNat)

def digitValue (ds : List Char) : Nat :=
  ds.foldl (fun n c => n * 10 + (c.toNat - 48)) 0

/-- One dotted part: the whole run of digits that starts the text, one to three of them,
no leading zero, at most 255. -/
def readOctet (cs : List Char) : Option (UInt8 × List Char) :=
  let ds := cs.takeWhile Char.isDigit
  if ds.length = 0 ∨ 3 < ds.length then none
  else if ds.head? = some '0' ∧ 1 < ds.length then none
  else if 255 < digitValue ds then none
  else some ((digitValue ds).toUInt8, cs.dropWhile Char.isDigit)

def read (cs : List Char) : Option (Ipv4Addr × List Char) := do
  let (a, r) ← readOctet cs
  let r ← match r with | '.' :: r => some r | _ => none
  let (b, r) ← readOctet r
  let r ← match r with | '.' :: r => some r | _ => none
  let (c, r) ← readOctet r
  let r ← match r with | '.' :: r => some r | _ => none
  let (d, r) ← readOctet r
  pure (⟨a, b, c, d⟩, r)

def parse? (s : String) : Option Ipv4Addr :=
  match read s.toList with
  | some (ip, []) => some ip
  | _ => none

end Ipv4Addr

end TunBridge
