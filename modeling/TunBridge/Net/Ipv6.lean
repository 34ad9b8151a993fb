import TunBridge.Net.Ipv4
import TunBridge.Net.ByteOrder
/-!
IPv6 addresses: eight 16-bit groups, written in lowercase hex with the first longest run of two
or more zero groups as `::`, and an IPv4-mapped address with a dotted tail.
-/
namespace TunBridge

structure Ipv6Addr where
  segments : Vector UInt16 8
  deriving DecidableEq, Repr

namespace Ipv6Addr

def ofList? (gs : List UInt16) : Option Ipv6Addr :=
  if h : gs.length = 8 then some ⟨⟨gs.toArray, by simpa using h⟩⟩ else none

def octets (ip : Ipv6Addr) : List UInt8 :=
  ip.segments.toList.flatMap be16

@[simp] theorem length_octets (ip : Ipv6Addr) : ip.octets.length = 16 := by
  rw [octets, length_flatMap_be16, Vector.length_toList]

def ofOctets? (bs : List UInt8) : Option Ipv6Addr :=
  if bs.length = 16 then ofList? (words16 bs) else none

@[simp] theorem ofOctets?_octets (ip : Ipv6Addr) : ofOctets? ip.octets = some ip := by
  obtain ⟨⟨⟨gs⟩, hgs⟩⟩ := ip
  have groups : gs.length = 8 := by simpa using hgs
  have bytes : (gs.flatMap be16).length = 16 := by rw [length_flatMap_be16, groups]
  simp [ofOctets?, octets, ofList?, groups, bytes]

def mappedIpv4? (ip : Ipv6Addr) : Option Ipv4Addr :=
  match ip.segments.toList with
  | [0, 0, 0, 0, 0, 0xffff, x, y] =>
    some ⟨(x >>> 8).toUInt8, x.toUInt8, (y >>> 8).toUInt8, y.toUInt8⟩
  | _ => none

/-- Start and length of the first longest run of zero groups. -/
def zeroRun (gs : List UInt16) : Nat × Nat :=
  let step := fun (acc : (Nat × Nat) × (Nat × Nat) × Nat) (g : UInt16) =>
    let (best, cur, i) := acc
    if g = 0 then
      let cur := if cur.2 = 0 then (i, 1) else (cur.1, cur.2 + 1)
      (if best.2 < cur.2 then cur else best, cur, i + 1)
    else (best, (0, 0), i + 1)
  (gs.foldl step ((0, 0), (0, 0), 0)).1

def groupText (g : UInt16) : String := String.ofList (Nat.toDigits 16 g.toNat)

def joinGroups (gs : List UInt16) : String := ":".intercalate (gs.map groupText)

def renderPlain (ip : Ipv6Addr) : String :=
  let gs := ip.segments.toList
  let (start, len) := zeroRun gs
  if len < 2 then joinGroups gs
  else joinGroups (gs.take start) ++ "::" ++ joinGroups (gs.drop (start + len))

def render (ip : Ipv6Addr) : String :=
  match ip.mappedIpv4? with
  | some v4 => "::ffff:" ++ v4.render
  | none => ip.renderPlain

def readGroup (cs : List Char) : Option (UInt16 × List Char) :=
  let ds := cs.takeWhile Char.isHexDigit
  if ds.length = 0 ∨ 4 < ds.length then none
  else
    let v := ds.foldl (fun n c => n * 16 + (if c.isDigit then c.toNat - 48
      else if c.isLower then c.toNat - 87 else c.toNat - 55)) 0
    some (v.toUInt16, cs.dropWhile Char.isHexDigit)

/-- The groups of one side of `::`: at most `slots` of them, each after a colon but the first;
an IPv4 tail may stand for the last two when two slots remain. Also says whether the tail was
read. -/
def readGroups : Nat → Bool → List Char → List UInt16 × Bool × List Char
  | 0, _, cs => ([], false, cs)
  | n + 1, first, cs =>
    let body := if first then some cs else match cs with | ':' :: r => some r | _ => none
    match (if 1 ≤ n then body.bind Ipv4Addr.read else none) with
    | some (v4, rest) =>
      ([(v4.a.toUInt16 <<< 8) ||| v4.b.toUInt16, (v4.c.toUInt16 <<< 8) ||| v4.d.toUInt16],
        true, rest)
    | none =>
      match body.bind readGroup with
      | some (g, rest) =>
        let (gs, v4, r) := readGroups n false rest
        (g :: gs, v4, r)
      | none => ([], false, cs)

def read (cs : List Char) : Option (Ipv6Addr × List Char) :=
  let (head, v4, rest) := readGroups 8 true cs
  if head.length = 8 then (ofList? head).map (·, rest)
  else if v4 then none
  else match rest with
    | ':' :: ':' :: rest =>
      let (tail, _, rest) := readGroups (8 - (head.length + 1)) true rest
      (ofList? (head ++ List.replicate (8 - head.length - tail.length) 0 ++ tail)).map (·, rest)
    | _ => none

def parse? (s : String) : Option Ipv6Addr :=
  match read s.toList with
  | some (ip, []) => some ip
  | _ => none

end Ipv6Addr

end TunBridge
