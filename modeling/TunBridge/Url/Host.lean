import TunBridge.Net.Ipv6
import TunBridge.Text.Hex
import TunBridge.Url.Domain
/-!
Hosts of URLs, after the WHATWG URL standard: an opaque host is escaped and checked for forbidden
characters, a domain of a special scheme is percent-decoded and processed as an
internationalised name (and read as a lenient IPv4 address when it ends in a number), and a host
in brackets is an IPv6 address.
-/
namespace TunBridge.Url

inductive UrlError where
  | relativeWithoutBase
  | emptyHost
  | invalidPort
  | invalidIpv4
  | invalidIpv6
  | invalidDomainCharacter
  | invalidDomainName
  deriving DecidableEq, Repr

def UrlError.message : UrlError → String
  | .relativeWithoutBase => "relative URL without a base"
  | .emptyHost => "empty host"
  | .invalidPort => "invalid port number"
  | .invalidIpv4 => "invalid IPv4 address"
  | .invalidIpv6 => "invalid IPv6 address"
  | .invalidDomainCharacter => "invalid domain character"
  | .invalidDomainName => "invalid international domain name"

def forbiddenHostChar (c : Char) : Bool :=
  c = '\x00' || c = '\t' || c = '\n' || c = '\r' || c = ' ' || c = '#' || c = '/' || c = ':' ||
    c = '<' || c = '>' || c = '?' || c = '@' || c = '[' || c = '\\' || c = ']' || c = '^' ||
    c = '|'

/-- Characters no domain may hold: the forbidden host characters, the other controls, `%` and
delete. -/
def forbiddenDomainChar (c : Char) : Bool :=
  forbiddenHostChar c || c.toNat < 0x20 || c = '%' || c.toNat = 0x7f

/-- `%XX` for each UTF-8 byte of a control, delete or non-ASCII character; other characters
stand for themselves. -/
def escapeControl (c : Char) : List Char :=
  if c.toNat < 0x20 || 0x7f ≤ c.toNat then
    (String.utf8EncodeChar c).flatMap fun b =>
      ['%', Hex.upperDigit (b.toNat / 16), Hex.upperDigit (b.toNat % 16)]
  else [c]

def percentDecode : List UInt8 → List UInt8
  | [] => []
  | 37 :: h :: l :: rest =>
    match Hex.value? (Char.ofNat h.toNat), Hex.value? (Char.ofNat l.toNat) with
    | some a, some b => (a * 16 + b).toUInt8 :: percentDecode rest
    | _, _ => 37 :: percentDecode (h :: l :: rest)
  | b :: rest => b :: percentDecode rest

/-! ### IPv6 in brackets -/

inductive Token where
  | hex (ds : List Char)
  | colon
  | dot
  | other
  deriving DecidableEq, Repr

def tokens : List Char → List Token
  | [] => []
  | c :: cs =>
    let ts := tokens cs
    if c.isHexDigit then
      match ts with
      | .hex ds :: rest => .hex (c :: ds) :: rest
      | _ => .hex [c] :: ts
    else if c = ':' then .colon :: ts
    else if c = '.' then .dot :: ts
    else .other :: ts

def hexValue (ds : List Char) : Nat :=
  ds.foldl (fun n c => n * 16 + (Hex.value? c).getD 0) 0

def v4Part (ds : List Char) : Option Nat :=
  if ds.all Char.isDigit && !(ds.head? = some '0' && 1 < ds.length) then
    let v := ds.foldl (fun n c => n * 10 + (c.toNat - 48)) 0
    if v ≤ 255 then some v else none
  else none

def v4Tail : List Token → Option (List UInt16)
  | [.hex a, .dot, .hex b, .dot, .hex c, .dot, .hex d] => do
    let a ← v4Part a
    let b ← v4Part b
    let c ← v4Part c
    let d ← v4Part d
    pure [(a * 256 + b).toUInt16, (c * 256 + d).toUInt16]
  | _ => none

/-- The pieces read so far (a `::` stands as one zero piece, and `compress` is the count of
pieces up to it), then the rest of the tokens. -/
def v6Pieces (pieces : List UInt16) (compress : Option Nat) :
    List Token → Option (List UInt16 × Option Nat)
  | [] => some (pieces, compress)
  | t :: ts =>
    if pieces.length = 8 then none
    else match t, ts with
      | .colon, ts =>
        if compress.isSome then none
        else v6Pieces (pieces ++ [0]) (some (pieces.length + 1)) ts
      | .hex ds, rest =>
        if 4 < ds.length then none
        else match rest with
          | [] => some (pieces ++ [(hexValue ds).toUInt16], compress)
          | .colon :: [] => none
          | .colon :: rest => v6Pieces (pieces ++ [(hexValue ds).toUInt16]) compress rest
          | .dot :: _ =>
            if 6 < pieces.length then none
            else (v4Tail (.hex ds :: rest)).map fun tail => (pieces ++ tail, compress)
          | _ => none
      | _, _ => none

def parseIpv6 (cs : List Char) : Option Ipv6Addr := do
  if cs.length < 2 then none
  let (pieces, compress, ts) ← match tokens cs with
    | .colon :: .colon :: ts => some (([0] : List UInt16), some 1, ts)
    | .colon :: _ => none
    | ts => some ([], none, ts)
  let (pieces, compress) ← v6Pieces pieces compress ts
  match compress with
  | some c => Ipv6Addr.ofList? (pieces.take c ++ List.replicate (8 - pieces.length) 0 ++ pieces.drop c)
  | none => Ipv6Addr.ofList? pieces

/-! ### Opaque hosts and domains -/

def parseOpaque (cs : List Char) : Except UrlError String :=
  match cs with
  | '[' :: inner =>
    if inner.getLast? = some ']' then
      match parseIpv6 inner.dropLast with
      | some ip => .ok ("[" ++ ip.renderPlain ++ "]")
      | none => .error .invalidIpv6
    else .error .invalidIpv6
  | _ =>
    if cs.any forbiddenHostChar then .error .invalidDomainCharacter
    else .ok (String.ofList (cs.flatMap escapeControl))

/-- One number of a lenient IPv4 address: `none` when it is no number, `some none` when it is
too large for 32 bits. -/
def v4Number (cs : List Char) : Option (Option Nat) :=
  if cs.isEmpty then none
  else
    let (radix, ds) := match cs with
      | '0' :: 'x' :: ds => (16, ds)
      | '0' :: 'X' :: ds => (16, ds)
      | '0' :: d :: ds => (8, d :: ds)
      | ds => (10, ds)
    let ok := ds.all fun c => match radix with
      | 8 => '0' ≤ c && c ≤ '7'
      | 10 => c.isDigit
      | _ => c.isHexDigit
    if !ok then none
    else
      let v := ds.foldl (fun n c => n * radix + (Hex.value? c).getD 0) 0
      some (if v < 4294967296 then some v else none)

def endsInNumber (cs : List Char) : Bool :=
  let labels := cs.splitOn '.'
  let labels := if labels.getLast? = some [] && 1 < labels.length then labels.dropLast else labels
  match labels.getLast? with
  | some last => (!last.isEmpty && last.all Char.isDigit) || (v4Number last).isSome
  | none => false

def parseLenientIpv4 (cs : List Char) : Except UrlError Nat := do
  let parts := cs.splitOn '.'
  let parts := if parts.getLast? = some [] then parts.dropLast else parts
  if 4 < parts.length then throw .invalidIpv4
  let numbers ← parts.mapM fun p => match v4Number p with
    | some (some n) => pure n
    | _ => throw .invalidIpv4
  match numbers.reverse with
  | [] => throw .invalidIpv4
  | last :: front =>
    if Nat.pow 256 (4 - front.length) ≤ last then throw .invalidIpv4
    if front.any (255 < ·) then throw .invalidIpv4
    pure (front.reverse.zipIdx.foldl (fun acc (n, i) => acc + n * Nat.pow 256 (3 - i)) last)

/-- A domain of a special scheme: percent-decoded, then processed as an internationalised
domain name that may hold no forbidden domain character; one that ends in a number must then be
an IPv4 address. -/
def parseDomain (cs : List Char) : Except UrlError String := do
  let bytes := percentDecode (cs.flatMap String.utf8EncodeChar)
  let text ← match String.fromUTF8? ⟨bytes.toArray⟩ with
    | some t => pure t
    | none => throw .invalidDomainName
  let name ← match Domain.process? forbiddenDomainChar text.toList with
    | some name => pure name
    | none => throw .invalidDomainName
  if name.isEmpty then throw .emptyHost
  if endsInNumber name then
    let _ ← parseLenientIpv4 name
  pure (String.ofList name)

def parseSpecial (cs : List Char) : Except UrlError String :=
  match cs with
  | '[' :: inner =>
    if inner.getLast? = some ']' then
      match parseIpv6 inner.dropLast with
      | some ip => .ok ("[" ++ ip.renderPlain ++ "]")
      | none => .error .invalidIpv6
    else .error .invalidIpv6
  | _ => parseDomain cs

end TunBridge.Url
