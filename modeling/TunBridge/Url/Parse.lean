import TunBridge.Url.Host
/-!
The parts of a URL that a device specification uses, after the WHATWG URL standard with no base:
the lowercased scheme, the host after `//` and any userinfo (its port checked and dropped), and
the query from the first `?` to the next `#`.
-/
namespace TunBridge

structure Url where
  scheme : String
  host : Option String
  query : Option String
  deriving DecidableEq, Repr

namespace Url

def specialSchemes : List String := ["http", "https", "ws", "wss", "ftp", "file"]

def isC0OrSpace (c : Char) : Bool := c.toNat ≤ 0x20

def isTabOrNewline (c : Char) : Bool := c = '\t' || c = '\n' || c = '\r'

def clean (s : String) : List Char :=
  (((s.toList.dropWhile isC0OrSpace).reverse.dropWhile isC0OrSpace).reverse).filter
    (!isTabOrNewline ·)

def schemeChar (c : Char) : Bool := c.isAlphanum || c = '+' || c = '-' || c = '.'

def readScheme : List Char → Option (String × List Char)
  | [] => none
  | c :: cs =>
    if c.isAlpha then
      match cs.dropWhile schemeChar with
      | ':' :: rest => some (String.ofList ((c :: cs.takeWhile schemeChar).map Char.toLower), rest)
      | _ => none
    else none

/-- The query: from the first `?` to the next `#`, unless a `#` comes first. -/
def queryOf (cs : List Char) : Option String :=
  match cs.dropWhile fun c => c ≠ '?' && c ≠ '#' with
  | '?' :: rest => some (String.ofList (rest.takeWhile (· ≠ '#')))
  | _ => none

def endsAuthority (special : Bool) (c : Char) : Bool :=
  c = '/' || c = '?' || c = '#' || (special && c = '\\')

def lastAt (cs : List Char) : Option Nat :=
  (cs.zipIdx.filter (·.1 = '@')).getLast?.map (·.2)

def dropUserinfo (special : Bool) (cs : List Char) : Except UrlError (Bool × List Char) :=
  match lastAt (cs.takeWhile (!endsAuthority special ·)) with
  | none => .ok (false, cs)
  | some 0 =>
    match cs.drop 1 with
    | c :: rest => if endsAuthority special c then .error .emptyHost else .ok (false, c :: rest)
    | [] => .ok (false, [])
  | some k => .ok (cs.take k ≠ [':'], cs.drop (k + 1))

def hostText (special : Bool) : Bool → List Char → List Char × List Char
  | _, [] => ([], [])
  | inside, c :: cs =>
    if (c = ':' && !inside) || endsAuthority special c then ([], c :: cs)
    else
      let (h, r) := hostText special (if c = '[' then true else if c = ']' then false else inside) cs
      (c :: h, r)

/-- Digits of a port, at most 65535, ended by the end of the text or a path, query or fragment
mark. -/
def checkPort : Nat → List Char → Except UrlError Unit
  | _, [] => .ok ()
  | n, c :: cs =>
    if c.isDigit then
      if n * 10 + (c.toNat - 48) ≤ 65535 then checkPort (n * 10 + (c.toNat - 48)) cs
      else .error .invalidPort
    else if c = '/' || c = '\\' || c = '?' || c = '#' then .ok ()
    else .error .invalidPort

def authorityHost (special : Bool) (cs : List Char) : Except UrlError (Option String) := do
  let (named, cs) ← dropUserinfo special cs
  let (raw, rest) := hostText special false cs
  if special && raw.isEmpty then throw .emptyHost
  let host ← if special then parseSpecial raw else parseOpaque raw
  if host.isEmpty && rest.head? = some ':' then throw .emptyHost
  match rest with
  | ':' :: port => checkPort 0 port
  | _ => pure ()
  if host.isEmpty && named then throw .emptyHost
  pure (if host.isEmpty then none else some host)

def isSlash (c : Char) : Bool := c = '/' || c = '\\'

/-- A host of a `file` URL: after two slashes, up to a path, query or fragment mark; a drive
letter, an empty text and `localhost` name none. -/
def fileHost (cs : List Char) : Except UrlError (Option String) :=
  match cs with
  | a :: b :: rest =>
    if isSlash a && isSlash b then
      let raw := rest.takeWhile fun c => !(isSlash c || c = '?' || c = '#')
      match raw with
      | [] => .ok none
      | [d, m] => if d.isAlpha && (m = ':' || m = '|') then .ok none else hostOf raw
      | _ => hostOf raw
    else .ok none
  | _ => .ok none
where
  hostOf (raw : List Char) : Except UrlError (Option String) := do
    let h ← parseSpecial raw
    pure (if h = "localhost" then none else some h)

def parse (s : String) : Except UrlError Url := do
  let (scheme, rest) ← match readScheme (clean s) with
    | some r => pure r
    | none => throw .relativeWithoutBase
  let host ← if scheme = "file" then fileHost rest
    else if specialSchemes.contains scheme then authorityHost true (rest.dropWhile isSlash)
    else match rest with
      | '/' :: '/' :: auth => authorityHost false auth
      | _ => pure none
  pure ⟨scheme, host, queryOf rest⟩

end Url

end TunBridge
