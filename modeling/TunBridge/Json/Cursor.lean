import TunBridge.Json.Error
import TunBridge.Text.Hex
/-!
A cursor over the bytes of JSON text, and the readers of blanks, literals and strings. A `\u`
escape of a leading surrogate needs one of a trailing surrogate after it.
-/
namespace TunBridge.Json

structure Cursor where
  rest : List UInt8
  pos : Nat
  deriving DecidableEq, Repr

def Cursor.ofString (s : String) : Cursor := ⟨s.toUTF8.toList, 0⟩

abbrev Reader := ExceptT Error (StateM Cursor)

def peek : Reader (Option UInt8) := return (← get).rest.head?

def eat : Reader Unit :=
  modify fun c => match c.rest with
    | [] => c
    | _ :: r => ⟨r, c.pos + 1⟩

def next : Reader (Option UInt8) := do
  let b ← peek
  eat
  return b

def fail {α : Type} (c : Code) : Reader α := do
  throw (Error.atByte c (← get).pos)

/-- Fails with a syntax error just past the next byte, if there is one. -/
def failAhead {α : Type} (c : Code) : Reader α := do
  let cur ← get
  throw (Error.atByte c (if cur.rest.isEmpty then cur.pos else cur.pos + 1))

def place (e : Error) : Reader Error := do
  let c ← get
  return if e.offset.isSome then e else { e with offset := some c.pos }

def isBlank (b : UInt8) : Bool := b = 32 || b = 10 || b = 9 || b = 13

def skipBlanks : List UInt8 → Nat → Cursor
  | [], p => ⟨[], p⟩
  | b :: r, p => if isBlank b then skipBlanks r (p + 1) else ⟨b :: r, p⟩

def blank : Reader (Option UInt8) := do
  modify fun c => skipBlanks c.rest c.pos
  peek

def literal : List UInt8 → Reader Unit
  | [] => pure ()
  | b :: bs => do
    match ← next with
    | none => fail .eofValue
    | some x => if x = b then literal bs else fail .expectedIdent

def utf8 (n : Nat) : List UInt8 := String.utf8EncodeChar (Char.ofNat n)

def hexValue4 (a b c d : UInt8) : Option Nat :=
  [a, b, c, d].foldl (fun acc x => acc.bind fun n =>
    (Hex.value? (Char.ofNat x.toNat)).map (n * 16 + ·)) (some 0)

def escapeByte (c : UInt8) : Option UInt8 :=
  if c = 34 then some 34 else if c = 92 then some 92 else if c = 47 then some 47
  else if c = 98 then some 8 else if c = 102 then some 12 else if c = 110 then some 10
  else if c = 114 then some 13 else if c = 116 then some 9 else none

/-- A string after its opening quote: `decode` keeps its text and checks surrogates, else it
is only skipped. Returns the bytes of the text, the rest and the offset after the quote. -/
def stringBody (decode : Bool) : List UInt8 → Nat → List UInt8 →
    Except Error (List UInt8 × List UInt8 × Nat)
  | [], p, _ => .error (.atByte .eofString p)
  | 34 :: r, p, acc => .ok (acc.reverse, r, p + 1)
  | 92 :: 117 :: a :: b :: c :: d :: r, p, acc =>
    match hexValue4 a b c d with
    | none => .error (.atByte .invalidEscape (p + 6))
    | some n =>
      if !decode then stringBody decode r (p + 6) acc
      else if 0xDC00 ≤ n ∧ n ≤ 0xDFFF then .error (.atByte .loneLeadingSurrogate (p + 6))
      else if n < 0xD800 ∨ 0xDBFF < n then stringBody decode r (p + 6) ((utf8 n).reverse ++ acc)
      else match r with
        | 92 :: 117 :: a :: b :: c :: d :: r =>
          match hexValue4 a b c d with
          | none => .error (.atByte .invalidEscape (p + 12))
          | some m =>
            if 0xDC00 ≤ m ∧ m ≤ 0xDFFF then
              let ch := 0x10000 + (n - 0xD800) * 0x400 + (m - 0xDC00)
              stringBody decode r (p + 12) ((utf8 ch).reverse ++ acc)
            else .error (.atByte .loneLeadingSurrogate (p + 12))
        | 92 :: 117 :: r => .error (.atByte .eofString (p + 8 + r.length))
        | [] => .error (.atByte .eofString (p + 6))
        | [92] => .error (.atByte .eofString (p + 7))
        | 92 :: _ :: _ => .error (.atByte .unexpectedEndOfHexEscape (p + 8))
        | _ :: _ => .error (.atByte .unexpectedEndOfHexEscape (p + 7))
  | 92 :: 117 :: r, p, _ => .error (.atByte .eofString (p + 2 + r.length))
  | [92], p, _ => .error (.atByte .eofString (p + 1))
  | 92 :: c :: r, p, acc =>
    match escapeByte c with
    | some e => stringBody decode r (p + 2) (e :: acc)
    | none => .error (.atByte .invalidEscape (p + 2))
  | b :: r, p, acc =>
    if b < 0x20 then .error (.atByte .controlCharacter (if decode then p + 1 else p))
    else stringBody decode r (p + 1) (b :: acc)

def string : Reader String := do
  let c ← get
  match stringBody true c.rest c.pos [] with
  | .ok (bytes, rest, pos) =>
    set (Cursor.mk rest pos)
    return (String.fromUTF8? ⟨bytes.toArray⟩).getD ""
  | .error e => throw e

def skipString : Reader Unit := do
  let c ← get
  match stringBody false c.rest c.pos [] with
  | .ok (_, rest, pos) => set (Cursor.mk rest pos)
  | .error e => throw e

end TunBridge.Json
