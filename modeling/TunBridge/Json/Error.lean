/-!
Errors of reading JSON text. A syntax error is reported at a byte offset, shown as a line
(counted from 1) and a column (the bytes since the last line break). An error about the
meaning of a value is raised without an offset and given one by the reader that sees it.
-/
namespace TunBridge.Json

inductive Code where
  | eofValue
  | eofObject
  | eofList
  | eofString
  | expectedColon
  | expectedListCommaOrEnd
  | expectedObjectCommaOrEnd
  | expectedIdent
  | expectedValue
  | invalidEscape
  | invalidNumber
  | numberOutOfRange
  | loneLeadingSurrogate
  | unexpectedEndOfHexEscape
  | controlCharacter
  | keyMustBeString
  | trailingComma
  | trailingCharacters
  deriving DecidableEq, Repr

def Code.message : Code → String
  | .eofValue => "EOF while parsing a value"
  | .eofObject => "EOF while parsing an object"
  | .eofList => "EOF while parsing a list"
  | .eofString => "EOF while parsing a string"
  | .expectedColon => "expected `:`"
  | .expectedListCommaOrEnd => "expected `,` or `]`"
  | .expectedObjectCommaOrEnd => "expected `,` or `\x7d`"
  | .expectedIdent => "expected ident"
  | .expectedValue => "expected value"
  | .invalidEscape => "invalid escape"
  | .invalidNumber => "invalid number"
  | .numberOutOfRange => "number out of range"
  | .loneLeadingSurrogate => "lone leading surrogate in hex escape"
  | .unexpectedEndOfHexEscape => "unexpected end of hex escape"
  | .controlCharacter => "control character (\\u0000-\\u001F) found while parsing a string"
  | .keyMustBeString => "key must be a string"
  | .trailingComma => "trailing comma"
  | .trailingCharacters => "trailing characters"

/-- An error, and the byte offset it is reported at once that is known. -/
structure Error where
  message : String
  offset : Option Nat
  deriving DecidableEq, Repr

def Error.atByte (c : Code) (offset : Nat) : Error := ⟨c.message, some offset⟩

def Error.custom (message : String) : Error := ⟨message, none⟩

def position (input : List UInt8) (offset : Nat) : Nat × Nat :=
  let before := input.take offset
  let lines := before.count 10
  let lastBreak := (before.zipIdx.filter (·.1 = 10)).getLast?.map (·.2 + 1)
  (lines + 1, offset - lastBreak.getD 0)

def Error.render (e : Error) (input : List UInt8) : String :=
  match e.offset with
  | some o =>
    let (line, column) := position input o
    e.message ++ " at line " ++ toString line ++ " column " ++ toString column
  | none => e.message

end TunBridge.Json
