import TunBridge.Json.Number
import TunBridge.Text.Shortest
import TunBridge.Unicode.Category
namespace TunBridge.Json

inductive Value where
  | null
  | bool (b : Bool)
  | number (n : Number)
  | string (s : String)
  | array (items : List Value)
  | object (fields : List (String × Value))
  deriving Repr

inductive Unexpected where
  | bool (b : Bool)
  | unsigned (n : Nat)
  | signed (n : Int)
  | float (x : Float)
  | str (s : String)
  | unit
  | seq
  | map

/-- Floats in error texts: shortest digits, positional from `1e-5` to below `1e16` with `.0`
kept, else one digit before the point and an exponent with its sign (`1e-7`, `1.5e+19`). -/
def floatLayout : Shortest.Layout := ⟨-5, 15, true, true, 1⟩

/-- A string in double quotes as a debug rendering writes it: quotes, backslashes and the
common controls escaped by name, and the characters `Unicode.escapedInDebug` names as
hexadecimal escapes. -/
def quoted (s : String) : String :=
  let esc : Char → List Char := fun c =>
    if c = '"' then ['\\', '"']
    else if c = '\\' then ['\\', '\\']
    else if c = '\n' then ['\\', 'n']
    else if c = '\r' then ['\\', 'r']
    else if c = '\t' then ['\\', 't']
    else if c = '\x00' then ['\\', '0']
    else if Unicode.escapedInDebug c then ['\\', 'u', '\x7b'] ++ Nat.toDigits 16 c.toNat ++ ['\x7d']
    else [c]
  "\"" ++ String.ofList (s.toList.flatMap esc) ++ "\""

def Unexpected.text : Unexpected → String
  | .bool b => "boolean `" ++ toString b ++ "`"
  | .unsigned n => "integer `" ++ toString n ++ "`"
  | .signed n => "integer `" ++ toString n ++ "`"
  | .float x => "floating point `" ++ Shortest.render floatLayout x ++ "`"
  | .str s => "string " ++ quoted s
  | .unit => "null"
  | .seq => "sequence"
  | .map => "map"

def invalidType (u : Unexpected) (expected : String) : Error :=
  .custom ("invalid type: " ++ u.text ++ ", expected " ++ expected)

def invalidValue (u : Unexpected) (expected : String) : Error :=
  .custom ("invalid value: " ++ u.text ++ ", expected " ++ expected)

def Number.unexpected : Number → Unexpected
  | .unsigned n => .unsigned n
  | .negative n => .signed n
  | .float x => .float x

def Value.unexpected : Value → Unexpected
  | .null => .unit
  | .bool b => .bool b
  | .number n => n.unexpected
  | .string s => .str s
  | .array _ => .seq
  | .object _ => .map

/-- The value of the last field of this name. -/
def Value.field? (v : Value) (name : String) : Option Value :=
  match v with
  | .object fields => (fields.reverse.find? (·.1 = name)).map (·.2)
  | _ => none

def skipValue : Nat → Reader Unit
  | 0 => fail .expectedValue
  | fuel + 1 => do
    match ← blank with
    | none => failAhead .eofValue
    | some 110 => do eat; literal [117, 108, 108]
    | some 116 => do eat; literal [114, 117, 101]
    | some 102 => do eat; literal [97, 108, 115, 101]
    | some 45 => do eat; skipNumber
    | some 34 => do eat; skipString
    | some 91 =>
      eat
      match ← blank with
      | some 93 => eat
      | none => failAhead .eofList
      | some _ => skipItems fuel
    | some 123 =>
      eat
      match ← blank with
      | some 125 => eat
      | none => failAhead .eofObject
      | some _ => skipMembers fuel
    | some b => if isDigit b then skipNumber else failAhead .expectedValue
where
  skipItems : Nat → Reader Unit
    | 0 => fail .expectedValue
    | fuel + 1 => do
      skipValue fuel
      match ← blank with
      | some 44 => do eat; skipItems fuel
      | some 93 => eat
      | some _ => failAhead .expectedListCommaOrEnd
      | none => failAhead .eofList
  skipMembers : Nat → Reader Unit
    | 0 => fail .expectedValue
    | fuel + 1 => do
      match ← blank with
      | some 34 => do eat; skipString
      | some _ => failAhead .keyMustBeString
      | none => failAhead .eofObject
      match ← blank with
      | some 58 => eat
      | some _ => failAhead .expectedColon
      | none => failAhead .eofObject
      skipValue fuel
      match ← blank with
      | some 44 => do eat; skipMembers fuel
      | some 125 => eat
      | some _ => failAhead .expectedObjectCommaOrEnd
      | none => failAhead .eofObject

def colon : Reader Unit := do
  match ← blank with
  | some 58 => eat
  | some _ => failAhead .expectedColon
  | none => failAhead .eofObject

def endList : Reader Unit := do
  match ← blank with
  | some 93 => eat
  | some 44 =>
    eat
    match ← blank with
    | some 93 => failAhead .trailingComma
    | _ => failAhead .trailingCharacters
  | some _ => failAhead .trailingCharacters
  | none => failAhead .eofList

def endObject : Reader Unit := do
  match ← blank with
  | some 125 => eat
  | some 44 => failAhead .trailingComma
  | some _ => failAhead .trailingCharacters
  | none => failAhead .eofObject

def nextItem (first : Bool) : Reader Bool := do
  match ← blank with
  | some 93 => pure false
  | some 44 =>
    if first then failAhead .expectedValue
    else
      eat
      match ← blank with
      | some 93 => failAhead .trailingComma
      | some _ => pure true
      | none => failAhead .eofValue
  | some _ => if first then pure true else failAhead .expectedListCommaOrEnd
  | none => failAhead .eofList

def nextKey (first : Bool) : Reader (Option String) := do
  let b ← match ← blank with
    | some 125 => return none
    | some 44 =>
      if first then pure (some 44)
      else do eat; blank
    | some b => if first then pure (some b) else failAhead .expectedObjectCommaOrEnd
    | none => failAhead .eofObject
  match b with
  | some 34 => do eat; return some (← string)
  | some 125 => failAhead .trailingComma
  | some _ => failAhead .keyMustBeString
  | none => failAhead .eofValue

/-- Runs a reader and, whether it fails or not, the closing reader after it; the first error
wins. -/
def closedBy {α : Type} (body : Reader α) (close : Reader Unit) : Reader α := do
  let r ← tryCatch (Except.ok <$> body) (fun e => pure (Except.error e))
  let c ← tryCatch (Except.ok <$> close) (fun e => pure (Except.error e))
  match r, c with
  | .ok v, .ok () => pure v
  | .error e, _ => throw e
  | .ok _, .error e => throw e

def value : Nat → Reader Value
  | 0 => fail .expectedValue
  | fuel + 1 => do
    match ← blank with
    | none => failAhead .eofValue
    | some 110 => do eat; literal [117, 108, 108]; pure .null
    | some 116 => do eat; literal [114, 117, 101]; pure (.bool true)
    | some 102 => do eat; literal [97, 108, 115, 101]; pure (.bool false)
    | some 45 => do eat; pure (.number (← number false))
    | some 34 => do eat; pure (.string (← string))
    | some 91 => do
      eat
      closedBy (.array <$> items fuel true) endList
    | some 123 => do
      eat
      closedBy (.object <$> members fuel true) endObject
    | some b => if isDigit b then pure (.number (← number true)) else failAhead .expectedValue
where
  items : Nat → Bool → Reader (List Value)
    | 0, _ => fail .expectedValue
    | fuel + 1, first => do
      if ← nextItem first then
        let v ← value fuel
        return v :: (← items fuel false)
      else return []
  members : Nat → Bool → Reader (List (String × Value))
    | 0, _ => fail .expectedValue
    | fuel + 1, first => do
      match ← nextKey first with
      | some k =>
        colon
        let v ← value fuel
        return (k, v) :: (← members fuel false)
      | none => return []

def finish : Reader Unit := do
  match ← blank with
  | some _ => failAhead .trailingCharacters
  | none => pure ()

def Value.parse (s : String) : Except String Value :=
  let cur := Cursor.ofString s
  match ((do let v ← value (2 * cur.rest.length + 2); finish; pure v : Reader Value).run.run cur).1 with
  | .ok v => .ok v
  | .error e => .error (e.render cur.rest)

end TunBridge.Json
