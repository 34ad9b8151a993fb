import TunBridge.Config.Basic
import TunBridge.Json.Value
/-!
Settings read from JSON text: an object names its fields (unknown ones skipped, a repeated one
an error), an array gives them in order, and missing fields keep their defaults. Errors are
placed at the offset where the reader stands when it finds them.
-/
namespace TunBridge.TunConfig

open Json

def fieldNames : List String :=
  ["tcp_receive_buffer", "tcp_max_in_flight", "outbound_queue_len", "handoff"]

/-- The error for a value of the wrong type where `expected` was wanted; the value is read
first, and its own syntax errors win. -/
def mismatch (expected : String) : Reader Error := do
  match ← peek with
  | some 110 => do eat; literal [117, 108, 108]; pure (invalidType .unit expected)
  | some 116 => do eat; literal [114, 117, 101]; pure (invalidType (.bool true) expected)
  | some 102 => do eat; literal [97, 108, 115, 101]; pure (invalidType (.bool false) expected)
  | some 45 => do eat; pure (invalidType (← number false).unexpected expected)
  | some 34 => do eat; pure (invalidType (.str (← string)) expected)
  | some 91 => pure (invalidType .seq expected)
  | some 123 => pure (invalidType .map expected)
  | some b =>
    if isDigit b then pure (invalidType (← number true).unexpected expected)
    else failAhead .expectedValue
  | none => failAhead .expectedValue

def placed {α : Type} (r : Reader α) : Reader α :=
  tryCatch r fun e => do throw (← place e)

def size : Reader Nat := placed do
  match ← blank with
  | none => failAhead .eofValue
  | some 45 => do
    eat
    match ← number false with
    | .unsigned n => pure n
    | .negative n => throw (invalidValue (.signed n) "usize")
    | .float x => throw (invalidType (.float x) "usize")
  | some b =>
    if isDigit b then
      match ← number true with
      | .unsigned n => pure n
      | .negative n => throw (invalidValue (.signed n) "usize")
      | .float x => throw (invalidType (.float x) "usize")
    else throw (← mismatch "usize")

def unknownVariant (name : String) : Error :=
  .custom ("unknown variant `" ++ name ++ "`, expected `block` or `drop_newest`")

def handoffName : Reader Handoff := placed do
  match ← blank with
  | none => failAhead .eofValue
  | some 34 => do
    eat
    let name ← string
    if name = "block" then pure .block
    else if name = "drop_newest" then pure .dropNewest
    else throw (unknownVariant name)
  | some _ => throw (← mismatch "variant identifier")

def unitValue : Reader Unit := placed do
  match ← blank with
  | none => failAhead .eofValue
  | some 110 => do eat; literal [117, 108, 108]
  | some _ => throw (← mismatch "unit")

def handoffField : Reader Handoff := do
  match ← blank with
  | some 123 => do
    eat
    let h ← handoffName
    colon
    unitValue
    match ← blank with
    | some 125 => do eat; pure h
    | some _ => fail .expectedValue
    | none => fail .eofObject
  | some 34 => handoffName
  | some _ => failAhead .expectedValue
  | none => failAhead .eofValue

def duplicate (name : String) : Error := .custom ("duplicate field `" ++ name ++ "`")

/-- The fields of an object, each at most once. -/
def members (budget : Nat) : Nat → Bool → TunConfig → List String → Reader TunConfig
  | 0, _, c, _ => pure c
  | fuel + 1, first, c, seen => do
    match ← nextKey first with
    | none => pure c
    | some k =>
      if fieldNames.contains k then
        if seen.contains k then throw (duplicate k)
        colon
        let c ← if k = "tcp_receive_buffer" then do pure { c with tcpReceiveBuffer := ← size }
          else if k = "tcp_max_in_flight" then do pure { c with tcpMaxInFlight := ← size }
          else if k = "outbound_queue_len" then do pure { c with outboundQueueLen := ← size }
          else do pure { c with handoff := ← handoffField }
        members budget fuel false c (k :: seen)
      else
        colon
        skipValue budget
        members budget fuel false c seen

def items : Reader TunConfig := do
  let c : TunConfig := {}
  if !(← nextItem true) then return c
  let c := { c with tcpReceiveBuffer := ← size }
  if !(← nextItem false) then return c
  let c := { c with tcpMaxInFlight := ← size }
  if !(← nextItem false) then return c
  let c := { c with outboundQueueLen := ← size }
  if !(← nextItem false) then return c
  return { c with handoff := ← handoffField }

def settings (budget : Nat) : Reader TunConfig := placed do
  match ← blank with
  | none => failAhead .eofValue
  | some 91 => do
    eat
    closedBy items endList
  | some 123 => do
    eat
    closedBy (members budget budget true {} []) endObject
  | some _ => throw (← mismatch "struct TunConfig")

def ofText (s : String) : Except String TunConfig :=
  let cur := Cursor.ofString s
  let budget := 2 * cur.rest.length + 2
  match ((do let c ← settings budget; finish; pure c : Reader TunConfig).run.run cur).1 with
  | .ok c => .ok c
  | .error e => .error (e.render cur.rest)

end TunBridge.TunConfig
