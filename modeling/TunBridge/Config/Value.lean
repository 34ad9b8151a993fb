import TunBridge.Config.Text
/-!
Settings read from a JSON value already in memory. An object's members are taken in the
order of their keys, one per key (a repeated key keeps its last value); an array gives the
fields in order and may not have more than four. Errors name the offending value but carry no
position.
-/
namespace TunBridge.TunConfig

open Json

/-- An object's members by key, each key once with its last value. -/
def byKey (fields : List (String × Value)) : List (String × Value) :=
  let once := fields.foldl (fun acc (k, v) => (acc.filter (·.1 ≠ k)) ++ [(k, v)]) []
  once.mergeSort fun a b => decide (a.1 ≤ b.1)

def sizeOf (v : Value) : Except Error Nat :=
  match v with
  | .number (.unsigned n) => .ok n
  | .number (.negative n) => .error (invalidValue (.signed n) "usize")
  | .number (.float x) => .error (invalidType (.float x) "usize")
  | other => .error (invalidType other.unexpected "usize")

def handoffOf (v : Value) : Except Error Handoff :=
  match v with
  | .string name => variant name none
  | .object fields =>
    match byKey fields with
    | [(name, inner)] => variant name (some inner)
    | _ => .error (invalidValue .map "map with a single key")
  | other => .error (invalidType other.unexpected "string or map")
where
  variant (name : String) (inner : Option Value) : Except Error Handoff := do
    let h ← if name = "block" then pure Handoff.block
      else if name = "drop_newest" then pure Handoff.dropNewest
      else throw (unknownVariant name)
    match inner with
    | none | some .null => pure h
    | some other => throw (invalidType other.unexpected "unit")

def setField (c : TunConfig) (name : String) (v : Value) : Except Error TunConfig :=
  if name = "tcp_receive_buffer" then return { c with tcpReceiveBuffer := ← sizeOf v }
  else if name = "tcp_max_in_flight" then return { c with tcpMaxInFlight := ← sizeOf v }
  else if name = "outbound_queue_len" then return { c with outboundQueueLen := ← sizeOf v }
  else if name = "handoff" then return { c with handoff := ← handoffOf v }
  else pure c

def ofValue (v : Value) : Except String TunConfig :=
  let r : Except Error TunConfig := match v with
    | .object fields => (byKey fields).foldlM (fun c (k, x) => setField c k x) {}
    | .array items =>
      if 4 < items.length then
        -- the four fields are read first; their errors come before the length's
        match (fieldNames.zip items).foldlM (fun c (k, x) => setField c k x) {} with
        | .ok _ => .error (.custom ("invalid length " ++ toString items.length ++
            ", expected fewer elements in array"))
        | .error e => .error e
      else (fieldNames.zip items).foldlM (fun c (k, x) => setField c k x) {}
    | other => .error (invalidType other.unexpected "struct TunConfig")
  r.mapError (·.message)

end TunBridge.TunConfig
