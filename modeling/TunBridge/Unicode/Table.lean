import TunBridge.Text.Hex
/-!
Tables of character properties, read from `key:value` lines with hexadecimal keys: a
`RangeTable` for a property constant on runs of code points and a `KeyTable` for one of single
code points, both searched by the bisection `countAtMost`.
-/
namespace TunBridge.Unicode

/-- `lo` plus the number of entries of `keys` in `[lo, hi)` that are at most `n`, found by
bisection. When `keys` rises this is the index of the first entry above `n`. -/
def countAtMost (keys : Array Nat) (n lo hi : Nat) : Nat :=
  if lo < hi then
    let mid := (lo + hi) / 2
    if keys.getD mid 0 ≤ n then countAtMost keys n (mid + 1) hi else countAtMost keys n lo mid
  else lo
termination_by hi - lo
decreasing_by all_goals omega

def hexNumber? (s : String) : Option Nat :=
  if s.isEmpty then none
  else s.toList.foldlM (fun acc c => (Hex.value? c).map (acc * 16 + ·)) 0

def entries (line : String) : List (String × String) :=
  (line.splitOn ";").filterMap fun e =>
    match e.splitOn ":" with
    | [k, v] => some (k, v)
    | _ => none

def codes? (s : String) : Option (List Nat) := (s.splitOn ".").mapM hexNumber?

def readEntries {α : Type} (decode : String → Option α) (text : List String) :
    List (Nat × α) :=
  (text.flatMap entries).filterMap fun (k, v) => do pure (← hexNumber? k, ← decode v)

/-- A property constant on runs of code points: each run's start and value, and the value of
the code points before the first run. -/
structure RangeTable (α : Type) where
  starts : Array Nat
  values : Array α
  fallback : α

def RangeTable.ofText {α : Type} (decode : String → Option α) (fallback : α)
    (text : List String) :
    RangeTable α :=
  let es := readEntries decode text
  ⟨(es.map (·.1)).toArray, (es.map (·.2)).toArray, fallback⟩

def RangeTable.get {α : Type} (t : RangeTable α) (n : Nat) : α :=
  match countAtMost t.starts n 0 t.starts.size with
  | 0 => t.fallback
  | k + 1 => t.values.getD k t.fallback

/-- A property of single code points, keys rising. -/
structure KeyTable (α : Type) where
  keys : Array Nat
  values : Array α

def KeyTable.ofText {α : Type} (decode : String → Option α) (text : List String) :
    KeyTable α :=
  let es := readEntries decode text
  ⟨(es.map (·.1)).toArray, (es.map (·.2)).toArray⟩

def KeyTable.find? {α : Type} (t : KeyTable α) (n : Nat) : Option α :=
  match countAtMost t.keys n 0 t.keys.size with
  | 0 => none
  | k + 1 => if t.keys.getD k 0 = n then t.values[k]? else none

end TunBridge.Unicode
