import TunBridge.Json.Cursor
/-!
JSON numbers: an integer without fraction or exponent is an unsigned or negative 64-bit one, and
any other number a binary64 value formed from a 64-bit significand and one power of ten. A value
too large for binary64 is an error.
-/
namespace TunBridge.Json

/-- A number as it was written: its class decides how it may be used. -/
inductive Number where
  | unsigned (n : Nat)
  | negative (n : Int)
  | float (x : Float)
  deriving Repr

def u64Max : Nat := Nat.pow 2 64 - 1

def i32Min : Int := -2147483648

def i32Max : Int := 2147483647

def clampI32 (n : Int) : Int := max i32Min (min i32Max n)

/-- The binary64 value nearest to a natural number below `2^1024`, ties to even. -/
def nearestFloat (n : Nat) : Float :=
  let b := n.log2 + 1
  if b ≤ 53 then n.toUInt64.toFloat
  else
    let shift := b - 53
    let m := n >>> shift
    let r := n - (m <<< shift)
    let half := 1 <<< (shift - 1)
    let m := if half < r ∨ (r = half ∧ m % 2 = 1) then m + 1 else m
    let (m, shift) := if m = Nat.pow 2 53 then (Nat.pow 2 52, shift + 1) else (m, shift)
    Float.ofBits ((m - Nat.pow 2 52 + (shift + 52 + 1023) * Nat.pow 2 52).toUInt64)

def pow10 (k : Nat) : Float := nearestFloat (Nat.pow 10 k)

def fromParts (positive : Bool) (significand : Nat) (exponent : Int) : Option Float :=
  let rec go : Nat → Float → Int → Option Float
    | 0, f, _ => some f
    | fuel + 1, f, e =>
      if e.natAbs ≤ 308 then
        if 0 ≤ e then
          let g := f * pow10 e.natAbs
          if g.isInf then none else some g
        else some (f / pow10 e.natAbs)
      else if f == 0 then some f
      else if 0 ≤ e then none
      else go fuel (f / pow10 308) (e + 308)
  (go 8 significand.toUInt64.toFloat exponent).map fun f => if positive then f else -f

def isDigit (b : UInt8) : Bool := 48 ≤ b && b ≤ 57

def digit (b : UInt8) : Nat := b.toNat - 48

def float (positive : Bool) (significand : Nat) (exponent : Int) : Reader Float :=
  match fromParts positive significand exponent with
  | some f => pure f
  | none => fail .numberOutOfRange

def skipDigits : List UInt8 → Nat → Cursor
  | [], p => ⟨[], p⟩
  | b :: r, p => if isDigit b then skipDigits r (p + 1) else ⟨b :: r, p⟩

/-- Where reading exponent digits stops: at a non-digit with the exponent read, or just past
the digit that carries it beyond the 32-bit bound. -/
inductive ExponentEnd where
  | done (e : Nat) (rest : List UInt8) (pos : Nat)
  | overflow (rest : List UInt8) (pos : Nat)

def exponentDigits : List UInt8 → Nat → Nat → ExponentEnd
  | [], p, e => .done e [] p
  | c :: r, p, e =>
    if isDigit c then
      if 2147483647 < e * 10 + digit c then .overflow r (p + 1)
      else exponentDigits r (p + 1) (e * 10 + digit c)
    else .done e (c :: r) p

/-- The exponent after `e`; a too large exponent makes zero of a zero significand or of a
negative exponent, and is out of range otherwise. -/
def exponentPart (positive : Bool) (significand : Nat) (start : Int) : Reader Float := do
  eat
  let positiveExp ← match ← peek with
    | some 43 => do eat; pure true
    | some 45 => do eat; pure false
    | _ => pure true
  match ← next with
  | none => fail .eofValue
  | some b =>
    if !isDigit b then fail .invalidNumber
    else
      let cur ← get
      match exponentDigits cur.rest cur.pos (digit b) with
      | .done e rest pos =>
        set (Cursor.mk rest pos)
        float positive significand (clampI32 (if positiveExp then start + e else start - e))
      | .overflow rest pos =>
        set (Cursor.mk rest pos)
        if significand ≠ 0 ∧ positiveExp then fail .numberOutOfRange
        else
          modify fun c => skipDigits c.rest c.pos
          pure (if positive then 0.0 else -0.0)

def fractionPart (positive : Bool) (significand : Nat) (start : Int) : Reader Float := do
  eat
  let rec loop : List UInt8 → Nat → Nat → Int → (Nat × Int × List UInt8 × Nat × Bool)
    | [], p, s, e => (s, e, [], p, false)
    | c :: r, p, s, e =>
      if isDigit c then
        if u64Max < s * 10 + digit c then (s, e, c :: r, p, true)
        else loop r (p + 1) (s * 10 + digit c) (e - 1)
      else (s, e, c :: r, p, false)
  let cur ← get
  let (s, e, rest, pos, overflow) := loop cur.rest cur.pos significand 0
  set (Cursor.mk rest pos)
  if overflow then
    modify fun c => skipDigits c.rest c.pos
    match ← peek with
    | some 101 | some 69 => exponentPart positive s (start + e)
    | _ => float positive s (start + e)
  else if e = 0 then
    match ← peek with
    | some _ => failAhead .invalidNumber
    | none => failAhead .eofValue
  else
    match ← peek with
    | some 101 | some 69 => exponentPart positive s (start + e)
    | _ => float positive s (start + e)

def afterInteger (positive : Bool) (significand : Nat) : Reader Number := do
  match ← peek with
  | some 46 => return .float (← fractionPart positive significand 0)
  | some 101 | some 69 => return .float (← exponentPart positive significand 0)
  | _ =>
    if positive then return .unsigned significand
    else if significand = 0 ∨ Nat.pow 2 63 < significand then
      return .float (-(significand.toUInt64.toFloat))
    else return .negative (-(significand : Int))

/-- Digits beyond 64 bits, counted into the exponent. -/
def longInteger (positive : Bool) (significand : Nat) : Reader Number := do
  let cur ← get
  let extra := (cur.rest.takeWhile isDigit).length
  set (Cursor.mk (cur.rest.drop extra) (cur.pos + extra))
  match ← peek with
  | some 46 => return .float (← fractionPart positive significand extra)
  | some 101 | some 69 => return .float (← exponentPart positive significand extra)
  | _ => return .float (← float positive significand extra)

def number (positive : Bool) : Reader Number := do
  match ← next with
  | none => fail .eofValue
  | some 48 =>
    match ← peek with
    | some b => if isDigit b then failAhead .invalidNumber else afterInteger positive 0
    | none => afterInteger positive 0
  | some b =>
    if isDigit b then
      let rec loop : List UInt8 → Nat → Nat → (Nat × List UInt8 × Nat × Bool)
        | [], p, s => (s, [], p, false)
        | c :: r, p, s =>
          if isDigit c then
            if u64Max < s * 10 + digit c then (s, c :: r, p, true)
            else loop r (p + 1) (s * 10 + digit c)
          else (s, c :: r, p, false)
      let cur ← get
      let (s, rest, pos, overflow) := loop cur.rest cur.pos (digit b)
      set (Cursor.mk rest pos)
      if overflow then longInteger positive s else afterInteger positive s
    else fail .invalidNumber

def skipNumber : Reader Unit := do
  let b := (← next).getD 0
  if b = 48 then
    match ← peek with
    | some c => if isDigit c then failAhead .invalidNumber
    | none => pure ()
  else if isDigit b then modify fun c => skipDigits c.rest c.pos
  else fail .invalidNumber
  match ← peek with
  | some 46 =>
    eat
    match ← peek with
    | some c =>
      if isDigit c then modify fun cur => skipDigits cur.rest cur.pos
      else failAhead .invalidNumber
    | none => failAhead .invalidNumber
    match ← peek with
    | some 101 | some 69 => skipExponent
    | _ => pure ()
  | some 101 | some 69 => skipExponent
  | _ => pure ()
where
  skipExponent : Reader Unit := do
    eat
    match ← peek with
    | some 43 | some 45 => eat
    | _ => pure ()
    let b := (← next).getD 0
    if isDigit b then modify fun c => skipDigits c.rest c.pos
    else fail .invalidNumber

end TunBridge.Json
