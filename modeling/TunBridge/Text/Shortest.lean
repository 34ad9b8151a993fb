/-!
Shortest decimal text of a binary64 value: the fewest significant digits that read back as the
same value, the nearest of them, ties to even; all comparisons exact, in natural numbers.
-/
namespace TunBridge.Shortest

/-- A finite positive value `m · 2^q`; `narrowBelow` when the gap to the next smaller value is
half the gap to the next larger one. -/
structure Binary where
  m : Nat
  q : Int
  narrowBelow : Bool
  deriving Repr

def Binary.ofBits (bits : UInt64) : Binary :=
  let f : Nat := bits.toNat % Nat.pow 2 52
  let e : Nat := (bits.toNat / Nat.pow 2 52) % 2048
  if e = 0 then ⟨f, -1074, false⟩ else ⟨f + Nat.pow 2 52, (e : Int) - 1075, f = 0 && 1 < e⟩

def compareScaled (d : Nat) (k : Int) (x : Nat) (e : Int) : Ordering :=
  compare (d * Nat.pow 10 k.toNat * Nat.pow 2 (-e).toNat) (x * Nat.pow 2 e.toNat * Nat.pow 10 (-k).toNat)

/-- Whether `d · 10^k` lies in the interval of reals that round to the value; its ends belong
to it when `m` is even. -/
def Binary.holds (b : Binary) (d : Nat) (k : Int) : Bool :=
  let low := 4 * b.m - (if b.narrowBelow then 1 else 2)
  let high := 4 * b.m + 2
  let e := b.q - 2
  if b.m % 2 = 0 then
    compareScaled d k low e != .lt && compareScaled d k high e != .gt
  else
    compareScaled d k low e == .gt && compareScaled d k high e == .lt

def Binary.scaledFloor (b : Binary) (k : Int) : Nat :=
  (b.m * Nat.pow 2 b.q.toNat * Nat.pow 10 (-k).toNat) / (Nat.pow 2 (-b.q).toNat * Nat.pow 10 k.toNat)

/-- The decimal exponent `t` with `10^t ≤ m · 2^q < 10^(t+1)`, searched from an estimate. -/
def Binary.exponent (b : Binary) : Int :=
  let below (t : Int) : Bool := compareScaled 1 t b.m b.q != .gt
  let rec up : Nat → Int → Int
    | 0, t => t
    | n + 1, t => if below (t + 1) then up n (t + 1) else t
  let rec down : Nat → Int → Int
    | 0, t => t
    | n + 1, t => if below t then t else down n (t - 1)
  let guess := ((b.m.log2 : Int) + b.q) * 30103 / 100000
  up 4 (down 4 guess)

def Binary.withDigits (b : Binary) (n : Nat) : Option (Nat × Int) :=
  let k := b.exponent - n + 1
  let d := b.scaledFloor k
  match b.holds d k, b.holds (d + 1) k with
  | true, true =>
    -- both read back: the nearer one, and the even one on a tie
    match compareScaled (2 * d + 1) k (2 * b.m) b.q with
    | .gt => some (d, k)
    | .lt => some (d + 1, k)
    | .eq => some (if d % 2 = 0 then d else d + 1, k)
  | true, false => some (d, k)
  | false, true => some (d + 1, k)
  | false, false => none

/-- The shortest decimal `(d, k)` for `d · 10^k`; seventeen figures always suffice. -/
def Binary.shortest (b : Binary) : Nat × Int :=
  let rec go : Nat → Nat → Nat × Int
    | 0, n => (b.scaledFloor (b.exponent - n + 1), b.exponent - n + 1)
    | fuel + 1, n =>
      match b.withDigits n with
      | some r => r
      | none => go fuel (n + 1)
  go 17 1

def trimZeros : Nat → Nat → Int → Nat × Int
  | 0, d, k => (d, k)
  | fuel + 1, d, k => if d ≠ 0 ∧ d % 10 = 0 then trimZeros fuel (d / 10) (k + 1) else (d, k)

structure Layout where
  /-- Smallest decimal exponent written without an exponent part. -/
  minPositional : Int
  /-- Largest decimal exponent written without an exponent part. -/
  maxPositional : Int
  pointZero : Bool
  plusSign : Bool
  /-- Least number of exponent digits. -/
  expWidth : Nat

def positional (l : Layout) (ds : List Char) (p : Int) : String :=
  if p < 0 then "0." ++ String.ofList (List.replicate ((-p).toNat - 1) '0' ++ ds)
  else
    let whole := ds.take (p.toNat + 1) ++ List.replicate (p.toNat + 1 - ds.length) '0'
    let frac := ds.drop (p.toNat + 1)
    if frac.isEmpty then String.ofList whole ++ (if l.pointZero then ".0" else "")
    else String.ofList whole ++ "." ++ String.ofList frac

def scientific (l : Layout) (ds : List Char) (p : Int) : String :=
  let mantissa := match ds with
    | [] => "0"
    | [c] => String.ofList [c]
    | c :: rest => String.ofList (c :: '.' :: rest)
  let digits := Nat.toDigits 10 p.natAbs
  let digits := List.replicate (l.expWidth - digits.length) '0' ++ digits
  let sign := if p < 0 then "-" else if l.plusSign then "+" else ""
  mantissa ++ "e" ++ sign ++ String.ofList digits

def render (l : Layout) (x : Float) : String :=
  let bits := x.toBits
  let sign := if bits.toNat / Nat.pow 2 63 = 1 then "-" else ""
  let mag := bits.toNat % Nat.pow 2 63
  if mag = 0 then sign ++ positional l ['0'] 0
  else
    let (d, k) := (Binary.ofBits mag.toUInt64).shortest
    let (d, k) := trimZeros 20 d k
    let ds := Nat.toDigits 10 d
    let p := k + ds.length - 1
    if l.minPositional ≤ p ∧ p ≤ l.maxPositional then sign ++ positional l ds p
    else sign ++ scientific l ds p

end TunBridge.Shortest
