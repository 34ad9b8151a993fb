/-!
Punycode decoding (RFC 3492) for labels after their `xn--` prefix. Deltas and code points are
32-bit quantities: a step past `2^32 - 1` fails, as does a code point that is no scalar value.
`readDelta_length` says a delta always consumes input, which is what ends `insertAll`.
-/
namespace TunBridge.Url.Punycode

/-- The largest delta or code point a decoder step may reach. -/
def limit : Nat := 4294967295

/-- The value of a base-36 digit: `a`–`z` (either case) are 0–25, `0`–`9` are 26–35. -/
def digitValue? (c : Char) : Option Nat :=
  if 'a' ≤ c && c ≤ 'z' then some (c.toNat - 'a'.toNat)
  else if 'A' ≤ c && c ≤ 'Z' then some (c.toNat - 'A'.toNat)
  else if '0' ≤ c && c ≤ '9' then some (c.toNat - '0'.toNat + 26)
  else none

def threshold (k bias : Nat) : Nat :=
  if k ≤ bias then 1 else if bias + 26 ≤ k then 26 else k - bias

def adaptLoop (delta k : Nat) : Nat × Nat :=
  if 455 < delta then adaptLoop (delta / 35) (k + 36) else (delta, k)
termination_by delta
decreasing_by omega

/-- The bias after a delta, damped by 700 on the first delta and by 2 after it. -/
def adapt (delta points : Nat) (first : Bool) : Nat :=
  let d := if first then delta / 700 else delta / 2
  let (d, k) := adaptLoop (d + d / points) 0
  k + 36 * d / (d + 38)

def readDelta (bias : Nat) : Nat → Nat → Nat → List Char → Option (Nat × List Char)
  | _, _, _, [] => none
  | k, w, i, c :: rest =>
    match digitValue? c with
    | none => none
    | some d =>
      if (limit - i) / w < d then none
      else
        let t := threshold k bias
        if d < t then some (i + d * w, rest)
        else if limit / (36 - t) < w then none
        else readDelta bias (k + 36) (w * (36 - t)) (i + d * w) rest

theorem readDelta_length (bias : Nat) :
    ∀ (k w i : Nat) (l : List Char) (r : Nat × List Char),
      readDelta bias k w i l = some r → r.2.length < l.length
  | _, _, _, [], _, h => by simp [readDelta] at h
  | k, w, i, c :: rest, r, h => by
    rw [readDelta] at h
    split at h
    · simp at h
    · split at h
      · simp at h
      · dsimp only at h
        split at h
        · rw [← Option.some.inj h]
          simp
        · split at h
          · simp at h
          · have := readDelta_length bias (k + 36) _ _ rest r h
            simp only [List.length_cons]
            omega

def isScalar (n : Nat) : Bool := n < 0xD800 || (0xDFFF < n && n < 0x110000)

def insertAll (bias n i : Nat) (out : List Char) : List Char → Option (List Char)
  | [] => some out
  | c :: rest =>
    match h : readDelta bias 36 1 i (c :: rest) with
    | none => none
    | some (i', remaining) =>
      let points := out.length + 1
      if limit - n < i' / points then none
      else
        let n' := n + i' / points
        let pos := i' % points
        if isScalar n' then
          insertAll (adapt (i' - i) points (i == 0)) n' (pos + 1)
            (out.insertIdx pos (Char.ofNat n')) remaining
        else none
termination_by l => l.length
decreasing_by
  have := readDelta_length bias 36 1 i (c :: rest) (i', remaining) h
  simpa using this

/-- The basic code points (before the last `-`) and the deltas. With no `-`, or only one at
the very start, there are no basic code points and the whole text is deltas, so that a leading
`-` fails as a digit. -/
def splitBasic (cs : List Char) : List Char × List Char :=
  match cs.reverse.span (· != '-') with
  | (deltas, []) => ([], deltas.reverse)
  | (_, [_]) => ([], cs)
  | (deltas, _ :: basic) => (basic.reverse, deltas.reverse)

/-- The text a Punycode string encodes, if it is well formed: basic code points must be ASCII,
every delta complete and every inserted code point a scalar value. -/
def decode? (cs : List Char) : Option (List Char) :=
  let (basic, deltas) := splitBasic cs
  if basic.any (128 ≤ ·.toNat) then none
  else insertAll 72 128 0 basic deltas

end TunBridge.Url.Punycode
