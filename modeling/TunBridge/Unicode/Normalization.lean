import TunBridge.Unicode.CombiningClass
import TunBridge.Unicode.Decomposition
/-!
Canonical normalization to NFC (UAX 15): full decomposition, Hangul included, then each run of
non-starters sorted stably by combining class, then composition from the left of each code point
with the last starter before it, unless a code point between blocks it.
-/
namespace TunBridge.Unicode

def hangulJamo? (n : Nat) : Option (List Nat) :=
  if 0xAC00 ≤ n && n < 0xAC00 + 11172 then
    let s := n - 0xAC00
    let l := 0x1100 + s / 588
    let v := 0x1161 + s % 588 / 28
    let t := s % 28
    some (if t = 0 then [l, v] else [l, v, 0x11A7 + t])
  else none

/-- The full canonical decomposition of one code point. Decompositions nest a few deep at most;
`fuel` bounds the depth. -/
def decomposeWith : Nat → Nat → List Nat
  | 0, n => [n]
  | fuel + 1, n =>
    match hangulJamo? n with
    | some js => js
    | none =>
      match decompositionTable.find? n with
      | some parts => parts.flatMap (decomposeWith fuel)
      | none => [n]

def decompose (n : Nat) : List Nat := decomposeWith 8 n

def sortRun (run : List Nat) : List Nat :=
  run.mergeSort fun a b => combiningClass a ≤ combiningClass b

/-- Canonical ordering: each run of non-starters sorted. `run` is the run being read, latest
first. -/
def orderRuns (run : List Nat) : List Nat → List Nat
  | [] => sortRun run.reverse
  | n :: rest =>
    if combiningClass n = 0 then sortRun run.reverse ++ n :: orderRuns [] rest
    else orderRuns (n :: run) rest

def composePair? (a b : Nat) : Option Nat :=
  if 0x1100 ≤ a && a < 0x1100 + 19 && 0x1161 ≤ b && b < 0x1161 + 21 then
    some (0xAC00 + ((a - 0x1100) * 21 + (b - 0x1161)) * 28)
  else if 0xAC00 ≤ a && a < 0xAC00 + 11172 && (a - 0xAC00) % 28 = 0 && 0x11A7 < b &&
      b < 0x11A7 + 28 then
    some (a + (b - 0x11A7))
  else compositionTable.find? (pairKey a b)

/-- Canonical composition of an ordered, decomposed text. `done` is the output before the last
starter, latest first; `starter` the last starter, if any; `marks` the non-starters after it
that did not join it, latest first. -/
def composeFrom (done : List Nat) (starter : Option Nat) (marks : List Nat) :
    List Nat → List Nat
  | [] => done.reverse ++ starter.toList ++ marks.reverse
  | n :: rest =>
    let cc := combiningClass n
    let blocked := match marks with
      | [] => false
      | m :: _ => cc ≤ combiningClass m
    let joined := match starter with
      | some s => if blocked then none else composePair? s n
      | none => none
    match joined with
    | some c => composeFrom done (some c) marks rest
    | none =>
      if cc = 0 then composeFrom (marks ++ starter.toList ++ done) (some n) [] rest
      else composeFrom done starter (n :: marks) rest

def nfc (cs : List Char) : List Char :=
  (composeFrom [] none [] (orderRuns [] (cs.flatMap fun c => decompose c.toNat))).map Char.ofNat

def isNfc (cs : List Char) : Bool := nfc cs == cs

end TunBridge.Unicode
