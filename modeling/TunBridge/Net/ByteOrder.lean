/-!
Sixteen-bit words in network byte order, and reading a byte string with its bounds checked as a
program does: a slice or a word read fails (`none`) where the program would stop.
-/
namespace TunBridge

def be16 (n : UInt16) : List UInt8 := [(n >>> 8).toUInt8, n.toUInt8]

def word16 (hi lo : UInt8) : UInt16 := (hi.toUInt16 <<< 8) ||| lo.toUInt16

@[simp] theorem toNat_word16 (hi lo : UInt8) : (word16 hi lo).toNat = hi.toNat * 256 + lo.toNat := by
  have high : (hi.toUInt16 <<< 8).toNat = hi.toNat <<< 8 := by
    have := hi.toNat_lt
    rw [UInt16.toNat_shiftLeft, UInt8.toNat_toUInt16, Nat.shiftLeft_eq, Nat.shiftLeft_eq]
    simp only [UInt16.reduceToNat, Nat.reduceMod, Nat.reducePow]
    omega
  -- the low byte fills the eight bits the shift left empty, so the `or` is a sum
  rw [word16, UInt16.toNat_or, high, UInt8.toNat_toUInt16,
    ← Nat.shiftLeft_add_eq_or_of_lt lo.toNat_lt, Nat.shiftLeft_eq]

@[simp] theorem word16_be16 (n : UInt16) : word16 (n >>> 8).toUInt8 n.toUInt8 = n := by
  apply UInt16.toNat_inj.mp
  have := n.toNat_lt
  rw [toNat_word16, UInt16.toNat_toUInt8, UInt16.toNat_toUInt8, UInt16.toNat_shiftRight,
    Nat.shiftRight_eq_div_pow]
  simp only [UInt16.reduceToNat, Nat.reduceMod, Nat.reducePow]
  omega

@[simp] theorem length_be16 (n : UInt16) : (be16 n).length = 2 := rfl

theorem toNat_be16 (n : UInt16) :
    (be16 n).map UInt8.toNat = [n.toNat / 256, n.toNat % 256] := by
  have := n.toNat_lt
  simp [be16, UInt16.toNat_shiftRight, Nat.shiftRight_eq_div_pow]
  omega

@[simp] theorem length_flatMap_be16 (ns : List UInt16) : (ns.flatMap be16).length = 2 * ns.length := by
  induction ns with
  | nil => rfl
  | cons n ns ih => simp [be16, ih]; omega

def words16 : List UInt8 → List UInt16
  | hi :: lo :: rest => word16 hi lo :: words16 rest
  | _ => []

@[simp] theorem words16_flatMap_be16 (ns : List UInt16) : words16 (ns.flatMap be16) = ns := by
  induction ns with
  | nil => rfl
  | cons n ns ih => simp [be16, words16, ih]

/-- The bytes from `i` up to `j`, as the slice `[i..j]` takes them. -/
def slice? (bs : List UInt8) (i j : Nat) : Option (List UInt8) :=
  if i ≤ j ∧ j ≤ bs.length then some ((bs.drop i).take (j - i)) else none

/-- The word at the front of a byte string, as `read_u16` reads it. -/
def readWord16? : List UInt8 → Option UInt16
  | hi :: lo :: _ => some (word16 hi lo)
  | _ => none

@[simp] theorem readWord16?_be16 (n : UInt16) : readWord16? (be16 n) = some n := by
  simp [readWord16?, be16]

end TunBridge
