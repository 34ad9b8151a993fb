/-!
Frames of a TUN device carry bare IP packets. The version in the high nibble of the first byte
decides the network protocol number a frame is handed on with: IPv4 (`0x0800`), IPv6
(`0x86DD`), or the unknown number 0 for anything else, an empty frame included.
-/
namespace TunBridge

structure NetworkProtocol where
  number : UInt16
  deriving DecidableEq, Repr

namespace NetworkProtocol

def ipv4 : NetworkProtocol := ⟨0x0800⟩

def ipv6 : NetworkProtocol := ⟨0x86DD⟩

def unknown : NetworkProtocol := ⟨0⟩

def isKnown (p : NetworkProtocol) : Bool := p ≠ unknown

/-- The IP version of a frame: the high nibble of its first byte. -/
def ipVersion (frame : List UInt8) : Option Nat := frame.head?.map (·.toNat / 16)

def ofFrame (frame : List UInt8) : NetworkProtocol :=
  match ipVersion frame with
  | some 4 => ipv4
  | some 6 => ipv6
  | _ => unknown

theorem high_nibble_toNat (b : UInt8) : ((b &&& 0xF0) >>> 4).toNat = b.toNat / 16 := by
  have every : ∀ x : Fin 256, (x.val &&& 240) / 16 = x.val / 16 := by decide +kernel
  simp only [UInt8.toNat_shiftRight, UInt8.toNat_and, Nat.shiftRight_eq_div_pow]
  exact every ⟨b.toNat, b.toNat_lt⟩

@[simp] theorem ofFrame_nil : ofFrame [] = unknown := rfl

theorem ofFrame_cons (b : UInt8) (bs : List UInt8) :
    ofFrame (b :: bs) =
      if (b &&& 0xF0) >>> 4 = 4 then ipv4 else if (b &&& 0xF0) >>> 4 = 6 then ipv6 else unknown := by
  have nibble := high_nibble_toNat b
  generalize (b &&& 0xF0) >>> 4 = v at nibble
  simp only [ofFrame, ipVersion, List.head?_cons, Option.map_some, ← nibble]
  by_cases h4 : v = 4
  · simp [h4]
  · by_cases h6 : v = 6
    · simp [h6]
    · have n4 : v.toNat ≠ 4 := fun h => h4 (UInt8.toNat_inj.mp h)
      have n6 : v.toNat ≠ 6 := fun h => h6 (UInt8.toNat_inj.mp h)
      simp only [h4, h6, if_false]
      split <;> simp_all

end NetworkProtocol

end TunBridge
