/-!
Hexadecimal text for bytes: two lowercase digits per byte, the high nibble first. Reading
takes digits of either case and refuses an odd count or any other character.
-/
namespace TunBridge.Hex

def digit (n : Nat) : Char :=
  if n < 10 then Char.ofNat (48 + n) else Char.ofNat (87 + n)

def upperDigit (n : Nat) : Char :=
  if n < 10 then Char.ofNat (48 + n) else Char.ofNat (55 + n)

def value? (c : Char) : Option Nat :=
  if '0' ≤ c ∧ c ≤ '9' then some (c.toNat - 48)
  else if 'a' ≤ c ∧ c ≤ 'f' then some (c.toNat - 87)
  else if 'A' ≤ c ∧ c ≤ 'F' then some (c.toNat - 55)
  else none

def byteChars (b : UInt8) : List Char := [digit (b.toNat / 16), digit (b.toNat % 16)]

def encode (bs : List UInt8) : String := String.ofList (bs.flatMap byteChars)

def decodeChars : List Char → Option (List UInt8)
  | [] => some []
  | [_] => none
  | hi :: lo :: rest => do
    let h ← value? hi
    let l ← value? lo
    let r ← decodeChars rest
    pure ((h * 16 + l).toUInt8 :: r)

def decode? (s : String) : Option (List UInt8) := decodeChars s.toList

end TunBridge.Hex
