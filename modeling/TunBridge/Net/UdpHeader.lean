import TunBridge.Net.ByteOrder
/-!
UDP headers: four big-endian 16-bit fields, source port, destination port, length and
checksum, in eight bytes. A header is read from the first eight bytes of a text and ignores the
rest. A declared length fits a payload when it is at most the payload's length plus eight.
-/
namespace TunBridge

structure UdpHeader where
  srcPort : UInt16
  dstPort : UInt16
  length : UInt16
  checksum : UInt16
  deriving DecidableEq, Repr

namespace UdpHeader

def toBytes (h : UdpHeader) : List UInt8 :=
  be16 h.srcPort ++ be16 h.dstPort ++ be16 h.length ++ be16 h.checksum

def ofBytes? : List UInt8 → Option UdpHeader
  | a :: b :: c :: d :: e :: f :: g :: h :: _ => some ⟨word16 a b, word16 c d, word16 e f, word16 g h⟩
  | _ => none

def fitsPayload (h : UdpHeader) (payloadLen : Nat) : Bool := h.length.toNat ≤ payloadLen + 8

end UdpHeader

end TunBridge
