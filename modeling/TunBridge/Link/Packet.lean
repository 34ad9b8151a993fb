namespace TunBridge

structure PacketBuffer where
  header : List UInt8
  data : List UInt8
  deriving DecidableEq, Repr

namespace PacketBuffer

def ofPayload (data : List UInt8) : PacketBuffer := ⟨[], data⟩

def size (p : PacketBuffer) : Nat := p.header.length + p.data.length

def toBytes (p : PacketBuffer) : List UInt8 := p.header ++ p.data

@[simp] theorem length_toBytes (p : PacketBuffer) : p.toBytes.length = p.size := by
  simp [toBytes, size]

end PacketBuffer

end TunBridge
