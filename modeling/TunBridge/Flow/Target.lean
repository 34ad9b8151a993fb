import TunBridge.Net.FlowId
/-!
Flow targets: a family byte (`0x01` IPv4, `0x04` IPv6), the address's bytes and the port in
big-endian order. `decode?` checks every slice as the program does; `toSocket` reads a byte past
the end as 0 and is what a target prints.
-/
namespace TunBridge

structure Target where
  bytes : List UInt8
  deriving DecidableEq, Repr

namespace Target

def new (ip : IpAddr) (port : UInt16) : Target :=
  match ip with
  | .v4 ip => ⟨0x01 :: ip.octets ++ be16 port⟩
  | .v6 ip => ⟨0x04 :: ip.octets ++ be16 port⟩

def ofSocket (sa : SocketAddr) : Target := new sa.ip sa.port

/-- The target of a flow: the side its client addressed. -/
def ofFlow (id : FlowId) : Target := new id.localIp id.localPort

/-- The socket address a target names: the port from its last two bytes, the address from the
bytes after the family. -/
def toSocket (t : Target) : SocketAddr :=
  let b (i : Nat) : UInt8 := t.bytes.getD i 0
  let port := word16 (b (t.bytes.length - 2)) (b (t.bytes.length - 1))
  if b 0 = 0x01 then ⟨.v4 ⟨b 1, b 2, b 3, b 4⟩, port, 0⟩
  else
    let seg (i : Nat) : UInt16 := word16 (b (1 + 2 * i)) (b (2 + 2 * i))
    ⟨.v6 ⟨⟨#[seg 0, seg 1, seg 2, seg 3, seg 4, seg 5, seg 6, seg 7], rfl⟩⟩, port, 0⟩

/-- Decoding with every slice bounds-checked: `none` where a slice runs past the bytes (below two
bytes, the offset of the port wraps and no word is there either). -/
def decode? (t : Target) : Option SocketAddr := do
  let bs := t.bytes
  let port ← (slice? bs (bs.length - 2) bs.length).bind readWord16?
  let family ← bs[0]?
  let ip ← if family = 0x01 then ((slice? bs 1 5).bind Ipv4Addr.ofOctets?).map .v4
    else ((slice? bs 1 17).bind Ipv6Addr.ofOctets?).map .v6
  pure ⟨ip, port, 0⟩

def render (t : Target) : String := t.toSocket.render

def debugText (t : Target) : String := "ProxyAddr(" ++ t.render ++ ")"

/-- Decoding a target gives back the address and port it was made of, for either family. -/
theorem toSocket_new (ip : IpAddr) (port : UInt16) : (new ip port).toSocket = ⟨ip, port, 0⟩ := by
  cases ip with
  | v4 ip => simp [new, toSocket, Ipv4Addr.octets, be16]
  | v6 ip =>
    -- an IPv6 address is eight groups, each written and read back as two bytes
    obtain ⟨⟨⟨gs⟩, hgs⟩⟩ := ip
    rcases gs with _ | ⟨g0, _ | ⟨g1, _ | ⟨g2, _ | ⟨g3, _ | ⟨g4, _ | ⟨g5, _ | ⟨g6,
      _ | ⟨g7, _ | ⟨g8, gs⟩⟩⟩⟩⟩⟩⟩⟩⟩
    all_goals simp at hgs
    simp [new, toSocket, Ipv6Addr.octets, be16]

/-- On what `new` makes, every slice of the decoder is in bounds, and it gives back the address
and port. -/
theorem decode?_new (ip : IpAddr) (port : UInt16) : (new ip port).decode? = some ⟨ip, port, 0⟩ := by
  cases ip with
  | v4 ip => simp [decode?, new, slice?, Ipv4Addr.octets, Ipv4Addr.ofOctets?, be16, readWord16?]
  | v6 ip => simp [decode?, new, slice?, be16, readWord16?]

theorem new_injective {ip ip' : IpAddr} {port port' : UInt16} (h : new ip port = new ip' port') :
    ip = ip' ∧ port = port' := by
  have same := congrArg decode? h
  rw [decode?_new, decode?_new] at same
  simpa using same

@[simp] theorem toSocket_ofFlow (id : FlowId) : (ofFlow id).toSocket = id.localAddr :=
  toSocket_new id.localIp id.localPort

end Target

end TunBridge
