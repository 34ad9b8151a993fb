import TunBridge.Flow.Target
/-!
The wire format of flow targets, and that decoding stays within the bytes and gives back the
address and port. Main statement: `Target.wire_format`.
-/
namespace TunBridge

namespace Target

theorem bytes_new (ip : IpAddr) (port : UInt16) :
    (new ip port).bytes.map UInt8.toNat =
        (if ip.isV4 then 0x01 else 0x04) :: ip.octets.map UInt8.toNat ++
          [port.toNat / 256, port.toNat % 256] ∧
      (new ip port).bytes.length = if ip.isV4 then 7 else 19 := by
  have port_bytes := toNat_be16 port
  cases ip with
  | v4 ip => simp [new, IpAddr.isV4, IpAddr.octets, Ipv4Addr.octets, port_bytes]
  | v6 ip => simp [new, IpAddr.isV4, IpAddr.octets, port_bytes]

theorem decode?_ofSocket (s : SocketAddr) : (ofSocket s).decode? = some s.withoutScope :=
  decode?_new s.ip s.port

theorem toSocket_ofSocket (s : SocketAddr) : (ofSocket s).toSocket = s.withoutScope :=
  toSocket_new s.ip s.port

/-- Every target a program can hold is made by `new` from some address and port: for each, the
encoding is the family byte, the address's octets and the port in network order; decoding stays
within the bytes and gives back the address and port, as does the decoding a target prints;
encoding is injective; encoding the parts of a decoded target gives back the target; and a socket
address's target decodes, displays and shows in debugging output as that address with its scope
dropped. -/
theorem wire_format :
    (∀ (ip : IpAddr) (port : UInt16),
      (new ip port).bytes.map UInt8.toNat =
          (if ip.isV4 then 0x01 else 0x04) :: ip.octets.map UInt8.toNat ++
            [port.toNat / 256, port.toNat % 256] ∧
        (new ip port).bytes.length = (if ip.isV4 then 7 else 19) ∧
        (new ip port).decode? = some ⟨ip, port, 0⟩ ∧ (new ip port).toSocket = ⟨ip, port, 0⟩) ∧
    (∀ ip port ip' port', new ip port = new ip' port' → ip = ip' ∧ port = port') ∧
    (∀ x, (∃ ip port, x = new ip port) → new x.toSocket.ip x.toSocket.port = x) ∧
    ∀ s : SocketAddr, (ofSocket s).decode? = some s.withoutScope ∧
      (ofSocket s).toSocket = s.withoutScope ∧
      (ofSocket s).render = s.withoutScope.render ∧
      (ofSocket s).debugText = "ProxyAddr(" ++ s.withoutScope.render ++ ")" := by
  refine ⟨fun ip port => ⟨(bytes_new ip port).1, (bytes_new ip port).2, decode?_new ip port,
    toSocket_new ip port⟩, fun _ _ _ _ h => new_injective h, ?_, fun s => ?_⟩
  · rintro x ⟨ip, port, rfl⟩
    rw [toSocket_new]
  · have decoded := toSocket_ofSocket s
    exact ⟨decode?_ofSocket s, decoded, by rw [render, decoded],
      by rw [debugText, render, decoded]⟩

end Target

end TunBridge
