import TunBridge.Flow.Bench
import TunBridge.Proofs.Net.UdpCodec
/-!
The UDP handler over any sequence of datagrams: malformed ones counted, the others queued as
packets for the consumer, nothing done once the stack is gone. Main statement:
`udp_handler_accounting`.
-/
namespace TunBridge

def UdpHeader.declared (header : List UInt8) : Nat :=
  (header.getD 4 0).toNat * 256 + (header.getD 5 0).toNat

namespace PacketBuffer

/-- A datagram is malformed when its header is short or declares more than it carries. -/
def Malformed (p : PacketBuffer) : Prop :=
  p.header.length < 8 ∨ p.data.length + 8 < UdpHeader.declared p.header

instance : DecidablePred Malformed := fun _ => inferInstanceAs (Decidable (_ ∨ _))

/-- How a malformed datagram is reported: the length its header declares, 0 without a header,
and the bytes it brought, header included. -/
def malformedError (p : PacketBuffer) : TunError :=
  .malformedPacket (if p.header.length < 8 then 0 else UdpHeader.declared p.header)
    (p.data.length + p.header.length)

end PacketBuffer

namespace UdpHeader

theorem length_of_ofBytes? : ∀ {bs : List UInt8} {h : UdpHeader}, ofBytes? bs = some h →
    h.length.toNat = declared bs
  | _ :: _ :: _ :: _ :: _ :: _ :: _ :: _ :: _, _, hh => by
    cases hh
    simp [declared]

end UdpHeader

namespace Bench

/-- The packets the well-formed datagrams of a sequence become, in order: each datagram's data,
addressed to the local side of its flow. -/
def forwarded (ds : List (FlowId × PacketBuffer)) : List InboundPacket :=
  (ds.filter fun d => !decide d.2.Malformed).map fun d =>
    InboundPacket.new (Target.ofFlow d.1) ⟨d.1, d.2.data⟩

theorem forwarded_cons (d : FlowId × PacketBuffer) (ds : List (FlowId × PacketBuffer)) :
    forwarded (d :: ds) = forwarded [d] ++ forwarded ds := by
  by_cases h : d.2.Malformed <;> simp [forwarded, h]

def handleAll (b : Bench) : List (FlowId × PacketBuffer) → Bench × List Bool
  | [] => (b, [])
  | (flow, p) :: ds =>
    let (b, handled) := b.udpHandler flow p
    let (b, rest) := handleAll b ds
    (b, handled :: rest)

def absorb (b : Bench) (n : Nat) (kept : List InboundPacket) : Bench :=
  { b with stack.malformed := b.stack.malformed + UInt64.ofNat n, udp.queue := b.udp.queue ++ kept }

section Absorb

variable (b : Bench) (n m : Nat) (kept more : List InboundPacket)

@[simp] theorem absorb_malformed :
    (b.absorb n kept).stack.malformed = b.stack.malformed + UInt64.ofNat n := rfl
@[simp] theorem absorb_queue : (b.absorb n kept).udp.queue = b.udp.queue ++ kept := rfl
@[simp] theorem absorb_handoff : (b.absorb n kept).handoff = b.handoff := rfl
@[simp] theorem absorb_udp_listening : (b.absorb n kept).udp.listening = b.udp.listening := rfl

theorem absorb_zero : b.absorb 0 [] = b := by
  simp [absorb]

theorem absorb_absorb : (b.absorb n kept).absorb m more = b.absorb (n + m) (kept ++ more) := by
  simp [absorb, UInt64.ofNat_add, UInt64.add_assoc]

theorem alive_absorb {b : Bench} (hb : b.alive = true) : (b.absorb n kept).alive = true := by
  simp only [alive, absorb, Bool.or_eq_true, Bool.not_eq_true', List.isEmpty_eq_false_iff] at hb ⊢
  rcases hb with (held | queued) | received
  · exact .inl (.inl held)
  · exact .inl (.inr (by simp [queued]))
  · exact .inr received

end Absorb

theorem handleDatagram_malformed (b : Bench) (flow : FlowId) {p : PacketBuffer}
    (h : p.Malformed) : b.handleDatagram flow p = (b.absorb 1 [], .error p.malformedError) := by
  have counted : b.absorb 1 [] = { b with stack.malformed := b.stack.malformed + 1 } := by
    simp [absorb]
  rw [counted]
  cases hh : UdpHeader.ofBytes? p.header with
  | none =>
    have short := (UdpHeader.ofBytes?_eq_none_iff _).mp hh
    simp [handleDatagram, hh, PacketBuffer.malformedError, short]
  | some hd =>
    have long : ¬ p.header.length < 8 := fun short =>
      absurd ((UdpHeader.ofBytes?_eq_none_iff _).mpr short) (by simp [hh])
    have declared := UdpHeader.length_of_ofBytes? hh
    -- with a full header, malformed means the declared length does not fit
    have unfit : hd.fitsPayload p.data.length = false := by
      simp only [PacketBuffer.Malformed, long, false_or] at h
      simp only [UdpHeader.fitsPayload, decide_eq_false_iff_not, declared]
      omega
    simp [handleDatagram, hh, unfit, PacketBuffer.malformedError, long, declared]

theorem handleDatagram_wellFormed (b : Bench) (flow : FlowId) {p : PacketBuffer}
    (h : ¬ p.Malformed) :
    b.handleDatagram flow p =
      (b.absorb 0 (if b.udp.accepts b.handoff then forwarded [(flow, p)] else []), .ok ()) := by
  have long : ¬ p.header.length < 8 := fun short => h (.inl short)
  obtain ⟨hd, hh⟩ := Option.ne_none_iff_exists'.mp
    (mt (UdpHeader.ofBytes?_eq_none_iff _).mp long)
  have declared := UdpHeader.length_of_ofBytes? hh
  have fits : hd.fitsPayload p.data.length = true := by
    simp only [PacketBuffer.Malformed, long, false_or, Nat.not_lt] at h
    simp only [UdpHeader.fitsPayload, decide_eq_true_eq, declared]
    exact h
  by_cases accepts : b.udp.accepts b.handoff
  · simp [handleDatagram, hh, fits, Channel.handOff_fst, accepts, absorb, forwarded, h]
  · simp [handleDatagram, hh, fits, Channel.handOff_fst, accepts, absorb]

theorem handleDatagram_report (b : Bench) (flow : FlowId) (p : PacketBuffer) :
    (b.handleDatagram flow p).2 = if p.Malformed then .error p.malformedError else .ok () := by
  by_cases h : p.Malformed
  · rw [handleDatagram_malformed b flow h, if_pos h]
  · rw [handleDatagram_wellFormed b flow h, if_neg h]

/-- One call on a live stack: the datagram is counted if malformed, and otherwise its packet is
queued or dropped, queued for sure under blocking hand-off to a listening consumer. -/
theorem udpHandler_live {b : Bench} (hb : b.alive = true) (flow : FlowId) (p : PacketBuffer) :
    ∃ kept, kept.Sublist (forwarded [(flow, p)]) ∧
      b.udpHandler flow p = (b.absorb (if p.Malformed then 1 else 0) kept, true) ∧
      (b.handoff = .block → b.udp.listening = true → kept = forwarded [(flow, p)]) := by
  by_cases h : p.Malformed
  · refine ⟨[], List.nil_sublist _, ?_, fun _ _ => by simp [forwarded, h]⟩
    simp [udpHandler, hb, handleDatagram_malformed b flow h, h]
  · refine ⟨if b.udp.accepts b.handoff then forwarded [(flow, p)] else [], ?_, ?_, ?_⟩
    · split
      · exact List.Sublist.refl _
      · exact List.nil_sublist _
    · simp [udpHandler, hb, handleDatagram_wellFormed b flow h, h]
    · intro block listening
      simp [Channel.accepts, block, listening]

/-- Over any sequence on a live stack: the malformed datagrams counted, and packets of the others
queued, each at most once and in order, all of them under blocking hand-off to a listening
consumer. -/
theorem handleAll_live {b : Bench} (hb : b.alive = true) (ds : List (FlowId × PacketBuffer)) :
    ∃ kept, kept.Sublist (forwarded ds) ∧
      b.handleAll ds =
        (b.absorb (ds.countP fun d => decide d.2.Malformed) kept, List.replicate ds.length true) ∧
      (b.handoff = .block → b.udp.listening = true → kept = forwarded ds) := by
  induction ds generalizing b with
  | nil => exact ⟨[], List.Sublist.slnil, by simp [handleAll, absorb_zero], fun _ _ => rfl⟩
  | cons d ds ih =>
    obtain ⟨flow, p⟩ := d
    obtain ⟨first, hfirst, hstep, hblock₁⟩ := udpHandler_live hb flow p
    -- the stack is still alive for the rest of the sequence
    obtain ⟨rest, hrest, hrun, hblock⟩ := ih (alive_absorb (if p.Malformed then 1 else 0) first hb)
    refine ⟨first ++ rest, ?_, ?_, ?_⟩
    · rw [forwarded_cons]
      exact hfirst.append hrest
    · simp only [handleAll, hstep, hrun, absorb_absorb, List.countP_cons, List.length_cons,
        List.replicate_succ]
      by_cases h : p.Malformed <;> simp [h, Nat.add_comm]
    · intro block listening
      rw [forwarded_cons, hblock₁ block listening,
        hblock (by simpa using block) (by simpa using listening)]

theorem handleAll_dead {b : Bench} (hb : b.alive = false) (ds : List (FlowId × PacketBuffer)) :
    b.handleAll ds = (b, List.replicate ds.length true) := by
  induction ds with
  | nil => rfl
  | cons d ds ih =>
    obtain ⟨flow, p⟩ := d
    simp [handleAll, udpHandler, hb, ih, List.replicate_succ]

theorem udp_handler_accounting (b : Bench) (ds : List (FlowId × PacketBuffer)) :
    (b.handleAll ds).2 = List.replicate ds.length true ∧
    (b.alive = true → ∃ kept, kept.Sublist (forwarded ds) ∧
      (b.handleAll ds).1 = b.absorb (ds.countP fun d => decide d.2.Malformed) kept ∧
      (b.handoff = .block → b.udp.listening = true → kept = forwarded ds)) ∧
    (b.alive = false → (b.handleAll ds).1 = b) ∧
    ∀ flow p, (b.handleDatagram flow p).2 = if p.Malformed then .error p.malformedError else .ok () := by
  refine ⟨?_, ?_, fun hb => by rw [handleAll_dead hb], handleDatagram_report b⟩
  · cases hb : b.alive
    · rw [handleAll_dead hb]
    · obtain ⟨_, -, hrun, -⟩ := handleAll_live hb ds
      rw [hrun]
  · intro hb
    obtain ⟨kept, hkept, hrun, hblock⟩ := handleAll_live hb ds
    exact ⟨kept, hkept, by rw [hrun], hblock⟩

end Bench

end TunBridge
