import TunBridge.Proofs.Flow.Datagram
/-!
Which side of a flow each hand-off names: connections and packets are addressed to the side the
client wrote to, and a reply to a packet goes to the client (`Directed`). Main statement:
`flow_direction`.
-/
namespace TunBridge

/-- What a reply shows a consumer agrees on direction: a connection's target decodes to the local
side of its endpoint's flow; a packet's target is made of its flow's local address and port, the
address it carries and its destination are that local side, and its client is the remote side. -/
def BenchReply.Directed : BenchReply → Prop
  | .conn _ target e => target.toSocket = e.flow.localAddr
  | .packet _ item =>
    item.target = Target.new item.packet.flow.localIp item.packet.flow.localPort ∧
      item.udpAddr = item.packet.flow.localAddr ∧
      item.packet.destination = item.packet.flow.localAddr ∧
      item.packet.localAddr = item.packet.flow.remoteAddr
  | _ => True

theorem Channel.take_some {α : Type} {c d : Channel α} {x : α} (h : c.take = (some x, d)) :
    c.queue = x :: d.queue := by
  unfold Channel.take at h
  split at h
  · cases h
  · rename_i y ys hq
    cases h
    exact hq

theorem TcpEndpoint.flow_of_write {e e' : TcpEndpoint} {data : List UInt8} {n : Nat}
    (h : e.write data = .ok (n, e')) : e'.flow = e.flow := by
  unfold TcpEndpoint.write at h
  split at h
  · cases h
  · cases h
    rfl

namespace Bench

def flowAt (b : Bench) (k : Nat) : Option FlowId := b.endpoints[k]?.map (·.flow)

def KeepsFlows (b b' : Bench) : Prop := ∀ k f, b.flowAt k = some f → b'.flowAt k = some f

section Release

variable (b : Bench) (k : Nat) (c : Conn) (cs : List Conn)

theorem queues_release : (b.release c).tcp = b.tcp ∧ (b.release c).udp = b.udp := by
  unfold Bench.release
  split <;> exact ⟨rfl, rfl⟩

theorem queues_releaseAll : (b.releaseAll cs).tcp = b.tcp ∧ (b.releaseAll cs).udp = b.udp := by
  induction cs generalizing b with
  | nil => exact ⟨rfl, rfl⟩
  | cons c cs ih =>
    obtain ⟨tcp, udp⟩ := ih (b.release c)
    exact ⟨tcp.trans (queues_release b c).1, udp.trans (queues_release b c).2⟩

end Release

namespace KeepsFlows

variable {b b' b'' : Bench}

theorem refl (b : Bench) : KeepsFlows b b := fun _ _ h => h

theorem trans (h : KeepsFlows b b') (h' : KeepsFlows b' b'') : KeepsFlows b b'' :=
  fun k f hk => h' k f (h k f hk)

theorem of_endpoints (h : b'.endpoints = b.endpoints) : KeepsFlows b b' := by
  intro k f hk
  rwa [flowAt, h]

theorem modify (b : Bench) (k : Nat) {g : TcpEndpoint → TcpEndpoint}
    (hg : ∀ e, (g e).flow = e.flow) :
    KeepsFlows b { b with endpoints := b.endpoints.modify k g } := by
  intro j f hj
  simp only [flowAt, List.getElem?_modify] at hj ⊢
  split <;> simp_all

theorem set {k : Nat} {e e' : TcpEndpoint} (he : b.endpoints[k]? = some e)
    (hflow : e'.flow = e.flow) :
    KeepsFlows b { b with endpoints := b.endpoints.set k e' } := by
  have inside : k < b.endpoints.length := (List.getElem?_eq_some_iff.mp he).1
  intro j f hj
  simp only [flowAt, List.getElem?_set] at hj ⊢
  split
  · rename_i same
    subst same
    simp_all
  · exact hj

theorem push (b : Bench) (e : TcpEndpoint) :
    KeepsFlows b { b with endpoints := b.endpoints ++ [e] } := by
  intro k f hk
  obtain ⟨e, he, -⟩ := Option.map_eq_some_iff.mp hk
  have inside : k < b.endpoints.length := (List.getElem?_eq_some_iff.mp he).1
  simp only [flowAt] at hk ⊢
  rw [List.getElem?_append_left inside]
  exact hk

theorem closeEndpoint (b : Bench) (k : Nat) : KeepsFlows b (b.closeEndpoint k) :=
  modify b k fun _ => rfl

theorem release (b : Bench) (c : Conn) : KeepsFlows b (b.release c) := by
  unfold Bench.release
  split
  · exact refl b
  · exact closeEndpoint b c.endpoint

theorem releaseAll (b : Bench) (cs : List Conn) : KeepsFlows b (b.releaseAll cs) := by
  induction cs generalizing b with
  | nil => exact refl b
  | cons c cs ih => exact (release b c).trans (ih (b.release c))

end KeepsFlows

/-- What the consumers' queues hold agrees on direction: a queued connection is addressed to its
endpoint's local side, and a queued packet to its datagram's destination, with the address it
carries decoded from that target. -/
structure Directed (b : Bench) : Prop where
  tcp : ∀ item ∈ b.tcp.queue, ∃ f, b.flowAt item.conn.endpoint = some f ∧
    item.target = Target.ofFlow f
  udp : ∀ item ∈ b.udp.queue, item = InboundPacket.new (Target.ofFlow item.packet.flow) item.packet

namespace Directed

variable {b b' : Bench}

theorem of_sub (h : b.Directed) (tcp : ∀ x ∈ b'.tcp.queue, x ∈ b.tcp.queue)
    (udp : ∀ x ∈ b'.udp.queue, x ∈ b.udp.queue) (flows : KeepsFlows b b') : b'.Directed where
  tcp item hitem := by
    obtain ⟨f, hf, htarget⟩ := h.tcp item (tcp item hitem)
    exact ⟨f, flows _ _ hf, htarget⟩
  udp item hitem := h.udp item (udp item hitem)

theorem of_frame (h : b.Directed) (tcp : b'.tcp.queue = b.tcp.queue)
    (udp : b'.udp.queue = b.udp.queue) (flows : KeepsFlows b b') : b'.Directed :=
  h.of_sub (fun _ hx => tcp ▸ hx) (fun _ hx => udp ▸ hx) flows

theorem handOff_tcp (h : b.Directed) {k : Nat} {f : FlowId} (hk : b.flowAt k = some f)
    (p : Handoff) (closed : Bool) :
    { b with tcp := (b.tcp.handOff p ⟨Target.ofFlow f, ⟨k, closed⟩⟩).1 }.Directed where
  tcp item hitem := by
    simp only [Channel.handOff_fst, List.mem_append] at hitem
    rcases hitem with old | new
    · exact h.tcp item old
    · split at new
      · simp only [List.mem_singleton] at new
        subst new
        exact ⟨f, hk, rfl⟩
      · simp at new
  udp := h.udp

theorem absorb (h : b.Directed) (n : Nat) {kept : List InboundPacket}
    (hkept : ∀ x ∈ kept, x = InboundPacket.new (Target.ofFlow x.packet.flow) x.packet) :
    (b.absorb n kept).Directed where
  tcp := h.tcp
  udp item hitem := by
    rcases List.mem_append.mp hitem with old | new
    · exact h.udp item old
    · exact hkept item new

end Directed

/-- A SYN keeps the queues directed: the connection it hands over is addressed to the local side
of the endpoint made for it. -/
theorem Directed.handleRequest {b : Bench} (h : b.Directed) (flow : FlowId)
    (offered : Option EndpointSpec) (failure : String) :
    (b.handleRequest flow offered failure).1.Directed := by
  cases offered with
  | none => exact h
  | some spec =>
    -- the new endpoint is appended, so every older flow stays where it was
    let b₁ := { b with endpoints := b.endpoints ++ [spec.build flow] }
    have h₁ : b₁.Directed := h.of_frame rfl rfl (KeepsFlows.push b _)
    have hk : b₁.flowAt b.endpoints.length = some (spec.build flow).flow := by
      simp [b₁, flowAt]
    simp only [Bench.handleRequest]
    split
    · exact h₁.of_frame rfl rfl (KeepsFlows.closeEndpoint b₁ _)
    · split
      · rename_i ch hoff
        have := h₁.handOff_tcp hk b₁.handoff false
        simp only [b₁] at hoff this
        rw [hoff] at this
        exact this
      · exact h₁.of_frame rfl rfl (KeepsFlows.closeEndpoint b₁ _)

theorem forwarded_directed (ds : List (FlowId × PacketBuffer)) :
    ∀ x ∈ forwarded ds, x = InboundPacket.new (Target.ofFlow x.packet.flow) x.packet := by
  intro x hx
  obtain ⟨d, -, rfl⟩ := List.mem_map.mp hx
  rfl

theorem Directed.udpHandler {b : Bench} (h : b.Directed) (flow : FlowId) (p : PacketBuffer) :
    (b.udpHandler flow p).1.Directed := by
  cases hb : b.alive
  · simpa [Bench.udpHandler, hb] using h
  · obtain ⟨kept, hkept, hstep, -⟩ := udpHandler_live hb flow p
    rw [hstep]
    exact h.absorb _ fun x hx => forwarded_directed _ x (hkept.subset hx)

theorem liveConn_endpoint {b : Bench} {i : Nat} {c : Conn} {e : TcpEndpoint}
    (h : b.liveConn i = .ok (c, e)) : b.endpoints[c.endpoint]? = some e := by
  unfold liveConn at h
  split at h
  · cases h
  · cases h
  · split at h
    · cases h
    · cases h
      assumption

theorem Directed.withConn {b : Bench} (h : b.Directed) {i : Nat}
    {f : Conn → TcpEndpoint → Bench × BenchReply}
    (hf : ∀ c e, b.endpoints[c.endpoint]? = some e → (f c e).1.Directed ∧ (f c e).2.Directed) :
    (b.withConn i f).1.Directed ∧ (b.withConn i f).2.1.Directed := by
  unfold Bench.withConn
  split
  · exact ⟨h, trivial⟩
  · rename_i c e hlive
    exact hf c e (liveConn_endpoint hlive)

theorem Directed.recvTcp {b : Bench} (h : b.Directed) :
    (b.step .recvTcp).1.Directed ∧ (b.step .recvTcp).2.1.Directed := by
  simp only [Bench.step]
  split
  · exact ⟨h, trivial⟩
  · split
    · exact ⟨h, trivial⟩
    · rename_i item ch htake
      have hq := Channel.take_some htake
      obtain ⟨f, hf, htarget⟩ := h.tcp item (by simp [hq])
      split
      · exact ⟨h, trivial⟩
      · rename_i e he
        refine ⟨h.of_sub (fun x hx => by simp [hq, hx]) (fun _ hx => hx) (.of_endpoints rfl), ?_⟩
        -- the endpoint found is the one the target was made for
        have same : f = e.flow := by simpa [flowAt, he] using hf.symm
        show item.target.toSocket = e.flow.localAddr
        rw [htarget, same, Target.toSocket_ofFlow]

theorem Directed.recvUdp {b : Bench} (h : b.Directed) :
    (b.step .recvUdp).1.Directed ∧ (b.step .recvUdp).2.1.Directed := by
  simp only [Bench.step]
  split
  · exact ⟨h, trivial⟩
  · split
    · exact ⟨h, trivial⟩
    · rename_i item ch htake
      have hq := Channel.take_some htake
      have hitem := h.udp item (by simp [hq])
      refine ⟨h.of_sub (fun _ hx => hx) (fun x hx => by simp [hq, hx]) (.of_endpoints rfl), ?_⟩
      have htarget : item.target = Target.ofFlow item.packet.flow :=
        congrArg InboundPacket.target hitem
      have haddr : item.udpAddr = (Target.ofFlow item.packet.flow).toSocket :=
        congrArg InboundPacket.udpAddr hitem
      exact ⟨htarget, haddr.trans (Target.toSocket_ofFlow _), rfl, rfl⟩

theorem Directed.step {b : Bench} (h : b.Directed) (s : BenchStep) :
    (b.step s).1.Directed ∧ (b.step s).2.1.Directed := by
  cases s with
  | syn flow offered failure => exact ⟨h.handleRequest flow offered failure, trivial⟩
  | recvTcp => exact h.recvTcp
  | tcpRead i len => exact h.withConn fun _ _ he => ⟨h.of_frame rfl rfl (.set he rfl), trivial⟩
  | tcpWrite i data =>
    refine h.withConn fun c e he => ?_
    cases hw : e.write data with
    | ok r => exact ⟨h.of_frame rfl rfl (.set he (TcpEndpoint.flow_of_write hw)), trivial⟩
    | error err => exact ⟨h, trivial⟩
  | tcpFlush i => exact h.withConn fun _ _ _ => ⟨h, trivial⟩
  | tcpClose i =>
    refine h.withConn fun c e _ => ?_
    cases c.closed
    · exact ⟨h.of_frame rfl rfl ((KeepsFlows.closeEndpoint b _).trans (.of_endpoints rfl)), trivial⟩
    · exact ⟨h, trivial⟩
  | tcpInfo i => exact h.withConn fun _ _ _ => ⟨h, trivial⟩
  | tcpDrop i =>
    simp only [Bench.step]
    split
    · exact ⟨h, trivial⟩
    · exact ⟨h, trivial⟩
    · rename_i c _
      have queues := queues_release b c
      exact ⟨h.of_frame (by simp [queues]) (by simp [queues])
        ((KeepsFlows.release b c).trans (.of_endpoints rfl)), trivial⟩
  | endpoints => exact ⟨h, trivial⟩
  | datagram flow p => exact ⟨h.udpHandler flow p, trivial⟩
  | recvUdp => exact h.recvUdp
  | udpWriteBack i data source =>
    simp only [Bench.step]
    split
    · exact ⟨h, trivial⟩
    · split
      · exact ⟨h.of_frame rfl rfl (.of_endpoints rfl), trivial⟩
      · exact ⟨h, trivial⟩
  | udpDrop i =>
    simp only [Bench.step]
    split
    · exact ⟨h, trivial⟩
    · exact ⟨h, trivial⟩
    · exact ⟨h.of_frame rfl rfl (.of_endpoints rfl), trivial⟩
  | sent => exact ⟨h, trivial⟩
  | malformed => exact ⟨h, trivial⟩
  | stackClose => exact ⟨h.of_frame rfl rfl (.of_endpoints rfl), trivial⟩
  | stackFailSend e => exact ⟨h.of_frame rfl rfl (.of_endpoints rfl), trivial⟩
  | dropStack =>
    simp only [Bench.step]
    split
    · exact ⟨h.of_frame rfl rfl (.of_endpoints rfl), trivial⟩
    · exact ⟨h, trivial⟩
  | dropTcpConsumer =>
    simp only [Bench.step]
    split
    · exact ⟨h, trivial⟩
    · -- the queue is emptied, and closing the dropped connections keeps every flow
      have queues := queues_releaseAll b (b.tcp.hangUp.1.map (·.conn))
      refine ⟨h.of_sub (fun x hx => by simp [Channel.hangUp] at hx)
        (fun x hx => by simpa [queues] using hx)
        ((KeepsFlows.releaseAll b _).trans (.of_endpoints rfl)), trivial⟩
  | dropUdpConsumer =>
    simp only [Bench.step]
    split
    · exact ⟨h, trivial⟩
    · exact ⟨h.of_sub (fun _ hx => hx) (fun x hx => by simp [Channel.hangUp] at hx)
        (.of_endpoints rfl), trivial⟩

/-- The benches some run of steps reaches from a new bench. -/
inductive Reachable : Bench → Prop
  | create (config : TunConfig) (tcpCapacity udpCapacity : Option Nat) {b : Bench} :
      Bench.create config tcpCapacity udpCapacity = .ok b → Reachable b
  | step {b : Bench} (s : BenchStep) : Reachable b → Reachable (b.step s).1

theorem Directed.create {config : TunConfig} {tcpCapacity udpCapacity : Option Nat} {b : Bench}
    (h : Bench.create config tcpCapacity udpCapacity = .ok b) : b.Directed := by
  unfold Bench.create at h
  split at h <;> cases h <;> exact ⟨by simp, by simp⟩

theorem Reachable.directed {b : Bench} (h : b.Reachable) : b.Directed := by
  induction h with
  | create _ _ _ hnew => exact .create hnew
  | step s _ ih => exact (ih.step s).1

/-- Writing back on a received packet sends through the stack once: either the stack records one
datagram, from the given source or else the packet's destination, to the packet's client, and the
reply is its length, or the stack refuses and nothing changes. -/
theorem step_udpWriteBack {b : Bench} {i : Nat} {d : Datagram} (hd : b.livePacket i = .ok d)
    (data : List UInt8) (source : Option SocketAddr) :
    b.step (.udpWriteBack i data source) =
        ({ b with
            stack.sent := b.stack.sent ++ [⟨source.getD d.flow.localAddr, d.flow.remoteAddr, data⟩] },
          .count data.length, []) ∨
      ∃ e, b.step (.udpWriteBack i data source) = (b, .stackError e, []) := by
  -- the stack refuses when closed, then when told to fail; otherwise it records the send
  cases closed : b.stack.closed
  · cases failing : b.stack.sendError with
    | none => exact .inl (by simp [Bench.step, hd, Datagram.writeBack, MemStack.sendUdp, closed,
        failing, Datagram.destination, Datagram.localAddr])
    | some e =>
      exact .inr ⟨e, by simp [Bench.step, hd, Datagram.writeBack, MemStack.sendUdp, closed, failing]⟩
  · exact .inr ⟨.closed, by simp [Bench.step, hd, Datagram.writeBack, MemStack.sendUdp, closed]⟩

theorem flow_direction {b : Bench} (hb : b.Reachable) (s : BenchStep) :
    (∀ id : FlowId, (Target.ofFlow id).toSocket = id.localAddr) ∧
    (b.step s).2.1.Directed ∧
    ∀ i d data source, b.livePacket i = .ok d →
      b.step (.udpWriteBack i data source) =
          ({ b with stack.sent := b.stack.sent ++ [⟨source.getD d.flow.localAddr, d.flow.remoteAddr, data⟩] },
            .count data.length, []) ∨
        ∃ e, b.step (.udpWriteBack i data source) = (b, .stackError e, []) :=
  ⟨Target.toSocket_ofFlow, (hb.directed.step s).2,
    fun _ _ data source hd => step_udpWriteBack hd data source⟩

def after (b : Bench) : List BenchStep → Bench
  | [] => b
  | s :: ss => (b.step s).1.after ss

theorem Reachable.after {b : Bench} (h : b.Reachable) (ss : List BenchStep) :
    (b.after ss).Reachable := by
  induction ss generalizing b with
  | nil => exact h
  | cons s ss ih => exact ih (h.step s)

/-- A bench with traffic on flows whose two sides differ: a SYN from `10.0.0.2:51000` to
`10.0.0.1:80` queues a connection, a datagram from `[2001:db8::7]:5353` to `[2001:db8::53]:53` is
received, and a datagram from `10.0.0.2:40000` to `8.8.4.4:53` waits in the queue. The connection
and the packet handed over are addressed to the sides the clients wrote to, and a reply on the
received packet leaves from `[2001:db8::53]:53` for `[2001:db8::7]:5353`. -/
theorem flow_direction_received :
    ∃ b : Bench, b = after { handoff := .block, tcp := {}, udp := {} }
        [.syn ⟨.v4 ⟨10, 0, 0, 1⟩, 80, .v4 ⟨10, 0, 0, 2⟩, 51000⟩ (some {}) "",
          .datagram ⟨.v6 ⟨#v[0x2001, 0xdb8, 0, 0, 0, 0, 0, 0x53]⟩, 53,
            .v6 ⟨#v[0x2001, 0xdb8, 0, 0, 0, 0, 0, 7]⟩, 5353⟩ ⟨[0x14, 0xe9, 0, 53, 0, 10, 0, 0], [1, 2]⟩,
          .recvUdp,
          .datagram ⟨.v4 ⟨8, 8, 4, 4⟩, 53, .v4 ⟨10, 0, 0, 2⟩, 40000⟩
            ⟨[0x9c, 0x40, 0, 53, 0, 9, 0, 0], [3]⟩] ∧
      b.Reachable ∧
      (b.step .recvTcp).2.1 = .conn 0 ⟨[1, 10, 0, 0, 1, 0, 80]⟩
        (EndpointSpec.build {} ⟨.v4 ⟨10, 0, 0, 1⟩, 80, .v4 ⟨10, 0, 0, 2⟩, 51000⟩) ∧
      (b.step .recvUdp).2.1 = .packet 1 ⟨⟨[1, 8, 8, 4, 4, 0, 53]⟩, ⟨.v4 ⟨8, 8, 4, 4⟩, 53, 0⟩,
        ⟨⟨.v4 ⟨8, 8, 4, 4⟩, 53, .v4 ⟨10, 0, 0, 2⟩, 40000⟩, [3]⟩⟩ ∧
      b.step (.udpWriteBack 0 [9] none) =
        ({ b with stack.sent := [⟨⟨.v6 ⟨#v[0x2001, 0xdb8, 0, 0, 0, 0, 0, 0x53]⟩, 53, 0⟩,
          ⟨.v6 ⟨#v[0x2001, 0xdb8, 0, 0, 0, 0, 0, 7]⟩, 5353, 0⟩, [9]⟩] }, .count 1, []) ∧
      (b.step .recvTcp).2.1.Directed ∧
      ((∀ id : FlowId, (Target.ofFlow id).toSocket = id.localAddr) ∧
        (b.step .recvUdp).2.1.Directed ∧
        ∀ i d data source, b.livePacket i = .ok d →
          b.step (.udpWriteBack i data source) =
              ({ b with stack.sent := b.stack.sent ++
                  [⟨source.getD d.flow.localAddr, d.flow.remoteAddr, data⟩] },
                .count data.length, []) ∨
            ∃ e, b.step (.udpWriteBack i data source) = (b, .stackError e, [])) := by
  -- every bench a run of steps leads to from the new bench is reachable
  have reach := fun ss => (Reachable.create {} none none rfl).after ss
  exact ⟨_, rfl, reach _, rfl, rfl, rfl, (flow_direction (reach _) .recvTcp).2.1,
    flow_direction (reach _) .recvUdp⟩

end Bench

end TunBridge
