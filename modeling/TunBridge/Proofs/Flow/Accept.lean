import TunBridge.Proofs.Flow.Direction
import TunBridge.Proofs.Endpoint.Outbound
/-!
Accepting a SYN, and closing the endpoint it made exactly once: every connection owes its
endpoint one close until it is closed through or dropped (`owed`), and for every endpoint the
closes it got and those still owed make one (`Accounted`). Main statement:
`Bench.syn_close_accounting`.
-/
namespace TunBridge

/-- An endpoint the handler hands on: it knows its peer and is neither closed nor failed. -/
def TcpEndpoint.live (e : TcpEndpoint) : Bool := e.remote?.isSome && !e.state.isClosed

theorem TcpEndpoint.rejected_eq (e : TcpEndpoint) :
    (e.remote?.isNone || e.state.isClosed) = !e.live := by
  unfold live
  cases e.remote? <;> cases e.state.isClosed <;> rfl

/-- Whether a connection still owes endpoint `k` its close: it is that endpoint's and was not
closed through. -/
def Conn.owes (k : Nat) (c : Conn) : Bool := c.endpoint == k && !c.closed

namespace Bench

def closes (b : Bench) (k : Nat) : Nat := (b.endpoints[k]?.map (·.closeCalls)).getD 0

/-- The closes endpoint `k` is still owed, by the connections waiting for the TCP consumer and by
those it received and holds. -/
def owed (b : Bench) (k : Nat) : Nat :=
  b.tcp.queue.countP (fun x => x.conn.owes k) + b.conns.countP fun o => o.any (Conn.owes k)

/-- Every endpoint gets one close: the closes it got and those still owed to it make one, and
no connection owes a close to a number with no endpoint. -/
def Accounted (b : Bench) : Prop :=
  ∀ k, b.closes k + b.owed k = if k < b.endpoints.length then 1 else 0

section Closes

variable (b : Bench) (k j : Nat)

theorem closes_closeEndpoint :
    (b.closeEndpoint k).closes j = b.closes j + if j = k ∧ k < b.endpoints.length then 1 else 0 := by
  simp only [closes, closeEndpoint, List.getElem?_modify]
  by_cases hjk : j = k
  · subst hjk
    by_cases hk : j < b.endpoints.length <;> simp [hk]
  · simp [Ne.symm hjk, hjk]

@[simp] theorem owed_closeEndpoint : (b.closeEndpoint k).owed j = b.owed j := rfl

@[simp] theorem length_closeEndpoint : (b.closeEndpoint k).endpoints.length = b.endpoints.length := by
  simp [closeEndpoint]

theorem closes_release (c : Conn) :
    (b.release c).closes j = b.closes j + if c.owes j ∧ j < b.endpoints.length then 1 else 0 := by
  unfold release
  by_cases hc : c.closed
  · simp [hc, Conn.owes]
  · simp only [hc, Bool.false_eq_true, if_false, closes_closeEndpoint]
    by_cases hj : c.endpoint = j
    · subst hj
      simp [Conn.owes, hc]
    · simp [Conn.owes, hj, Ne.symm hj]

theorem length_release (c : Conn) : (b.release c).endpoints.length = b.endpoints.length := by
  unfold release
  split <;> simp

theorem closes_releaseAll (cs : List Conn) :
    (b.releaseAll cs).closes j =
      b.closes j + if j < b.endpoints.length then cs.countP (Conn.owes j) else 0 := by
  induction cs generalizing b with
  | nil => simp [releaseAll]
  | cons c cs ih =>
    have step : (b.releaseAll (c :: cs)) = (b.release c).releaseAll cs := rfl
    rw [step, ih, closes_release, length_release, List.countP_cons]
    -- the connection adds one close exactly when it owes an endpoint that exists
    by_cases hj : j < b.endpoints.length
    · by_cases hc : c.owes j
      · simp [hj, hc]
        omega
      · simp [hj, hc]
    · simp [hj]

theorem conns_releaseAll (cs : List Conn) : (b.releaseAll cs).conns = b.conns := by
  induction cs generalizing b with
  | nil => rfl
  | cons c cs ih =>
    have step : (b.releaseAll (c :: cs)) = (b.release c).releaseAll cs := rfl
    rw [step, ih]
    unfold release
    split <;> rfl

theorem length_releaseAll (cs : List Conn) :
    (b.releaseAll cs).endpoints.length = b.endpoints.length := by
  induction cs generalizing b with
  | nil => rfl
  | cons c cs ih =>
    have step : (b.releaseAll (c :: cs)) = (b.release c).releaseAll cs := rfl
    rw [step, ih, length_release]

theorem closes_push {b' : Bench} {e : TcpEndpoint} (hend : b'.endpoints = b.endpoints ++ [e]) :
    b'.closes j = if j = b.endpoints.length then e.closeCalls else b.closes j := by
  simp only [closes, hend, List.getElem?_append, List.getElem?_singleton]
  by_cases hj : j < b.endpoints.length
  · simp [hj, Nat.ne_of_lt hj]
  · by_cases he : j = b.endpoints.length
    · simp [he]
    · have : b.endpoints.length < j := by omega
      simp [hj, he, Nat.sub_ne_zero_of_lt this]

theorem closes_set {e e' : TcpEndpoint} (he : b.endpoints[k]? = some e)
    (same : e'.closeCalls = e.closeCalls) :
    ({ b with endpoints := b.endpoints.set k e' } : Bench).closes j = b.closes j := by
  simp only [closes, List.getElem?_set]
  by_cases hjk : k = j
  · subst hjk
    obtain ⟨hk, hget⟩ := List.getElem?_eq_some_iff.mp he
    simp [hk, hget, same]
  · simp [hjk]

end Closes

theorem modify_concat {α : Type} (l : List α) (x : α) (f : α → α) :
    (l ++ [x]).modify l.length f = l ++ [f x] := by
  induction l with
  | nil => simp
  | cons a l ih => simp [ih]

theorem closeEndpoint_push (b : Bench) (e : TcpEndpoint) :
    ({ b with endpoints := b.endpoints ++ [e] } : Bench).closeEndpoint b.endpoints.length =
      { b with endpoints := b.endpoints ++ [e.close] } := by
  simp [closeEndpoint, modify_concat]

theorem Channel.handOff_eq {α : Type} (c : Channel α) (p : Handoff) (x : α) :
    c.handOff p x = ({ c with queue := c.queue ++ if c.accepts p then [x] else [] }, c.accepts p) :=
  Prod.ext (Channel.handOff_fst c p x) (Channel.handOff_snd c p x)

/-- A SYN whose request made an endpoint: the endpoint gets the next number and is closed unless
it is live and the consumer takes the connection, which then waits for it addressed to the
endpoint's local side; the request is completed without a reset, and the SYN is accepted exactly
when the endpoint is live. -/
theorem handleRequest_some (b : Bench) (flow : FlowId) (spec : EndpointSpec) (failure : String) :
    b.handleRequest flow (some spec) failure =
      (if (spec.build flow).live && b.tcp.accepts b.handoff then
          { b with endpoints := b.endpoints ++ [spec.build flow],
                   tcp := { b.tcp with queue := b.tcp.queue ++
                     [⟨Target.ofFlow (spec.build flow).flow, ⟨b.endpoints.length, false⟩⟩] } }
        else { b with endpoints := b.endpoints ++ [(spec.build flow).close] },
        [false], some b.endpoints.length,
        if (spec.build flow).live then .ok () else .error (.handshakeRejected
          ("tcp endpoint for " ++ flow.localAddr.render ++ " is not connected, current state: " ++
            (spec.build flow).state.text))) := by
  simp only [handleRequest, TcpEndpoint.rejected_eq]
  cases hlive : (spec.build flow).live
  · simp [closeEndpoint_push]
  · rw [Channel.handOff_eq]
    cases b.tcp.accepts b.handoff <;> simp [closeEndpoint_push]

namespace Accounted

variable {b b' : Bench}

theorem owed_of_le (h : b.Accounted) {k : Nat} (hk : b.endpoints.length ≤ k) : b.owed k = 0 := by
  have := h k
  rw [if_neg (by omega)] at this
  omega

theorem lt_of_owed (h : b.Accounted) {k : Nat} (hk : 0 < b.owed k) : k < b.endpoints.length :=
  Classical.byContradiction fun hn => by simp [h.owed_of_le (Nat.le_of_not_lt hn)] at hk

theorem of_sum (h : b.Accounted) (hlen : b'.endpoints.length = b.endpoints.length)
    (hsum : ∀ k, b'.closes k + b'.owed k = b.closes k + b.owed k) : b'.Accounted := by
  intro k
  rw [hsum, hlen]
  exact h k

theorem of_frame (h : b.Accounted) (hcloses : ∀ k, b'.closes k = b.closes k)
    (hlen : b'.endpoints.length = b.endpoints.length) (howed : ∀ k, b'.owed k = b.owed k) :
    b'.Accounted :=
  h.of_sum hlen fun k => by rw [hcloses, howed]

theorem of_same (h : b.Accounted) (hend : b'.endpoints = b.endpoints)
    (htcp : b'.tcp.queue = b.tcp.queue) (hconns : b'.conns = b.conns) : b'.Accounted :=
  h.of_frame (fun k => by simp only [closes, hend]) (by rw [hend])
    (fun k => by simp only [owed, htcp, hconns])

theorem of_push (h : b.Accounted) (hlen : b'.endpoints.length = b.endpoints.length + 1)
    (hold : ∀ j, j ≠ b.endpoints.length → b'.closes j + b'.owed j = b.closes j + b.owed j)
    (hnew : b'.closes b.endpoints.length + b'.owed b.endpoints.length = 1) : b'.Accounted := by
  intro j
  rw [hlen]
  by_cases hj : j = b.endpoints.length
  · subst hj
    simp [hnew]
  · rw [hold j hj, h j]
    by_cases hlt : j < b.endpoints.length
    · simp [hlt, Nat.lt_succ_of_lt hlt]
    · have past : ¬ j < b.endpoints.length + 1 := by omega
      simp [hlt, past]

theorem push_closed (h : b.Accounted) {e : TcpEndpoint} (he : e.closeCalls = 1) :
    ({ b with endpoints := b.endpoints ++ [e] } : Bench).Accounted := by
  have fresh := h.owed_of_le (Nat.le_refl b.endpoints.length)
  refine h.of_push (by simp) (fun j hj => ?_) ?_
  · rw [closes_push b j rfl, if_neg hj]
    rfl
  · rw [closes_push b _ rfl, if_pos rfl, he]
    exact congrArg (1 + ·) fresh

theorem push_handed (h : b.Accounted) {e : TcpEndpoint} (he : e.closeCalls = 0) (target : Target) :
    ({ b with endpoints := b.endpoints ++ [e],
              tcp := { b.tcp with queue := b.tcp.queue ++ [⟨target, ⟨b.endpoints.length, false⟩⟩] } } :
      Bench).Accounted := by
  have fresh := h.owed_of_le (Nat.le_refl b.endpoints.length)
  refine h.of_push (by simp) (fun j hj => ?_) ?_
  · rw [closes_push b j rfl, if_neg hj]
    simp [owed, Conn.owes, List.countP_append, Ne.symm hj]
  · rw [closes_push b _ rfl, if_pos rfl, he]
    have owes_new : Conn.owes b.endpoints.length ⟨b.endpoints.length, false⟩ = true := by
      simp [Conn.owes]
    simp only [owed] at fresh ⊢
    simp only [List.countP_append, List.countP_singleton, owes_new, if_true]
    omega

theorem handleRequest (h : b.Accounted) (flow : FlowId) (offered : Option EndpointSpec)
    (failure : String) : (b.handleRequest flow offered failure).1.Accounted := by
  cases offered with
  | none => exact h
  | some spec =>
    rw [handleRequest_some]
    split
    · exact h.push_handed rfl _
    · exact h.push_closed rfl

theorem recvTcp (h : b.Accounted) : (b.step .recvTcp).1.Accounted := by
  simp only [Bench.step]
  split
  · exact h
  · split
    · exact h
    · rename_i item ch htake
      have hq := Channel.take_some htake
      split
      · exact h
      · refine h.of_frame (fun k => rfl) rfl (fun k => ?_)
        simp only [owed, hq, List.countP_cons, List.countP_append, List.countP_nil,
          Option.any_some]
        omega

theorem liveConn_eq_ok {i : Nat} {c : Conn} {e : TcpEndpoint} (hl : b.liveConn i = .ok (c, e)) :
    b.conns[i]? = some (some c) ∧ b.endpoints[c.endpoint]? = some e := by
  unfold liveConn at hl
  split at hl
  · cases hl
  · cases hl
  · rename_i c' hc
    split at hl
    · cases hl
    · cases hl
      exact ⟨hc, by assumption⟩

theorem withConn (h : b.Accounted) {i : Nat} {f : Conn → TcpEndpoint → Bench × BenchReply}
    (hf : ∀ c e, b.conns[i]? = some (some c) → b.endpoints[c.endpoint]? = some e →
      (f c e).1.Accounted) : (b.withConn i f).1.Accounted := by
  unfold Bench.withConn
  split
  · exact h
  · rename_i c e hl
    exact hf c e (liveConn_eq_ok hl).1 (liveConn_eq_ok hl).2

theorem setEndpoint (h : b.Accounted) {k : Nat} {e e' : TcpEndpoint} (he : b.endpoints[k]? = some e)
    (same : e'.closeCalls = e.closeCalls) :
    ({ b with endpoints := b.endpoints.set k e' } : Bench).Accounted :=
  h.of_frame (fun j => closes_set b k j he same) (by simp) (fun _ => rfl)

/-- Closing through a held connection that owed its endpoint a close, or dropping it, closes the
endpoint once and leaves nothing owed in its place. -/
theorem discharge (h : b.Accounted) {i : Nat} {c : Conn} (hc : b.conns[i]? = some (some c))
    (y : Option Conn) (hy : ∀ k, y.any (Conn.owes k) = false) :
    ({ b.release c with conns := b.conns.set i y } : Bench).Accounted := by
  intro j
  -- the held connection's own share of what is owed
  have shares := Outbound.countP_set (fun o => o.any (Conn.owes j)) hc y
  simp only [Option.any_some, hy j, Bool.false_eq_true, if_false, Nat.add_zero] at shares
  have old := h j
  have hcloses : ({ b.release c with conns := b.conns.set i y } : Bench).closes j =
      (b.release c).closes j := rfl
  have howed : ({ b.release c with conns := b.conns.set i y } : Bench).owed j =
      b.tcp.queue.countP (fun x => x.conn.owes j) + (b.conns.set i y).countP
        (fun o => o.any (Conn.owes j)) := by
    simp only [owed, (queues_release b c).1]
  have hlen : ({ b.release c with conns := b.conns.set i y } : Bench).endpoints.length =
      b.endpoints.length := length_release b c
  rw [hcloses, howed, hlen, closes_release]
  by_cases hown : c.owes j
  · -- the connection owed endpoint `j`, which therefore exists
    simp only [hown, if_true] at shares
    have pos : 0 < b.owed j := by
      simp only [owed]
      omega
    have hlt := h.lt_of_owed pos
    simp only [owed, hlt, if_true] at old
    simp only [hown, hlt, and_self, if_true]
    omega
  · simp only [hown, Bool.false_eq_true, false_and, if_false] at shares ⊢
    simp only [owed] at old
    omega

theorem tcpClose (h : b.Accounted) (i : Nat) : (b.step (.tcpClose i)).1.Accounted := by
  simp only [Bench.step]
  refine h.withConn fun c e hc _ => ?_
  cases hclosed : c.closed
  · have opened : b.release c = b.closeEndpoint c.endpoint := by simp [release, hclosed]
    have := h.discharge hc (some { c with closed := true }) (fun k => by simp [Conn.owes])
    simpa [hclosed, opened] using this
  · simpa [hclosed] using h

theorem tcpDrop (h : b.Accounted) (i : Nat) : (b.step (.tcpDrop i)).1.Accounted := by
  simp only [Bench.step]
  split
  · exact h
  · exact h
  · rename_i c hc
    exact h.discharge hc none (fun _ => rfl)

theorem dropTcpConsumer (h : b.Accounted) : (b.step .dropTcpConsumer).1.Accounted := by
  simp only [Bench.step]
  split
  · exact h
  · refine h.of_sum (length_releaseAll b _) fun j => ?_
    have hcloses := closes_releaseAll b j (b.tcp.hangUp.1.map (·.conn))
    have past : ¬ j < b.endpoints.length → b.owed j = 0 := fun hj => h.owed_of_le (by omega)
    simp only [closes, owed] at hcloses past ⊢
    simp only [Channel.hangUp, List.countP_map, Function.comp_def] at hcloses ⊢
    rw [hcloses, conns_releaseAll, List.countP_nil]
    by_cases hj : j < b.endpoints.length
    · simp only [hj, if_true]
      omega
    · simp only [hj, if_false]
      have := past hj
      omega

theorem udpHandler (h : b.Accounted) (flow : FlowId) (p : PacketBuffer) :
    (b.udpHandler flow p).1.Accounted := by
  cases hb : b.alive
  · simpa [Bench.udpHandler, hb] using h
  · obtain ⟨kept, -, hstep, -⟩ := udpHandler_live hb flow p
    rw [hstep]
    exact h.of_same rfl rfl rfl

theorem step (h : b.Accounted) (s : BenchStep) : (b.step s).1.Accounted := by
  cases s with
  | syn flow offered failure => exact h.handleRequest flow offered failure
  | recvTcp => exact h.recvTcp
  | tcpRead i len => exact h.withConn fun _ _ _ he => h.setEndpoint he rfl
  | tcpWrite i data =>
    refine h.withConn fun c e _ he => ?_
    cases hw : e.write data with
    | ok r =>
      have same : r.2.closeCalls = e.closeCalls := by
        unfold TcpEndpoint.write at hw
        split at hw
        · cases hw
        · cases hw
          rfl
      simpa [hw] using h.setEndpoint he same
    | error err => simpa [hw] using h
  | tcpFlush i => exact h.withConn fun _ _ _ _ => h
  | tcpClose i => exact h.tcpClose i
  | tcpInfo i => exact h.withConn fun _ _ _ _ => h
  | tcpDrop i => exact h.tcpDrop i
  | endpoints => exact h
  | datagram flow p => exact h.udpHandler flow p
  | recvUdp =>
    simp only [Bench.step]
    split
    · exact h
    · split
      · exact h
      · exact h.of_same rfl rfl rfl
  | udpWriteBack i data source =>
    simp only [Bench.step]
    split
    · exact h
    · split
      · exact h.of_same rfl rfl rfl
      · exact h
  | udpDrop i =>
    simp only [Bench.step]
    split
    · exact h
    · exact h
    · exact h.of_same rfl rfl rfl
  | sent => exact h
  | malformed => exact h
  | stackClose => exact h.of_same rfl rfl rfl
  | stackFailSend e => exact h.of_same rfl rfl rfl
  | dropStack =>
    simp only [Bench.step]
    split
    · exact h.of_same rfl rfl rfl
    · exact h
  | dropTcpConsumer => exact h.dropTcpConsumer
  | dropUdpConsumer =>
    simp only [Bench.step]
    split
    · exact h
    · exact h.of_same rfl rfl rfl

end Accounted

theorem Reachable.accounted {b : Bench} (h : b.Reachable) : b.Accounted := by
  induction h with
  | create _ _ _ hnew =>
    unfold Bench.create at hnew
    split at hnew <;> cases hnew <;> exact fun k => by simp [closes, owed]
  | step s _ ih => exact ih.step s

/-- An endpoint of a bench a run reaches is closed at most once, and exactly once when no
connection owes it its close any more. -/
theorem closed_once {b : Bench} (hb : b.Reachable) {k : Nat} {e : TcpEndpoint}
    (he : b.endpoints[k]? = some e) : e.closeCalls ≤ 1 ∧ (e.closeCalls = 1 ↔ b.owed k = 0) := by
  have sum := hb.accounted k
  have hk := (List.getElem?_eq_some_iff.mp he).1
  simp only [closes, he, Option.map_some, Option.getD_some, hk, if_true] at sum
  omega

/-- For every bench, whatever its consumer's channel holds and whatever its hand-off policy, and
every SYN, whatever endpoint its request offers, if any: a request that made no endpoint is
completed once with a reset, the SYN is rejected as a failed handshake and nothing else changes;
one that made an endpoint is completed once without a reset, the endpoint gets the next number
and is the only one added, the connection is handed off exactly when the endpoint is live
(knows its peer, neither closed nor failed), addressed to the endpoint's local side, and the SYN
is accepted exactly then and otherwise rejected as a failed handshake; and the endpoint was
closed once by the time the handler returns unless the consumer got its connection. Over every
run of the bench, each endpoint is closed at most once, and exactly once as soon as no connection
owes it its close, that is once its connection was closed through or dropped. -/
theorem syn_close_accounting :
    (∀ (b : Bench) (flow : FlowId) (failure : String),
      (b.handleRequest flow none failure).1 = b ∧ (b.handleRequest flow none failure).2.1 = [true] ∧
      (b.handleRequest flow none failure).2.2.1 = none ∧
      ∃ msg, (b.handleRequest flow none failure).2.2.2 = .error (.handshakeRejected msg)) ∧
    (∀ (b : Bench) (flow : FlowId) (spec : EndpointSpec) (failure : String),
      (b.handleRequest flow (some spec) failure).2.1 = [false] ∧
      (b.handleRequest flow (some spec) failure).2.2.1 = some b.endpoints.length ∧
      (b.handleRequest flow (some spec) failure).1.endpoints.take b.endpoints.length = b.endpoints ∧
      (b.handleRequest flow (some spec) failure).1.endpoints.length = b.endpoints.length + 1 ∧
      (b.handleRequest flow (some spec) failure).1.tcp =
        (if (spec.build flow).live then (b.tcp.handOff b.handoff
          ⟨Target.new (spec.build flow).flow.localIp (spec.build flow).flow.localPort,
            ⟨b.endpoints.length, false⟩⟩).1 else b.tcp) ∧
      ((b.handleRequest flow (some spec) failure).2.2.2 = .ok () ↔ (spec.build flow).live) ∧
      ((spec.build flow).live = false →
        ∃ msg, (b.handleRequest flow (some spec) failure).2.2.2 = .error (.handshakeRejected msg)) ∧
      (b.handleRequest flow (some spec) failure).1.closes b.endpoints.length =
        if (spec.build flow).live && b.tcp.accepts b.handoff then 0 else 1) ∧
    ∀ b : Bench, b.Reachable → ∀ k e, b.endpoints[k]? = some e →
      e.closeCalls ≤ 1 ∧ (e.closeCalls = 1 ↔ b.owed k = 0) := by
  refine ⟨fun b flow failure => ⟨rfl, rfl, rfl, _, rfl⟩, fun b flow spec failure => ?_,
    fun b hb k e he => closed_once hb he⟩
  have fresh : (spec.build flow).closeCalls = 0 := rfl
  rw [handleRequest_some]
  cases hlive : (spec.build flow).live <;> cases haccept : b.tcp.accepts b.handoff <;>
    simp [Channel.handOff_eq, haccept, closes, Target.ofFlow, fresh]

end Bench

end TunBridge
