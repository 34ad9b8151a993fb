import Mathlib.Data.List.Nodup
import TunBridge.Link.Endpoint
/-!
The ledger of a link endpoint over any sequence of calls from a fresh endpoint: the frames
written, the frames that left the queue, and the registrations under their handles. Main
statement: `endpoint_ledger`.
-/
namespace TunBridge

namespace Endpoint

variable {Sink Party : Type}

structure Ledger (Sink Party : Type) where
  written : List PacketBuffer := []
  departed : List PacketBuffer := []
  made : List (UInt64 × Party) := []

/-- The ledger after a call on `e` answered `a`: a read's departure is the frame it returned, a
drain's are the frames it discarded. -/
def Ledger.record (l : Ledger Sink Party) (e : Endpoint Sink Party) :
    Call Sink Party → Answer Sink Party → Ledger Sink Party
  | .write p, .notified _ => { l with written := l.written ++ [p] }
  | .read, .packet p => { l with departed := l.departed ++ p.toList }
  | .drain, _ => { l with departed := l.departed ++ e.queue }
  | .addParty party, .handle h => { l with made := l.made ++ [(h, party)] }
  | _, _ => l

def step (s : Endpoint Sink Party × Ledger Sink Party) (k : Call Sink Party) :
    Endpoint Sink Party × Ledger Sink Party :=
  ((s.1.call k).1, s.2.record s.1 k (s.1.call k).2)

theorem call_write (e : Endpoint Sink Party) (p : PacketBuffer) :
    e.call (.write p) =
      if e.queue.length < e.capacity then ({ e with queue := e.queue ++ [p] }, .notified e.notified)
      else (e, .refused .queueFull) := by
  by_cases room : e.queue.length < e.capacity
  · simp [call, write, room, notified, Except.map]
  · simp [call, write, room, Except.map, Nat.not_lt.mp room]

theorem call_drain (e : Endpoint Sink Party) :
    e.call .drain = ({ e with queue := [] }, .count e.queue.length) := rfl

theorem call_inject (e : Endpoint Sink Party) (d : Delivery) :
    e.call (.inject d) = (e, .delivered e.inject) := rfl

/-- The handles the first `n` registrations get from a counter that starts at 1. -/
def handles (n : Nat) : List UInt64 := (List.range n).map fun i => UInt64.ofNat (i + 1)

theorem handles_succ (n : Nat) : handles (n + 1) = handles n ++ [UInt64.ofNat (n + 1)] := by
  simp [handles, List.range_succ]

theorem handles_nodup {n : Nat} (h : n < UInt64.size - 1) : (handles n).Nodup := by
  apply List.Nodup.map_on _ List.nodup_range
  intro i hi j hj same
  have hi' : i + 1 < UInt64.size := by simp only [List.mem_range] at hi; omega
  have hj' : j + 1 < UInt64.size := by simp only [List.mem_range] at hj; omega
  have := congrArg UInt64.toNat same
  rw [UInt64.toNat_ofNat_of_lt' hi', UInt64.toNat_ofNat_of_lt' hj'] at this
  omega

/-- The invariant of an endpoint and its ledger along a run from a fresh endpoint of capacity
`c`. -/
structure Ledger.Holds (c : Nat) (e : Endpoint Sink Party) (l : Ledger Sink Party) : Prop where
  capacity : e.capacity = c
  bounded : e.queue.length ≤ c
  conserved : l.departed ++ e.queue = l.written
  registry : e.parties.Sublist l.made
  counter : e.nextHandle = UInt64.ofNat (l.made.length + 1)
  keys : l.made.map (·.1) = handles l.made.length

namespace Ledger.Holds

variable {c : Nat} {e : Endpoint Sink Party} {l : Ledger Sink Party}

theorem create (mtu : Nat) : Holds c (Endpoint.create c mtu : Endpoint Sink Party) {} where
  capacity := rfl
  bounded := by simp [Endpoint.create]
  conserved := by simp [Endpoint.create]
  registry := by simp [Endpoint.create]
  counter := rfl
  keys := rfl

theorem push (h : Holds c e l) (p : PacketBuffer) (room : e.queue.length < e.capacity) :
    Holds c { e with queue := e.queue ++ [p] } { l with written := l.written ++ [p] } where
  capacity := h.capacity
  bounded := by
    have := h.capacity
    simp only [List.length_append, List.length_singleton]
    omega
  conserved := by simp [← List.append_assoc, h.conserved]
  registry := h.registry
  counter := h.counter
  keys := h.keys

theorem pop (h : Holds c e l) {p : PacketBuffer} {rest : List PacketBuffer}
    (hq : e.queue = p :: rest) :
    Holds c { e with queue := rest } { l with departed := l.departed ++ [p] } where
  capacity := h.capacity
  bounded := by
    have := h.bounded
    rw [hq, List.length_cons] at this
    simp only
    omega
  conserved := by simp [← h.conserved, hq]
  registry := h.registry
  counter := h.counter
  keys := h.keys

theorem clear (h : Holds c e l) :
    Holds c { e with queue := [] } { l with departed := l.departed ++ e.queue } where
  capacity := h.capacity
  bounded := Nat.zero_le c
  conserved := by simp [h.conserved]
  registry := h.registry
  counter := h.counter
  keys := h.keys

theorem register (h : Holds c e l) (party : Party) :
    Holds c (e.addParty party).2 { l with made := l.made ++ [(e.nextHandle, party)] } where
  capacity := h.capacity
  bounded := h.bounded
  conserved := h.conserved
  registry := h.registry.append (List.Sublist.refl _)
  counter := by simp [addParty, h.counter, UInt64.ofNat_add]
  keys := by simp [h.keys, h.counter, handles_succ]

theorem unregister (h : Holds c e l) (handle : UInt64) : Holds c (e.removeParty handle) l where
  capacity := h.capacity
  bounded := h.bounded
  conserved := h.conserved
  registry := (List.filter_sublist).trans h.registry
  counter := h.counter
  keys := h.keys

theorem attach (h : Holds c e l) (sink : Option Sink) : Holds c (e.attach sink) l where
  capacity := h.capacity
  bounded := h.bounded
  conserved := h.conserved
  registry := h.registry
  counter := h.counter
  keys := h.keys

theorem step (h : Holds c e l) (k : Call Sink Party) : Holds c (step (e, l) k).1 (step (e, l) k).2 := by
  cases k with
  | write p =>
    by_cases room : e.queue.length < e.capacity
    · simpa [Endpoint.step, call_write, room, record] using h.push p room
    · simpa [Endpoint.step, call_write, room, record] using h
  | read =>
    cases hq : e.queue with
    | nil => simpa [Endpoint.step, call, hq, record] using h
    | cons p rest => simpa [Endpoint.step, call, read_cons hq, record] using h.pop hq
  | drain => exact h.clear
  | numQueued => exact h
  | addParty party => exact h.register party
  | removeParty handle => exact h.unregister handle
  | attach sink => exact h.attach sink
  | inject d => exact h

theorem run (h : Holds c e l) (ks : List (Call Sink Party)) :
    Holds c (ks.foldl Endpoint.step (e, l)).1 (ks.foldl Endpoint.step (e, l)).2 := by
  induction ks generalizing e l with
  | nil => exact h
  | cons k ks ih => exact ih (h.step k)

end Ledger.Holds

theorem filter_key_eq_erase [DecidableEq Party] {r : UInt64 × Party} :
    ∀ {rs : List (UInt64 × Party)}, (rs.map (·.1)).Nodup → (∀ x ∈ rs, x.1 = r.1 → x = r) →
      rs.filter (·.1 ≠ r.1) = rs.erase r
  | [], _, _ => rfl
  | x :: xs, keys, only => by
    have ⟨fresh, keys'⟩ := List.nodup_cons.mp keys
    by_cases hx : x = r
    · subst hx
      -- the other entries all have other keys, so the filter keeps them
      simp only [List.filter_cons, ne_eq, not_true_eq_false, decide_false, Bool.false_eq_true,
        if_false, List.erase_cons_head, List.filter_eq_self, decide_eq_true_eq]
      intro y hy same
      exact fresh (List.mem_map.mpr ⟨y, hy, same⟩)
    · have hk : x.1 ≠ r.1 := fun same => hx (only x (List.mem_cons_self ..) same)
      rw [List.erase_cons_tail (by simpa using hx), List.filter_cons_of_pos (by simpa using hk),
        filter_key_eq_erase keys' (fun y hy => only y (List.mem_cons_of_mem x hy))]

/-- Below the counter's period, removing the handle of a registration removes it and no other
registration. -/
theorem removeParty_made [DecidableEq Party] {c : Nat} {e : Endpoint Sink Party}
    {l : Ledger Sink Party} (h : Ledger.Holds c e l) (few : l.made.length < UInt64.size - 1)
    {r : UInt64 × Party} (hr : r ∈ l.made) : (e.removeParty r.1).parties = e.parties.erase r := by
  have distinct : (l.made.map (·.1)).Nodup := h.keys ▸ handles_nodup few
  have only : ∀ x ∈ l.made, x.1 = r.1 → x = r := by
    intro x hx same
    exact List.inj_on_of_nodup_map distinct hx hr same
  exact filter_key_eq_erase (distinct.sublist (h.registry.map _))
    (fun x hx => only x (h.registry.subset hx))

theorem removeParty_unmade {c : Nat} {e : Endpoint Sink Party} {l : Ledger Sink Party}
    (h : Ledger.Holds c e l) {handle : UInt64} (unmade : handle ∉ l.made.map (·.1)) :
    (e.removeParty handle).parties = e.parties := by
  apply List.filter_eq_self.mpr
  intro x hx
  have : x.1 ≠ handle := fun same =>
    unmade (List.mem_map.mpr ⟨x, h.registry.subset hx, same⟩)
  simpa using this

def runFresh (c mtu : Nat) (ks : List (Call Sink Party)) : Endpoint Sink Party × Ledger Sink Party :=
  ks.foldl step (create c mtu, {})

/-- Along any run of calls from a fresh endpoint of capacity `c`: the queue stays within `c`; the
frames that left the queue, in the order they left, followed by the queue, are the frames
written, in write order; a write queues its frame at the back and notifies every registered
party once, in order, exactly when the queue held fewer than `c` frames, and otherwise is refused
and changes nothing; a drain answers the number of frames it discards; an inbound frame goes to
the attached sink, if any; and while fewer than `2^64 - 1` parties have registered, the handles
are distinct and removing one removes exactly the registration made under it. -/
theorem endpoint_ledger [DecidableEq Party] (c mtu : Nat) (ks : List (Call Sink Party)) :
    let e := (runFresh c mtu ks).1
    let l := (runFresh c mtu ks).2
    e.queue.length ≤ c ∧
    l.departed ++ e.queue = l.written ∧
    (∀ p, e.call (.write p) =
      if e.queue.length < c then ({ e with queue := e.queue ++ [p] }, .notified e.notified)
      else (e, .refused .queueFull)) ∧
    e.call .drain = ({ e with queue := [] }, .count e.queue.length) ∧
    (∀ d, e.call (.inject d) = (e, .delivered e.sink) ∧ e.sink.isSome = e.isAttached) ∧
    (l.made.length < UInt64.size - 1 →
      (l.made.map (·.1)).Nodup ∧
      (∀ r ∈ l.made, (e.removeParty r.1).parties = e.parties.erase r) ∧
      ∀ handle, handle ∉ l.made.map (·.1) → (e.removeParty handle).parties = e.parties) := by
  intro e l
  have h : Ledger.Holds c e l := (Ledger.Holds.create mtu).run ks
  refine ⟨h.bounded, h.conserved, fun p => ?_, call_drain e, fun d => ⟨call_inject e d, rfl⟩, ?_⟩
  · rw [call_write, h.capacity]
  · intro few
    exact ⟨h.keys ▸ handles_nodup few, fun r hr => removeParty_made h few hr,
      fun _ unmade => removeParty_unmade h unmade⟩

-- Two frames fill a queue of two; the third is refused, and a drain discards the two.
example :
    let ks : List (Call Nat Nat) := [.write (.ofPayload [1]), .write (.ofPayload [2]),
      .write (.ofPayload [3]), .drain]
    (runFresh 2 1500 ks).2.written = [.ofPayload [1], .ofPayload [2]] ∧
      (runFresh 2 1500 ks).2.departed = [.ofPayload [1], .ofPayload [2]] := by
  decide

end Endpoint

end TunBridge
