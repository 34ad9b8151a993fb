import TunBridge.Link.Packet
import TunBridge.Net.Frame
import TunBridge.Error
/-!
Link endpoints, where a network stack meets a link. Outbound frames wait in a bounded queue, and
each frame queued notifies every registered party in registration order; inbound frames go to
the attached sink, if any. Registrations are numbered by a 64-bit counter that starts at 1 and
wraps.
-/
namespace TunBridge

/-- An inbound frame as its receiver gets it: the network protocol it was tagged with and its
bytes. -/
structure Delivery where
  protocol : NetworkProtocol
  bytes : List UInt8
  deriving DecidableEq, Repr

structure Endpoint (Sink Party : Type) where
  mtu : Nat
  capacity : Nat
  queue : List PacketBuffer := []
  sink : Option Sink := none
  parties : List (UInt64 × Party) := []
  nextHandle : UInt64 := 1

namespace Endpoint

variable {Sink Party : Type}

def create (capacity mtu : Nat) : Endpoint Sink Party := { mtu, capacity }

def push (e : Endpoint Sink Party) (p : PacketBuffer) : Except StackError (Endpoint Sink Party) :=
  if e.capacity ≤ e.queue.length then .error .queueFull
  else .ok { e with queue := e.queue ++ [p] }

def notified (e : Endpoint Sink Party) : List Party := e.parties.map (·.2)

/-- Queues a frame if there is room; the parties to notify, taken after the frame is queued,
come with it. -/
def write (e : Endpoint Sink Party) (p : PacketBuffer) :
    Except StackError (Endpoint Sink Party × List Party) :=
  (e.push p).map fun e => (e, e.notified)

def read (e : Endpoint Sink Party) : Option PacketBuffer × Endpoint Sink Party :=
  match e.queue with
  | [] => (none, e)
  | p :: rest => (some p, { e with queue := rest })

def drain (e : Endpoint Sink Party) : Nat × Endpoint Sink Party :=
  (e.queue.length, { e with queue := [] })

def numQueued (e : Endpoint Sink Party) : Nat := e.queue.length

def addParty (e : Endpoint Sink Party) (party : Party) : UInt64 × Endpoint Sink Party :=
  (e.nextHandle,
    { e with parties := e.parties ++ [(e.nextHandle, party)], nextHandle := e.nextHandle + 1 })

def removeParty (e : Endpoint Sink Party) (handle : UInt64) : Endpoint Sink Party :=
  { e with parties := e.parties.filter (·.1 ≠ handle) }

def attach (e : Endpoint Sink Party) (sink : Option Sink) : Endpoint Sink Party :=
  { e with sink }

def isAttached (e : Endpoint Sink Party) : Bool := e.sink.isSome

def inject (e : Endpoint Sink Party) : Option Sink := e.sink

@[simp] theorem push_queue_full {e : Endpoint Sink Party} {p : PacketBuffer}
    (h : e.capacity ≤ e.queue.length) : e.push p = .error .queueFull := by
  simp [push, h]

@[simp] theorem push_queue_room {e : Endpoint Sink Party} {p : PacketBuffer}
    (h : e.queue.length < e.capacity) : e.push p = .ok { e with queue := e.queue ++ [p] } := by
  simp [push, Nat.not_le.mpr h]

@[simp] theorem read_nil {e : Endpoint Sink Party} (h : e.queue = []) : e.read = (none, e) := by
  simp [read, h]

@[simp] theorem read_cons {e : Endpoint Sink Party} {p : PacketBuffer} {rest : List PacketBuffer}
    (h : e.queue = p :: rest) : e.read = (some p, { e with queue := rest }) := by
  simp [read, h]

theorem push_eq_ok {e e' : Endpoint Sink Party} {p : PacketBuffer} :
    e.push p = .ok e' ↔ e.queue.length < e.capacity ∧ e' = { e with queue := e.queue ++ [p] } := by
  unfold push
  split
  · simp only [reduceCtorEq, false_iff, not_and]
    omega
  · simp only [Except.ok.injEq]
    constructor
    · rintro rfl
      exact ⟨by omega, rfl⟩
    · rintro ⟨-, rfl⟩
      rfl

theorem length_queue_le {e e' : Endpoint Sink Party} {p : PacketBuffer} {ps : List Party}
    (h : e.write p = .ok (e', ps)) : e'.queue.length ≤ e'.capacity := by
  cases hp : e.push p with
  | error err => simp [write, hp, Except.map] at h
  | ok e₁ =>
    simp only [write, hp, Except.map, Except.ok.injEq, Prod.mk.injEq] at h
    obtain ⟨rfl, -⟩ := h
    obtain ⟨hroom, rfl⟩ := push_eq_ok.mp hp
    simp only [List.length_append, List.length_singleton]
    omega

inductive Call (Sink Party : Type) where
  | write (p : PacketBuffer)
  | read
  | drain
  | numQueued
  | addParty (party : Party)
  | removeParty (handle : UInt64)
  | attach (sink : Option Sink)
  | inject (d : Delivery)

/-- What a call answers. A write names the parties it notifies; an inbound frame names the sink
it is delivered to. -/
inductive Answer (Sink Party : Type) where
  | notified (parties : List Party)
  | refused (e : StackError)
  | packet (p : Option PacketBuffer)
  | count (n : Nat)
  | handle (h : UInt64)
  | done
  | delivered (sink : Option Sink)

def call (e : Endpoint Sink Party) : Call Sink Party → Endpoint Sink Party × Answer Sink Party
  | .write p =>
    match e.write p with
    | .ok (e', ps) => (e', .notified ps)
    | .error err => (e, .refused err)
  | .read => let (p, e') := e.read; (e', .packet p)
  | .drain => let (n, e') := e.drain; (e', .count n)
  | .numQueued => (e, .count e.numQueued)
  | .addParty party => let (h, e') := e.addParty party; (e', .handle h)
  | .removeParty h => (e.removeParty h, .done)
  | .attach sink => (e.attach sink, .done)
  | .inject _ => (e, .delivered e.inject)

end Endpoint

end TunBridge
