import TunBridge.Link.Endpoint
/-!
An endpoint under observation. Sinks record every frame delivered to them; notified parties
record each notification, and a *draining* party also takes one frame from the queue, as a
device writer does. Sinks and parties are numbered from 0 in the order they are made.
-/
namespace TunBridge

/-- A registered party: its number and whether it drains a frame when notified. -/
structure Watcher where
  index : Nat
  drains : Bool
  deriving DecidableEq, Repr

structure Notice where
  index : Nat
  drained : Option (Option PacketBuffer)
  deriving DecidableEq, Repr

structure Probe where
  endpoint : Endpoint Nat Watcher
  sinks : List (List Delivery) := []
  watchers : Nat := 0

inductive ProbeStep where
  | attach
  | detach
  | isAttached
  | mtu
  | inject (frame : List UInt8) (protocol : Option NetworkProtocol)
  | delivered
  | write (p : PacketBuffer)
  | read
  | numQueued
  | drain
  | addWatcher (drains : Bool)
  | removeWatcher (index : Nat)

inductive ProbeReply where
  | sink (index : Nat)
  | done
  | flag (b : Bool)
  | count (n : Nat)
  | deliveries (bySink : List (List Delivery))
  | notified (notices : List Notice)
  | refused (e : StackError)
  | packet (p : Option PacketBuffer)
  | watcher (index : Nat)
  | unknownWatcher

namespace Probe

def create (capacity mtu : Nat) : Probe := ⟨Endpoint.create capacity mtu, [], 0⟩

def notify (e : Endpoint Nat Watcher) : List Watcher → Endpoint Nat Watcher × List Notice
  | [] => (e, [])
  | w :: ws =>
    if w.drains then
      let (p, e) := e.read
      let (e, ns) := notify e ws
      (e, ⟨w.index, some p⟩ :: ns)
    else
      let (e, ns) := notify e ws
      (e, ⟨w.index, none⟩ :: ns)

def step (pr : Probe) : ProbeStep → Probe × ProbeReply
  | .attach =>
    let k := pr.sinks.length
    ({ pr with endpoint := pr.endpoint.attach (some k), sinks := pr.sinks ++ [[]] }, .sink k)
  | .detach => ({ pr with endpoint := pr.endpoint.attach none }, .done)
  | .isAttached => (pr, .flag pr.endpoint.isAttached)
  | .mtu => (pr, .count pr.endpoint.mtu)
  | .inject frame protocol =>
    let d : Delivery := ⟨protocol.getD (NetworkProtocol.ofFrame frame), frame⟩
    match pr.endpoint.inject with
    | some k => ({ pr with sinks := pr.sinks.modify k (· ++ [d]) }, .flag true)
    | none => (pr, .flag false)
  | .delivered => (pr, .deliveries pr.sinks)
  | .write p =>
    match pr.endpoint.write p with
    | .ok (e, ws) =>
      let (e, ns) := notify e ws
      ({ pr with endpoint := e }, .notified ns)
    | .error err => (pr, .refused err)
  | .read =>
    let (p, e) := pr.endpoint.read
    ({ pr with endpoint := e }, .packet p)
  | .numQueued => (pr, .count pr.endpoint.numQueued)
  | .drain =>
    let (n, e) := pr.endpoint.drain
    ({ pr with endpoint := e }, .count n)
  | .addWatcher drains =>
    let i := pr.watchers
    let (_, e) := pr.endpoint.addParty ⟨i, drains⟩
    ({ pr with endpoint := e, watchers := i + 1 }, .watcher i)
  | .removeWatcher i =>
    if pr.watchers ≤ i then (pr, .unknownWatcher)
    else ({ pr with endpoint := pr.endpoint.removeParty (i + 1).toUInt64 }, .done)

end Probe

end TunBridge
