import TunBridge.Link.Endpoint
/-!
The outbound path of a device's link under concurrent `write_packet` calls: each queues its frame
under the queue's lock or is refused, reads the parties under their lock, and notifies them
outside both. The only party is the device's writer, which takes the oldest frame off the queue
and hands its bytes to the device. The steps of different calls interleave in any order.
-/
namespace TunBridge

/-- Where one `write_packet` call stands. -/
inductive Producer (Party : Type) where
  | ready (p : PacketBuffer)
  | queued
  | notifying (rest : List Party)
  | returned (r : Except StackError Unit)

def Producer.busy {Party : Type} : Producer Party → Bool
  | .queued | .notifying _ => true
  | _ => false

inductive Outbound.Event where
  | pushed (t : Nat) (p : PacketBuffer)
  | refused (t : Nat)
  /-- A notification of the writer handed these bytes to the device, which took them or not. -/
  | handed (bytes : List UInt8) (ok : Bool)
  | returned (t : Nat) (r : Except StackError Unit)

structure Outbound (Sink Party : Type) where
  link : Endpoint Sink Party
  calls : List (Producer Party)
  log : List Outbound.Event

namespace Outbound

variable {Sink Party : Type}

/-- A fresh link of capacity `cap` whose only party is the device's writer, and the calls that
will be made on it. -/
def start (cap mtu : Nat) (writer : Party) (frames : List PacketBuffer) : Outbound Sink Party where
  link := ((Endpoint.create cap mtu).addParty writer).2
  calls := frames.map .ready
  log := []

/-- Call `t`'s section under the queue's lock: queue its frame, or return refused. -/
def enter (s : Outbound Sink Party) (t : Nat) (p : PacketBuffer) : Outbound Sink Party :=
  match s.link.push p with
  | .ok e => { link := e, calls := s.calls.set t .queued, log := s.log ++ [.pushed t p] }
  | .error err =>
    { s with calls := s.calls.set t (.returned (.error err)),
             log := s.log ++ [.refused t, .returned t (.error err)] }

def snapshot (s : Outbound Sink Party) (t : Nat) : Outbound Sink Party :=
  { s with calls := s.calls.set t (.notifying s.link.notified) }

/-- Call `t` notifies the writer, which takes the oldest frame, if any, and hands its bytes to
the device; `ok` is whether the device took them. -/
def notifyWriter (s : Outbound Sink Party) (t : Nat) (rest : List Party) (ok : Bool) :
    Outbound Sink Party :=
  let s := { s with calls := s.calls.set t (.notifying rest) }
  match s.link.read with
  | (none, _) => s
  | (some p, e) => { s with link := e, log := s.log ++ [.handed p.toBytes ok] }

def finish (s : Outbound Sink Party) (t : Nat) : Outbound Sink Party :=
  { s with calls := s.calls.set t (.returned (.ok ())), log := s.log ++ [.returned t (.ok ())] }

inductive Step (t : Nat) : Outbound Sink Party → Outbound Sink Party → Prop where
  | enter {s : Outbound Sink Party} {p : PacketBuffer} :
      s.calls[t]? = some (.ready p) → Step t s (s.enter t p)
  | snapshot {s : Outbound Sink Party} :
      s.calls[t]? = some .queued → Step t s (s.snapshot t)
  | notify {s : Outbound Sink Party} {w : Party} {rest : List Party} (ok : Bool) :
      s.calls[t]? = some (.notifying (w :: rest)) → Step t s (s.notifyWriter t rest ok)
  | finish {s : Outbound Sink Party} :
      s.calls[t]? = some (.notifying []) → Step t s (s.finish t)

def AnyStep (s s' : Outbound Sink Party) : Prop := ∃ t, Step t s s'

/-- A step of a call while no other call is under way: the calls run one after another. -/
def SoloStep (s s' : Outbound Sink Party) : Prop :=
  ∃ t, (∀ u c, u ≠ t → s.calls[u]? = some c → c.busy = false) ∧ Step t s s'

end Outbound

end TunBridge
