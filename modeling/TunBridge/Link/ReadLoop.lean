import TunBridge.Link.Endpoint
/-!
The read loop of a device: it reads one frame at a time into a buffer of the device's MTU and
hands it, tagged with its protocol, to the receiver attached at the time, or drops it. A
zero-length read or a failure ends the loop, which reports it unless the device was already
closed. `run` folds the loop over reads; `pump` runs it one turn at a time as the threads around
it let it.
-/
namespace TunBridge

inductive ReadOutcome where
  /-- The bytes read; none at all means the device reached its end. -/
  | frame (bytes : List UInt8)
  /-- Nothing yet: the poll timed out, or the read would block or was interrupted. -/
  | idle
  | failed (e : IoError)
  deriving DecidableEq, Repr

inductive LoopReaction where
  | deliver (d : Delivery)
  | discard
  | retry
  | stop (report : Option TunError)
  deriving DecidableEq, Repr

def endOfFile : IoError := .custom .unexpectedEof "tun device reached end of file"

def ReadOutcome.react (attached closed : Bool) : ReadOutcome → LoopReaction
  | .frame [] => .stop (if closed then none else some (.readFailure endOfFile))
  | .frame bytes => if attached then .deliver ⟨NetworkProtocol.ofFrame bytes, bytes⟩ else .discard
  | .idle => .retry
  | .failed e => .stop (if closed then none else some (.readFailure e))

namespace ReadLoop

/-- The loop over reads, each paired with whether a receiver was attached when it came: the
frames delivered, in read order, and, if a read stopped the loop, what it reported. Reads after
the stop are never made. -/
def run (closed : Bool) : List (ReadOutcome × Bool) → List Delivery × Option (Option TunError)
  | [] => ([], none)
  | (o, attached) :: rest =>
    match o.react attached closed with
    | .deliver d => let (ds, stop) := run closed rest; (d :: ds, stop)
    | .discard | .retry => run closed rest
    | .stop report => ([], some report)

theorem run_idle (closed : Bool) (attached : Bool) (rest : List (ReadOutcome × Bool)) :
    run closed ((.idle, attached) :: rest) = run closed rest := by
  simp [run, ReadOutcome.react]

end ReadLoop

/-- One turn of the loop as the threads around it let it happen: whether the device was still
owned when the loop took it, what the read gave, the sink `is_attached` saw after the read, and
the sink the injection found when it handed the frame on. Attach and detach calls on other
threads reach the loop only through these two looks, so a list of turns stands for every
schedule of them. -/
structure Turn (Sink : Type) where
  owned : Bool := true
  outcome : ReadOutcome
  atCheck : Option Sink
  atInject : Option Sink
  deriving DecidableEq, Repr

inductive LoopAction (Sink : Type) where
  | deliver (sink : Sink) (d : Delivery)
  | report (e : TunError)
  | close
  | finish
  deriving DecidableEq, Repr

namespace ReadLoop

variable {Sink : Type}

/-- The buffer after a read: the device writes the frame, cut to the buffer, over its front, and
the rest still holds what earlier reads left there. -/
def recvInto (buf bs : List UInt8) : List UInt8 := bs.take buf.length ++ buf.drop bs.length

@[simp] theorem length_recvInto (buf bs : List UInt8) : (recvInto buf bs).length = buf.length := by
  simp only [recvInto, List.length_append, List.length_take, List.length_drop]
  omega

@[simp] theorem take_recvInto (buf bs : List UInt8) :
    (recvInto buf bs).take (min bs.length buf.length) = bs.take buf.length := by
  have front : (bs.take buf.length).length = min bs.length buf.length :=
    List.length_take.trans (Nat.min_comm _ _)
  rw [recvInto, ← front, List.take_left]

/-- What the loop reports of a failed read: nothing once the device is closed. -/
def failureReport (closed : Bool) (e : IoError) : Option TunError :=
  if closed then none else some (.readFailure e)

def shutdown (report : Option TunError) : List (LoopAction Sink) :=
  report.toList.map .report ++ [.close, .finish]

/-- The loop's actions over its turns, with the buffer `buf` that every read reuses. A frame is
copied out of the buffer and tagged only when a sink was attached at the check, and the
injection hands it to the sink attached by then, if any. The loop ends silently once the device
was let go, and as `shutdown` says at the first zero-length read or failure; it reads no more
after that. -/
def pump (closed : Bool) (buf : List UInt8) : List (Turn Sink) → List (LoopAction Sink)
  | [] => []
  | t :: rest =>
    if !t.owned then [] else
    match t.outcome with
    | .idle => pump closed buf rest
    | .failed e => shutdown (failureReport closed e)
    | .frame bs =>
      if min bs.length buf.length = 0 then shutdown (failureReport closed endOfFile)
      else
        let buf' := recvInto buf bs
        let frame := buf'.take (min bs.length buf.length)
        (if t.atCheck.isSome then t.atInject.toList.map (.deliver · ⟨.ofFrame frame, frame⟩)
          else []) ++ pump closed buf' rest

end ReadLoop

end TunBridge
