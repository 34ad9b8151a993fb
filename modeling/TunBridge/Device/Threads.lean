import TunBridge.Link.ReadLoop
/-!
A device shared by threads, at the granularity of its synchronisation: the closed flag, the
once that runs the close body, the lock around the descriptor, the bridge's cell and the read
task's flags. Each thread makes one call or is the read thread, each of its steps is one atomic
action, and the steps of different threads interleave in any order (`Threads.Step`). What the
kernel and the scheduler decide is a parameter of the step; the log records what each thread
does that another can see.
-/
namespace TunBridge

/-- What `read_slice` returns for one poll and read: a frame, nothing yet, or the failure, a
zero-length read being the end of the device. -/
def ReadOutcome.slice : ReadOutcome → Except IoError (Option (List UInt8))
  | .frame [] => .error endOfFile
  | .frame bytes => .ok (some bytes)
  | .idle => .ok none
  | .failed e => .error e

namespace Threads

inductive Gate where
  | ready
  | running
  | complete
  deriving DecidableEq, Repr

inductive Cell where
  | empty
  | building
  | full
  deriving DecidableEq, Repr

structure Shared where
  closed : Bool := false
  once : Gate := .ready
  /-- The descriptor behind the handle's lock; `none` once close took it. -/
  fd : Option Nat
  cell : Cell := .empty
  started : Bool := false
  finished : Bool := false
  /-- The `link_endpoint` calls whose writer is registered on the endpoint the call made. -/
  writers : List Nat := []
  /-- The `link_endpoint` call whose bridge is in the cell. -/
  bridge : Option Nat := none
  deriving DecidableEq, Repr

inductive CloseStage where
  | enter
  | flag
  | look
  /-- The bridge was in its cell: unregister its writer and drain its queue. -/
  | detach
  /-- Take the descriptor out of its lock and drop it. -/
  | release
  | complete
  deriving DecidableEq, Repr

inductive LinkStage where
  | check
  | cell
  /-- Query the MTU, create the endpoint, register the writer and mark the read task started. -/
  | start
  | spawn
  | store
  | recheck
  deriving DecidableEq, Repr

inductive Access where
  /-- `read`, which polls again while nothing arrives (`again`), or `read_slice`. -/
  | read (again : Bool)
  | write (bytes : List UInt8)
  | loop
  deriving DecidableEq, Repr

inductive LoopStage where
  | upgrade
  | decide (o : ReadOutcome)
  | finish
  | stopped
  deriving DecidableEq, Repr

inductive Call where
  | close
  | read
  | readSlice
  | write (bytes : List UInt8)
  | link
  | wait
  deriving DecidableEq, Repr

inductive Reply where
  | closed
  | read (r : Except IoError (Option (List UInt8)))
  | wrote (r : Except IoError Unit)
  | linked (r : Except TunError Unit)
  | waited
  deriving Repr

inductive Task where
  | idle
  /-- In `close`; `byLoop` for the read thread's own close, after which it finishes. -/
  | closing (c : CloseStage) (byLoop : Bool)
  | accessing (a : Access)
  /-- Holding the handle's lock for reading, with the descriptor it found there. -/
  | holding (fd : Nat) (a : Access)
  | linking (s : LinkStage)
  | waiting
  | looping (s : LoopStage)
  | done (r : Reply)
  deriving Repr

inductive Event where
  | began (t : Nat) (c : Call)
  | entered (t : Nat)
  | flagged (t : Nat)
  | looked (t : Nat) (full : Bool)
  | unregistered (t : Nat)
  | drained (t : Nat)
  /-- Thread `t` took what the handle's lock held, a descriptor or nothing, and dropped it. -/
  | released (t : Nat) (fd : Option Nat)
  | tornDown (t : Nat)
  /-- Thread `t` polled and read, or wrote, descriptor `fd`. -/
  | touched (t : Nat) (fd : Nat)
  | received (t : Nat) (o : ReadOutcome)
  | injected (t : Nat) (d : Delivery)
  /-- Thread `t` got the bridge that call `b` started. -/
  | obtained (t b : Nat)
  | begun (t : Nat)
  | spawned (t : Nat) (reader : Nat)
  | spawnFailed (t : Nat)
  | finished (t : Nat)
  | returned (t : Nat) (r : Reply)
  deriving Repr

def Event.thread : Event → Nat
  | .began t _ | .entered t | .flagged t | .looked t _ | .unregistered t | .drained t
  | .released t _ | .tornDown t | .touched t _ | .received t _ | .injected t _ | .obtained t _
  | .begun t | .spawned t _ | .spawnFailed t | .finished t | .returned t _ => t

structure World where
  shared : Shared
  tasks : Nat → Task
  log : List Event

def World.init (fd : Nat) : World where
  shared := { fd := some fd }
  tasks := fun _ => .idle
  log := []

def World.move (w : World) (t : Nat) (task : Task) (es : List Event) : World :=
  { w with tasks := fun u => if u = t then task else w.tasks u, log := w.log ++ es }

def World.setShared (w : World) (s : Shared) : World := { w with shared := s }

def World.reply (w : World) (t : Nat) (r : Reply) : World :=
  w.move t (.done r) [.returned t r]

def Call.task : Call → Task
  | .close => .closing .enter false
  | .read => .accessing (.read true)
  | .readSlice => .accessing (.read false)
  | .write bytes => .accessing (.write bytes)
  | .link => .linking .check
  | .wait => .waiting

/-- Where a close call goes when it returns: the read thread's own close is followed by marking
the read task finished. -/
def afterClose : Bool → Task
  | true => .looping .finish
  | false => .done .closed

def loopNext (t : Nat) : LoopReaction → Task × List Event
  | .deliver d => (.looping .upgrade, [.injected t d])
  | .discard | .retry => (.looping .upgrade, [])
  | .stop _ => (.closing .enter true, [])

/-- The shared state once the bridge in the cell is detached: its writer is unregistered. -/
def Shared.detach (s : Shared) : Shared :=
  { s with writers := s.writers.filter (s.bridge ≠ some ·) }

section Detach

variable (s : Shared)

@[simp] theorem Shared.closed_detach : s.detach.closed = s.closed := rfl
@[simp] theorem Shared.once_detach : s.detach.once = s.once := rfl
@[simp] theorem Shared.fd_detach : s.detach.fd = s.fd := rfl
@[simp] theorem Shared.cell_detach : s.detach.cell = s.cell := rfl
@[simp] theorem Shared.started_detach : s.detach.started = s.started := rfl
@[simp] theorem Shared.finished_detach : s.detach.finished = s.finished := rfl
@[simp] theorem Shared.bridge_detach : s.detach.bridge = s.bridge := rfl
@[simp] theorem Shared.writers_detach :
    s.detach.writers = s.writers.filter (s.bridge ≠ some ·) := rfl

end Detach

def Task.holdsLock : Task → Bool
  | .holding .. => true
  | _ => false

/-- A close call takes the once. The thread that gets it sets the closed flag, detaches the
bridge it finds in the cell, takes the descriptor once no reader holds the lock, drops it and
completes the once; the other close calls wait for the once to complete. -/
inductive CloseStep (t : Nat) : World → World → Prop where
  | enter {w : World} {l : Bool} :
      w.tasks t = .closing .enter l → w.shared.once = .ready →
      CloseStep t w ((w.setShared { w.shared with once := .running }).move t (.closing .flag l)
        [.entered t])
  | pass {w : World} {l : Bool} :
      w.tasks t = .closing .enter l → w.shared.once = .complete →
      CloseStep t w (w.move t (afterClose l) [.returned t .closed])
  | flag {w : World} {l : Bool} :
      w.tasks t = .closing .flag l →
      CloseStep t w ((w.setShared { w.shared with closed := true }).move t (.closing .look l)
        [.flagged t])
  | look {w : World} {l : Bool} :
      w.tasks t = .closing .look l →
      CloseStep t w (w.move t (.closing (if w.shared.cell = .full then .detach else .release) l)
        [.looked t (w.shared.cell == .full)])
  | detach {w : World} {l : Bool} :
      w.tasks t = .closing .detach l →
      CloseStep t w ((w.setShared w.shared.detach).move t (.closing .release l)
        [.unregistered t, .drained t])
  | release {w : World} {l : Bool} :
      w.tasks t = .closing .release l → (∀ u, (w.tasks u).holdsLock = false) →
      CloseStep t w ((w.setShared { w.shared with fd := none }).move t (.closing .complete l)
        [.released t w.shared.fd])
  | complete {w : World} {l : Bool} :
      w.tasks t = .closing .complete l →
      CloseStep t w ((w.setShared { w.shared with once := .complete }).move t (afterClose l)
        [.tornDown t, .returned t .closed])

inductive AccessStep (t : Nat) : World → World → Prop where
  | acquire {w : World} {a : Access} {d : Nat} :
      w.tasks t = .accessing a → w.shared.fd = some d →
      AccessStep t w (w.move t (.holding d a) [])
  | refuseRead {w : World} {again : Bool} :
      w.tasks t = .accessing (.read again) → w.shared.fd = none →
      AccessStep t w (w.reply t (.read (.error IoError.closed)))
  | refuseWrite {w : World} {bytes : List UInt8} :
      w.tasks t = .accessing (.write bytes) → w.shared.fd = none →
      AccessStep t w (w.reply t (.wrote (.error IoError.closed)))
  | refuseLoop {w : World} :
      w.tasks t = .accessing .loop → w.shared.fd = none →
      AccessStep t w (w.move t (.looping (.decide (.failed IoError.closed))) [])
  | receive {w : World} {d : Nat} {again : Bool} (o : ReadOutcome) :
      w.tasks t = .holding d (.read again) → (again = true → o.slice ≠ .ok none) →
      AccessStep t w (w.move t (.done (.read o.slice))
        [.touched t d, .returned t (.read o.slice)])
  | retry {w : World} {d : Nat} :
      w.tasks t = .holding d (.read true) →
      AccessStep t w (w.move t (.accessing (.read true)) [.touched t d])
  | send {w : World} {d : Nat} {bytes : List UInt8} (r : Except IoError Unit) :
      w.tasks t = .holding d (.write bytes) →
      AccessStep t w (w.move t (.done (.wrote r)) [.touched t d, .returned t (.wrote r)])
  | receiveLoop {w : World} {d : Nat} (o : ReadOutcome) :
      w.tasks t = .holding d .loop →
      AccessStep t w (w.move t (.looping (.decide o)) [.touched t d, .received t o])

/-- `link_endpoint` checks the closed flag, then gets the bridge from its cell or starts it; a
failed spawn unregisters the writer, marks the read task finished and leaves the cell empty.
Then it checks the flag again, since a close may have looked in the cell before the bridge was
there, and detaches the bridge if the device was closed. -/
inductive LinkStep (t : Nat) : World → World → Prop where
  | checkClosed {w : World} :
      w.tasks t = .linking .check → w.shared.closed = true →
      LinkStep t w (w.reply t (.linked (.error .closed)))
  | checkOpen {w : World} :
      w.tasks t = .linking .check → w.shared.closed = false →
      LinkStep t w (w.move t (.linking .cell) [])
  | getFull {w : World} {b : Nat} :
      w.tasks t = .linking .cell → w.shared.cell = .full → w.shared.bridge = some b →
      LinkStep t w (w.move t (.linking .recheck) [.obtained t b])
  | build {w : World} :
      w.tasks t = .linking .cell → w.shared.cell = .empty →
      LinkStep t w ((w.setShared { w.shared with cell := .building }).move t (.linking .start) [])
  | startFailed {w : World} (e : TunError) :
      w.tasks t = .linking .start →
      LinkStep t w ((w.setShared { w.shared with cell := .empty }).reply t (.linked (.error e)))
  | start {w : World} :
      w.tasks t = .linking .start →
      LinkStep t w ((w.setShared { w.shared with started := true,
                                                 writers := w.shared.writers ++ [t] }).move t
        (.linking .spawn) [.begun t])
  | spawn {w : World} (r : Nat) :
      w.tasks t = .linking .spawn → w.tasks r = .idle →
      LinkStep t w ((w.move r (.looping .upgrade) []).move t (.linking .store) [.spawned t r])
  | spawnFailed {w : World} (e : IoError) :
      w.tasks t = .linking .spawn →
      LinkStep t w ((w.setShared { w.shared with finished := true, cell := .empty,
                                                 writers := w.shared.writers.erase t }).move t
        (.done (.linked (.error (.openFailed "spawn read loop" e))))
        [.spawnFailed t, .unregistered t, .finished t,
          .returned t (.linked (.error (.openFailed "spawn read loop" e)))])
  | store {w : World} :
      w.tasks t = .linking .store →
      LinkStep t w ((w.setShared { w.shared with cell := .full, bridge := some t }).move t
        (.linking .recheck) [.obtained t t])
  | recheckOpen {w : World} :
      w.tasks t = .linking .recheck → w.shared.closed = false →
      LinkStep t w (w.reply t (.linked (.ok ())))
  | recheckClosed {w : World} :
      w.tasks t = .linking .recheck → w.shared.closed = true →
      LinkStep t w ((w.setShared w.shared.detach).move t (.done (.linked (.error .closed)))
        [.unregistered t, .drained t, .returned t (.linked (.error .closed))])

/-- The read thread, for as long as the device is owned, takes the handle's lock for one poll
and read, then acts on what it read; on a failure it closes the device and marks the read task
finished. -/
inductive LoopStep (t : Nat) : World → World → Prop where
  | upgrade {w : World} :
      w.tasks t = .looping .upgrade → LoopStep t w (w.move t (.accessing .loop) [])
  | lost {w : World} :
      w.tasks t = .looping .upgrade → LoopStep t w (w.move t (.looping .stopped) [])
  | decide {w : World} {o : ReadOutcome} (attached : Bool) :
      w.tasks t = .looping (.decide o) →
      LoopStep t w (w.move t (loopNext t (o.react attached w.shared.closed)).1
        (loopNext t (o.react attached w.shared.closed)).2)
  | finish {w : World} :
      w.tasks t = .looping .finish →
      LoopStep t w ((w.setShared { w.shared with finished := true }).move t (.looping .stopped)
        [.finished t])

inductive Step (t : Nat) : World → World → Prop where
  | call {w : World} (c : Call) :
      w.tasks t = .idle → Step t w (w.move t c.task [.began t c])
  | close {w w' : World} : CloseStep t w w' → Step t w w'
  | access {w w' : World} : AccessStep t w w' → Step t w w'
  | link {w w' : World} : LinkStep t w w' → Step t w w'
  | wait {w : World} :
      w.tasks t = .waiting → (w.shared.started && !w.shared.finished) = false →
      Step t w (w.reply t .waited)
  | loop {w w' : World} : LoopStep t w w' → Step t w w'

def Next (w w' : World) : Prop := ∃ t, Step t w w'

end Threads

end TunBridge
