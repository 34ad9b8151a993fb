import TunBridge.Device.Threads
/-!
An adapter shared by threads, at the granularity of the once that runs the teardown and the
mutex around the DNS slot. `close` takes the once: it closes the device, takes the helper out of
the slot and stops it under the mutex, and closes the stack. `set_dns_server` puts its helper
into the slot and stops the one it replaced under the mutex. The drop comes once no call is in
progress, closes as `close` does and frees the adapter with what the slot still holds.
-/
namespace TunBridge

namespace Teardown

inductive Stage where
  | enter
  | device
  | take
  /-- Stopping the helper taken out of the slot, with the mutex held. -/
  | stop (helper : Nat)
  | stack (took : Option Nat)
  | complete (took : Option Nat)
  deriving DecidableEq, Repr

inductive Task where
  | closing (stage : Stage) (byDrop : Bool)
  | handing (helper : Nat)
  /-- `set_dns_server` stopping the helper it replaced, with the mutex held. -/
  | stopping (helper : Nat)
  | freeing
  | done
  deriving DecidableEq, Repr

inductive Call where
  | close
  | setDns
  | drop
  deriving DecidableEq, Repr

inductive Event where
  | began (t : Nat) (c : Call)
  | entered (t : Nat)
  | deviceClosed (t : Nat)
  /-- Thread `t` emptied the slot, which held `helper`. -/
  | took (t : Nat) (helper : Option Nat)
  | stopped (t : Nat) (helper : Nat)
  | stackClosed (t : Nat)
  | tornDown (t : Nat)
  /-- Thread `t` put `helper` into the slot in place of `replaced`. -/
  | installed (t : Nat) (helper : Nat) (replaced : Option Nat)
  | returned (t : Nat)
  /-- The drop by thread `t` freed the adapter, with `helper` left in its slot. -/
  | freed (t : Nat) (helper : Option Nat)
  deriving DecidableEq, Repr

/-- The shared state, each thread's task (thread `t` is the `t`-th call made), and the log. -/
structure World where
  once : Threads.Gate := .ready
  slot : Option Nat := none
  holder : Option Nat := none
  helpers : Nat := 0
  dropped : Bool := false
  tasks : List Task := []
  log : List Event := []
  deriving Repr

namespace World

def move (w : World) (t : Nat) (task : Task) (es : List Event) : World :=
  { w with tasks := w.tasks.set t task, log := w.log ++ es }

def spawn (w : World) (c : Call) (task : Task) : World :=
  { w with tasks := w.tasks ++ [task], log := w.log ++ [.began w.tasks.length c] }

end World

/-- Where a thread goes when its close returns: a close call is over, the drop goes on to free
the adapter. -/
def afterClose : Bool → Task
  | false => .done
  | true => .freeing

/-- One atomic action of thread `t`: a new call, `t` being the number of calls made so far, or a
step of `t` in its call. -/
inductive Step : Nat → World → World → Prop where
  | close {w : World} :
      w.dropped = false → Step w.tasks.length w (w.spawn .close (.closing .enter false))
  | setDns {w : World} : w.dropped = false →
      Step w.tasks.length w ({ w with helpers := w.helpers + 1 }.spawn .setDns (.handing w.helpers))
  /-- The drop comes when no call is in progress. -/
  | drop {w : World} : w.dropped = false → (∀ task ∈ w.tasks, task = .done) →
      Step w.tasks.length w ({ w with dropped := true }.spawn .drop (.closing .enter true))
  | enter {w : World} {t : Nat} {d : Bool} :
      w.tasks[t]? = some (.closing .enter d) → w.once = .ready →
      Step t w ({ w with once := .running }.move t (.closing .device d) [.entered t])
  | pass {w : World} {t : Nat} {d : Bool} :
      w.tasks[t]? = some (.closing .enter d) → w.once = .complete →
      Step t w (w.move t (afterClose d) [.returned t])
  | closeDevice {w : World} {t : Nat} {d : Bool} :
      w.tasks[t]? = some (.closing .device d) →
      Step t w (w.move t (.closing .take d) [.deviceClosed t])
  | takeHelper {w : World} {t p : Nat} {d : Bool} :
      w.tasks[t]? = some (.closing .take d) → w.holder = none → w.slot = some p →
      Step t w ({ w with slot := none, holder := some t }.move t (.closing (.stop p) d)
        [.took t (some p)])
  | takeNothing {w : World} {t : Nat} {d : Bool} :
      w.tasks[t]? = some (.closing .take d) → w.holder = none → w.slot = none →
      Step t w (w.move t (.closing (.stack none) d) [.took t none])
  | stopTaken {w : World} {t p : Nat} {d : Bool} :
      w.tasks[t]? = some (.closing (.stop p) d) →
      Step t w ({ w with holder := none }.move t (.closing (.stack (some p)) d) [.stopped t p])
  | closeStack {w : World} {t : Nat} {o : Option Nat} {d : Bool} :
      w.tasks[t]? = some (.closing (.stack o) d) →
      Step t w (w.move t (.closing (.complete o) d) [.stackClosed t])
  | complete {w : World} {t : Nat} {o : Option Nat} {d : Bool} :
      w.tasks[t]? = some (.closing (.complete o) d) →
      Step t w ({ w with once := .complete }.move t (afterClose d) [.tornDown t, .returned t])
  | replace {w : World} {t n p : Nat} :
      w.tasks[t]? = some (.handing n) → w.holder = none → w.slot = some p →
      Step t w ({ w with slot := some n, holder := some t }.move t (.stopping p)
        [.installed t n (some p)])
  | install {w : World} {t n : Nat} :
      w.tasks[t]? = some (.handing n) → w.holder = none → w.slot = none →
      Step t w ({ w with slot := some n }.move t .done [.installed t n none, .returned t])
  | stopReplaced {w : World} {t p : Nat} :
      w.tasks[t]? = some (.stopping p) →
      Step t w ({ w with holder := none }.move t .done [.stopped t p, .returned t])
  | free {w : World} {t : Nat} :
      w.tasks[t]? = some .freeing → Step t w (w.move t .done [.freed t w.slot])

def Next (w w' : World) : Prop := ∃ t, Step t w w'

end Teardown

end TunBridge
