import TunBridge.Config.Basic
/-!
Consumer channels, unbounded unless given a capacity. A blocking send is refused only by a
consumer that hung up; a non-blocking send is refused by a full channel too.
-/
namespace TunBridge

structure Channel (α : Type) where
  capacity : Option Nat := none
  queue : List α := []
  listening : Bool := true

namespace Channel

variable {α : Type}

def hasRoom (c : Channel α) : Bool :=
  match c.capacity with
  | none => true
  | some n => c.queue.length < n

def accepts (c : Channel α) : Handoff → Bool
  | .block => c.listening
  | .dropNewest => c.listening && c.hasRoom

def offer (c : Channel α) (policy : Handoff) (x : α) : Option (Channel α) :=
  if c.accepts policy then some { c with queue := c.queue ++ [x] } else none

/-- Hands the item over under the policy: it is queued if the offer goes through and dropped
otherwise. Answers whether the consumer got it. -/
def handOff (c : Channel α) (policy : Handoff) (x : α) : Channel α × Bool :=
  match c.offer policy x with
  | some d => (d, true)
  | none => (c, false)

def take (c : Channel α) : Option α × Channel α :=
  match c.queue with
  | [] => (none, c)
  | x :: xs => (some x, { c with queue := xs })

/-- The consumer hangs up: everything still queued comes back, in order, to be dropped. -/
def hangUp (c : Channel α) : List α × Channel α :=
  (c.queue, { c with queue := [], listening := false })

theorem offer_queue {c d : Channel α} {p : Handoff} {x : α} (h : c.offer p x = some d) :
    d.queue = c.queue ++ [x] := by
  unfold offer at h; split at h <;> simp_all; cases h; rfl

theorem handOff_fst (c : Channel α) (p : Handoff) (x : α) :
    (c.handOff p x).1 = { c with queue := c.queue ++ if c.accepts p then [x] else [] } := by
  by_cases h : c.accepts p <;> simp [handOff, offer, h]

theorem handOff_snd (c : Channel α) (p : Handoff) (x : α) : (c.handOff p x).2 = c.accepts p := by
  by_cases h : c.accepts p <;> simp [handOff, offer, h]

theorem offer_dropNewest_length {c d : Channel α} {n : Nat} {x : α} (hc : c.capacity = some n)
    (h : c.offer .dropNewest x = some d) : d.queue.length ≤ n := by
  have hq := offer_queue h
  simp only [offer, accepts, hasRoom, hc] at h
  split at h
  · rename_i hr
    simp only [Bool.and_eq_true, decide_eq_true_eq] at hr
    rw [hq, List.length_append, List.length_singleton]
    omega
  · simp at h

end Channel

end TunBridge
