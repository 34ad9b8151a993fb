import Mathlib.Logic.Relation
import TunBridge.Adapter.Teardown
import TunBridge.Host.Step
import TunBridge.Proofs.Endpoint.Outbound
/-!
Tearing down an adapter shared by threads, over every interleaving. The invariant `Inv` gathers
the once and the teardown's marks (`Gated`), the mutex (`Holder`), where each helper is
(`Conserved`), the slot (`Slotted`), replacements (`Installs`) and the drop (`Dropping`). Main
statement: `adapter_teardown`.
-/
namespace TunBridge

namespace Teardown

namespace Task

def inBody : Task → Bool
  | .closing .enter _ => false
  | .closing _ _ => true
  | _ => false

def holdsMutex : Task → Bool
  | .closing (.stop _) _ | .stopping _ => true
  | _ => false

def carries (n : Nat) : Task → Bool
  | .handing m | .stopping m | .closing (.stop m) _ => m == n
  | _ => false

theorem inBody_closing {s : Stage} {d : Bool} : (Task.closing s d).inBody = true ↔ s ≠ .enter := by
  cases s <;> simp [inBody]

end Task

namespace Event

def thread : Event → Nat
  | .began t _ | .entered t | .deviceClosed t | .took t _ | .stopped t _ | .stackClosed t
  | .tornDown t | .installed t _ _ | .returned t | .freed t _ => t

/-- The teardown's marks: each of its steps but stopping the helper taken. -/
def isMark : Event → Bool
  | .entered _ | .deviceClosed _ | .took .. | .stackClosed _ | .tornDown _ => true
  | _ => false

def touchesSlot : Event → Bool
  | .took .. | .installed .. => true
  | _ => false

def stops (n : Nat) : Event → Bool
  | .stopped _ m => m == n
  | _ => false

def nextSlot : Event → Option Nat → Option Nat
  | .installed _ n _, _ => some n
  | .took .., _ => none
  | _, s => s

end Event

def slotOf (log : List Event) : Option Nat := log.foldl (fun s e => e.nextSlot s) none

def stopEvents (t : Nat) (o : Option Nat) : List Event := (o.map (Event.stopped t)).toList

def Stage.trail (t : Nat) : Stage → List Event
  | .enter => []
  | .device => [.entered t]
  | .take => [.entered t, .deviceClosed t]
  | .stop p => [.entered t, .deviceClosed t, .took t (some p)]
  | .stack o => [.entered t, .deviceClosed t, .took t o] ++ stopEvents t o
  | .complete o => [.entered t, .deviceClosed t, .took t o] ++ stopEvents t o ++ [.stackClosed t]

def teardownEvents (t : Nat) (o : Option Nat) : List Event :=
  [.entered t, .deviceClosed t, .took t o] ++ stopEvents t o ++ [.stackClosed t, .tornDown t]

def marks (t : Nat) (o : Option Nat) : List Event :=
  [.entered t, .deviceClosed t, .took t o, .stackClosed t, .tornDown t]

namespace World

/-- How many of the places helper `n` can be in hold it: the slot, a thread handing it over or
stopping it, and the log once it is stopped. -/
def placed (w : World) (n : Nat) : Nat :=
  w.slot.toList.count n + w.tasks.countP (·.carries n) + w.log.countP (·.stops n)

def Finished (w : World) : Prop := w.dropped = true ∧ ∀ task ∈ w.tasks, task = .done

end World

attribute [simp] World.move World.spawn

def Reach (w : World) : Prop := Relation.ReflTransGen Next {} w

theorem Reach.init : Reach {} := .refl

theorem Reach.step {w w' : World} {t : Nat} (h : Reach w) (hs : Step t w w') : Reach w' :=
  h.tail ⟨t, hs⟩

/-! ### Threads' tasks -/

section Entries

variable {α : Type} {l : List α} {t u : Nat} {a b x : α}

theorem getElem?_set_of_some (ht : l[t]? = some a) : (l.set t b)[t]? = some b := by
  simp [List.getElem?_set', ht]

theorem getElem?_set_eq_some_iff (ht : l[t]? = some a) (ha : a ≠ x) (hb : b ≠ x) :
    (l.set t b)[u]? = some x ↔ l[u]? = some x := by
  by_cases hu : t = u
  · subst hu
    simp [getElem?_set_of_some ht, ht, ha, hb]
  · rw [List.getElem?_set_ne hu]

theorem getElem?_concat_eq_some_iff (hb : b ≠ x) : (l ++ [b])[u]? = some x ↔ l[u]? = some x := by
  rcases Nat.lt_or_ge u l.length with hu | hu
  · rw [List.getElem?_append_left hu]
  · rw [List.getElem?_append_right hu, List.getElem?_eq_none hu]
    cases h : u - l.length <;> simp [hb]

end Entries

/-! ### What one step can do -/

/-- What a step of thread `u` that logs `es` can do to the rest: its events are `u`'s own and
touch the slot only while no thread holds the mutex, and no other thread's task changes. -/
structure Frame (w w' : World) (u : Nat) (es : List Event) : Prop where
  log : w'.log = w.log ++ es
  threads : ∀ e ∈ es, e.thread = u ∧ (e.touchesSlot = true → w.holder = none)
  tasks : ∀ v, v ≠ u → w'.tasks[v]? = w.tasks[v]?

section Frame

variable {w w' : World} {u : Nat}

theorem Frame.move {b : Task} {es : List Event}
    (threads : ∀ e ∈ es, e.thread = u ∧ (e.touchesSlot = true → w.holder = none))
    (log : w'.log = w.log ++ es) (tasks : w'.tasks = w.tasks.set u b) : Frame w w' u es :=
  ⟨log, threads, fun v hv => by rw [tasks, List.getElem?_set_ne (Ne.symm hv)]⟩

theorem Frame.spawn {c : Call} {b : Task} (log : w'.log = w.log ++ [.began w.tasks.length c])
    (tasks : w'.tasks = w.tasks ++ [b]) : Frame w w' w.tasks.length [.began w.tasks.length c] := by
  refine ⟨log, by simp [Event.thread, Event.touchesSlot], fun v hv => ?_⟩
  rw [tasks]
  rcases Nat.lt_or_ge v w.tasks.length with hv' | hv'
  · rw [List.getElem?_append_left hv']
  · rw [List.getElem?_eq_none hv', List.getElem?_eq_none (by simp; omega)]

theorem Step.frame (hs : Step u w w') : ∃ es, Frame w w' u es ∧
    (u < w.tasks.length → ∃ a, w.tasks[u]? = some a ∧ a ≠ .done) := by
  cases hs with
  | close | setDns | drop => exact ⟨_, Frame.spawn rfl rfl, by simp⟩
  | enter ht | pass ht | closeDevice ht | stopTaken ht | closeStack ht | complete ht
  | stopReplaced ht | free ht =>
    exact ⟨_, Frame.move (by simp [Event.thread, Event.touchesSlot]) rfl rfl,
      fun _ => ⟨_, ht, by simp⟩⟩
  | takeHelper ht free | takeNothing ht free | replace ht free | install ht free =>
    exact ⟨_, Frame.move (by simp [Event.thread, Event.touchesSlot, free]) rfl rfl,
      fun _ => ⟨_, ht, by simp⟩⟩

end Frame

/-! ### The once -/

/-- The once and the teardown's progress: before the once is taken no mark is logged and no
thread is in the teardown; while it runs, exactly one thread is, and the log holds its trail so
far, with no other mark; once it is complete, the log holds the whole teardown and no other mark,
and no thread is in it. -/
inductive Gated (w : World) : Prop
  | ready : w.once = .ready → w.log.filter Event.isMark = [] →
      (∀ (u : Nat) (task : Task), w.tasks[u]? = some task → task.inBody = false) → Gated w
  | running (t : Nat) (s : Stage) (d : Bool) : w.once = .running →
      w.tasks[t]? = some (.closing s d) → s ≠ .enter → (s.trail t).Sublist w.log →
      w.log.filter Event.isMark = (s.trail t).filter Event.isMark →
      (∀ (u : Nat) (task : Task), w.tasks[u]? = some task → task.inBody = true → u = t) → Gated w
  | complete (t : Nat) (o : Option Nat) : w.once = .complete →
      (teardownEvents t o).Sublist w.log → w.log.filter Event.isMark = marks t o →
      (∀ (u : Nat) (task : Task), w.tasks[u]? = some task → task.inBody = false) → Gated w

namespace Gated

variable {w w' : World} {t u : Nat} {es : List Event}

theorem init : Gated {} := .ready rfl rfl (by simp)

theorem outside (h : Gated w) (once : w'.once = w.once) (log : w'.log = w.log ++ es)
    (quiet : es.filter Event.isMark = [])
    (body : ∀ (u : Nat) (task : Task), task.inBody = true →
      (w'.tasks[u]? = some task ↔ w.tasks[u]? = some task)) :
    Gated w' := by
  -- the threads inside the teardown are the same before and after
  have still : (∀ (u : Nat) (task : Task), w.tasks[u]? = some task → task.inBody = false) →
      ∀ (u : Nat) (task : Task), w'.tasks[u]? = some task → task.inBody = false := by
    intro idle u task ht
    cases hb : task.inBody
    · rfl
    · exact hb.symm.trans (idle u task ((body u task hb).mp ht))
  cases h with
  | ready ready logged idle =>
    exact .ready (once ▸ ready) (by simp [log, logged, quiet]) (still idle)
  | running t s d running ht hs trail logged alone =>
    refine .running t s d (once ▸ running) ((body t _ (Task.inBody_closing.mpr hs)).mpr ht) hs
      (log ▸ trail.trans (List.sublist_append_left _ _)) (by simp [log, logged, quiet]) ?_
    intro u task hu hb
    exact alone u task ((body u task hb).mp hu) hb
  | complete t o complete trail logged idle =>
    exact .complete t o (once ▸ complete) (log ▸ trail.trans (List.sublist_append_left _ _))
      (by simp [log, logged, quiet]) (still idle)

theorem body (h : Gated w) {s : Stage} {d : Bool} (ht : w.tasks[t]? = some (.closing s d))
    (hs : s ≠ .enter) :
    w.once = .running ∧ (s.trail t).Sublist w.log ∧
      w.log.filter Event.isMark = (s.trail t).filter Event.isMark ∧
      ∀ (u : Nat) (task : Task), w.tasks[u]? = some task → task.inBody = true → u = t := by
  have hb : (Task.closing s d).inBody = true := Task.inBody_closing.mpr hs
  cases h with
  | ready _ _ idle => exact absurd (idle t _ ht) (by simp [hb])
  | running t' s' d' running ht' _ trail logged alone =>
    obtain rfl := alone t _ ht hb
    obtain ⟨rfl, rfl⟩ : s = s' ∧ d = d' := by simpa [ht] using ht'
    exact ⟨running, trail, logged, alone⟩
  | complete _ _ _ _ _ idle => exact absurd (idle t _ ht) (by simp [hb])

theorem advance (h : Gated w) {s s' : Stage} {d : Bool} (ht : w.tasks[t]? = some (.closing s d))
    (hs : s ≠ .enter) (hs' : s' ≠ .enter) (trail : s'.trail t = s.trail t ++ es)
    (once : w'.once = w.once) (log : w'.log = w.log ++ es)
    (tasks : w'.tasks = w.tasks.set t (.closing s' d)) : Gated w' := by
  obtain ⟨running, before, logged, alone⟩ := h.body ht hs
  refine .running t s' d (once ▸ running) (tasks ▸ getElem?_set_of_some ht) hs' ?_ ?_ ?_
  · rw [trail, log]
    exact before.append (List.Sublist.refl es)
  · rw [trail, log, List.filter_append, List.filter_append, logged]
  · intro u task hu hb
    by_cases hne : t = u
    · exact hne.symm
    · rw [tasks, List.getElem?_set_ne hne] at hu
      exact alone u task hu hb

theorem enter (h : Gated w) {d : Bool} (ht : w.tasks[t]? = some (.closing .enter d))
    (ready : w.once = .ready) :
    Gated ({ w with once := .running }.move t (.closing .device d) [.entered t]) := by
  cases h with
  | running _ _ _ running => simp [ready] at running
  | complete _ _ complete => simp [ready] at complete
  | ready _ logged idle =>
    refine .running t .device d rfl (getElem?_set_of_some ht) (by simp) ?_ ?_ ?_
    · simp [World.move, Stage.trail]
    · simp [World.move, Stage.trail, logged]
    · intro u task hu hb
      by_cases hne : t = u
      · exact hne.symm
      · simp only [World.move, List.getElem?_set_ne hne] at hu
        exact absurd (idle u task hu) (by simp [hb])

theorem finish (h : Gated w) {o : Option Nat} {d : Bool}
    (ht : w.tasks[t]? = some (.closing (.complete o) d)) :
    Gated ({ w with once := .complete }.move t (afterClose d) [.tornDown t, .returned t]) := by
  obtain ⟨-, before, logged, alone⟩ := h.body ht (by simp)
  refine .complete t o rfl
    (by simpa [teardownEvents, Stage.trail] using before.append (by simp)) ?_ ?_
  · cases o <;>
      simp [World.move, logged, marks, Stage.trail, stopEvents, Event.isMark, List.filter_cons]
  · intro u task hu
    by_cases hne : t = u
    · subst hne
      rw [World.move, getElem?_set_of_some ht, Option.some.injEq] at hu
      subst hu
      cases d <;> rfl
    · simp only [World.move, List.getElem?_set_ne hne] at hu
      cases hb : task.inBody
      · rfl
      · exact absurd (alone u task hu hb).symm hne

theorem step (h : Gated w) (hs : Step u w w') : Gated w' := by
  -- threads outside the teardown stay outside, and new ones start outside
  have moved : ∀ {t : Nat} {a b : Task}, w.tasks[t]? = some a → a.inBody = false →
      b.inBody = false → ∀ (u : Nat) (task : Task), task.inBody = true →
        ((w.tasks.set t b)[u]? = some task ↔ w.tasks[u]? = some task) :=
    fun ht ha hb _ _ hi => getElem?_set_eq_some_iff ht
      (ne_of_apply_ne Task.inBody (by simp [ha, hi]))
      (ne_of_apply_ne Task.inBody (by simp [hb, hi]))
  have spawned : ∀ {b : Task}, b.inBody = false → ∀ (u : Nat) (task : Task), task.inBody = true →
      ((w.tasks ++ [b])[u]? = some task ↔ w.tasks[u]? = some task) :=
    fun hb _ _ hi => getElem?_concat_eq_some_iff (ne_of_apply_ne Task.inBody (by simp [hb, hi]))
  cases hs with
  | close | setDns | drop => exact h.outside rfl rfl (by simp [Event.isMark]) (spawned rfl)
  | enter ht ready => exact h.enter ht ready
  | pass ht =>
    exact h.outside rfl rfl (by simp [Event.isMark]) (moved ht rfl (by cases ‹Bool› <;> rfl))
  | closeDevice ht | takeHelper ht | takeNothing ht | stopTaken ht | closeStack ht =>
    exact h.advance ht (by simp) (by simp) rfl rfl rfl rfl
  | complete ht => exact h.finish ht
  | replace ht | install ht | stopReplaced ht | free ht =>
    exact h.outside rfl rfl (by simp [Event.isMark]) (moved ht rfl rfl)

end Gated

/-! ### The slot's mutex -/

def Holder (w : World) : Prop :=
  ∀ u, w.holder = some u ↔ ∃ task, w.tasks[u]? = some task ∧ task.holdsMutex = true

namespace Holder

variable {w w' : World} {t u : Nat} {a b : Task}

theorem init : Holder {} := by simp [Holder]

theorem move (h : Holder w) (ht : t < w.tasks.length) (tasks : w'.tasks = w.tasks.set t b)
    (hold : w'.holder = some t ↔ b.holdsMutex = true)
    (others : ∀ u, u ≠ t → (w'.holder = some u ↔ w.holder = some u)) : Holder w' := by
  intro u
  by_cases hu : u = t
  · subst hu
    simp [tasks, List.getElem?_set_self ht, hold]
  · rw [others u hu, h u, tasks, List.getElem?_set_ne (Ne.symm hu)]

theorem idle (h : Holder w) (ht : w.tasks[t]? = some a) (ha : a.holdsMutex = false)
    (hb : b.holdsMutex = false) (holder : w'.holder = w.holder)
    (tasks : w'.tasks = w.tasks.set t b) : Holder w' := by
  refine h.move (List.getElem?_eq_some_iff.mp ht).1 tasks ?_ fun u _ => by rw [holder]
  rw [holder, h t]
  simp [ht, ha, hb]

theorem acquire (ht : w.tasks[t]? = some a) (free : w.holder = none) (hb : b.holdsMutex = true)
    (holder : w'.holder = some t) (tasks : w'.tasks = w.tasks.set t b) (h : Holder w) :
    Holder w' := by
  refine h.move (List.getElem?_eq_some_iff.mp ht).1 tasks (by simp [holder, hb]) fun u hu => ?_
  rw [holder, free]
  simp [Ne.symm hu]

theorem release (ht : w.tasks[t]? = some a) (ha : a.holdsMutex = true) (hb : b.holdsMutex = false)
    (holder : w'.holder = none) (tasks : w'.tasks = w.tasks.set t b) (h : Holder w) :
    Holder w' := by
  have held : w.holder = some t := (h t).mpr ⟨a, ht, ha⟩
  refine h.move (List.getElem?_eq_some_iff.mp ht).1 tasks (by simp [holder, hb]) fun u hu => ?_
  rw [holder, held]
  simp [Ne.symm hu]

theorem concat (h : Holder w) (hb : b.holdsMutex = false) (holder : w'.holder = w.holder)
    (tasks : w'.tasks = w.tasks ++ [b]) : Holder w' := by
  intro u
  rw [holder, h u, tasks]
  refine exists_congr fun task => and_congr_left fun hh => ?_
  have other : b ≠ task := ne_of_apply_ne Task.holdsMutex (by simp [hb, hh])
  exact (getElem?_concat_eq_some_iff other).symm

theorem step (h : Holder w) (hs : Step u w w') : Holder w' := by
  cases hs with
  | close | setDns | drop => exact h.concat rfl rfl rfl
  | enter ht | closeDevice ht | takeNothing ht | closeStack ht | install ht | free ht =>
    exact h.idle ht rfl rfl rfl rfl
  | pass ht | complete ht => exact h.idle ht rfl (by cases ‹Bool› <;> rfl) rfl rfl
  | takeHelper ht free | replace ht free => exact h.acquire ht free rfl rfl rfl
  | stopTaken ht | stopReplaced ht => exact h.release ht rfl rfl rfl rfl

end Holder

/-! ### Where each helper is -/

/-- Each helper made is in exactly one place, and a helper not made yet in none. -/
def Conserved (w : World) : Prop := ∀ n, w.placed n = if n < w.helpers then 1 else 0

namespace Conserved

variable {w w' : World} {t u : Nat} {a b : Task} {es : List Event}

theorem init : Conserved {} := by simp [Conserved, World.placed]

theorem move (h : Conserved w) (ht : w.tasks[t]? = some a) (tasks : w'.tasks = w.tasks.set t b)
    (log : w'.log = w.log ++ es) (helpers : w'.helpers = w.helpers)
    (balance : ∀ n, w'.slot.toList.count n + (if b.carries n then 1 else 0) +
      es.countP (·.stops n) = w.slot.toList.count n + (if a.carries n then 1 else 0)) :
    Conserved w' := by
  intro n
  have set := Outbound.countP_set (·.carries n) ht b
  have before := h n
  have moved := balance n
  simp only [World.placed, tasks, log, helpers, List.countP_append] at set before moved ⊢
  omega

theorem concat (h : Conserved w) {c : Call} (hb : ∀ n, b.carries n = false)
    (slot : w'.slot = w.slot) (tasks : w'.tasks = w.tasks ++ [b])
    (log : w'.log = w.log ++ [.began w.tasks.length c]) (helpers : w'.helpers = w.helpers) :
    Conserved w' := by
  intro n
  have before := h n
  simp only [World.placed, slot, tasks, log, helpers, List.countP_append, List.countP_singleton,
    hb] at before ⊢
  simpa [Event.stops] using before

theorem handOver (h : Conserved w) :
    Conserved ({ w with helpers := w.helpers + 1 }.spawn .setDns (.handing w.helpers)) := by
  intro n
  have before := h n
  simp only [World.placed, World.spawn, List.countP_append, List.countP_singleton, Task.carries,
    Event.stops, beq_iff_eq, Bool.false_eq_true, ↓reduceIte] at before ⊢
  by_cases fresh : w.helpers = n
  · subst fresh
    simp only [Nat.lt_irrefl, ↓reduceIte] at before
    simp only [Nat.lt_add_one, ↓reduceIte]
    omega
  · have bound : n < w.helpers + 1 ↔ n < w.helpers := by omega
    simp only [fresh, bound, ↓reduceIte]
    omega

theorem step (h : Conserved w) (hs : Step u w w') : Conserved w' := by
  cases hs with
  | close | drop => exact h.concat (by simp [Task.carries]) rfl rfl rfl rfl
  | setDns => exact h.handOver
  | enter ht | closeDevice ht | takeNothing ht | closeStack ht | free ht =>
    exact h.move ht rfl rfl rfl (by simp [Task.carries, Event.stops])
  | pass ht | complete ht =>
    exact h.move ht rfl rfl rfl
      (by cases ‹Bool› <;> simp [Task.carries, Event.stops, afterClose])
  | takeHelper ht _ slot =>
    exact h.move ht rfl rfl rfl (by simp [Task.carries, Event.stops, slot, List.count_singleton])
  | replace ht _ slot =>
    -- the helper put in and the one replaced swap places
    exact h.move ht rfl rfl rfl fun n => by
      simp [Task.carries, Event.stops, slot, List.count_singleton]
      omega
  | install ht _ slot =>
    exact h.move ht rfl rfl rfl (by simp [Task.carries, Event.stops, slot, List.count_singleton])
  | stopTaken ht | stopReplaced ht =>
    exact h.move ht rfl rfl rfl (by simp [Task.carries, Event.stops, List.countP_cons])

theorem stops_le (h : Conserved w) (n : Nat) : w.log.countP (·.stops n) ≤ 1 := by
  have := h n
  simp only [World.placed] at this
  split at this <;> omega

end Conserved

/-! ### The slot -/

theorem slotOf_append (log es : List Event) :
    slotOf (log ++ es) = es.foldl (fun s e => e.nextSlot s) (slotOf log) := by
  simp [slotOf, List.foldl_append]

theorem foldl_nextSlot {n : Nat} : ∀ (es : List Event) {s : Option Nat},
    es.foldl (fun s e => e.nextSlot s) s = some n → s = some n ∨ ∃ u m, .installed u n m ∈ es
  | [], _, h => .inl h
  | e :: es, s, h => by
    rcases foldl_nextSlot es h with h | ⟨u, m, hi⟩
    · -- the slot held `n` after `e`: `e` installed it, or left it as it was
      cases e with
      | installed u m r =>
        obtain rfl : m = n := by simpa [Event.nextSlot] using h
        exact .inr ⟨u, r, List.mem_cons_self ..⟩
      | took => simp [Event.nextSlot] at h
      | _ => exact .inl h
    · exact .inr ⟨u, m, List.mem_cons_of_mem e hi⟩

/-- The slot is what the log's installs and takes leave, and each take took what the slot held
then. -/
def Slotted (w : World) : Prop :=
  w.slot = slotOf w.log ∧
    ∀ t o, .took t o ∈ w.log → ∃ pre post, w.log = pre ++ .took t o :: post ∧ o = slotOf pre

namespace Slotted

variable {w w' : World} {u : Nat} {es : List Event}

theorem init : Slotted {} := by simp [Slotted, slotOf]

theorem append (h : Slotted w) (log : w'.log = w.log ++ es)
    (slot : w'.slot = es.foldl (fun s e => e.nextSlot s) w.slot)
    (took : ∀ t o, .took t o ∈ es → es = [.took t o] ∧ o = w.slot) : Slotted w' := by
  obtain ⟨tracked, takes⟩ := h
  refine ⟨by rw [slot, log, slotOf_append, tracked], fun t o ht => ?_⟩
  rw [log] at ht ⊢
  rcases List.mem_append.mp ht with old | new
  · obtain ⟨pre, post, split, held⟩ := takes t o old
    exact ⟨pre, post ++ es, by simp [split], held⟩
  · obtain ⟨rfl, rfl⟩ := took t o new
    exact ⟨w.log, [], rfl, tracked⟩

theorem step (h : Slotted w) (hs : Step u w w') : Slotted w' := by
  cases hs with
  | takeHelper _ _ slot | takeNothing _ _ slot =>
    exact h.append rfl (by simp [Event.nextSlot, slot]) (by simp [slot])
  | _ => exact h.append rfl rfl (by simp)

end Slotted

/-! ### Replacing a helper -/

def Replacing (log : List Event) (t n p : Nat) : Prop :=
  ∃ pre mid, log = pre ++ .installed t n (some p) :: mid ∧
    ∀ e ∈ mid, e.thread ≠ t ∧ e.touchesSlot = false

/-- Thread `t` replaced helper `p` by `n`, stopped `p` with no thread acting on the slot in
between, and returned. -/
def Replaced (log : List Event) (t n p : Nat) : Prop :=
  ∃ pre mid post, log = pre ++ .installed t n (some p) :: mid ++ .stopped t p :: post ∧
    (∀ e ∈ mid, e.thread ≠ t ∧ e.touchesSlot = false) ∧ .returned t ∈ post

def Installed (w : World) (t n p : Nat) : Prop :=
  (w.tasks[t]? = some (.stopping p) ∧ Replacing w.log t n p) ∨
    (w.tasks[t]? = some .done ∧ Replaced w.log t n p)

/-- Every replacement of a helper is stopping the helper replaced, or has stopped it. -/
def Installs (w : World) : Prop :=
  ∀ t n p, .installed t n (some p) ∈ w.log → Installed w t n p

/-- A step of another thread `u` keeps a replacement as it is: while the replacing thread stops
its helper it holds the mutex, so the step does not act on the slot. -/
theorem Installed.keep {w w' : World} {t u n p : Nat} {es : List Event} (h : Installed w t n p)
    (hh : Holder w) (frame : Frame w w' u es) (hu : u ≠ t) : Installed w' t n p := by
  rcases h with ⟨stopping, pre, mid, split, aside⟩ | ⟨done, pre, mid, post, split, aside, ret⟩
  · have held : w.holder = some t := (hh t).mpr ⟨_, stopping, rfl⟩
    refine .inl ⟨by rw [frame.tasks t (Ne.symm hu)]; exact stopping, pre, mid ++ es,
      by simp [frame.log, split], fun e he => ?_⟩
    rcases List.mem_append.mp he with he | he
    · exact aside e he
    · obtain ⟨thread, touches⟩ := frame.threads e he
      refine ⟨thread ▸ hu, ?_⟩
      cases ht : e.touchesSlot
      · rfl
      · simp [touches ht] at held
  · exact .inr ⟨by rw [frame.tasks t (Ne.symm hu)]; exact done, pre, mid, post ++ es,
      by simp [frame.log, split], aside, List.mem_append_left _ ret⟩

namespace Installs

variable {w w' : World} {u : Nat}

theorem init : Installs {} := by simp [Installs]

theorem step (h : Installs w) (hh : Holder w) (hs : Step u w w') : Installs w' := by
  obtain ⟨es, frame, active⟩ := hs.frame
  -- the replacements of other threads are kept
  have keep : ∀ t n p, .installed t n (some p) ∈ w.log → u ≠ t → Installed w' t n p :=
    fun t n p old hu => (h t n p old).keep hh frame hu
  -- `u` has a step left, so a replacement of its own is still stopping its helper
  have own : ∀ n p, .installed u n (some p) ∈ w.log →
      w.tasks[u]? = some (.stopping p) ∧ Replacing w.log u n p := by
    intro n p old
    rcases h u n p old with stopping | ⟨done, -⟩
    · exact stopping
    · obtain ⟨a, ha, hne⟩ := active (List.getElem?_eq_some_iff.mp done).1
      exact absurd (Option.some.inj (ha.symm.trans done)) hne
  cases hs with
  | stopReplaced ht =>
    intro t n p hi
    have old : .installed t n (some p) ∈ w.log := by simpa using hi
    by_cases hu : u = t
    · subst hu
      obtain ⟨stopping, pre, mid, split, aside⟩ := own n p old
      obtain rfl : _ = p := by simpa [ht] using stopping
      exact .inr ⟨getElem?_set_of_some ht, pre, mid, [.returned u], by simp [split], aside,
        List.mem_singleton_self _⟩
    · exact keep t n p old hu
  | replace ht =>
    intro t n p hi
    rcases List.mem_append.mp hi with old | new
    · by_cases hu : u = t
      · subst hu
        exact absurd (own n p old).1 (by simp [ht])
      · exact keep t n p old hu
    · obtain ⟨rfl, rfl, rfl⟩ := by simpa using new
      exact .inl ⟨getElem?_set_of_some ht, w.log, [], rfl, by simp⟩
  | close | setDns | drop =>
    intro t n p hi
    have old : .installed t n (some p) ∈ w.log := by simpa using hi
    refine keep t n p old fun same => ?_
    -- the new thread has replaced nothing
    subst same
    simpa using (own n p old).1
  | _ =>
    -- no other step replaces a helper, or moves a thread stopping one
    intro t n p hi
    have old : .installed t n (some p) ∈ w.log := by simpa using hi
    by_cases hu : u = t
    · subst hu
      have moved := ‹w.tasks[u]? = some _›.symm.trans (own n p old).1
      cases moved
    · exact keep t n p old hu

end Installs

/-! ### The drop -/

def DropAt (w : World) (t : Nat) : Task → Prop
  | .closing _ byDrop => byDrop = true
  | .freeing => w.once = .complete
  | .done => w.once = .complete ∧ .freed t w.slot ∈ w.log
  | _ => False

/-- Once the adapter is handed to its drop, the drop's thread is where `DropAt` says and every
other thread is done. -/
def Dropping (w : World) : Prop :=
  w.dropped = true → ∃ t task, w.tasks[t]? = some task ∧ DropAt w t task ∧
    ∀ (u : Nat) (task : Task), w.tasks[u]? = some task → u ≠ t → task = .done

namespace Dropping

variable {w w' : World} {u : Nat} {a b : Task} {es : List Event}

theorem init : Dropping {} := by simp [Dropping]

theorem move (h : Dropping w) (frame : Frame w w' u es) (ht : w.tasks[u]? = some a)
    (ha : a ≠ .done) (same : w'.dropped = w.dropped) (tasks : w'.tasks = w.tasks.set u b)
    (carry : DropAt w u a → DropAt w' u b) : Dropping w' := by
  intro dropped'
  obtain ⟨t, task, hd, at_, others⟩ := h (same ▸ dropped')
  obtain rfl : u = t := by
    by_cases hu : u = t
    · exact hu
    · exact absurd (others u a ht hu) ha
  obtain rfl : a = task := Option.some.inj (ht.symm.trans hd)
  exact ⟨u, b, tasks ▸ getElem?_set_of_some ht, carry at_,
    fun v task hv hv' => others v task ((frame.tasks v hv') ▸ hv) hv'⟩

theorem step (h : Dropping w) (hs : Step u w w') : Dropping w' := by
  obtain ⟨es, frame, -⟩ := hs.frame
  cases hs with
  | close hd | setDns hd =>
    intro dropped'
    simp [hd] at dropped'
  | drop _ idle =>
    intro _
    refine ⟨w.tasks.length, .closing .enter true, by simp, rfl, fun v task hv hne => idle task ?_⟩
    exact List.mem_of_getElem? ((frame.tasks v hne) ▸ hv)
  | enter ht | closeDevice ht | takeHelper ht | takeNothing ht | stopTaken ht | closeStack ht =>
    exact h.move frame ht (by simp) rfl rfl id
  | pass ht complete =>
    exact h.move frame ht (by simp) rfl rfl fun byDrop => by
      subst byDrop
      exact complete
  | complete ht =>
    exact h.move frame ht (by simp) rfl rfl fun byDrop => by
      subst byDrop
      rfl
  | replace ht | install ht | stopReplaced ht => exact h.move frame ht (by simp) rfl rfl False.elim
  | free ht =>
    exact h.move frame ht (by simp) rfl rfl fun complete => ⟨complete, by simp⟩

end Dropping

/-! ### Every reachable world -/

structure Inv (w : World) : Prop where
  gated : Gated w
  holder : Holder w
  conserved : Conserved w
  slotted : Slotted w
  installs : Installs w
  dropping : Dropping w

namespace Inv

variable {w : World}

theorem init : Inv {} :=
  ⟨Gated.init, Holder.init, Conserved.init, Slotted.init, Installs.init, Dropping.init⟩

theorem step {w' : World} {u : Nat} (h : Inv w) (hs : Step u w w') : Inv w' :=
  ⟨h.gated.step hs, h.holder.step hs, h.conserved.step hs, h.slotted.step hs,
    h.installs.step h.holder hs, h.dropping.step hs⟩

theorem reach (hw : Reach w) : Inv w := by
  induction hw with
  | refl => exact init
  | tail _ next ih =>
    obtain ⟨u, hs⟩ := next
    exact ih.step hs

end Inv

theorem Stage.trail_marks (t : Nat) : ∀ s : Stage,
    ∃ o k, (s.trail t).filter Event.isMark = (marks t o).take k
  | .enter => ⟨none, 0, rfl⟩
  | .device => ⟨none, 1, rfl⟩
  | .take => ⟨none, 2, rfl⟩
  | .stop p => ⟨some p, 3, rfl⟩
  | .stack o => ⟨o, 3, by cases o <;> rfl⟩
  | .complete o => ⟨o, 4, by cases o <;> rfl⟩

/-- The log's marks are the start of one teardown's: the teardown runs at most once, in order. -/
theorem Gated.marks_prefix {w : World} (h : Gated w) :
    ∃ t o, w.log.filter Event.isMark <+: marks t o := by
  cases h with
  | ready _ logged _ => exact ⟨0, none, logged ▸ List.nil_prefix⟩
  | running t s _ _ _ _ _ logged _ =>
    obtain ⟨o, k, trail⟩ := Stage.trail_marks t s
    exact ⟨t, o, logged ▸ trail ▸ List.take_prefix k _⟩
  | complete t o _ _ logged _ => exact ⟨t, o, logged ▸ List.prefix_refl _⟩

/-- When the drop is over: the teardown ran once, to its end; the adapter was freed with the
helper the slot holds, which was installed after the teardown took the slot; and every other
helper made was stopped exactly once. -/
theorem Inv.finished {w : World} (h : Inv w) (fin : w.Finished) : ∃ t o,
    w.log.filter Event.isMark = marks t o ∧ (teardownEvents t o).Sublist w.log ∧
    (∃ u, .freed u w.slot ∈ w.log) ∧
    (∀ n, w.slot = some n →
      ∃ pre post, w.log = pre ++ .took t o :: post ∧ ∃ u m, .installed u n m ∈ post) ∧
    ∀ n < w.helpers, w.log.countP (Event.stops n) = if w.slot = some n then 0 else 1 := by
  obtain ⟨dropped, done⟩ := fin
  obtain ⟨d, task, hd, at_, -⟩ := h.dropping dropped
  -- the drop's thread is done too, so the once is complete and the adapter freed
  obtain rfl : task = .done := done task (List.mem_of_getElem? hd)
  obtain ⟨complete, freed⟩ := at_
  obtain ⟨t, o, trail, logged⟩ : ∃ t o, (teardownEvents t o).Sublist w.log ∧
      w.log.filter Event.isMark = marks t o := by
    cases h.gated with
    | ready ready => simp [complete] at ready
    | running _ _ _ running => simp [complete] at running
    | complete t o _ trail logged _ => exact ⟨t, o, trail, logged⟩
  refine ⟨t, o, logged, trail, ⟨d, freed⟩, fun n held => ?_, fun n hn => ?_⟩
  · -- the take emptied the slot; what it holds now was installed later
    have took : .took t o ∈ w.log := trail.subset (by simp [teardownEvents])
    obtain ⟨pre, post, split, -⟩ := h.slotted.2 t o took
    refine ⟨pre, post, split, ?_⟩
    have tracked := h.slotted.1
    rw [split, slotOf_append, List.foldl_cons, held] at tracked
    rcases foldl_nextSlot post tracked.symm with empty | installed
    · simp [Event.nextSlot] at empty
    · exact installed
  · -- no thread carries a helper any more
    have idle : w.tasks.countP (·.carries n) = 0 :=
      List.countP_eq_zero.mpr fun task hm => by simp [done task hm, Task.carries]
    have placed := h.conserved n
    simp only [World.placed, idle, hn, if_true] at placed
    cases hs : w.slot with
    | none => simp [hs] at placed ⊢; omega
    | some p =>
      by_cases hp : p = n
      · simp [hs, hp] at placed ⊢; omega
      · simp [hs, hp] at placed ⊢; omega

/-- Tearing down an adapter shared by threads, whatever calls they make and however their steps
interleave. At every moment: the teardown's marks are the start of one teardown's, so it runs at
most once and in order; its take took the helper the slot held then; a `set_dns_server` that
replaced a helper is still stopping it, or stopped it with no thread acting on the slot in
between and then returned; and no helper is stopped twice. When the drop is over: the teardown
ran exactly once, closing the device, then stopping the helper it took, then closing the stack;
the adapter was freed with the helper its slot holds, which was installed after the teardown
emptied the slot; and every helper made was stopped exactly once, except that one, which never
was. -/
theorem adapter_teardown {w : World} (hw : Reach w) :
    (∃ t o, w.log.filter Event.isMark <+:
      ([.entered t, .deviceClosed t, .took t o, .stackClosed t, .tornDown t] : List Event)) ∧
    (∀ t o, .took t o ∈ w.log → ∃ pre post, w.log = pre ++ .took t o :: post ∧ o = slotOf pre) ∧
    (∀ t n p, .installed t n (some p) ∈ w.log → w.tasks[t]? = some (.stopping p) ∨
      ∃ pre mid post, w.log = pre ++ .installed t n (some p) :: mid ++ .stopped t p :: post ∧
        (∀ e ∈ mid, e.thread ≠ t ∧ e.touchesSlot = false) ∧ .returned t ∈ post) ∧
    (∀ n, w.log.countP (Event.stops n) ≤ 1) ∧
    (w.Finished → ∃ t o,
      w.log.filter Event.isMark = [.entered t, .deviceClosed t, .took t o, .stackClosed t,
        .tornDown t] ∧
      ([Event.entered t, .deviceClosed t, .took t o] ++ (o.map (Event.stopped t)).toList ++
        [Event.stackClosed t, .tornDown t]).Sublist w.log ∧
      (∃ u, .freed u w.slot ∈ w.log) ∧
      (∀ n, w.slot = some n →
        ∃ pre post, w.log = pre ++ .took t o :: post ∧ ∃ u m, .installed u n m ∈ post) ∧
      ∀ n < w.helpers, w.log.countP (Event.stops n) = if w.slot = some n then 0 else 1) := by
  have h := Inv.reach hw
  refine ⟨h.gated.marks_prefix, h.slotted.2, fun t n p hi => ?_, h.conserved.stops_le,
    h.finished⟩
  rcases h.installs t n p hi with ⟨stopping, -⟩ | ⟨-, replaced⟩
  · exact .inl stopping
  · exact .inr replaced

/-- An adapter handed helper 0, then closed and dropped: the teardown stops the helper, once. -/
theorem adapter_teardown_closed : ∃ w, Reach w ∧ w.Finished ∧ w.helpers = 1 ∧
    w.log.countP (Event.stops 0) = 1 := by
  have run := Reach.init
    |>.step (.setDns rfl) |>.step (.install (t := 0) rfl rfl rfl)
    |>.step (.close rfl) |>.step (.enter (t := 1) rfl rfl) |>.step (.closeDevice (t := 1) rfl)
    |>.step (.takeHelper (t := 1) rfl rfl rfl) |>.step (.stopTaken (t := 1) rfl)
    |>.step (.closeStack (t := 1) rfl) |>.step (.complete (t := 1) rfl)
    |>.step (.drop rfl (by decide)) |>.step (.pass (t := 2) rfl rfl) |>.step (.free (t := 2) rfl)
  refine ⟨_, run, ⟨rfl, by decide⟩, rfl, ?_⟩
  obtain ⟨-, -, -, -, -, -, counts⟩ := (adapter_teardown run).2.2.2.2 ⟨rfl, by decide⟩
  exact (counts 0 (by decide)).trans rfl

/-- A helper handed over after the teardown emptied the slot is never stopped: thread 0 closes
the adapter; thread 1 then hands over helper 0; the drop, by thread 2, finds the once complete and
frees the adapter with helper 0 still in its slot. -/
theorem helper_handed_after_close_never_stopped : ∃ w, Reach w ∧ w.Finished ∧ w.helpers = 1 ∧
    w.slot = some 0 ∧ w.log.countP (Event.stops 0) = 0 := by
  have run := Reach.init
    |>.step (.close rfl) |>.step (.enter (t := 0) rfl rfl) |>.step (.closeDevice (t := 0) rfl)
    |>.step (.takeNothing (t := 0) rfl rfl rfl) |>.step (.closeStack (t := 0) rfl)
    |>.step (.complete (t := 0) rfl) |>.step (.setDns rfl) |>.step (.install (t := 1) rfl rfl rfl)
    |>.step (.drop rfl (by decide)) |>.step (.pass (t := 2) rfl rfl) |>.step (.free (t := 2) rfl)
  exact ⟨_, run, ⟨rfl, by decide⟩, rfl, rfl, rfl⟩

end Teardown

/-! ### On the host -/

namespace Host

variable {h : Host} {d f : Nat}

@[simp] theorem dnsStops_releaseFile : (h.releaseFile f).dnsStops = h.dnsStops := by
  unfold releaseFile
  split <;> rfl

@[simp] theorem dnsStops_closeDevice : (h.closeDevice d).dnsStops = h.dnsStops := by
  unfold closeDevice
  split
  · rfl
  · split
    · rfl
    · split <;> split <;> simp [modifyDevice]

@[simp] theorem dnsStops_releaseDevice : (h.releaseDevice d).dnsStops = h.dnsStops := by
  unfold releaseDevice
  split <;> simp [modifyDevice]

theorem ownedDevice_eq_ok {k : Nat} {a : Adapter} {dev : Device} :
    h.ownedDevice k = .ok (a, d, dev) ↔
      h.adapters[k]? = some a ∧ a.device = some d ∧ h.devices[d]? = some dev := by
  unfold ownedDevice adapterAt
  cases hk : h.adapters[k]? with
  | none => simp
  | some b =>
    cases hd : b.device with
    | none => simp only [hd]; constructor <;> rintro ⟨⟩; simp_all
    | some e =>
      cases hdev : h.devices[e]? with
      | none =>
        simp only [hd, hdev]
        constructor <;> rintro ⟨⟩
        simp_all
      | some v =>
        simp only [hd, hdev, Except.ok.injEq, Prod.mk.injEq, Option.some.injEq]
        constructor
        · rintro ⟨rfl, rfl, rfl⟩
          exact ⟨rfl, hd, hdev⟩
        · rintro ⟨rfl, hd', hdev'⟩
          obtain rfl : e = d := by simpa [hd] using hd'
          exact ⟨rfl, rfl, by simpa [hdev] using hdev'⟩

/-- On the host, a helper handed to an adapter that is already closed, its slot empty, is never
stopped: the adapter's drop finds it closed and frees it with the helper in its slot. -/
theorem dns_after_close_never_stopped (k : Nat) {a : Adapter} {dev : Device}
    (owned : h.ownedDevice k = .ok (a, d, dev)) (closed : a.closed = true) (empty : a.dns = none) :
    ((h.step (.adapterDns k)).1.step (.adapterDrop k)).1.dnsStops[h.dnsStops.length]? = some 0 := by
  obtain ⟨ha, hd, hdev⟩ := ownedDevice_eq_ok.mp owned
  -- the helper is numbered after the others and put in the slot of the closed adapter
  let hand : Adapter → Adapter := fun a => { a with dns := some h.dnsStops.length }
  let h₁ : Host := { h with dnsStops := h.dnsStops ++ [0],
                            adapters := h.adapters.modify k hand }
  have handed : (h.step (.adapterDns k)).1 = h₁ := by
    simp [Host.step, orBad, owned, empty, h₁, hand]
  have held : h₁.adapters[k]? = some (hand a) := by
    simp [h₁, ha]
  have still : h₁.ownedDevice k = .ok (hand a, d, dev) :=
    ownedDevice_eq_ok.mpr ⟨held, hd, hdev⟩
  -- the drop finds the adapter closed: its close does nothing
  have kept : h₁.closeAdapter k = h₁ := by
    simp [closeAdapter, held, hand, closed]
  rw [handed]
  simp [Host.step, orBad, still, kept, h₁]

end Host

end TunBridge
