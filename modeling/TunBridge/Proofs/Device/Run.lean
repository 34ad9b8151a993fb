import Mathlib.Logic.Relation
import TunBridge.Device.Threads
/-!
Runs of a device shared by threads: reachable worlds, the order of events in the log (`Before`),
and what one step changes (`Step.frame`).
-/
namespace TunBridge

namespace Threads

def Reach (fd : Nat) (w : World) : Prop := Relation.ReflTransGen Next (World.init fd) w

theorem Reach.init (fd : Nat) : Reach fd (World.init fd) := Relation.ReflTransGen.refl

theorem Reach.step {fd : Nat} {w w' : World} (t : Nat) (h : Reach fd w) (hs : Step t w w') :
    Reach fd w' :=
  h.tail ⟨t, hs⟩

theorem Reach.invariant {fd : Nat} {P : World → Prop} (init : P (World.init fd))
    (step : ∀ {w w' : World} {t : Nat}, Reach fd w → P w → Step t w w' → P w') {w : World}
    (hw : Reach fd w) : P w := by
  induction hw with
  | refl => exact init
  | tail hw hstep ih =>
    obtain ⟨t, hstep⟩ := hstep
    exact step hw ih hstep

/-- `a` happened before `b`: the log holds `a` and, later, `b`. -/
def Before (log : List Event) (a b : Event) : Prop := [a, b].Sublist log

namespace Before

variable {log es : List Event} {a b : Event}

theorem mem_left (h : Before log a b) : a ∈ log :=
  h.subset (List.mem_cons_self ..)

theorem mem_right (h : Before log a b) : b ∈ log :=
  h.subset (List.mem_cons_of_mem _ (List.mem_singleton_self _))

theorem append (h : Before log a b) (es : List Event) : Before (log ++ es) a b :=
  h.trans (List.sublist_append_left _ _)

theorem pair (log : List Event) (a b : Event) : Before (log ++ [a, b]) a b :=
  List.sublist_append_right log [a, b]

theorem of_mem_append (ha : a ∈ log) (hb : b ∈ es) : Before (log ++ es) a b :=
  (List.singleton_sublist.mpr ha).append (List.singleton_sublist.mpr hb)

theorem append_cases (h : Before (log ++ es) a b) :
    Before log a b ∨ (a ∈ log ∧ b ∈ es) ∨ Before es a b := by
  obtain ⟨l₁, l₂, split, h₁, h₂⟩ := List.sublist_append_iff.mp h
  -- the pair splits into a part taken from `log` and a part taken from `es`
  match l₁, l₂, split with
  | [], l₂, split =>
    rw [List.nil_append] at split
    subst split
    exact .inr (.inr h₂)
  | [_], l₂, split =>
    obtain ⟨rfl, rfl⟩ : _ ∧ [b] = l₂ := by simpa using split
    exact .inr (.inl ⟨h₁.subset (List.mem_singleton_self _), h₂.subset (List.mem_singleton_self _)⟩)
  | [_, _], [], split =>
    obtain ⟨rfl, rfl⟩ : _ ∧ _ := by simpa using split
    exact .inl h₁
  | [_, _], _ :: _, split => simp at split
  | _ :: _ :: _ :: _, _, split => simp at split

theorem triple_cases {c : Event} (h : [a, b, c].Sublist (log ++ es)) :
    [a, b, c].Sublist log ∨ (Before log a b ∧ c ∈ es) ∨ Before es b c := by
  obtain ⟨l₁, l₂, split, h₁, h₂⟩ := List.sublist_append_iff.mp h
  match l₁, l₂, split with
  | [], l₂, split =>
    rw [List.nil_append] at split
    subst split
    exact .inr (.inr ((List.sublist_cons_self _ _).trans h₂))
  | [_], l₂, split =>
    obtain ⟨rfl, rfl⟩ : _ ∧ [b, c] = l₂ := by simpa using split
    exact .inr (.inr h₂)
  | [_, _], l₂, split =>
    obtain ⟨rfl, rfl, rfl⟩ : _ ∧ _ ∧ [c] = l₂ := by simpa using split
    exact .inr (.inl ⟨h₁, h₂.subset (List.mem_singleton_self _)⟩)
  | [_, _, _], [], split =>
    obtain ⟨rfl, rfl, rfl⟩ : _ ∧ _ ∧ _ := by simpa using split
    exact .inl h₁
  | [_, _, _], _ :: _, split => simp at split
  | _ :: _ :: _ :: _ :: _, _, split => simp at split

theorem of_append (h : Before (log ++ es) a b) (hb : b ∉ es) : Before log a b := by
  rcases h.append_cases with h | ⟨-, hin⟩ | h
  · exact h
  · exact absurd hin hb
  · exact absurd h.mem_right hb

end Before

section Move

variable {w : World} {t u : Nat} {task : Task} {es : List Event} {s : Shared} {r : Reply}

@[simp] theorem move_shared : (w.move t task es).shared = w.shared := rfl
@[simp] theorem move_log : (w.move t task es).log = w.log ++ es := rfl
@[simp] theorem move_tasks_self : (w.move t task es).tasks t = task := by simp [World.move]

theorem move_tasks_of_ne (h : u ≠ t) : (w.move t task es).tasks u = w.tasks u := by
  simp [World.move, h]

theorem move_tasks : (w.move t task es).tasks u = if u = t then task else w.tasks u := rfl

@[simp] theorem setShared_shared : (w.setShared s).shared = s := rfl
@[simp] theorem setShared_tasks : (w.setShared s).tasks = w.tasks := rfl
@[simp] theorem setShared_log : (w.setShared s).log = w.log := rfl

@[simp] theorem reply_eq : w.reply t r = w.move t (.done r) [.returned t r] := rfl

@[simp] theorem init_log (fd : Nat) : (World.init fd).log = [] := rfl
@[simp] theorem init_tasks (fd : Nat) (t : Nat) : (World.init fd).tasks t = .idle := rfl
@[simp] theorem init_shared (fd : Nat) : (World.init fd).shared = { fd := some fd } := rfl

end Move

variable {w w' : World} {t : Nat}

/-- The events a step of thread `t` appends are `t`'s, and every other thread keeps its task,
except an unused one that a spawn hands the read loop. -/
theorem Step.frame (h : Step t w w') :
    ∃ es, w'.log = w.log ++ es ∧ (∀ e ∈ es, e.thread = t) ∧
      ∀ u, u ≠ t → w'.tasks u = w.tasks u ∨
        (w.tasks u = .idle ∧ w'.tasks u = .looping .upgrade) := by
  -- in every step but a spawn only `t` moves
  have alone : ∀ {task es}, (∀ e ∈ es, e.thread = t) →
      ∃ es', (w.move t task es).log = w.log ++ es' ∧ (∀ e ∈ es', e.thread = t) ∧
        ∀ u, u ≠ t → (w.move t task es).tasks u = w.tasks u ∨
          (w.tasks u = .idle ∧ (w.move t task es).tasks u = .looping .upgrade) :=
    fun own => ⟨_, rfl, own, fun u hu => .inl (move_tasks_of_ne hu)⟩
  cases h with
  | call => exact alone (by simp [Event.thread])
  | close h => cases h <;> exact alone (by simp [Event.thread])
  | access h => cases h <;> exact alone (by simp [Event.thread])
  | link h =>
    cases h
    case spawn r _ hr =>
      refine ⟨[.spawned t r], by simp, by simp [Event.thread], fun u hu => ?_⟩
      by_cases hur : u = r
      · subst hur
        exact .inr ⟨hr, by simp [move_tasks_of_ne hu]⟩
      · exact .inl (by simp [move_tasks_of_ne hu, move_tasks_of_ne hur])
    all_goals exact alone (by simp [Event.thread])
  | wait => exact alone (by simp [Event.thread])
  | loop h =>
    cases h
    case decide o attached _ =>
      exact alone (by cases o.react attached w.shared.closed <;> simp [loopNext, Event.thread])
    all_goals exact alone (by simp [Event.thread])

theorem Step.closed_mono (h : Step t w w') (hc : w.shared.closed = true) :
    w'.shared.closed = true := by
  cases h with
  | close h => cases h <;> simp [hc]
  | access h => cases h <;> simp [hc]
  | link h => cases h <;> simp [hc]
  | loop h => cases h <;> simp [hc]
  | _ => simp [hc]

theorem Step.finished_mono (h : Step t w w') (hf : w.shared.finished = true) :
    w'.shared.finished = true := by
  cases h with
  | close h => cases h <;> simp [hf]
  | access h => cases h <;> simp [hf]
  | link h => cases h <;> simp [hf]
  | loop h => cases h <;> simp [hf]
  | _ => simp [hf]

theorem closed_mono_of_run (h : Relation.ReflTransGen Next w w') (hc : w.shared.closed = true) :
    w'.shared.closed = true := by
  induction h with
  | refl => exact hc
  | tail _ hstep ih =>
    obtain ⟨_, hstep⟩ := hstep
    exact hstep.closed_mono ih

end Threads

end TunBridge
