import Mathlib.Logic.Relation
import TunBridge.Link.Outbound
/-!
Concurrent producers on a device's link whose only party is the device's writer: as many frames
wait as notifications are still to run (`Inv.awaiting`), so the device gets the queued frames in
order, each once. Main statement: `outbound_delivery`.
-/
namespace TunBridge

namespace Outbound

variable {Sink Party : Type}

def Event.caller : Event → Option Nat
  | .pushed t _ | .refused t | .returned t _ => some t
  | .handed .. => none

def handedBytes (log : List Event) : List (List UInt8) :=
  log.filterMap fun | .handed b _ => some b | _ => none

def pushedFrames (log : List Event) : List PacketBuffer :=
  log.filterMap fun | .pushed _ p => some p | _ => none

theorem handedBytes_append (log log' : List Event) :
    handedBytes (log ++ log') = handedBytes log ++ handedBytes log' := List.filterMap_append

theorem pushedFrames_append (log log' : List Event) :
    pushedFrames (log ++ log') = pushedFrames log ++ pushedFrames log' := List.filterMap_append

/-- Whether a call has queued its frame and its own notification of the writer has not run. -/
def Producer.awaiting : Producer Party → Bool
  | .queued | .notifying (_ :: _) => true
  | _ => false

/-- What the log says about call `t` at each stage of the call. -/
def Tracked (log : List Event) (t : Nat) : Producer Party → Prop
  | .ready _ => ∀ e ∈ log, e.caller ≠ some t
  | .queued | .notifying _ => (∃ p, .pushed t p ∈ log) ∧ ∀ r, .returned t r ∉ log
  | .returned (.ok _) => (∃ p, .pushed t p ∈ log) ∧ ∀ r, .returned t r ∈ log ↔ r = .ok ()
  | .returned (.error e) =>
    e = .queueFull ∧ (∀ p, .pushed t p ∉ log) ∧ ∀ r, .returned t r ∈ log ↔ r = .error e

theorem Tracked.append {log es : List Event} {t : Nat} {c : Producer Party}
    (h : Tracked log t c) (other : ∀ e ∈ es, e.caller ≠ some t) : Tracked (log ++ es) t c := by
  have pushed : ∀ p, .pushed t p ∉ es := fun p hp => other _ hp rfl
  have returned : ∀ r, .returned t r ∉ es := fun r hr => other _ hr rfl
  cases c with
  | ready p =>
    intro e he
    rcases List.mem_append.mp he with he | he
    · exact h e he
    · exact other e he
  | queued | notifying =>
    exact ⟨h.1.imp fun p hp => List.mem_append_left _ hp,
      fun r hr => (List.mem_append.mp hr).elim (h.2 r) (returned r)⟩
  | returned r =>
    cases r with
    | ok u =>
      exact ⟨h.1.imp fun p hp => List.mem_append_left _ hp,
        fun r => by simp [List.mem_append, returned r, h.2 r]⟩
    | error e =>
      exact ⟨h.1, fun p hp => (List.mem_append.mp hp).elim (h.2.1 p) (pushed p),
        fun r => by simp [List.mem_append, returned r, h.2.2 r]⟩

theorem countP_set (f : α → Bool) :
    ∀ {l : List α} {t : Nat} {x : α}, l[t]? = some x → ∀ y,
      (l.set t y).countP f + (if f x then 1 else 0) = l.countP f + (if f y then 1 else 0)
  | a :: l, 0, x, h, y => by
    simp only [List.getElem?_cons_zero, Option.some.injEq] at h
    subst h
    simp only [List.set_cons_zero, List.countP_cons]
    omega
  | a :: l, t + 1, x, h, y => by
    simp only [List.getElem?_cons_succ] at h
    have := countP_set f h y
    simp only [List.set_cons_succ, List.countP_cons]
    omega

/-- The invariant of the outbound path of a link of capacity `cap` whose only party is `w`. -/
structure Inv (cap : Nat) (w : Party) (s : Outbound Sink Party) : Prop where
  capacity : s.link.capacity = cap
  parties : s.link.notified = [w]
  awaiting : s.link.queue.length = s.calls.countP Producer.awaiting
  single : ∀ (t : Nat) (rest : List Party), s.calls[t]? = some (.notifying rest) → rest.length ≤ 1
  conserved : handedBytes s.log ++ s.link.queue.map PacketBuffer.toBytes =
    (pushedFrames s.log).map PacketBuffer.toBytes
  tracked : ∀ (t : Nat) c, s.calls[t]? = some c → Tracked s.log t c
  callers : ∀ e ∈ s.log, ∀ t, e.caller = some t → t < s.calls.length
  room : ∀ t p, .pushed t p ∈ s.log → 0 < cap

namespace Inv

variable {cap mtu : Nat} {w : Party} {s : Outbound Sink Party}

theorem start (frames : List PacketBuffer) : Inv cap w (start cap mtu w frames : Outbound Sink Party) where
  capacity := rfl
  parties := rfl
  awaiting := by
    simp only [Outbound.start, Endpoint.addParty, Endpoint.create, List.length_nil]
    symm
    simp [List.countP_eq_zero, Producer.awaiting]
  single := by simp [Outbound.start]
  conserved := by simp [Outbound.start, Endpoint.addParty, Endpoint.create, handedBytes,
    pushedFrames]
  tracked := by
    intro t c hc
    simp only [Outbound.start, List.getElem?_map, Option.map_eq_some_iff] at hc
    obtain ⟨p, -, rfl⟩ := hc
    simp [Tracked, Outbound.start]
  callers := by simp [Outbound.start]
  room := by simp [Outbound.start]

theorem tracked_set (h : Inv cap w s) {t : Nat} {x : Producer Party} {es : List Event}
    (hx : Tracked (s.log ++ es) t x) (hes : ∀ e ∈ es, e.caller = none ∨ e.caller = some t) :
    ∀ (u : Nat) c, (s.calls.set t x)[u]? = some c → Tracked (s.log ++ es) u c := by
  intro u c hu
  by_cases hut : u = t
  · subst hut
    have hlt : u < s.calls.length := by
      have := (List.getElem?_eq_some_iff.mp hu).1
      rwa [List.length_set] at this
    rw [List.getElem?_set_self hlt, Option.some.injEq] at hu
    exact hu ▸ hx
  · rw [List.getElem?_set_ne (Ne.symm hut)] at hu
    refine (h.tracked u c hu).append fun e he same => ?_
    rcases hes e he with hn | ht <;> rw [same] at * <;> simp_all

theorem single_set (h : Inv cap w s) {t : Nat} {x : Producer Party}
    (hx : ∀ rest, x = .notifying rest → rest.length ≤ 1) :
    ∀ (u : Nat) (rest : List Party), (s.calls.set t x)[u]? = some (.notifying rest) →
      rest.length ≤ 1 := by
  intro u rest hu
  by_cases hut : u = t
  · subst hut
    have hlt : u < s.calls.length := by
      have := (List.getElem?_eq_some_iff.mp hu).1
      rwa [List.length_set] at this
    rw [List.getElem?_set_self hlt, Option.some.injEq] at hu
    exact hx rest hu
  · exact h.single u rest (by rwa [List.getElem?_set_ne (Ne.symm hut)] at hu)

theorem callers_set (h : Inv cap w s) {t : Nat} (hlt : t < s.calls.length) {x : Producer Party}
    {es : List Event} (hes : ∀ e ∈ es, e.caller = none ∨ e.caller = some t) :
    ∀ e ∈ s.log ++ es, ∀ u, e.caller = some u → u < (s.calls.set t x).length := by
  intro e he u hu
  rw [List.length_set]
  rcases List.mem_append.mp he with he | he
  · exact h.callers e he u hu
  · rcases hes e he with hn | ht
    · simp [hn] at hu
    · rw [ht, Option.some.injEq] at hu
      exact hu ▸ hlt

theorem enter_room (h : Inv cap w s) {t : Nat} {p : PacketBuffer}
    (ht : s.calls[t]? = some (.ready p)) (room : s.link.queue.length < s.link.capacity) :
    Inv cap w (s.enter t p) := by
  have hlt : t < s.calls.length := (List.getElem?_eq_some_iff.mp ht).1
  have fresh : ∀ e ∈ s.log, e.caller ≠ some t := h.tracked t _ ht
  have mine : ∀ e ∈ [Event.pushed t p], e.caller = none ∨ e.caller = some t := by
    simp [Event.caller]
  simp only [enter, Endpoint.push_queue_room room]
  refine ⟨h.capacity, h.parties, ?_, h.single_set (by simp), ?_, h.tracked_set ?_ mine,
    h.callers_set hlt mine, ?_⟩
  · have := countP_set Producer.awaiting ht .queued
    simp only [Producer.awaiting, Bool.false_eq_true, if_false, if_true] at this
    simp only [List.length_append, List.length_singleton, h.awaiting]
    omega
  · have none : handedBytes [Event.pushed t p] = [] := rfl
    have one : pushedFrames [Event.pushed t p] = [p] := rfl
    rw [handedBytes_append, pushedFrames_append, none, one, List.append_nil, List.map_append,
      List.map_append, ← h.conserved, List.append_assoc]
  · refine ⟨⟨p, by simp⟩, fun r hr => ?_⟩
    rcases List.mem_append.mp hr with hr | hr
    · exact fresh _ hr rfl
    · simp at hr
  · intro u q hq
    rcases List.mem_append.mp hq with hq | hq
    · exact h.room u q hq
    · rw [← h.capacity]
      omega

theorem enter_full (h : Inv cap w s) {t : Nat} {p : PacketBuffer}
    (ht : s.calls[t]? = some (.ready p)) (full : s.link.capacity ≤ s.link.queue.length) :
    Inv cap w (s.enter t p) := by
  have hlt : t < s.calls.length := (List.getElem?_eq_some_iff.mp ht).1
  have fresh : ∀ e ∈ s.log, e.caller ≠ some t := h.tracked t _ ht
  have mine : ∀ e ∈ [Event.refused t, .returned t (.error .queueFull)],
      e.caller = none ∨ e.caller = some t := by
    simp [Event.caller]
  simp only [enter, Endpoint.push_queue_full full]
  refine ⟨h.capacity, h.parties, ?_, h.single_set (by simp), ?_, h.tracked_set ?_ mine,
    h.callers_set hlt mine, ?_⟩
  · have := countP_set Producer.awaiting ht (.returned (.error .queueFull))
    simp only [Producer.awaiting, Bool.false_eq_true, if_false] at this
    dsimp only
    rw [h.awaiting]
    omega
  · have none : handedBytes [Event.refused t, .returned t (.error .queueFull)] = [] := rfl
    have none' : pushedFrames [Event.refused t, .returned t (.error .queueFull)] = [] := rfl
    rw [handedBytes_append, pushedFrames_append, none, none', List.append_nil, List.append_nil,
      h.conserved]
  · have own : ∀ e, e.caller = some t → e ∉ s.log := fun e he hin => fresh e hin he
    refine ⟨rfl, fun q hq => ?_, fun r => ?_⟩
    · rcases List.mem_append.mp hq with hq | hq
      · exact own _ rfl hq
      · simp at hq
    · constructor
      · intro hr
        rcases List.mem_append.mp hr with hr | hr
        · exact absurd hr (own _ rfl)
        · simpa using hr
      · rintro rfl
        simp
  · intro u q hq
    rcases List.mem_append.mp hq with hq | hq
    · exact h.room u q hq
    · simp at hq

theorem snapshot (h : Inv cap w s) {t : Nat} (ht : s.calls[t]? = some .queued) :
    Inv cap w (s.snapshot t) := by
  have hlt : t < s.calls.length := (List.getElem?_eq_some_iff.mp ht).1
  have queued : Tracked s.log t (.queued : Producer Party) := h.tracked t _ ht
  have tracked : ∀ (u : Nat) c, (s.calls.set t (.notifying [w]))[u]? = some c →
      Tracked (s.log ++ []) u c :=
    h.tracked_set (by rw [List.append_nil]; exact queued) (by simp)
  rw [List.append_nil] at tracked
  refine ⟨h.capacity, h.parties, ?_, h.single_set ?_, h.conserved, ?_, ?_, h.room⟩
  · have := countP_set Producer.awaiting ht (.notifying [w])
    simp only [Producer.awaiting, if_true] at this
    simp only [Outbound.snapshot, h.parties, h.awaiting]
    omega
  · rintro rest ⟨⟩
    rw [h.parties]
    simp
  · simpa only [Outbound.snapshot, h.parties] using tracked
  · intro e he u hu
    simpa only [Outbound.snapshot, List.length_set] using h.callers e he u hu

theorem notify (h : Inv cap w s) {t : Nat} {w' : Party} {rest : List Party}
    (ht : s.calls[t]? = some (.notifying (w' :: rest))) (ok : Bool) :
    ∃ p q, s.link.queue = p :: q ∧ Inv cap w (s.notifyWriter t rest ok) := by
  have hlt : t < s.calls.length := (List.getElem?_eq_some_iff.mp ht).1
  have hrest : rest = [] := by
    have := h.single t _ ht
    simp only [List.length_cons] at this
    exact List.eq_nil_of_length_eq_zero (by omega)
  subst hrest
  -- the call is owed its notification, so its frame, or an earlier one, is waiting
  have waiting : 0 < s.link.queue.length := by
    rw [h.awaiting, List.countP_pos_iff]
    exact ⟨_, List.mem_of_getElem? ht, rfl⟩
  obtain ⟨p, q, hq⟩ : ∃ p q, s.link.queue = p :: q := by
    cases hq : s.link.queue with
    | nil => simp [hq] at waiting
    | cons p q => exact ⟨p, q, rfl⟩
  refine ⟨p, q, hq, ?_⟩
  have mine : ∀ e ∈ [Event.handed p.toBytes ok], e.caller = none ∨ e.caller = some t := by
    simp [Event.caller]
  simp only [notifyWriter, Endpoint.read_cons hq]
  refine ⟨h.capacity, h.parties, ?_, h.single_set (by simp), ?_,
    h.tracked_set ((h.tracked t _ ht).append (by simp [Event.caller])) mine,
    h.callers_set hlt mine, ?_⟩
  · have := countP_set Producer.awaiting ht (.notifying [])
    simp only [Producer.awaiting, Bool.false_eq_true, if_false, if_true] at this
    have hl := h.awaiting
    rw [hq, List.length_cons] at hl
    dsimp only
    omega
  · have one : handedBytes [Event.handed p.toBytes ok] = [p.toBytes] := rfl
    have none : pushedFrames [Event.handed p.toBytes ok] = [] := rfl
    rw [handedBytes_append, pushedFrames_append, one, none, List.append_nil, ← h.conserved, hq]
    simp
  · intro u q' hq'
    rcases List.mem_append.mp hq' with hq' | hq'
    · exact h.room u q' hq'
    · simp at hq'

theorem finish (h : Inv cap w s) {t : Nat} (ht : s.calls[t]? = some (.notifying [])) :
    Inv cap w (s.finish t) := by
  have hlt : t < s.calls.length := (List.getElem?_eq_some_iff.mp ht).1
  have mine : ∀ e ∈ [Event.returned t (.ok ())], e.caller = none ∨ e.caller = some t := by
    simp [Event.caller]
  obtain ⟨pushed, unreturned⟩ := h.tracked t _ ht
  refine ⟨h.capacity, h.parties, ?_, h.single_set (by simp), ?_, h.tracked_set ?_ mine,
    h.callers_set hlt mine, ?_⟩
  · have := countP_set Producer.awaiting ht (.returned (.ok ()))
    simp only [Producer.awaiting, Bool.false_eq_true, if_false] at this
    simp only [Outbound.finish, h.awaiting]
    omega
  · have none : handedBytes [Event.returned t (.ok ())] = [] := rfl
    have none' : pushedFrames [Event.returned t (.ok ())] = [] := rfl
    simp only [Outbound.finish]
    rw [handedBytes_append, pushedFrames_append, none, none', List.append_nil, List.append_nil,
      h.conserved]
  · refine ⟨pushed.imp fun p hp => List.mem_append_left _ hp, fun r => ⟨fun hr => ?_, ?_⟩⟩
    · rcases List.mem_append.mp hr with hr | hr
      · exact absurd hr (unreturned r)
      · simpa using hr
    · rintro rfl
      simp
  · intro u q hq
    rcases List.mem_append.mp hq with hq | hq
    · exact h.room u q hq
    · simp at hq

theorem step (h : Inv cap w s) {t : Nat} {s' : Outbound Sink Party} (hs : Step t s s') :
    Inv cap w s' := by
  cases hs with
  | @enter p ht =>
    by_cases room : s.link.queue.length < s.link.capacity
    · exact h.enter_room ht room
    · exact h.enter_full ht (Nat.not_lt.mp room)
  | snapshot ht => exact h.snapshot ht
  | notify ok ht =>
    obtain ⟨_, _, _, h'⟩ := h.notify ht ok
    exact h'
  | finish ht => exact h.finish ht

theorem reach {frames : List PacketBuffer}
    (hs : Relation.ReflTransGen AnyStep (Outbound.start cap mtu w frames) s) : Inv cap w s := by
  induction hs with
  | refl => exact start frames
  | tail _ hstep ih =>
    obtain ⟨t, hstep⟩ := hstep
    exact ih.step hstep

/-- Once no call is under way, nothing waits, the device has had every queued frame's bytes,
and a call queued its frame exactly when it returned `Ok`. -/
theorem settled (h : Inv cap w s) (idle : ∀ (t : Nat) c, s.calls[t]? = some c → c.busy = false) :
    s.link.queue = [] ∧ handedBytes s.log = (pushedFrames s.log).map PacketBuffer.toBytes ∧
      ∀ t, (∃ p, .pushed t p ∈ s.log) ↔ .returned t (.ok ()) ∈ s.log := by
  have empty : s.link.queue = [] := by
    apply List.eq_nil_of_length_eq_zero
    rw [h.awaiting, List.countP_eq_zero]
    intro c hc owed
    obtain ⟨t, ht⟩ := List.getElem?_of_mem hc
    have := idle t c ht
    cases c <;> simp_all [Producer.awaiting, Producer.busy]
  refine ⟨empty, by simpa [empty] using h.conserved, fun t => ?_⟩
  cases ht : s.calls[t]? with
  | none =>
    -- no event names a call that does not exist
    have hge : s.calls.length ≤ t := List.getElem?_eq_none_iff.mp ht
    have absent : ∀ e ∈ s.log, e.caller ≠ some t := fun e he same =>
      absurd (h.callers e he t same) (by omega)
    exact ⟨fun ⟨p, hp⟩ => absurd rfl (absent _ hp), fun hr => absurd rfl (absent _ hr)⟩
  | some c =>
    have tracked := h.tracked t c ht
    cases c with
    | ready p =>
      exact ⟨fun ⟨p, hp⟩ => absurd rfl (tracked _ hp), fun hr => absurd rfl (tracked _ hr)⟩
    | queued => exact absurd (idle t _ ht) (by simp [Producer.busy])
    | notifying => exact absurd (idle t _ ht) (by simp [Producer.busy])
    | returned r =>
      cases r with
      | ok u => exact ⟨fun _ => (tracked.2 _).mpr rfl, fun _ => tracked.1⟩
      | error e =>
        exact ⟨fun ⟨p, hp⟩ => absurd hp (tracked.2.1 p),
          fun hr => by simpa using (tracked.2.2 _).mp hr⟩

/-- A call is refused only when at least `cap` frames wait, one for each call still owed its
notification. -/
theorem refusal (h : Inv cap w s) {t : Nat} {p : PacketBuffer}
    (ht : s.calls[t]? = some (.ready p)) (refused : .refused t ∈ (s.enter t p).log) :
    cap ≤ s.link.queue.length ∧ s.link.queue.length = s.calls.countP Producer.awaiting := by
  refine ⟨?_, h.awaiting⟩
  rw [← h.capacity]
  refine Nat.le_of_not_lt fun room => ?_
  simp only [enter, Endpoint.push_queue_room room, List.mem_append,
    List.mem_singleton, reduceCtorEq, or_false] at refused
  exact h.tracked t _ ht _ refused rfl

theorem zero (h : Inv 0 w s) {t : Nat} {r : Except StackError Unit}
    (hr : .returned t r ∈ s.log) : r = .error .queueFull := by
  have hlt := h.callers _ hr t rfl
  obtain ⟨c, hc⟩ : ∃ c, s.calls[t]? = some c := ⟨_, List.getElem?_eq_getElem hlt⟩
  have tracked := h.tracked t c hc
  cases c with
  | ready p => exact absurd rfl (tracked _ hr)
  | queued => exact absurd hr (tracked.2 r)
  | notifying => exact absurd hr (tracked.2 r)
  | returned r' =>
    cases r' with
    | ok u =>
      obtain ⟨p, hp⟩ := tracked.1
      exact absurd (h.room t p hp) (Nat.lt_irrefl 0)
    | error e =>
      rw [(tracked.2.2 r).mp hr, tracked.1]

end Inv

/-- A notification of the writer takes exactly the oldest frame and hands its bytes to the
device; the frame is gone whether or not the device took it. -/
theorem notifyWriter_pops {s : Outbound Sink Party} {t : Nat} {rest : List Party} {ok : Bool}
    {p : PacketBuffer} {q : List PacketBuffer} (hq : s.link.queue = p :: q) :
    (s.notifyWriter t rest ok).link.queue = q ∧
      (s.notifyWriter t rest ok).log = s.log ++ [.handed p.toBytes ok] := by
  simp [notifyWriter, Endpoint.read_cons hq]

/-- When the calls run one after another, a queue with room for one frame never refuses. -/
theorem solo_never_refused {cap mtu : Nat} {w : Party} {frames : List PacketBuffer}
    {s : Outbound Sink Party} (hs : Relation.ReflTransGen SoloStep (start cap mtu w frames) s)
    (one : 1 ≤ cap) : Inv cap w s ∧ ∀ t, .refused t ∉ s.log := by
  induction hs with
  | refl => exact ⟨Inv.start frames, by simp [Outbound.start]⟩
  | @tail s s' _ hstep ih =>
    obtain ⟨h, never⟩ := ih
    obtain ⟨t, alone, hstep⟩ := hstep
    refine ⟨h.step hstep, fun u hu => ?_⟩
    cases hstep with
    | @enter p ht =>
      -- the call is alone, so nothing waits and its frame finds room
      have empty : s.link.queue.length = 0 := by
        rw [h.awaiting, List.countP_eq_zero]
        intro c hc owed
        obtain ⟨v, hv⟩ := List.getElem?_of_mem hc
        by_cases hvt : v = t
        · subst hvt
          rw [ht, Option.some.injEq] at hv
          subst hv
          simp [Producer.awaiting] at owed
        · have := alone v c hvt hv
          cases c <;> simp_all [Producer.awaiting, Producer.busy]
      have room : s.link.queue.length < s.link.capacity := by rw [h.capacity]; omega
      simp only [enter, Endpoint.push_queue_room room, List.mem_append, List.mem_singleton,
        reduceCtorEq, or_false] at hu
      exact never u hu
    | snapshot ht => exact never u hu
    | @notify w' rest ok ht =>
      obtain ⟨p, q, hq, -⟩ := h.notify ht ok
      rw [(notifyWriter_pops hq).2] at hu
      simp only [List.mem_append, List.mem_singleton, reduceCtorEq, or_false] at hu
      exact never u hu
    | finish ht =>
      simp only [Outbound.finish, List.mem_append, List.mem_singleton, reduceCtorEq,
        or_false] at hu
      exact never u hu

/-- Producers on a fresh link of capacity `cap` whose only party is the device's writer, over
every interleaving of their steps: every notification of the writer takes exactly the oldest
frame, which is there, and hands its bytes (`to_bytes`, header then data) to the device, the
frame gone whether or not the device took them; the bytes handed over, followed by the queue,
are the bytes of the frames queued, in the order they were queued; once no call is under way the
queue is empty, the device has had the bytes of every queued frame, and a call queued its frame
exactly when it returned `Ok`; a call is refused only when at least `cap` frames wait, one for
each call still owed its notification, so with capacity 0 every call is refused; and when the
calls run one after another, capacity 1 or more refuses none. -/
theorem outbound_delivery (cap mtu : Nat) (w : Party) (frames : List PacketBuffer) :
    (∀ s : Outbound Sink Party, Relation.ReflTransGen AnyStep (start cap mtu w frames) s →
      (∀ (t : Nat) w' rest ok, s.calls[t]? = some (.notifying (w' :: rest)) →
        ∃ p q, s.link.queue = p :: q ∧ (s.notifyWriter t rest ok).link.queue = q ∧
          (s.notifyWriter t rest ok).log = s.log ++ [.handed (p.header ++ p.data) ok]) ∧
      handedBytes s.log ++ s.link.queue.map PacketBuffer.toBytes =
        (pushedFrames s.log).map PacketBuffer.toBytes ∧
      ((∀ (t : Nat) (c : Producer Party), s.calls[t]? = some c → c.busy = false) →
        s.link.queue = [] ∧ handedBytes s.log = (pushedFrames s.log).map PacketBuffer.toBytes ∧
        ∀ t, (∃ p, .pushed t p ∈ s.log) ↔ .returned t (.ok ()) ∈ s.log) ∧
      (∀ (t : Nat) p, s.calls[t]? = some (.ready p) → .refused t ∈ (s.enter t p).log →
        cap ≤ s.link.queue.length ∧ s.link.queue.length = s.calls.countP Producer.awaiting) ∧
      (cap = 0 → ∀ t r, .returned t r ∈ s.log → r = .error .queueFull)) ∧
    (∀ s : Outbound Sink Party, Relation.ReflTransGen SoloStep (start cap mtu w frames) s →
      1 ≤ cap → ∀ t, .refused t ∉ s.log) := by
  refine ⟨fun s hs => ?_, fun s hs one => (solo_never_refused hs one).2⟩
  have h := Inv.reach hs
  refine ⟨fun t w' rest ok ht => ?_, h.conserved, h.settled, fun t p ht => h.refusal ht, ?_⟩
  · obtain ⟨p, q, hq, -⟩ := h.notify ht ok
    exact ⟨p, q, hq, notifyWriter_pops hq⟩
  · rintro rfl
    exact fun t r hr => h.zero hr

/-- Interleaved, two calls on a queue with room for one frame: the second is refused while the
first still owes its notification. -/
example : ∃ s : Outbound Unit Unit, Relation.ReflTransGen AnyStep
    (start 1 1500 () [.ofPayload [1], .ofPayload [2]]) s ∧ .refused 1 ∈ s.log :=
  ⟨_, .tail (.tail .refl ⟨0, .enter rfl⟩) ⟨1, .enter rfl⟩,
    by simp [Outbound.start, enter, Endpoint.push, Endpoint.addParty, Endpoint.create]⟩

end Outbound

end TunBridge
