import TunBridge.Proofs.Device.ReadThread
/-!
The device's writers on the endpoints `link_endpoint` makes, under every interleaving of
`link_endpoint` calls with closes: one bridge, at most one writer registered, and none once a
close returned and no call is under way. `Registry` is the invariant. Main statement:
`Threads.link_endpoint_once`.
-/
namespace TunBridge

namespace Threads

/-- The tasks the registry looks at: a `link_endpoint` call under way or returned. -/
def Task.linkish : Task → Bool
  | .linking _ | .done (.linked _) => true
  | _ => false

def Event.ofRegistry : Event → Bool
  | .obtained .. | .begun _ | .spawned .. | .spawnFailed _ | .drained _
  | .returned _ (.linked _) => true
  | _ => false

/-- What a step that has nothing to do with linking keeps: the writers, the bridge and its cell,
the tasks the registry looks at, and the log but for events of other kinds. -/
structure Apart (w w' : World) : Prop where
  writers : w'.shared.writers = w.shared.writers
  bridge : w'.shared.bridge = w.shared.bridge
  cell : w'.shared.cell = w.shared.cell
  tasks : ∀ u, (w.tasks u).linkish ∨ (w'.tasks u).linkish → w'.tasks u = w.tasks u
  log : ∃ es, w'.log = w.log ++ es ∧ ∀ e ∈ es, e.ofRegistry = false

section Apart

variable {w w' : World} {t : Nat}

theorem move_move (w : World) (t : Nat) (a b : Task) (es es' : List Event) :
    (w.move t a es).move t b es' = w.move t b (es ++ es') := by
  simp only [World.move, List.append_assoc, World.mk.injEq, and_true, true_and]
  funext u
  by_cases hut : u = t <;> simp [hut]

theorem setShared_move (w : World) (t : Nat) (a : Task) (es : List Event) (s : Shared) :
    (w.move t a es).setShared s = (w.setShared s).move t a es := rfl

theorem setShared_setShared (w : World) (s s' : Shared) :
    (w.setShared s).setShared s' = w.setShared s' := rfl

theorem Apart.move {s : Shared} {task : Task} {es : List Event}
    (hold : (w.tasks t).linkish = false) (hnew : task.linkish = false)
    (quiet : ∀ e ∈ es, e.ofRegistry = false) (hwriters : s.writers = w.shared.writers)
    (hbridge : s.bridge = w.shared.bridge) (hcell : s.cell = w.shared.cell) :
    Apart w ((w.setShared s).move t task es) where
  writers := hwriters
  bridge := hbridge
  cell := hcell
  tasks u hu := by
    by_cases hut : u = t
    · subst hut
      simp [hold, hnew] at hu
    · simp [move_tasks_of_ne hut]
  log := ⟨es, rfl, quiet⟩

theorem Apart.mem_log (a : Apart w w') {e : Event} (he : e.ofRegistry = true) :
    e ∈ w'.log ↔ e ∈ w.log := by
  obtain ⟨es, hlog, quiet⟩ := a.log
  rw [hlog, List.mem_append]
  exact ⟨fun h => h.resolve_right fun hin => by simp [quiet e hin] at he, .inl⟩

theorem Apart.task_iff (a : Apart w w') {u : Nat} {task : Task} (htask : task.linkish = true) :
    w'.tasks u = task ↔ w.tasks u = task := by
  constructor
  · intro hu
    rw [← hu]
    exact (a.tasks u (.inr (hu ▸ htask))).symm
  · intro hu
    exact (a.tasks u (.inl (hu ▸ htask))).trans hu

theorem Apart.before (a : Apart w w') {x y : Event} (h : Before w.log x y) : Before w'.log x y := by
  obtain ⟨es, hlog, -⟩ := a.log
  exact hlog ▸ h.append es

end Apart

/-- What the registry keeps on every run. The bridge: its cell is full exactly when it holds a
bridge; the call that started it is checking the closed flag again or has returned, and its start
spawned the read thread; every call that got a bridge got that one; a call checking the closed
flag again, or answering with the endpoint, got it. The writers: at most one is registered; each
was registered by a start whose spawn did not fail, and a start whose spawn did not fail is
spawning or storing the bridge or has stored it; a call spawning or storing the bridge has its
writer registered; a call that failed has none; and the bridge's writer is registered or the
bridge's queue was drained after the bridge was made. -/
structure Registry (w : World) : Prop where
  full : w.shared.cell = .full ↔ w.shared.bridge.isSome
  owner : ∀ b, w.shared.bridge = some b →
    w.tasks b = .linking .recheck ∨ ∃ r, w.tasks b = .done (.linked r)
  spawner : ∀ u, w.tasks u = .linking .store ∨ w.shared.bridge = some u →
    ∃ r, .spawned u r ∈ w.log
  obtained : ∀ u b, .obtained u b ∈ w.log → w.shared.bridge = some b
  recheck : ∀ u, w.tasks u = .linking .recheck → ∃ b, .obtained u b ∈ w.log
  linked : ∀ u r, .returned u (.linked (.ok r)) ∈ w.log → ∃ b, .obtained u b ∈ w.log
  quiet : ∀ u s, w.tasks u = .linking s →
    .spawnFailed u ∉ w.log ∧ ∀ r, .returned u (.linked r) ∉ w.log
  kept : ∀ u, .begun u ∈ w.log → .spawnFailed u ∉ w.log →
    w.tasks u = .linking .spawn ∨ w.tasks u = .linking .store ∨ w.shared.bridge = some u
  single : w.shared.writers.length ≤ 1
  writer : ∀ u ∈ w.shared.writers, .begun u ∈ w.log ∧ .spawnFailed u ∉ w.log
  starter : ∀ u, w.tasks u = .linking .spawn ∨ w.tasks u = .linking .store →
    u ∈ w.shared.writers
  failed : ∀ u e, .returned u (.linked (.error e)) ∈ w.log → u ∉ w.shared.writers
  drained : ∀ b, w.shared.bridge = some b →
    b ∈ w.shared.writers ∨ ∃ u, Before w.log (.begun b) (.drained u)

namespace Registry

variable {w w' : World} {t : Nat}

theorem init (fd : Nat) : Registry (World.init fd) where
  full := by simp
  owner := by simp
  spawner := by simp
  obtained := by simp
  recheck := by simp
  linked := by simp
  quiet := by simp
  kept := by simp
  single := by simp
  writer := by simp
  starter := by simp
  failed := by simp
  drained := by simp

theorem of_apart (h : Registry w) (a : Apart w w') : Registry w' := by
  have link : ∀ {u} {s : LinkStage}, w'.tasks u = .linking s ↔ w.tasks u = .linking s :=
    a.task_iff rfl
  have mem : ∀ {e : Event}, e.ofRegistry = true → (e ∈ w'.log ↔ e ∈ w.log) := a.mem_log
  refine ⟨?_, fun b hb => ?_, fun u hu => ?_, fun u b hb => ?_, fun u hu => ?_, fun u r hr => ?_,
    fun u s hu => ?_, fun u hb hf => ?_, ?_, fun u hu => ?_, fun u hu => ?_,
    fun u e he => ?_, fun b hb => ?_⟩
  · rw [a.cell, a.bridge]
    exact h.full
  · rw [a.bridge] at hb
    rcases h.owner b hb with hr | ⟨r, hr⟩
    · exact .inl (link.mpr hr)
    · exact .inr ⟨r, (a.task_iff rfl).mpr hr⟩
  · rw [a.bridge, link] at hu
    obtain ⟨r, hr⟩ := h.spawner u hu
    exact ⟨r, (mem rfl).mpr hr⟩
  · rw [a.bridge]
    exact h.obtained u b ((mem rfl).mp hb)
  · obtain ⟨b, hb⟩ := h.recheck u (link.mp hu)
    exact ⟨b, (mem rfl).mpr hb⟩
  · obtain ⟨b, hb⟩ := h.linked u r ((mem rfl).mp hr)
    exact ⟨b, (mem rfl).mpr hb⟩
  · obtain ⟨hf, hr⟩ := h.quiet u s (link.mp hu)
    exact ⟨fun hin => hf ((mem rfl).mp hin), fun r hin => hr r ((mem rfl).mp hin)⟩
  · rw [link, link, a.bridge]
    exact h.kept u ((mem rfl).mp hb) fun hin => hf ((mem rfl).mpr hin)
  · rw [a.writers]
    exact h.single
  · rw [a.writers] at hu
    obtain ⟨hb, hf⟩ := h.writer u hu
    exact ⟨(mem rfl).mpr hb, fun hin => hf ((mem rfl).mp hin)⟩
  · rw [a.writers]
    exact h.starter u (by rwa [link, link] at hu)
  · rw [a.writers]
    exact h.failed u e ((mem rfl).mp he)
  · rw [a.bridge] at hb
    rw [a.writers]
    exact (h.drained b hb).imp_right (Exists.imp fun _ hv => a.before hv)

theorem mem_erase_of_length_le_one {l : List Nat} {a b : Nat} (hl : l.length ≤ 1)
    (ha : a ∈ l.erase b) : a ≠ b ∧ a ∈ l := by
  have nodup : l.Nodup := by
    match l, hl with
    | [], _ => exact List.nodup_nil
    | [_], _ => simp
  exact (List.Nodup.mem_erase_iff nodup).mp ha

theorem writer_task (h : Registry w) {u : Nat} (hu : u ∈ w.shared.writers) :
    w.tasks u = .linking .spawn ∨ w.tasks u = .linking .store ∨ w.shared.bridge = some u :=
  h.kept u (h.writer u hu).1 (h.writer u hu).2

theorem bridge_full (h : Registry w) {b : Nat} (hb : w.shared.bridge = some b) :
    w.shared.cell = .full :=
  h.full.mpr (by simp [hb])

theorem bridge_none (h : Registry w) (hc : w.shared.cell ≠ .full) : w.shared.bridge = none :=
  Option.not_isSome_iff_eq_none.mp fun hb => hc (h.full.mpr hb)

theorem not_bridge (h : Registry w) {u : Nat} {s : LinkStage} (hu : w.tasks u = .linking s)
    (hs : s ≠ .recheck) : w.shared.bridge ≠ some u := by
  intro hb
  rcases h.owner u hb with hr | ⟨r, hr⟩ <;> rw [hu] at hr
  · exact hs (Task.linking.inj hr)
  · cases hr

theorem not_writer (h : Registry w) {u : Nat} {s : LinkStage} (hu : w.tasks u = .linking s)
    (hs : s = .check ∨ s = .cell ∨ s = .start) : u ∉ w.shared.writers := by
  intro hin
  have hr : s ≠ .recheck := by rcases hs with rfl | rfl | rfl <;> simp
  rcases h.writer_task hin with hsp | hst | hb
  · rw [hu] at hsp
    rcases hs with rfl | rfl | rfl <;> simp at hsp
  · rw [hu] at hst
    rcases hs with rfl | rfl | rfl <;> simp at hst
  · exact h.not_bridge hu hr hb

/-- A `link_endpoint` call returns `r` from a stage before spawning or after storing the
bridge, leaving the writers and the bridge alone: an answer with the endpoint comes from the
second look at the closed flag, and a failure from a call with no writer registered. -/
theorem reply (h : Registry w) {s : LinkStage} (ht : w.tasks t = .linking s)
    (hs : s = .check ∨ s = .start ∨ s = .recheck) {sh : Shared} {r : Except TunError Unit}
    (hwriters : sh.writers = w.shared.writers) (hbridge : sh.bridge = w.shared.bridge)
    (hcell : sh.cell = .full ↔ w.shared.cell = .full)
    (hok : ∀ x, r = .ok x → s = .recheck)
    (hfail : ∀ e, r = .error e → t ∉ w.shared.writers) :
    Registry ((w.setShared sh).reply t (.linked r)) := by
  rw [reply_eq]
  have stage : w.tasks t ≠ .linking .spawn ∧ w.tasks t ≠ .linking .store := by
    rw [ht]
    rcases hs with rfl | rfl | rfl <;> simp
  refine ⟨?_, fun b hb => ?_, fun u hu => ?_, fun u b hb => ?_, fun u hu => ?_, fun u x hx => ?_,
    fun u s' hu => ?_, fun u hb hf => ?_, ?_, fun u hu => ?_, fun u hu => ?_,
    fun u e he => ?_, fun b hb => ?_⟩
  · simpa [hcell, hbridge] using h.full
  · simp only [move_shared, setShared_shared, hbridge] at hb
    by_cases hbt : b = t
    · subst hbt
      exact .inr ⟨r, by simp⟩
    · rw [move_tasks_of_ne hbt]
      exact h.owner b hb
  · -- the call storing the bridge, or the bridge's owner, spawned before and still did
    have old : w.tasks u = .linking .store ∨ w.shared.bridge = some u := by
      by_cases hut : u = t
      · subst hut
        exact .inr (by simpa [hbridge] using hu)
      · simpa [move_tasks_of_ne hut, hbridge] using hu
    obtain ⟨x, hx⟩ := h.spawner u old
    exact ⟨x, by simp [hx]⟩
  · simp only [move_log, setShared_log, List.mem_append, List.mem_singleton,
      reduceCtorEq, or_false] at hb
    simpa [hbridge] using h.obtained u b hb
  · have hut : u ≠ t := by
      rintro rfl
      simp at hu
    obtain ⟨b, hb⟩ := h.recheck u (by rwa [move_tasks_of_ne hut] at hu)
    exact ⟨b, by simp [hb]⟩
  · simp only [move_log, setShared_log, List.mem_append, List.mem_singleton,
      Event.returned.injEq, Reply.linked.injEq] at hx
    rcases hx with hx | ⟨rfl, rfl⟩
    · obtain ⟨b, hb⟩ := h.linked u x hx
      exact ⟨b, by simp [hb]⟩
    · obtain ⟨b, hb⟩ := h.recheck u (by rwa [hok x rfl] at ht)
      exact ⟨b, by simp [hb]⟩
  · have hut : u ≠ t := by
      rintro rfl
      simp at hu
    rw [move_tasks_of_ne hut] at hu
    obtain ⟨hf, hr⟩ := h.quiet u s' hu
    simp [hf, hr, hut]
  · have hb' : .begun u ∈ w.log := by simpa using hb
    have hf' : .spawnFailed u ∉ w.log := by simpa using hf
    by_cases hut : u = t
    · subst hut
      rcases h.kept u hb' hf' with hsp | hst | hbr
      · exact absurd hsp stage.1
      · exact absurd hst stage.2
      · simp [hbridge, hbr]
    · simpa [move_tasks_of_ne hut, hbridge] using h.kept u hb' hf'
  · simpa [hwriters] using h.single
  · simp only [move_shared, setShared_shared, hwriters] at hu
    obtain ⟨hb, hf⟩ := h.writer u hu
    simp [hb, hf]
  · have hut : u ≠ t := by
      rintro rfl
      simp at hu
    simpa [hwriters] using h.starter u (by rwa [move_tasks_of_ne hut] at hu)
  · simp only [move_log, setShared_log, List.mem_append, List.mem_singleton,
      Event.returned.injEq, Reply.linked.injEq] at he
    simp only [move_shared, setShared_shared, hwriters]
    rcases he with he | ⟨rfl, rfl⟩
    · exact h.failed u e he
    · exact hfail e rfl
  · simp only [move_shared, setShared_shared, hbridge] at hb
    simp only [move_shared, setShared_shared, move_log, setShared_log, hwriters]
    exact (h.drained b hb).imp_right (Exists.imp fun _ hv => hv.append _)

theorem advance (h : Registry w) {s s' : LinkStage} (ht : w.tasks t = .linking s)
    (hs : s = .check ∨ s = .cell) (hs' : s' = .cell ∨ s' = .start) {sh : Shared}
    (hwriters : sh.writers = w.shared.writers) (hbridge : sh.bridge = w.shared.bridge)
    (hcell : sh.cell = .full ↔ w.shared.cell = .full) :
    Registry ((w.setShared sh).move t (.linking s') []) := by
  have unowned : w.shared.bridge ≠ some t := h.not_bridge ht (by rcases hs with rfl | rfl <;> simp)
  have away : ∀ x, x = LinkStage.spawn ∨ x = .store ∨ x = .recheck → s' ≠ x := by
    rintro x (rfl | rfl | rfl) <;> rcases hs' with rfl | rfl <;> simp
  have moved : ∀ {u} {x : LinkStage}, x = .spawn ∨ x = .store ∨ x = .recheck →
      ((w.setShared sh).move t (.linking s') []).tasks u = .linking x → w.tasks u = .linking x := by
    intro u x hx hu
    by_cases hut : u = t
    · subst hut
      simp only [move_tasks_self, Task.linking.injEq] at hu
      exact absurd hu (away x hx)
    · rwa [move_tasks_of_ne hut] at hu
  refine ⟨?_, fun b hb => ?_, fun u hu => ?_, fun u b hb => ?_, fun u hu => ?_, fun u x hx => ?_,
    fun u x hu => ?_, fun u hb hf => ?_, ?_, fun u hu => ?_, fun u hu => ?_,
    fun u e he => ?_, fun b hb => ?_⟩
  · simpa [hcell, hbridge] using h.full
  · simp only [move_shared, setShared_shared, hbridge] at hb
    have hbt : b ≠ t := by
      rintro rfl
      exact unowned hb
    rw [move_tasks_of_ne hbt]
    exact h.owner b hb
  · simp only [move_shared, setShared_shared, hbridge] at hu
    simpa using h.spawner u (hu.imp_left (moved (.inr (.inl rfl))))
  · simpa [hbridge] using h.obtained u b (by simpa using hb)
  · simpa using h.recheck u (moved (.inr (.inr rfl)) hu)
  · simpa using h.linked u x (by simpa using hx)
  · by_cases hut : u = t
    · subst hut
      simpa using h.quiet u s ht
    · rw [move_tasks_of_ne hut] at hu
      simpa using h.quiet u x hu
  · simp only [move_log, setShared_log, List.append_nil] at hb hf
    rcases h.kept u hb hf with hsp | hst | hbr
    · exact .inl (by
        by_cases hut : u = t
        · subst hut
          rw [ht] at hsp
          rcases hs with rfl | rfl <;> simp at hsp
        · rwa [move_tasks_of_ne hut])
    · exact .inr (.inl (by
        by_cases hut : u = t
        · subst hut
          rw [ht] at hst
          rcases hs with rfl | rfl <;> simp at hst
        · rwa [move_tasks_of_ne hut]))
    · exact .inr (.inr (by simpa [hbridge] using hbr))
  · simpa [hwriters] using h.single
  · simpa [hwriters] using h.writer u (by simpa [hwriters] using hu)
  · simpa [hwriters] using h.starter u (hu.imp (moved (.inl rfl)) (moved (.inr (.inl rfl))))
  · simpa [hwriters] using h.failed u e (by simpa using he)
  · simpa [hwriters] using h.drained b (by simpa [hbridge] using hb)

theorem getFull (h : Registry w) (ht : w.tasks t = .linking .cell) {b : Nat}
    (hb : w.shared.bridge = some b) :
    Registry (w.move t (.linking .recheck) [.obtained t b]) := by
  have unowned : w.shared.bridge ≠ some t := h.not_bridge ht (by simp)
  have moved : ∀ {u} {x : LinkStage}, x = .spawn ∨ x = .store →
      (w.move t (.linking .recheck) [.obtained t b]).tasks u = .linking x →
        w.tasks u = .linking x := by
    intro u x hx hu
    by_cases hut : u = t
    · subst hut
      rcases hx with rfl | rfl <;> simp at hu
    · rwa [move_tasks_of_ne hut] at hu
  refine ⟨by simpa using h.full, fun b' hb' => ?_, fun u hu => ?_, fun u b' hb' => ?_,
    fun u hu => ?_, fun u x hx => ?_, fun u x hu => ?_, fun u hb hf => ?_, by simpa using h.single,
    fun u hu => ?_, fun u hu => ?_, fun u e he => ?_, fun b' hb' => ?_⟩
  · simp only [move_shared] at hb'
    have hbt : b' ≠ t := by
      rintro rfl
      exact unowned hb'
    rw [move_tasks_of_ne hbt]
    exact h.owner b' hb'
  · simp only [move_shared] at hu
    obtain ⟨r, hr⟩ := h.spawner u (hu.imp_left (moved (.inr rfl)))
    exact ⟨r, by simp [hr]⟩
  · simp only [move_log, List.mem_append, List.mem_singleton, Event.obtained.injEq] at hb'
    rcases hb' with hb' | ⟨-, rfl⟩
    · exact h.obtained u b' hb'
    · exact hb
  · by_cases hut : u = t
    · subst hut
      exact ⟨b, by simp⟩
    · obtain ⟨b', hb'⟩ := h.recheck u (by rwa [move_tasks_of_ne hut] at hu)
      exact ⟨b', by simp [hb']⟩
  · obtain ⟨b', hb'⟩ := h.linked u x (by simpa using hx)
    exact ⟨b', by simp [hb']⟩
  · by_cases hut : u = t
    · subst hut
      simpa using h.quiet u .cell ht
    · rw [move_tasks_of_ne hut] at hu
      simpa using h.quiet u x hu
  · rcases h.kept u (by simpa using hb) (by simpa using hf) with hsp | hst | hbr
    · have hut : u ≠ t := by
        rintro rfl
        simp [ht] at hsp
      exact .inl (by rwa [move_tasks_of_ne hut])
    · have hut : u ≠ t := by
        rintro rfl
        simp [ht] at hst
      exact .inr (.inl (by rwa [move_tasks_of_ne hut]))
    · exact .inr (.inr (by simpa using hbr))
  · obtain ⟨hb, hf⟩ := h.writer u (by simpa using hu)
    simp [hb, hf]
  · simpa using h.starter u (hu.imp (moved (.inl rfl)) (moved (.inr rfl)))
  · simpa using h.failed u e (by simpa using he)
  · simp only [move_shared, move_log] at hb' ⊢
    exact (h.drained b' hb').imp_right (Exists.imp fun _ hv => hv.append _)

theorem start (h : Registry w) (hb : Bridged w) (ht : w.tasks t = .linking .start) :
    Registry ((w.setShared { w.shared with started := true,
                                           writers := w.shared.writers ++ [t] }).move t
      (.linking .spawn) [.begun t]) := by
  have unbridged : w.shared.bridge = none :=
    h.bridge_none (by simp [hb.building_of ht rfl])
  -- no writer is registered yet: no other call is starting the bridge, and there is none
  have empty : w.shared.writers = [] := by
    refine List.eq_nil_iff_forall_not_mem.mpr fun u hu => ?_
    rcases h.writer_task hu with hsp | hst | hbr
    · obtain rfl := hb.starter u t .spawn .start rfl rfl hsp ht
      simp [ht] at hsp
    · obtain rfl := hb.starter u t .store .start rfl rfl hst ht
      simp [ht] at hst
    · simp [unbridged] at hbr
  obtain ⟨unfailed, unreturned⟩ := h.quiet t .start ht
  refine ⟨by simpa using h.full, fun b hb' => by simp [unbridged] at hb', fun u hu => ?_,
    fun u b hb' => ?_, fun u hu => ?_, fun u x hx => ?_, fun u x hu => ?_, fun u hb' hf => ?_,
    by simp [empty], fun u hu => ?_, fun u hu => ?_, fun u e he => ?_,
    fun b hb' => by simp [unbridged] at hb'⟩
  · simp only [move_shared, setShared_shared, unbridged, reduceCtorEq, or_false] at hu
    have hut : u ≠ t := by
      rintro rfl
      simp at hu
    obtain ⟨r, hr⟩ := h.spawner u (.inl (by rwa [move_tasks_of_ne hut] at hu))
    exact ⟨r, by simp [hr]⟩
  · simpa [unbridged] using h.obtained u b (by simpa using hb')
  · have hut : u ≠ t := by
      rintro rfl
      simp at hu
    obtain ⟨b, hb'⟩ := h.recheck u (by rwa [move_tasks_of_ne hut] at hu)
    exact ⟨b, by simp [hb']⟩
  · obtain ⟨b, hb'⟩ := h.linked u x (by simpa using hx)
    exact ⟨b, by simp [hb']⟩
  · by_cases hut : u = t
    · subst hut
      simp [unfailed, unreturned]
    · rw [move_tasks_of_ne hut] at hu
      simpa [Ne.symm hut] using h.quiet u x hu
  · by_cases hut : u = t
    · subst hut
      exact .inl (by simp)
    · have old : .begun u ∈ w.log := by simpa [hut] using hb'
      simpa [move_tasks_of_ne hut] using h.kept u old (by simpa using hf)
  · simp only [move_shared, setShared_shared, empty, List.nil_append,
      List.mem_singleton] at hu
    subst hu
    simp [unfailed]
  · by_cases hut : u = t
    · subst hut
      simp
    · exact absurd (h.starter u (by simpa [move_tasks_of_ne hut] using hu)) (by simp [empty])
  · simp only [move_shared, setShared_shared, empty, List.nil_append, List.mem_singleton]
    rintro rfl
    exact unreturned _ (by simpa using he)

theorem spawn (h : Registry w) (ht : w.tasks t = .linking .spawn) {r : Nat}
    (hr : w.tasks r = .idle) :
    Registry ((w.move r (.looping .upgrade) []).move t (.linking .store) [.spawned t r]) := by
  have hrt : r ≠ t := by
    rintro rfl
    simp [ht] at hr
  have unowned : ∀ {u}, w.tasks u = .linking .spawn ∨ w.tasks u = .idle →
      w.shared.bridge ≠ some u := by
    rintro u (hu | hu) hb
    · exact h.not_bridge hu (by simp) hb
    · rcases h.owner u hb with hx | ⟨x, hx⟩ <;> simp [hu] at hx
  have linking : ∀ {u} {x : LinkStage},
      ((w.move r (.looping .upgrade) []).move t (.linking .store) [.spawned t r]).tasks u =
        .linking x → u = t ∧ x = .store ∨ u ≠ t ∧ w.tasks u = .linking x := by
    intro u x hu
    by_cases hut : u = t
    · subst hut
      simp only [move_tasks_self, Task.linking.injEq] at hu
      exact .inl ⟨rfl, hu.symm⟩
    · by_cases hur : u = r
      · subst hur
        simp [move_tasks_of_ne hut] at hu
      · exact .inr ⟨hut, by rwa [move_tasks_of_ne hut, move_tasks_of_ne hur] at hu⟩
  refine ⟨by simpa using h.full, fun b hb => ?_, fun u hu => ?_, fun u b hb => ?_,
    fun u hu => ?_, fun u x hx => ?_, fun u x hu => ?_, fun u hb hf => ?_, by simpa using h.single,
    fun u hu => ?_, fun u hu => ?_, fun u e he => ?_, fun b hb => ?_⟩
  · simp only [move_shared] at hb
    have hbt : b ≠ t := by
      rintro rfl
      exact unowned (.inl ht) hb
    have hbr : b ≠ r := by
      rintro rfl
      exact unowned (.inr hr) hb
    rw [move_tasks_of_ne hbt, move_tasks_of_ne hbr]
    exact h.owner b hb
  · simp only [move_shared] at hu
    rcases hu with hu | hu
    · rcases linking hu with ⟨rfl, -⟩ | ⟨-, hu⟩
      · exact ⟨r, by simp⟩
      · obtain ⟨x, hx⟩ := h.spawner u (.inl hu)
        exact ⟨x, by simp [hx]⟩
    · obtain ⟨x, hx⟩ := h.spawner u (.inr hu)
      exact ⟨x, by simp [hx]⟩
  · simpa using h.obtained u b (by simpa using hb)
  · rcases linking hu with ⟨-, hx⟩ | ⟨-, hu⟩
    · cases hx
    · obtain ⟨b, hb⟩ := h.recheck u hu
      exact ⟨b, by simp [hb]⟩
  · obtain ⟨b, hb⟩ := h.linked u x (by simpa using hx)
    exact ⟨b, by simp [hb]⟩
  · rcases linking hu with ⟨rfl, -⟩ | ⟨hut, hu⟩
    · simpa using h.quiet u .spawn ht
    · simpa using h.quiet u x hu
  · have hb' : .begun u ∈ w.log := by simpa using hb
    have hf' : .spawnFailed u ∉ w.log := by simpa using hf
    by_cases hut : u = t
    · subst hut
      exact .inr (.inl (by simp))
    · by_cases hur : u = r
      · subst hur
        rcases h.kept u hb' hf' with hx | hx | hx
        · simp [hr] at hx
        · simp [hr] at hx
        · exact absurd hx (unowned (.inr hr))
      · simpa [move_tasks_of_ne hut, move_tasks_of_ne hur] using h.kept u hb' hf'
  · obtain ⟨hb, hf⟩ := h.writer u (by simpa using hu)
    simp [hb, hf]
  · rcases hu with hu | hu
    · rcases linking hu with ⟨rfl, -⟩ | ⟨-, hu⟩
      · simpa using h.starter u (.inl ht)
      · simpa using h.starter u (.inl hu)
    · rcases linking hu with ⟨rfl, -⟩ | ⟨-, hu⟩
      · simpa using h.starter u (.inl ht)
      · simpa using h.starter u (.inr hu)
  · simpa using h.failed u e (by simpa using he)
  · simp only [move_shared, move_log, List.append_nil] at hb ⊢
    exact (h.drained b hb).imp_right (Exists.imp fun _ hv => hv.append _)

theorem spawnFailed (h : Registry w) (hb : Bridged w) (ht : w.tasks t = .linking .spawn)
    {sh : Shared} (hcell : sh.cell = .empty) (hwriters : sh.writers = w.shared.writers.erase t)
    (hbridge : sh.bridge = w.shared.bridge) (err : TunError) :
    Registry ((w.setShared sh).move t (.done (.linked (.error err)))
      [.spawnFailed t, .unregistered t, .finished t, .returned t (.linked (.error err))]) := by
  have unbridged : w.shared.bridge = none :=
    h.bridge_none (by simp [hb.building_of ht rfl])
  -- no other call is starting the bridge
  have alone : ∀ {u} {x : LinkStage}, x = .spawn ∨ x = .store → u ≠ t →
      w.tasks u ≠ .linking x := by
    rintro u x hx hut hu
    exact hut (hb.starter u t x .spawn (by rcases hx with rfl | rfl <;> rfl) rfl hu ht)
  have away : ∀ {u} {x : LinkStage}, ((w.setShared sh).move t (.done (.linked (.error err)))
      [.spawnFailed t, .unregistered t, .finished t, .returned t (.linked (.error err))]).tasks u =
        .linking x → u ≠ t ∧ w.tasks u = .linking x := by
    intro u x hu
    by_cases hut : u = t
    · subst hut
      simp at hu
    · exact ⟨hut, by rwa [move_tasks_of_ne hut] at hu⟩
  have unwritten : t ∉ w.shared.writers.erase t := fun hin =>
    (mem_erase_of_length_le_one h.single hin).1 rfl
  refine ⟨by simp [hcell, hbridge, unbridged], fun b hb' => by simp [hbridge, unbridged] at hb',
    fun u hu => ?_, fun u b hb' => ?_, fun u hu => ?_, fun u x hx => ?_, fun u x hu => ?_,
    fun u hb' hf => ?_, ?_, fun u hu => ?_, fun u hu => ?_, fun u e he => ?_,
    fun b hb' => by simp [hbridge, unbridged] at hb'⟩
  · simp only [move_shared, setShared_shared, hbridge, unbridged, reduceCtorEq, or_false] at hu
    obtain ⟨hut, hu⟩ := away hu
    exact absurd hu (alone (.inr rfl) hut)
  · simp only [move_log, setShared_log, List.mem_append, List.mem_cons, reduceCtorEq,
      List.not_mem_nil, or_false] at hb'
    simpa [hbridge] using h.obtained u b hb'
  · obtain ⟨-, hu⟩ := away hu
    obtain ⟨b, hb'⟩ := h.recheck u hu
    exact ⟨b, by simp [hb']⟩
  · simp only [move_log, setShared_log, List.mem_append, List.mem_cons, Event.returned.injEq,
      Reply.linked.injEq, reduceCtorEq, List.not_mem_nil, or_false, and_false] at hx
    obtain ⟨b, hb'⟩ := h.linked u x hx
    exact ⟨b, by simp [hb']⟩
  · obtain ⟨hut, hu⟩ := away hu
    obtain ⟨hf, hr⟩ := h.quiet u x hu
    simp [hf, hr, hut]
  · have hut : u ≠ t := by
      rintro rfl
      simp at hf
    have old := h.kept u (by simpa using hb') (by simpa [hut] using hf)
    simpa [move_tasks_of_ne hut, hbridge] using old
  · simpa [hwriters] using Nat.le_trans List.length_erase_le h.single
  · simp only [move_shared, setShared_shared, hwriters] at hu
    obtain ⟨hut, hu⟩ := mem_erase_of_length_le_one h.single hu
    obtain ⟨hb', hf⟩ := h.writer u hu
    simp [hb', hf, hut]
  · rcases hu with hu | hu
    · obtain ⟨hut, hu⟩ := away hu
      exact absurd hu (alone (.inl rfl) hut)
    · obtain ⟨hut, hu⟩ := away hu
      exact absurd hu (alone (.inr rfl) hut)
  · simp only [move_shared, setShared_shared, hwriters]
    simp only [move_log, setShared_log, List.mem_append, List.mem_cons, Event.returned.injEq,
      Reply.linked.injEq, Except.error.injEq, reduceCtorEq, List.not_mem_nil, or_false,
      false_or] at he
    rcases he with he | ⟨rfl, -⟩
    · exact fun hin => h.failed u e he (List.mem_of_mem_erase hin)
    · exact unwritten

theorem store (h : Registry w) (hb : Bridged w) (ht : w.tasks t = .linking .store) :
    Registry ((w.setShared { w.shared with cell := .full, bridge := some t }).move t
      (.linking .recheck) [.obtained t t]) := by
  have unbridged : w.shared.bridge = none :=
    h.bridge_none (by simp [hb.building_of ht rfl])
  have alone : ∀ {u} {x : LinkStage}, x = .spawn ∨ x = .store → u ≠ t →
      w.tasks u ≠ .linking x := by
    rintro u x hx hut hu
    exact hut (hb.starter u t x .store (by rcases hx with rfl | rfl <;> rfl) rfl hu ht)
  have away : ∀ {u} {x : LinkStage} {sh : Shared}, x = .spawn ∨ x = .store →
      ((w.setShared sh).move t (.linking .recheck) [.obtained t t]).tasks u = .linking x →
        False := by
    intro u x sh hx hu
    by_cases hut : u = t
    · subst hut
      rcases hx with rfl | rfl <;> simp at hu
    · rw [move_tasks_of_ne hut] at hu
      exact alone hx hut hu
  have written := h.starter t (.inr ht)
  refine ⟨by simp, fun b hb' => ?_, fun u hu => ?_, fun u b hb' => ?_, fun u hu => ?_,
    fun u x hx => ?_, fun u x hu => ?_, fun u hb' hf => ?_, by simpa using h.single,
    fun u hu => ?_, fun u hu => ?_, fun u e he => ?_, fun b hb' => ?_⟩
  · simp only [move_shared, setShared_shared, Option.some.injEq] at hb'
    subst hb'
    exact .inl (by simp)
  · simp only [move_shared, setShared_shared, Option.some.injEq] at hu
    rcases hu with hu | rfl
    · exact (away (.inr rfl) hu).elim
    · obtain ⟨r, hr⟩ := h.spawner t (.inl ht)
      exact ⟨r, by simp [hr]⟩
  · simp only [move_log, setShared_log, List.mem_append, List.mem_singleton,
      Event.obtained.injEq] at hb'
    rcases hb' with hb' | ⟨-, rfl⟩
    · exact absurd (h.obtained u b hb') (by simp [unbridged])
    · simp
  · by_cases hut : u = t
    · subst hut
      exact ⟨u, by simp⟩
    · obtain ⟨b, hb'⟩ := h.recheck u (by rwa [move_tasks_of_ne hut] at hu)
      exact ⟨b, by simp [hb']⟩
  · obtain ⟨b, hb'⟩ := h.linked u x (by simpa using hx)
    exact ⟨b, by simp [hb']⟩
  · by_cases hut : u = t
    · subst hut
      simpa using h.quiet u .store ht
    · rw [move_tasks_of_ne hut] at hu
      simpa [Ne.symm hut] using h.quiet u x hu
  · by_cases hut : u = t
    · subst hut
      exact .inr (.inr (by simp))
    · rcases h.kept u (by simpa using hb') (by simpa using hf) with hx | hx | hx
      · exact absurd hx (alone (.inl rfl) hut)
      · exact absurd hx (alone (.inr rfl) hut)
      · simp [unbridged] at hx
  · obtain ⟨hb', hf⟩ := h.writer u (by simpa using hu)
    simp [hb', hf]
  · rcases hu with hu | hu
    · exact (away (.inl rfl) hu).elim
    · exact (away (.inr rfl) hu).elim
  · simpa using h.failed u e (by simpa using he)
  · simp only [move_shared, setShared_shared, Option.some.injEq] at hb'
    subst hb'
    exact .inl written

theorem begin (h : Registry w) (hfresh : ∀ e ∈ w.log, e.thread ≠ t) (ht : w.tasks t = .idle) :
    Registry (w.move t (.linking .check) [.began t .link]) := by
  have away : ∀ {u} {x : LinkStage}, x ≠ .check →
      (w.move t (.linking .check) [.began t .link]).tasks u = .linking x → w.tasks u = .linking x := by
    intro u x hx hu
    by_cases hut : u = t
    · subst hut
      simp only [move_tasks_self, Task.linking.injEq] at hu
      exact absurd hu.symm hx
    · rwa [move_tasks_of_ne hut] at hu
  have unowned : w.shared.bridge ≠ some t := fun hb => by
    rcases h.owner t hb with hx | ⟨x, hx⟩ <;> simp [ht] at hx
  refine ⟨by simpa using h.full, fun b hb => ?_, fun u hu => ?_, fun u b hb => ?_,
    fun u hu => ?_, fun u x hx => ?_, fun u x hu => ?_, fun u hb hf => ?_, by simpa using h.single,
    fun u hu => ?_, fun u hu => ?_, fun u e he => ?_, fun b hb => ?_⟩
  · simp only [move_shared] at hb
    have hbt : b ≠ t := fun hbt => unowned (hbt ▸ hb)
    rw [move_tasks_of_ne hbt]
    exact h.owner b hb
  · simp only [move_shared] at hu
    obtain ⟨r, hr⟩ := h.spawner u (hu.imp_left (away (by simp)))
    exact ⟨r, by simp [hr]⟩
  · simpa using h.obtained u b (by simpa using hb)
  · obtain ⟨b, hb⟩ := h.recheck u (away (by simp) hu)
    exact ⟨b, by simp [hb]⟩
  · obtain ⟨b, hb⟩ := h.linked u x (by simpa using hx)
    exact ⟨b, by simp [hb]⟩
  · by_cases hut : u = t
    · subst hut
      refine ⟨fun hin => ?_, fun r hin => ?_⟩
      · simp only [move_log, List.mem_append, List.mem_singleton, reduceCtorEq, or_false] at hin
        exact hfresh _ hin rfl
      · simp only [move_log, List.mem_append, List.mem_singleton, reduceCtorEq, or_false] at hin
        exact hfresh _ hin rfl
    · rw [move_tasks_of_ne hut] at hu
      simpa using h.quiet u x hu
  · have hb' : .begun u ∈ w.log := by simpa using hb
    have hut : u ≠ t := fun hut => hfresh _ hb' (by simp [Event.thread, hut])
    simpa [move_tasks_of_ne hut] using h.kept u hb' (by simpa using hf)
  · obtain ⟨hb, hf⟩ := h.writer u (by simpa using hu)
    simp [hb, hf]
  · simpa using h.starter u (hu.imp (away (by simp)) (away (by simp)))
  · simpa using h.failed u e (by simpa using he)
  · simp only [move_shared, move_log] at hb ⊢
    exact (h.drained b hb).imp_right (Exists.imp fun _ hv => hv.append _)

theorem detachBridge (h : Registry w) :
    Registry ((w.setShared w.shared.detach).move t (w.tasks t) [.unregistered t, .drained t]) := by
  have same : ((w.setShared w.shared.detach).move t (w.tasks t)
      [.unregistered t, .drained t]).tasks = w.tasks := by
    funext u
    by_cases hut : u = t
    · subst hut
      simp
    · simp [move_tasks_of_ne hut]
  have grow : ∀ {e : Event}, e ≠ .unregistered t → e ≠ .drained t →
      (e ∈ ((w.setShared w.shared.detach).move t (w.tasks t)
        [.unregistered t, .drained t]).log ↔ e ∈ w.log) := by
    intro e hu hd
    simp [hu, hd]
  refine ⟨by simpa using h.full, fun b hb => ?_, fun u hu => ?_, fun u b hb => ?_,
    fun u hu => ?_, fun u x hx => ?_, fun u x hu => ?_, fun u hb hf => ?_, ?_, fun u hu => ?_,
    fun u hu => ?_, fun u e he => ?_, fun b hb => ?_⟩
  · rw [same]
    exact h.owner b (by simpa using hb)
  · obtain ⟨r, hr⟩ := h.spawner u (by simpa [same] using hu)
    exact ⟨r, by simp [hr]⟩
  · simpa using h.obtained u b ((grow (by simp) (by simp)).mp hb)
  · obtain ⟨b, hb⟩ := h.recheck u (by rwa [same] at hu)
    exact ⟨b, by simp [hb]⟩
  · obtain ⟨b, hb⟩ := h.linked u x ((grow (by simp) (by simp)).mp hx)
    exact ⟨b, by simp [hb]⟩
  · obtain ⟨hf, hr⟩ := h.quiet u x (by rwa [same] at hu)
    simp [hf, hr]
  · simpa [same] using h.kept u ((grow (by simp) (by simp)).mp hb)
      (fun hin => hf ((grow (by simp) (by simp)).mpr hin))
  · simpa using Nat.le_trans (List.length_filter_le _ _) h.single
  · simp only [move_shared, setShared_shared, Shared.writers_detach, List.mem_filter] at hu
    obtain ⟨hb, hf⟩ := h.writer u hu.1
    simp [hb, hf]
  · rw [same] at hu
    have unowned : w.shared.bridge ≠ some u := fun hb => by
      rcases h.owner u hb with hx | ⟨x, hx⟩ <;> rcases hu with hu | hu <;> simp [hu] at hx
    simp [h.starter u hu, unowned]
  · simp only [move_shared, setShared_shared, Shared.writers_detach, List.mem_filter, not_and]
    exact fun hin => absurd hin (h.failed u e ((grow (by simp) (by simp)).mp he))
  · -- the bridge's writer is gone now, so its queue was drained: now, if not before
    simp only [move_shared, setShared_shared, Shared.bridge_detach] at hb
    right
    rcases h.drained b hb with hin | ⟨v, hv⟩
    · exact ⟨t, Before.of_mem_append (h.writer b hin).1 (by simp)⟩
    · exact ⟨v, hv.append _⟩

theorem not_writer_detach (h : Registry w) (ht : w.tasks t = .linking .recheck) :
    t ∉ w.shared.detach.writers := by
  simp only [Shared.writers_detach, List.mem_filter, decide_eq_true_eq]
  intro hin
  rcases h.writer_task hin.1 with hx | hx | hx
  · simp [ht] at hx
  · simp [ht] at hx
  · exact hin.2 hx

theorem link_step (h : Registry w) (hb : Bridged w) (hs : LinkStep t w w') : Registry w' := by
  cases hs
  case checkClosed ht _ =>
    exact h.reply ht (.inl rfl) rfl rfl Iff.rfl (by simp) fun _ _ => h.not_writer ht (.inl rfl)
  case checkOpen ht _ => exact h.advance ht (.inl rfl) (.inl rfl) rfl rfl Iff.rfl
  case getFull b ht _ hbr => exact h.getFull ht hbr
  case build ht hc => exact h.advance ht (.inr rfl) (.inr rfl) rfl rfl (by simp [hc])
  case startFailed e ht =>
    exact h.reply ht (.inr (.inl rfl)) rfl rfl (by simp [hb.building_of ht rfl]) (by simp)
      fun _ _ => h.not_writer ht (.inr (.inr rfl))
  case start ht => exact h.start hb ht
  case spawn r ht hr => exact h.spawn ht hr
  case spawnFailed e ht => exact h.spawnFailed hb ht (by rfl) (by rfl) (by rfl) _
  case store ht => exact h.store hb ht
  case recheckOpen ht _ =>
    exact h.reply ht (.inr (.inr rfl)) rfl rfl Iff.rfl (fun _ _ => rfl) (by simp)
  case recheckClosed ht _ =>
    -- detach the bridge first, then answer: the bridge's writer is gone by then
    have detached := h.detachBridge (t := t)
    have hdt : ((w.setShared w.shared.detach).move t (w.tasks t)
        [.unregistered t, .drained t]).tasks t = .linking .recheck := by simp [ht]
    have answered := detached.reply (r := .error .closed) hdt (.inr (.inr rfl)) rfl rfl Iff.rfl
      (by simp) fun _ _ => h.not_writer_detach ht
    simpa only [reply_eq, move_shared, setShared_shared, setShared_move, setShared_setShared,
      move_move, List.cons_append, List.nil_append] using answered

theorem close_step (h : Registry w) (hs : CloseStep t w w') : Registry w' := by
  cases hs
  case detach l ht =>
    -- detach the bridge, then move on to release the descriptor
    have moved : Apart ((w.setShared w.shared.detach).move t (w.tasks t)
        [.unregistered t, .drained t]) (((w.setShared w.shared.detach).move t (w.tasks t)
          [.unregistered t, .drained t]).move t (.closing .release l) []) :=
      Apart.move (by simp [ht, Task.linkish]) (by simp [Task.linkish]) (by simp) rfl rfl rfl
    have released := h.detachBridge.of_apart moved
    simpa only [move_shared, setShared_shared, setShared_move, setShared_setShared, move_move,
      List.append_nil] using released
  case pass l _ _ | complete l _ =>
    exact h.of_apart (Apart.move (by simp_all [Task.linkish])
      (by cases l <;> simp [afterClose, Task.linkish]) (by simp [Event.ofRegistry]) rfl rfl rfl)
  all_goals
    exact h.of_apart (Apart.move (by simp_all [Task.linkish]) (by simp [Task.linkish])
      (by simp [Event.ofRegistry]) rfl rfl rfl)

theorem step {fd : Nat} (h : Registry w) (hb : Bridged w) (hc : Closing fd w) (hs : Step t w w') :
    Registry w' := by
  cases hs with
  | call c ht =>
    cases c
    case link => exact h.begin (hc.fresh t ht) ht
    all_goals exact h.of_apart (Apart.move (by simp [ht, Task.linkish])
      (by simp [Call.task, Task.linkish]) (by simp [Event.ofRegistry]) rfl rfl rfl)
  | close hs => exact h.close_step hs
  | access hs =>
    cases hs <;> exact h.of_apart (Apart.move (by simp_all [Task.linkish])
      (by simp [Task.linkish]) (by simp [Event.ofRegistry]) rfl rfl rfl)
  | link hs => exact h.link_step hb hs
  | wait ht _ =>
    exact h.of_apart (Apart.move (by simp [ht, Task.linkish]) (by simp [Task.linkish])
      (by simp [Event.ofRegistry]) rfl rfl rfl)
  | loop hs =>
    cases hs
    case decide o attached ht =>
      exact h.of_apart (Apart.move (by simp [ht, Task.linkish])
        (by cases o.react attached w.shared.closed <;> simp [loopNext, Task.linkish])
        (by cases o.react attached w.shared.closed <;> simp [loopNext, Event.ofRegistry])
        rfl rfl rfl)
    all_goals exact h.of_apart (Apart.move (by simp_all [Task.linkish]) (by simp [Task.linkish])
      (by simp [Event.ofRegistry]) rfl rfl rfl)

theorem reach {fd : Nat} (hw : Reach fd w) : Registry w :=
  Reach.invariant (init fd) (fun hw h hs => h.step (Bridged.reach hw) (Closing.reach hw) hs) hw

theorem not_writer_of (h : Registry w) {u : Nat}
    (hu : ∀ s, w.tasks u ≠ .linking s) (hdone : ∀ r, w.tasks u ≠ .done (.linked r)) :
    u ∉ w.shared.writers := by
  intro hin
  rcases h.writer_task hin with hx | hx | hx
  · exact hu _ hx
  · exact hu _ hx
  · rcases h.owner u hx with hx | ⟨r, hx⟩
    · exact hu _ hx
    · exact hdone r hx

end Registry

/-- Once the device is closed, every registered writer is the writer of a call still starting the
bridge or checking the closed flag again, or a close is about to look in the cell or detach the
bridge. -/
def Pending (w : World) : Prop :=
  w.shared.closed = true → ∀ u ∈ w.shared.writers,
    w.tasks u = .linking .spawn ∨ w.tasks u = .linking .store ∨ w.tasks u = .linking .recheck ∨
      ∃ v l, w.tasks v = .closing .look l ∨ w.tasks v = .closing .detach l

namespace Pending

variable {w w' : World} {t : Nat}

theorem init (fd : Nat) : Pending (World.init fd) := by
  simp [Pending]

/-- A step keeps the pending writers when it does not close the device, it adds no writer but a
call's own while that call is starting the bridge or checking the closed flag again, and its
thread is not the close about to look in the cell or detach the bridge. -/
theorem frame (p : Pending w) (hs : Step t w w')
    (hclosed : w'.shared.closed = true → w.shared.closed = true)
    (hwitness : ∀ l, w.tasks t ≠ .closing .look l ∧ w.tasks t ≠ .closing .detach l)
    (hwriters : ∀ u ∈ w'.shared.writers, (u ∈ w.shared.writers ∧ u ≠ t) ∨
      (u = t ∧ (w'.tasks t = .linking .spawn ∨ w'.tasks t = .linking .store ∨
        w'.tasks t = .linking .recheck))) :
    Pending w' := by
  intro hc u hu
  obtain ⟨es, -, -, frame⟩ := hs.frame
  -- every other thread that is doing something keeps its task
  have keep : ∀ v, v ≠ t → w.tasks v ≠ .idle → w'.tasks v = w.tasks v :=
    fun v hvt hidle => (frame v hvt).resolve_right fun hx => hidle hx.1
  rcases hwriters u hu with ⟨huW, hut⟩ | ⟨rfl, hnew⟩
  · rcases p (hclosed hc) u huW with hx | hx | hx | ⟨v, l, hv⟩
    · exact .inl (by rw [keep u hut (by simp [hx]), hx])
    · exact .inr (.inl (by rw [keep u hut (by simp [hx]), hx]))
    · exact .inr (.inr (.inl (by rw [keep u hut (by simp [hx]), hx])))
    · have hvt : v ≠ t := by
        rintro rfl
        rcases hv with hv | hv
        · exact (hwitness l).1 hv
        · exact (hwitness l).2 hv
      have busy : w.tasks v ≠ .idle := by rcases hv with hv | hv <;> simp [hv]
      exact .inr (.inr (.inr ⟨v, l, by rwa [keep v hvt busy]⟩))
  · rcases hnew with hx | hx | hx
    · exact .inl hx
    · exact .inr (.inl hx)
    · exact .inr (.inr (.inl hx))

theorem step (p : Pending w) (h : Registry w) (hs : Step t w w') :
    Pending w' := by
  have frame := p.frame hs
  -- most steps keep the writers, and their thread has none
  have same : ∀ {W : List Nat} {P : Nat → Prop}, t ∉ w.shared.writers →
      W = w.shared.writers → ∀ u ∈ W, (u ∈ w.shared.writers ∧ u ≠ t) ∨ P u := by
    rintro W P hnot rfl u hu
    exact .inl ⟨hu, fun hut => hnot (hut ▸ hu)⟩
  -- where every registered writer is a start's that goes on, nothing else matters
  have starting : (∀ u ∈ w'.shared.writers, u ≠ t ∧
      (w.tasks u = .linking .spawn ∨ w.tasks u = .linking .store)) → Pending w' := by
    intro hall hc u hu
    obtain ⟨es, -, -, others⟩ := hs.frame
    obtain ⟨hut, hx⟩ := hall u hu
    have busy : w.tasks u ≠ .idle := by rcases hx with hx | hx <;> simp [hx]
    rw [(others u hut).resolve_right fun hi => busy hi.1]
    exact hx.imp id .inl
  cases hs with
  | call c ht =>
    exact frame (by simp) (by simp [ht])
      (same (h.not_writer_of (by simp [ht]) (by simp [ht])) (by simp))
  | close hs =>
    cases hs
    case flag l ht => exact fun _ _ _ => .inr (.inr (.inr ⟨t, l, .inl (by simp)⟩))
    case look l ht =>
      by_cases hcell : w.shared.cell = .full
      · exact fun _ _ _ => .inr (.inr (.inr ⟨t, l, .inr (by simp [hcell])⟩))
      · -- no bridge yet: a registered writer is a start's
        refine starting fun u hu => ?_
        simp only [move_shared] at hu
        rcases h.writer_task hu with hx | hx | hx
        · exact ⟨fun hut => by simp [hut, ht] at hx, .inl hx⟩
        · exact ⟨fun hut => by simp [hut, ht] at hx, .inr hx⟩
        · exact absurd (h.bridge_full hx) hcell
    case detach l ht =>
      -- the bridge's writer is gone: a registered writer is a start's
      refine starting fun u hu => ?_
      simp only [move_shared, setShared_shared, Shared.writers_detach, List.mem_filter,
        decide_eq_true_eq] at hu
      rcases h.writer_task hu.1 with hx | hx | hx
      · exact ⟨fun hut => by simp [hut, ht] at hx, .inl hx⟩
      · exact ⟨fun hut => by simp [hut, ht] at hx, .inr hx⟩
      · exact absurd hx hu.2
    all_goals
      exact frame (by simp_all) (by simp_all)
        (same (h.not_writer_of (by simp_all) (by simp_all)) (by simp))
  | access hs =>
    cases hs <;>
      exact frame (by simp) (by simp_all)
        (same (h.not_writer_of (by simp_all) (by simp_all)) (by simp))
  | link hs =>
    cases hs
    case start ht =>
      -- the new writer is the start's own, and the start goes on to spawn
      refine frame (by simp) (by simp [ht]) fun u hu => ?_
      simp only [move_shared, setShared_shared, List.mem_append, List.mem_singleton] at hu
      rcases hu with hu | rfl
      · exact .inl ⟨hu, fun hut => h.not_writer ht (.inr (.inr rfl)) (hut ▸ hu)⟩
      · exact .inr ⟨rfl, .inl (by simp)⟩
    case spawn r ht hr =>
      refine frame (by simp) (by simp [ht]) fun u hu => ?_
      by_cases hut : u = t
      · exact .inr ⟨hut, .inr (.inl (by simp))⟩
      · exact .inl ⟨by simpa using hu, hut⟩
    case store ht =>
      refine frame (by simp) (by simp [ht]) fun u hu => ?_
      by_cases hut : u = t
      · exact .inr ⟨hut, .inr (.inr (by simp))⟩
      · exact .inl ⟨by simpa using hu, hut⟩
    case spawnFailed e ht =>
      refine frame (by simp) (by simp [ht]) fun u hu => .inl ?_
      simp only [move_shared, setShared_shared] at hu
      exact (Registry.mem_erase_of_length_le_one h.single hu).symm
    case recheckOpen ht hopen => exact fun hc => by simp [hopen] at hc
    case recheckClosed ht _ =>
      -- the bridge's writer is gone, and the call's own writer is the bridge's if any
      refine frame (by simp) (by simp [ht]) fun u hu => .inl ⟨(List.mem_filter.mp hu).1, ?_⟩
      rintro rfl
      exact h.not_writer_detach ht hu
    case getFull b ht _ _ =>
      exact frame (by simp) (by simp [ht]) (same (h.not_writer ht (.inr (.inl rfl))) (by simp))
    case checkClosed ht _ =>
      exact frame (by simp) (by simp [ht]) (same (h.not_writer ht (.inl rfl)) (by simp))
    case checkOpen ht _ =>
      exact frame (by simp) (by simp [ht]) (same (h.not_writer ht (.inl rfl)) (by simp))
    case build ht _ =>
      exact frame (by simp) (by simp [ht]) (same (h.not_writer ht (.inr (.inl rfl))) (by simp))
    case startFailed e ht =>
      exact frame (by simp) (by simp [ht])
        (same (h.not_writer ht (.inr (.inr rfl))) (by simp))
  | wait ht _ =>
    exact frame (by simp) (by simp [ht])
      (same (h.not_writer_of (by simp [ht]) (by simp [ht])) (by simp))
  | loop hs =>
    cases hs
    case decide o attached ht =>
      exact frame (by simp) (by simp [ht])
        (same (h.not_writer_of (by simp [ht]) (by simp [ht])) (by simp))
    all_goals
      exact frame (by simp_all) (by simp_all)
        (same (h.not_writer_of (by simp_all) (by simp_all)) (by simp))

theorem reach {fd : Nat} (hw : Reach fd w) : Pending w :=
  Reach.invariant (init fd) (fun hw p hs => p.step (Registry.reach hw) hs) hw

end Pending

namespace Registry

variable {w : World}

theorem kept_unique (h : Registry w) (hb : Bridged w) {u v : Nat} (hu : .begun u ∈ w.log)
    (hv : .begun v ∈ w.log) (hfu : .spawnFailed u ∉ w.log) (hfv : .spawnFailed v ∉ w.log) :
    u = v := by
  have role : ∀ {x}, .begun x ∈ w.log → .spawnFailed x ∉ w.log →
      (∃ s, s.starting ∧ w.tasks x = .linking s) ∨ w.shared.bridge = some x := by
    intro x hx hfx
    rcases h.kept x hx hfx with hs | hs | hs
    · exact .inl ⟨.spawn, rfl, hs⟩
    · exact .inl ⟨.store, rfl, hs⟩
    · exact .inr hs
  rcases role hu hfu with ⟨s, hs, hsu⟩ | hbu <;> rcases role hv hfv with ⟨s', hs', hsv⟩ | hbv
  · exact hb.starter u v s s' hs hs' hsu hsv
  · exact absurd (h.bridge_full hbv) (by simp [hb.building_of hsu hs])
  · exact absurd (h.bridge_full hbu) (by simp [hb.building_of hsv hs'])
  · exact Option.some.inj (hbu.symm.trans hbv)

theorem obtained_same (h : Registry w) {u v b b' : Nat} (hu : .obtained u b ∈ w.log)
    (hv : .obtained v b' ∈ w.log) : b = b' :=
  Option.some.inj ((h.obtained u b hu).symm.trans (h.obtained v b' hv))

theorem obtained_spawned (h : Registry w) {u b : Nat} (hu : .obtained u b ∈ w.log) :
    ∃ r, .spawned b r ∈ w.log :=
  h.spawner b (.inr (h.obtained u b hu))

end Registry

namespace Pending

variable {w : World}

/-- Once a close returned and no `link_endpoint` call is under way, no writer is registered,
and the bridge's queue was drained after the bridge was made. The closed flag is set and the
once complete, so no close is in its body, and the writers `Pending` allows are gone. -/
theorem writers_nil {fd u : Nat} (p : Pending w) (h : Registry w) (hc : Closing fd w)
    (hr : .returned u .closed ∈ w.log) (idle : ∀ v s, w.tasks v ≠ .linking s) :
    w.shared.writers = [] ∧
      ∀ b, w.shared.bridge = some b → ∃ v, Before w.log (.begun b) (.drained v) := by
  obtain ⟨honce, -, hclosed⟩ := hc.closed_down hr
  have outside : ∀ v c l, w.tasks v = .closing c l → c.inBody = false :=
    hc.gated.outside (by simp [honce])
  have empty : w.shared.writers = [] := by
    refine List.eq_nil_iff_forall_not_mem.mpr fun x hx => ?_
    rcases p hclosed x hx with hs | hs | hs | ⟨v, l, hv | hv⟩
    · exact idle x _ hs
    · exact idle x _ hs
    · exact idle x _ hs
    · exact absurd (outside v _ l hv) (by decide)
    · exact absurd (outside v _ l hv) (by decide)
  refine ⟨empty, fun b hb => ?_⟩
  rcases h.drained b hb with hin | drained
  · simp [empty] at hin
  · exact drained

end Pending

theorem Closing.late_link {fd u t : Nat} {w w' : World} (hc : Closing fd w)
    (hbefore : Before w.log (.returned u .closed) (.began t .link)) (hs : Step t w w') :
    w' = w.reply t (.linked (.error .closed)) := by
  obtain ⟨-, htask, -⟩ := hc.late u t .link hbefore
  obtain ⟨honce, hfd, hclosed⟩ := hc.closed_down hbefore.mem_left
  rcases htask with ht | ht
  · exact hs.after_close ht hfd hclosed honce
  · exact (hs.not_done ht).elim

/-- Along every run of a device opened on descriptor `fd`, however `link_endpoint` calls and
closes interleave: every call that got a bridge got the same one, started by a start that
spawned the read thread, and every call answering with the endpoint got it; the read thread was
spawned at most once; two starts whose spawn did not fail are one; at most one writer is
registered, each by a start whose spawn did not fail, and a call that failed has none
registered. A call begun after a close returned answers `Closed` and nothing else; and once a
close returned and no call is under way, no writer is registered and the bridge's queue was
drained after the bridge was made. -/
theorem link_endpoint_once (fd : Nat) :
    (∀ w, Reach fd w →
      (∀ u v b b', .obtained u b ∈ w.log → .obtained v b' ∈ w.log → b = b') ∧
      (∀ u b, .obtained u b ∈ w.log → ∃ r, .spawned b r ∈ w.log) ∧
      (∀ u r, .returned u (.linked (.ok r)) ∈ w.log → ∃ b, .obtained u b ∈ w.log) ∧
      (∀ s r s' r', .spawned s r ∈ w.log → .spawned s' r' ∈ w.log → s = s' ∧ r = r') ∧
      (∀ u v, .begun u ∈ w.log → .begun v ∈ w.log → .spawnFailed u ∉ w.log →
        .spawnFailed v ∉ w.log → u = v) ∧
      w.shared.writers.length ≤ 1 ∧
      (∀ u ∈ w.shared.writers, .begun u ∈ w.log ∧ .spawnFailed u ∉ w.log) ∧
      ∀ u e, .returned u (.linked (.error e)) ∈ w.log → u ∉ w.shared.writers) ∧
    ∀ w, Reach fd w →
      (∀ u t w', Before w.log (.returned u .closed) (.began t .link) → Step t w w' →
        w' = w.reply t (.linked (.error .closed))) ∧
      (∀ u t r, Before w.log (.returned u .closed) (.began t .link) → .returned t r ∈ w.log →
        r = .linked (.error .closed)) ∧
      ((∃ u, .returned u .closed ∈ w.log) → (∀ u s, w.tasks u ≠ .linking s) →
        w.shared.writers = [] ∧
          ∀ b, w.shared.bridge = some b → ∃ u, Before w.log (.begun b) (.drained u)) := by
  refine ⟨fun w hw => ?_, fun w hw => ?_⟩
  · have h := Registry.reach hw
    have hb := Bridged.reach hw
    exact ⟨fun _ _ _ _ hu hv => h.obtained_same hu hv, fun _ _ hu => h.obtained_spawned hu,
      h.linked, hb.spawnedOnce, fun _ _ hu hv hfu hfv => h.kept_unique hb hu hv hfu hfv,
      h.single, h.writer, h.failed⟩
  · have hc := Closing.reach hw
    refine ⟨fun u t w' hbefore hs => hc.late_link hbefore hs,
      fun u t r hbefore => (hc.late u t .link hbefore).2.2 r, fun hr idle => ?_⟩
    obtain ⟨u, hu⟩ := hr
    exact (Pending.reach hw).writers_nil (Registry.reach hw) hc hu idle

end Threads

end TunBridge
