import TunBridge.Proofs.Device.Close
/-!
The read thread of a device shared by threads: when `wait` may return (`Bridged`, `Quiet`), and
what the thread injects once the device is closed (`Injections`). Main statements:
`read_thread_quiet` and `wait_returns_while_reader_runs`.
-/
namespace TunBridge

namespace Threads

/-- Whether a task is the read thread's: its loop, its own `read_slice`, or its own close. -/
def Task.isReader : Task → Bool
  | .looping _ => true
  | .accessing a => a == .loop
  | .holding _ a => a == .loop
  | .closing _ byLoop => byLoop
  | _ => false

@[simp] theorem isReader_afterClose (l : Bool) : (afterClose l).isReader = l := by
  cases l <;> rfl

@[simp] theorem afterClose_ne_linking (l : Bool) (s : LinkStage) : afterClose l ≠ .linking s := by
  cases l <;> simp [afterClose]

def LinkStage.starting : LinkStage → Bool
  | .start | .spawn | .store => true
  | _ => false

/-- What a step that leaves the bridge alone keeps: the cell and the read task's flags, which
threads are the read thread, which calls are starting the bridge, and the read threads that
stopped; it spawns no thread, and a call it moves to check the closed flag again, or returns the
endpoint from, found the bridge in its cell. -/
structure Aside (w w' : World) : Prop where
  cell : w'.shared.cell = w.shared.cell
  started : w'.shared.started = w.shared.started
  finished : w'.shared.finished = w.shared.finished
  readers : ∀ u, (w'.tasks u).isReader = (w.tasks u).isReader
  links : ∀ u s, s.starting → (w'.tasks u = .linking s ↔ w.tasks u = .linking s)
  recheck : ∀ u, w'.tasks u = .linking .recheck →
    w.tasks u = .linking .recheck ∨ w.shared.cell = .full
  stopped : ∀ u, w.tasks u = .looping .stopped → w'.tasks u = .looping .stopped
  log : ∃ es, w'.log = w.log ++ es ∧ (∀ s r, .spawned s r ∉ es) ∧
    ∀ u r, .returned u (.linked (.ok r)) ∈ es → w.shared.cell = .full

section

variable {w w' : World} {t : Nat}

theorem Aside.move {s : Shared} {task : Task} {es : List Event}
    (hreader : task.isReader = (w.tasks t).isReader)
    (hlink : ∀ s', s'.starting → task ≠ .linking s' ∧ w.tasks t ≠ .linking s')
    (hrecheck : task = .linking .recheck → w.shared.cell = .full)
    (hstop : w.tasks t ≠ .looping .stopped)
    (unspawned : ∀ s r, .spawned s r ∉ es)
    (hlinked : ∀ u r, .returned u (.linked (.ok r)) ∈ es → w.shared.cell = .full)
    (hcell : s.cell = w.shared.cell)
    (hstarted : s.started = w.shared.started) (hfinished : s.finished = w.shared.finished) :
    Aside w ((w.setShared s).move t task es) where
  cell := hcell
  started := hstarted
  finished := hfinished
  readers u := by
    by_cases hut : u = t
    · subst hut
      simpa using hreader
    · simp [move_tasks_of_ne hut]
  links u s' hs' := by
    by_cases hut : u = t
    · subst hut
      simp [(hlink s' hs').1, (hlink s' hs').2]
    · simp [move_tasks_of_ne hut]
  recheck u hu := by
    by_cases hut : u = t
    · subst hut
      exact .inr (hrecheck (by simpa using hu))
    · exact .inl (by simpa [move_tasks_of_ne hut] using hu)
  stopped u hu := by
    have hut : u ≠ t := by
      rintro rfl
      exact hstop hu
    simpa [move_tasks_of_ne hut] using hu
  log := ⟨es, rfl, unspawned, hlinked⟩

theorem CloseStep.aside (h : CloseStep t w w') : Aside w w' := by
  -- a close keeps the thread's role: the read thread's own close is the read thread's
  cases h <;> refine Aside.move ?_ (fun s' _ => by simp_all) (by simp) (by simp_all)
    (by simp) (by simp) rfl rfl rfl <;> simp only [isReader_afterClose, *] <;> rfl

theorem AccessStep.aside (h : AccessStep t w w') : Aside w w' := by
  cases h <;> exact Aside.move (by simp_all [Task.isReader]) (fun s' _ => by simp_all) (by simp)
    (by simp_all) (by simp) (by simp) rfl rfl rfl

end

/-- What the bridge cell, the call that starts the bridge and the read thread keep on every run:
the cell is being built exactly while one `link_endpoint` call is starting the bridge; a call
checking the closed flag again, and a call that returned the endpoint, found the bridge in its
cell; once the bridge is being spawned or is in its cell, the read task is marked started; at
most one read thread is ever spawned, and only it runs the read thread's tasks; and once the
read task is marked finished, a spawn failed or every spawned read thread stopped. -/
structure Bridged (w : World) : Prop where
  building : w.shared.cell = .building ↔ ∃ u s, s.starting ∧ w.tasks u = .linking s
  starter : ∀ u v s s', s.starting → s'.starting → w.tasks u = .linking s →
    w.tasks v = .linking s' → u = v
  recheck : ∀ u, w.tasks u = .linking .recheck → w.shared.cell = .full
  linked : ∀ u r, .returned u (.linked (.ok r)) ∈ w.log → w.shared.cell = .full
  started : (w.shared.cell = .full ∨
    ∃ u, w.tasks u = .linking .spawn ∨ w.tasks u = .linking .store) → w.shared.started = true
  spawned : ∀ s r, .spawned s r ∈ w.log → w.shared.cell = .full ∨ w.tasks s = .linking .store
  spawnedOnce : ∀ s r s' r', .spawned s r ∈ w.log → .spawned s' r' ∈ w.log → s = s' ∧ r = r'
  reader : ∀ u, (w.tasks u).isReader → ∃ s, .spawned s u ∈ w.log
  finished : w.shared.finished = true → (∃ u, .spawnFailed u ∈ w.log) ∨
    ((∃ s r, .spawned s r ∈ w.log) ∧
      ∀ s r, .spawned s r ∈ w.log → w.tasks r = .looping .stopped)

namespace Bridged

variable {w w' : World} {t : Nat}

theorem init (fd : Nat) : Bridged (World.init fd) where
  building := by simp
  starter := by simp
  recheck := by simp
  linked := by simp
  started := by simp
  spawned := by simp
  spawnedOnce := by simp
  reader := by simp [Task.isReader]
  finished := by simp

theorem of_aside (h : Bridged w) (a : Aside w w') : Bridged w' := by
  obtain ⟨es, hlog, unspawned, hlinked⟩ := a.log
  have old : ∀ s r, .spawned s r ∈ w'.log → .spawned s r ∈ w.log := fun s r hr => by
    rw [hlog] at hr
    exact (List.mem_append.mp hr).resolve_right (unspawned s r)
  have grow : ∀ e ∈ w.log, e ∈ w'.log := fun e he => hlog ▸ List.mem_append_left es he
  refine ⟨?_, fun u v s s' hs hs' hu hv => ?_, fun u hu => ?_, fun u r hr => ?_, fun hc => ?_,
    fun s r hr => ?_, fun s r s' r' hr hr' => ?_, fun u hu => ?_, fun hf => ?_⟩
  · rw [a.cell, h.building]
    exact exists_congr fun u => exists_congr fun s =>
      and_congr_right fun hs => (a.links u s hs).symm
  · exact h.starter u v s s' hs hs' ((a.links u s hs).mp hu) ((a.links v s' hs').mp hv)
  · rw [a.cell]
    exact (a.recheck u hu).elim (h.recheck u) id
  · rw [a.cell]
    rw [hlog] at hr
    exact (List.mem_append.mp hr).elim (h.linked u r) (hlinked u r)
  · rw [a.started]
    apply h.started
    rcases hc with hc | ⟨u, hu⟩
    · exact .inl (a.cell ▸ hc)
    · exact .inr ⟨u, hu.imp (a.links u .spawn rfl).mp (a.links u .store rfl).mp⟩
  · rw [a.cell]
    exact (h.spawned s r (old s r hr)).imp_right (a.links s .store rfl).mpr
  · exact h.spawnedOnce s r s' r' (old s r hr) (old s' r' hr')
  · obtain ⟨s, hs⟩ := h.reader u (by rwa [← a.readers u])
    exact ⟨s, grow _ hs⟩
  · rw [a.finished] at hf
    rcases h.finished hf with ⟨u, hu⟩ | ⟨⟨s, r, hr⟩, all⟩
    · exact .inl ⟨u, grow _ hu⟩
    · exact .inr ⟨⟨s, r, grow _ hr⟩, fun s r hr => a.stopped r (all s r (old s r hr))⟩

theorem building_of (h : Bridged w) {s : LinkStage} (ht : w.tasks t = .linking s)
    (hs : s.starting) : w.shared.cell = .building :=
  h.building.mpr ⟨t, s, hs, ht⟩

theorem not_starting (h : Bridged w) (hc : w.shared.cell ≠ .building) {s : LinkStage}
    (hs : s.starting) (u : Nat) : w.tasks u ≠ .linking s :=
  fun hu => hc (h.building_of hu hs)

theorem unspawned (h : Bridged w) {s : LinkStage} (ht : w.tasks t = .linking s)
    (hs : s = .start ∨ s = .spawn) (s' r : Nat) : .spawned s' r ∉ w.log := by
  intro hr
  have hstart : s.starting := by rcases hs with rfl | rfl <;> rfl
  rcases h.spawned s' r hr with hc | hs'
  · simp [h.building_of ht hstart] at hc
  · obtain rfl := h.starter s' t .store s rfl hstart hs' ht
    rcases hs with rfl | rfl <;> simp_all

theorem unspawned_of_empty (h : Bridged w) (hc : w.shared.cell = .empty) (s r : Nat) :
    .spawned s r ∉ w.log := by
  intro hr
  rcases h.spawned s r hr with hf | hs
  · simp [hc] at hf
  · exact h.not_starting (by simp [hc]) rfl s hs

theorem reader_unique (h : Bridged w) {u v : Nat} (hu : (w.tasks u).isReader)
    (hv : (w.tasks v).isReader) : u = v := by
  obtain ⟨s, hs⟩ := h.reader u hu
  obtain ⟨s', hs'⟩ := h.reader v hv
  exact (h.spawnedOnce s u s' v hs hs').2

theorem reader_move (h : Bridged w) {sh : Shared} {task : Task} {es : List Event}
    (htask : task.isReader = false) {u : Nat}
    (hu : (((w.setShared sh).move t task es).tasks u).isReader) : ∃ s, .spawned s u ∈ w.log := by
  by_cases hut : u = t
  · simp [hut, htask] at hu
  · exact h.reader u (by simpa [move_tasks_of_ne hut] using hu)

theorem recheck_move (h : Bridged w) {sh : Shared} {task : Task} {es : List Event}
    (htask : task ≠ .linking .recheck) {u : Nat}
    (hu : ((w.setShared sh).move t task es).tasks u = .linking .recheck) :
    w.shared.cell = .full := by
  by_cases hut : u = t
  · simp only [hut, move_tasks_self] at hu
    exact absurd hu htask
  · exact h.recheck u (by simpa [move_tasks_of_ne hut] using hu)

theorem failed_of_unspawned (h : Bridged w) (hf : w.shared.finished = true)
    (unspawned : ∀ s r, .spawned s r ∉ w.log) : ∃ u, .spawnFailed u ∈ w.log := by
  rcases h.finished hf with hu | ⟨⟨s, r, hr⟩, -⟩
  · exact hu
  · exact absurd hr (unspawned s r)

theorem build (h : Bridged w) (hc : w.shared.cell = .empty) :
    Bridged ((w.setShared { w.shared with cell := .building }).move t (.linking .start) []) := by
  have none : ∀ u s, s.starting → w.tasks u ≠ .linking s :=
    fun u s hs => h.not_starting (by simp [hc]) hs u
  have unspawned := h.unspawned_of_empty hc
  refine ⟨?_, fun u v s s' hs hs' hu hv => ?_, fun u hu => ?_, fun u r hr => ?_, fun hs => ?_,
    fun s r hr => ?_, fun s r s' r' hr => ?_, fun u hu => ?_, fun hf => ?_⟩
  · simp only [move_shared, setShared_shared, true_iff]
    exact ⟨t, .start, rfl, by simp⟩
  · by_cases hut : u = t <;> by_cases hvt : v = t <;> simp_all [move_tasks]
  · have := h.recheck_move (by simp) hu
    simp [hc] at this
  · have := h.linked u r (by simpa using hr)
    simp [hc] at this
  · rcases hs with hs | ⟨u, hu | hu⟩
    · simp at hs
    all_goals
      by_cases hut : u = t
      · simp_all
      · rw [move_tasks_of_ne hut] at hu
        exact absurd hu (none u _ rfl)
  · exact absurd (by simpa using hr) (unspawned s r)
  · exact absurd (by simpa using hr) (unspawned s r)
  · simpa using h.reader_move rfl hu
  · exact .inl (by simpa using h.failed_of_unspawned hf unspawned)

theorem start (h : Bridged w) (ht : w.tasks t = .linking .start) :
    Bridged ((w.setShared { w.shared with started := true,
                                           writers := w.shared.writers ++ [t] }).move t
      (.linking .spawn) [.begun t]) := by
  have hc := h.building_of ht rfl
  have unspawned := h.unspawned ht (.inl rfl)
  refine ⟨?_, fun u v s s' hs hs' hu hv => ?_, fun u hu => ?_, fun u r hr => ?_, fun _ => rfl,
    fun s r hr => ?_, fun s r s' r' hr => ?_, fun u hu => ?_, fun hf => ?_⟩
  · simp only [move_shared, setShared_shared, hc, true_iff]
    exact ⟨t, .spawn, rfl, by simp⟩
  · have sole : ∀ x s, s.starting → (if x = t then Task.linking .spawn else w.tasks x) =
        .linking s → x = t := fun x s hs hx => by
      by_cases hxt : x = t
      · exact hxt
      · rw [if_neg hxt] at hx
        exact h.starter x t s .start hs rfl hx ht
    exact (sole u s hs hu).trans (sole v s' hs' hv).symm
  · simpa [hc] using h.recheck_move (by simp) hu
  · simpa [hc] using h.linked u r (by simpa using hr)
  · exact absurd (by simpa using hr) (unspawned s r)
  · exact absurd (by simpa using hr) (unspawned s r)
  · simpa using h.reader_move rfl hu
  · obtain ⟨u, hu⟩ := h.failed_of_unspawned hf unspawned
    exact .inl ⟨u, by simp [hu]⟩

theorem spawn (h : Bridged w) (ht : w.tasks t = .linking .spawn) {r : Nat}
    (hr : w.tasks r = .idle) :
    Bridged ((w.move r (.looping .upgrade) []).move t (.linking .store) [.spawned t r]) := by
  have hc := h.building_of ht rfl
  have unspawned := h.unspawned ht (.inr rfl)
  have hrt : r ≠ t := by
    rintro rfl
    simp [ht] at hr
  -- the tasks after the spawn: `t` stores the bridge, `r` reads, every other thread as before
  have tasks : ∀ u, ((w.move r (.looping .upgrade) []).move t (.linking .store)
      [.spawned t r]).tasks u = if u = t then .linking .store else
        if u = r then .looping .upgrade else w.tasks u := fun u => rfl
  refine ⟨?_, fun u v s s' hs hs' hu hv => ?_, fun u hu => ?_, fun u r' hr' => ?_, fun _ => ?_,
    fun s r' hr' => ?_, fun s r' s' r'' hr' hr'' => ?_, fun u hu => ?_, fun hf => ?_⟩
  · simp only [move_shared, hc, true_iff]
    exact ⟨t, .store, rfl, by simp⟩
  · have sole : ∀ x s, s.starting → (if x = t then Task.linking .store else
        if x = r then .looping .upgrade else w.tasks x) = .linking s → x = t := fun x s hs hx => by
      by_cases hxt : x = t
      · exact hxt
      · by_cases hxr : x = r
        · simp [hxr, hrt] at hx
        · rw [if_neg hxt, if_neg hxr] at hx
          exact h.starter x t s .spawn hs rfl hx ht
    rw [tasks] at hu hv
    exact (sole u s hs hu).trans (sole v s' hs' hv).symm
  · rw [tasks] at hu
    by_cases hut : u = t
    · simp [hut] at hu
    · by_cases hur : u = r
      · simp [hur, hrt] at hu
      · simpa [hc] using h.recheck u (by simpa [hut, hur] using hu)
  · simp only [move_log, List.append_nil, List.mem_append, List.mem_singleton, reduceCtorEq,
      or_false] at hr'
    simpa [hc] using h.linked u r' hr'
  · exact h.started (.inr ⟨t, .inl ht⟩)
  · simp only [move_log, List.append_nil, List.mem_append, List.mem_singleton,
      Event.spawned.injEq] at hr'
    rcases hr' with hr' | ⟨rfl, rfl⟩
    · exact absurd hr' (unspawned s r')
    · exact .inr (by simp)
  · simp only [move_log, List.append_nil, List.mem_append, List.mem_singleton,
      Event.spawned.injEq] at hr' hr''
    rcases hr' with hr' | ⟨rfl, rfl⟩
    · exact absurd hr' (unspawned s r')
    rcases hr'' with hr'' | ⟨rfl, rfl⟩
    · exact absurd hr'' (unspawned s' r'')
    exact ⟨rfl, rfl⟩
  · rw [tasks] at hu
    by_cases hut : u = t
    · simp [hut, Task.isReader] at hu
    · by_cases hur : u = r
      · exact ⟨t, by simp [hur]⟩
      · obtain ⟨s, hs⟩ := h.reader u (by simpa [hut, hur] using hu)
        exact ⟨s, by simp [hs]⟩
  · obtain ⟨u, hu⟩ := h.failed_of_unspawned hf unspawned
    exact .inl ⟨u, by simp [hu]⟩

theorem store (h : Bridged w) (ht : w.tasks t = .linking .store) :
    Bridged ((w.setShared { w.shared with cell := .full, bridge := some t }).move t
      (.linking .recheck) [.obtained t t]) := by
  -- after the store no call is starting the bridge: `t` was the only one
  have none : ∀ u s, s.starting → (if u = t then Task.linking .recheck else w.tasks u) ≠
      .linking s := fun u s hs hu => by
    by_cases hut : u = t
    · subst hut
      simp only [if_true, Task.linking.injEq] at hu
      subst hu
      simp [LinkStage.starting] at hs
    · rw [if_neg hut] at hu
      exact hut (h.starter u t s .store hs rfl hu ht)
  have hstarted := h.started (.inr ⟨t, .inr ht⟩)
  refine ⟨?_, fun u v s s' hs hs' hu hv => ?_, fun _ _ => rfl, fun _ _ _ => rfl, fun _ => hstarted,
    fun _ _ _ => .inl rfl, fun s r s' r' hr hr' => ?_, fun u hu => ?_, fun hf => ?_⟩
  · simp only [move_shared, setShared_shared, reduceCtorEq, false_iff, not_exists, not_and]
    exact fun u s hs => none u s hs
  · exact absurd hu (none u s hs)
  · exact h.spawnedOnce s r s' r' (by simpa using hr) (by simpa using hr')
  · simpa using h.reader_move rfl hu
  · rcases h.finished hf with ⟨u, hu⟩ | ⟨spawned, all⟩
    · exact .inl ⟨u, by simpa using hu⟩
    · refine .inr ⟨by simpa using spawned, fun s r hr => ?_⟩
      have stopped := all s r (by simpa using hr)
      have hrt : r ≠ t := by
        rintro rfl
        simp [ht] at stopped
      simpa [move_tasks_of_ne hrt] using stopped

theorem abandon (h : Bridged w) {s : LinkStage} (ht : w.tasks t = .linking s)
    (hs : s = .start ∨ s = .spawn) {sh : Shared} {r : Reply} {es : List Event}
    (hcell : sh.cell = .empty)
    (hfinished : sh.finished = true → w.shared.finished = true ∨ .spawnFailed t ∈ es)
    (unspawned' : ∀ s r, .spawned s r ∉ es)
    (unlinked : ∀ u r, .returned u (.linked (.ok r)) ∉ es) :
    Bridged ((w.setShared sh).move t (.done r) es) := by
  have hstart : s.starting := by rcases hs with rfl | rfl <;> rfl
  have hc := h.building_of ht hstart
  have unspawned := h.unspawned ht hs
  -- no call is starting the bridge any more: `t` was the only one
  have none : ∀ u s', s'.starting → (if u = t then Task.done r else w.tasks u) ≠
      .linking s' := fun u s' hs' hu => by
    by_cases hut : u = t
    · simp [hut] at hu
    · rw [if_neg hut] at hu
      exact hut (h.starter u t s' s hs' hstart hu ht)
  refine ⟨?_, fun u v s s' hs hs' hu hv => ?_, fun u hu => ?_, fun u r' hr' => ?_, fun hst => ?_,
    fun s r' hr' => ?_, fun s r' s' r'' hr' => ?_, fun u hu => ?_, fun hf => ?_⟩
  · simp only [move_shared, setShared_shared, hcell, reduceCtorEq, false_iff, not_exists,
      not_and]
    exact fun u s hs => none u s hs
  · exact absurd hu (none u s hs)
  · have := h.recheck_move (by simp) hu
    simp [hc] at this
  · simp only [move_log, setShared_log, List.mem_append] at hr'
    rcases hr' with hr' | hr'
    · have := h.linked u r' hr'
      simp [hc] at this
    · exact absurd hr' (unlinked u r')
  · rcases hst with hst | ⟨u, hu | hu⟩
    · simp [hcell] at hst
    · exact absurd hu (none u .spawn rfl)
    · exact absurd hu (none u .store rfl)
  · simp only [move_log, setShared_log, List.mem_append] at hr'
    exact absurd hr' (by simp [unspawned s r', unspawned' s r'])
  · simp only [move_log, setShared_log, List.mem_append] at hr'
    exact absurd hr' (by simp [unspawned s r', unspawned' s r'])
  · obtain ⟨s, hs⟩ := h.reader_move rfl hu
    exact absurd hs (unspawned s u)
  · rcases hfinished hf with hf | hf
    · obtain ⟨u, hu⟩ := h.failed_of_unspawned hf unspawned
      exact .inl ⟨u, by simp [hu]⟩
    · exact .inl ⟨t, by simp [hf]⟩

theorem setFinished (h : Bridged w) (hall : (∃ s r, .spawned s r ∈ w.log) ∧
    ∀ s r, .spawned s r ∈ w.log → w.tasks r = .looping .stopped) :
    Bridged (w.setShared { w.shared with finished := true }) :=
  { h with finished := fun _ => .inr hall }

theorem finish (h : Bridged w) (ht : w.tasks t = .looping .finish) :
    Bridged ((w.setShared { w.shared with finished := true }).move t (.looping .stopped)
      [.finished t]) := by
  have moved : Bridged (w.move t (.looping .stopped) [.finished t]) :=
    h.of_aside (Aside.move (s := w.shared) (by simp [ht, Task.isReader]) (by simp [ht])
      (by simp) (by simp [ht]) (by simp) (by simp) rfl rfl rfl)
  obtain ⟨s, hs⟩ := h.reader t (by simp [ht, Task.isReader])
  refine moved.setFinished ⟨⟨s, t, by simp [hs]⟩, fun s' r hr => ?_⟩
  -- the only spawned thread is `t` itself
  obtain ⟨-, rfl⟩ := h.spawnedOnce s t s' r hs (by simpa using hr)
  simp

theorem link_step (h : Bridged w) (hs : LinkStep t w w') : Bridged w' := by
  cases hs
  case build hc => exact h.build hc
  case startFailed e ht =>
    exact h.abandon ht (.inl rfl) rfl (fun hf => .inl hf) (by simp) (by simp)
  case start ht => exact h.start ht
  case spawn r ht hr => exact h.spawn ht hr
  case spawnFailed e ht =>
    exact h.abandon ht (.inr rfl) rfl (fun _ => .inr (by simp)) (by simp) (by simp)
  case store ht => exact h.store ht
  case recheckOpen ht _ =>
    exact h.of_aside (Aside.move (by simp [ht, Task.isReader])
      (fun s' hs' => by cases s' <;> simp_all [LinkStage.starting])
      (by simp) (by simp [ht]) (by simp) (fun _ _ _ => h.recheck t ht) rfl rfl rfl)
  all_goals
    refine h.of_aside (Aside.move (by simp_all [Task.isReader]) (fun s' hs' => ?_) (by simp_all)
      (by simp_all) (by simp) (by simp) rfl rfl rfl)
    cases s' <;> simp_all [LinkStage.starting]

theorem loop_step (h : Bridged w) (hs : LoopStep t w w') : Bridged w' := by
  cases hs
  case finish ht => exact h.finish ht
  case decide o attached ht =>
    exact h.of_aside (Aside.move
      (by cases o.react attached w.shared.closed <;> simp [loopNext, Task.isReader, ht])
      (fun s' _ => by cases o.react attached w.shared.closed <;> simp [loopNext, ht])
      (by cases o.react attached w.shared.closed <;> simp [loopNext])
      (by simp [ht])
      (by cases o.react attached w.shared.closed <;> simp [loopNext])
      (by cases o.react attached w.shared.closed <;> simp [loopNext]) rfl rfl rfl)
  all_goals
    exact h.of_aside (Aside.move (by simp_all [Task.isReader]) (fun s' _ => by simp_all)
      (by simp) (by simp_all) (by simp) (by simp) rfl rfl rfl)

theorem step (h : Bridged w) (hs : Step t w w') : Bridged w' := by
  cases hs with
  | call c ht =>
    exact h.of_aside (Aside.move (by cases c <;> simp [ht, Call.task, Task.isReader])
      (fun s' hs' => by cases c <;> cases s' <;> simp_all [Call.task, LinkStage.starting])
      (by cases c <;> simp [Call.task])
      (by simp [ht]) (by simp) (by simp) rfl rfl rfl)
  | close hs => exact h.of_aside hs.aside
  | access hs => exact h.of_aside hs.aside
  | link hs => exact h.link_step hs
  | wait ht _ =>
    exact h.of_aside (Aside.move (by simp [ht, Task.isReader]) (fun s' _ => by simp [ht])
      (by simp) (by simp [ht]) (by simp) (by simp) rfl rfl rfl)
  | loop hs => exact h.loop_step hs

theorem reach {fd : Nat} (hw : Reach fd w) : Bridged w :=
  Reach.invariant (init fd) (fun _ h hs => h.step hs) hw

end Bridged

theorem ReadOutcome.eq_frame_of_react {o : ReadOutcome} {attached closed : Bool} {d : Delivery}
    (h : o.react attached closed = .deliver d) : o = .frame d.bytes := by
  cases o with
  | frame bytes =>
    cases bytes with
    | nil => simp [ReadOutcome.react] at h
    | cons b bs =>
      cases attached <;> simp [ReadOutcome.react] at h
      rw [← h]
  | idle => simp [ReadOutcome.react] at h
  | failed e => simp [ReadOutcome.react] at h

section Shows

variable {w w' : World} {t : Nat} {es : List Event}

theorem Step.not_stopped (h : Step t w w') : w.tasks t ≠ .looping .stopped := by
  intro ht
  rcases h with _ | h | h | h | _ | h
  all_goals try cases h
  all_goals simp_all

theorem Step.nothing_after {a b : Event} (h : Step t w w') (hlog : w'.log = w.log ++ es)
    (hb : Before es a b) : (∀ u r, a ≠ .returned u r) ∧ ∀ u d, a ≠ .injected u d := by
  refine ⟨fun u r ha => ?_, fun u d ha => ?_⟩ <;> subst ha <;>
    rcases h with _ | h | h | h | _ | h
  all_goals try cases h
  all_goals simp only [move_log, setShared_log, reply_eq, List.append_nil,
    List.append_cancel_left_eq, List.self_eq_append_right] at hlog
  all_goals subst hlog
  case loop.decide o attached _ | loop.decide o attached _ =>
    cases hr : o.react attached w.shared.closed <;>
      simp [Before, loopNext, hr, List.sublist_cons_iff] at hb
  all_goals simp [Before, List.sublist_cons_iff] at hb

/-- Only the wait step shows a `wait` returning, and it returns only when the read task was
never started or has finished. -/
theorem Step.waited_of_append {u : Nat} (h : Step t w w') (hlog : w'.log = w.log ++ es)
    (hu : .returned u .waited ∈ es) : w.tasks t = .waiting ∧
      (w.shared.started && !w.shared.finished) = false ∧ w'.shared = w.shared := by
  rcases h with _ | h | h | h | ⟨ht, hw⟩ | h
  all_goals try cases h
  all_goals simp only [move_log, setShared_log, reply_eq, List.append_nil,
    List.append_cancel_left_eq, List.self_eq_append_right] at hlog
  all_goals subst hlog
  case wait => exact ⟨ht, hw, rfl⟩
  case loop.decide o attached _ =>
    cases hr : o.react attached w.shared.closed <;> simp [loopNext, hr] at hu
  all_goals simp at hu

theorem Step.spawned_of_append {s r : Nat} (h : Step t w w') (hlog : w'.log = w.log ++ es)
    (hs : .spawned s r ∈ es) : w.tasks t = .linking .spawn ∧ w.tasks r = .idle := by
  rcases h with _ | h | h | h | _ | h
  all_goals try cases h
  all_goals simp only [move_log, setShared_log, reply_eq, List.append_nil,
    List.append_cancel_left_eq, List.self_eq_append_right] at hlog
  all_goals subst hlog
  case link.spawn r' ht hr =>
    obtain ⟨-, rfl⟩ : s = t ∧ r = r' := by simpa using hs
    exact ⟨ht, hr⟩
  case loop.decide o attached _ =>
    cases hr : o.react attached w.shared.closed <;> simp [loopNext, hr] at hs
  all_goals simp at hs

theorem Step.decide_frame {bs : List UInt8} (h : Step t w w')
    (ht : w'.tasks t = .looping (.decide (.frame bs))) :
    ∃ d, w.tasks t = .holding d .loop ∧
      w'.log = w.log ++ [.touched t d, .received t (.frame bs)] := by
  rcases h with ⟨c⟩ | h | h | h | _ | h
  · cases c <;> simp [Call.task] at ht
  all_goals try cases h
  case access.receiveLoop d o hd =>
    obtain rfl : o = .frame bs := by simpa using ht
    exact ⟨d, hd, rfl⟩
  case close.pass l _ _ => cases l <;> simp [afterClose] at ht
  case close.complete l _ => cases l <;> simp [afterClose] at ht
  case loop.decide o attached _ =>
    cases hr : o.react attached w.shared.closed <;> simp [loopNext, hr] at ht
  all_goals simp at ht

theorem Step.acting_on_frame {v : Nat} {bs : List UInt8} (h : Step t w w')
    (hv : w'.tasks v = .looping (.decide (.frame bs))) :
    w.tasks v = .looping (.decide (.frame bs)) ∨ v = t ∧ ∃ d, w.tasks t = .holding d .loop ∧
      w'.log = w.log ++ [.touched t d, .received t (.frame bs)] := by
  by_cases hvt : v = t
  · subst hvt
    exact .inr ⟨rfl, h.decide_frame hv⟩
  · obtain ⟨-, -, -, frame⟩ := h.frame
    rcases frame v hvt with same | ⟨-, loop⟩
    · exact .inl (same ▸ hv)
    · simp [loop] at hv

theorem Step.before_began {a : Event} {u : Nat} {c : Call} (h : Step t w w')
    (hu : w.tasks u ≠ .idle) (hb : Before w'.log a (.began u c)) : Before w.log a (.began u c) := by
  obtain ⟨es, hlog, own, -⟩ := h.frame
  refine (hlog ▸ hb).of_append fun hin => hu ?_
  obtain rfl : u = t := own _ hin
  exact h.began_of_append hlog hin

theorem Step.injected_of_append {u : Nat} {d : Delivery} (h : Step t w w')
    (hlog : w'.log = w.log ++ es) (hi : .injected u d ∈ es) :
    w.tasks t = .looping (.decide (.frame d.bytes)) ∧ w'.tasks t = .looping .upgrade := by
  rcases h with _ | h | h | h | _ | h
  all_goals try cases h
  all_goals simp only [move_log, setShared_log, reply_eq, List.append_nil,
    List.append_cancel_left_eq, List.self_eq_append_right] at hlog
  all_goals subst hlog
  case loop.decide o attached ht =>
    cases hr : o.react attached w.shared.closed <;> simp [loopNext, hr] at hi
    obtain ⟨-, rfl⟩ := hi
    rw [ReadOutcome.eq_frame_of_react hr] at ht
    exact ⟨ht, by simp [loopNext]⟩
  all_goals simp at hi

end Shows

theorem Closing.released_of_return {fd : Nat} {w : World} {u : Nat} (h : Closing fd w)
    (hr : .returned u .closed ∈ w.log) : ∃ v, .released v (some fd) ∈ w.log := by
  obtain ⟨v, hv⟩ := h.ordered.closeReturn u hr
  exact ⟨v, (h.ordered.teardown v hv.mem_left).mem_left⟩

theorem Closing.unlocked {fd : Nat} {w : World} {u : Nat} (h : Closing fd w)
    (hr : .returned u .closed ∈ w.log) (v d : Nat) (a : Access) : w.tasks v ≠ .holding d a := by
  intro hv
  have := h.lock v d a hv
  simp [(h.closed_down hr).2.1] at this

/-- What a `wait` begun after a `link_endpoint` call returned the endpoint sees: once it
returned, the read task is marked finished; and unless a spawn failed, no spawned read thread
does anything after the return. -/
structure Quiet (w : World) : Prop where
  waited : ∀ l t, Before w.log (.returned l (.linked (.ok ()))) (.began t .wait) →
    .returned t .waited ∈ w.log → w.shared.finished = true
  silent : (∀ u, .spawnFailed u ∉ w.log) → ∀ l t s r e,
    Before w.log (.returned l (.linked (.ok ()))) (.began t .wait) → .spawned s r ∈ w.log →
    Before w.log (.returned t .waited) e → e.thread ≠ r

namespace Quiet

variable {fd : Nat} {w w' : World} {t : Nat}

theorem init (fd : Nat) : Quiet (World.init fd) where
  waited := by simp [Before]
  silent := by simp [Before]

theorem step (q : Quiet w) (hc : Closing fd w) (hb : Bridged w) (hs : Step t w w') :
    Quiet w' := by
  obtain ⟨es, hlog, own, -⟩ := hs.frame
  have grow : ∀ e ∈ w.log, e ∈ w'.log := fun e he => hlog ▸ List.mem_append_left es he
  -- a `wait` that already returned was under way before this step
  have busy : ∀ u, .returned u .waited ∈ w.log → w.tasks u ≠ .idle :=
    fun u hu hidle => hc.fresh u hidle _ hu rfl
  refine ⟨fun l u hlb hu => ?_, fun hnf l u s r e hlb hsp he => ?_⟩
  · rw [hlog] at hu
    rcases List.mem_append.mp hu with hu | hu
    · exact hs.finished_mono (q.waited l u (hs.before_began (busy u hu) hlb) hu)
    · -- the wait returns now: the read task was started, so it has finished
      obtain ⟨hwait, hw, hshared⟩ := hs.waited_of_append hlog hu
      obtain rfl : u = t := own _ hu
      have hlb' := hs.before_began (by simp [hwait]) hlb
      have hstarted := hb.started (.inl (hb.linked l () hlb'.mem_left))
      rw [hshared]
      simpa [hstarted] using hw
  · have hnf' : ∀ u, .spawnFailed u ∉ w.log := fun u hu => hnf u (grow _ hu)
    rcases (hlog ▸ he).append_cases with he | ⟨hu, he⟩ | he
    · -- the order was already there
      have hlb' := hs.before_began (busy u he.mem_left) hlb
      rw [hlog] at hsp
      rcases List.mem_append.mp hsp with hsp | hsp
      · exact q.silent hnf' l u s r e hlb' hsp he
      · -- `r` is spawned now: it was unused, so nothing in the old log is its
        exact hc.fresh r (hs.spawned_of_append hlog hsp).2 e he.mem_right
    · -- the wait returned earlier, and `e` is of this step
      have hf := q.waited l u (hs.before_began (busy u hu) hlb) hu
      rw [own e he]
      rcases hb.finished hf with ⟨v, hv⟩ | ⟨⟨s₀, r₀, h₀⟩, stopped⟩
      · exact absurd hv (hnf' v)
      · rw [hlog] at hsp
        rcases List.mem_append.mp hsp with hsp | hsp
        · rintro rfl
          exact hs.not_stopped (stopped s t hsp)
        · -- no second spawn once a read thread was spawned
          exact absurd h₀ (hb.unspawned (hs.spawned_of_append hlog hsp).1 (.inr rfl) s₀ r₀)
    · exact absurd rfl ((hs.nothing_after hlog he).1 u .waited)

theorem reach (hw : Reach fd w) : Quiet w :=
  Reach.invariant (init fd) (fun hw q hs => q.step (Closing.reach hw) (Bridged.reach hw) hs) hw

end Quiet

/-- The frames the read thread injects around a close: a frame it is about to act on was
received, and before the release of the descriptor if that happened; once a close returned, a
frame injected was received before the release, and the read thread holds no frame after that
injection; so no two frames are injected after a close returned. -/
structure Injections (w : World) : Prop where
  received : ∀ v bs, w.tasks v = .looping (.decide (.frame bs)) →
    .received v (.frame bs) ∈ w.log
  inHand : ∀ v bs u o, .released u o ∈ w.log → w.tasks v = .looping (.decide (.frame bs)) →
    Before w.log (.received v (.frame bs)) (.released u o)
  source : ∀ u r d, Before w.log (.returned u .closed) (.injected r d) →
    ∃ v o, Before w.log (.received r (.frame d.bytes)) (.released v o)
  spent : ∀ u r d, Before w.log (.returned u .closed) (.injected r d) →
    ∀ v bs, w.tasks v ≠ .looping (.decide (.frame bs))
  once : ∀ u r d r' d', ¬ [.returned u .closed, .injected r d, .injected r' d'].Sublist w.log

namespace Injections

variable {fd : Nat} {w w' : World} {t : Nat}

theorem init (fd : Nat) : Injections (World.init fd) where
  received := by simp
  inHand := by simp
  source := by simp [Before]
  spent := by simp [Before]
  once := by simp

theorem step (q : Injections w) (hc : Closing fd w) (hb : Bridged w) (hs : Step t w w') :
    Injections w' := by
  obtain ⟨es, hlog, own, -⟩ := hs.frame
  refine ⟨fun v bs hv => ?_, fun v bs u o hu hv => ?_, fun u r d hi => ?_,
    fun u r d hi v bs hv => ?_, fun u r d r' d' hsub => ?_⟩
  · rcases hs.acting_on_frame hv with hv | ⟨hvt, d, -, hlog'⟩
    · exact hlog ▸ List.mem_append_left es (q.received v bs hv)
    · subst hvt
      simp [hlog']
  · rcases hs.acting_on_frame hv with hv | ⟨rfl, d, hd, hlog'⟩
    · rw [hlog] at hu ⊢
      rcases List.mem_append.mp hu with hu | hu
      · exact (q.inHand v bs u o hu hv).append es
      · exact .of_mem_append (q.received v bs hv) hu
    · -- a read after the release is impossible: the lock holds no descriptor
      rw [hlog'] at hu
      rcases List.mem_append.mp hu with hu | hu
      · have := hc.lock v d .loop hd
        simp [hc.gated.fd_of_release hu] at this
      · simp at hu
  · rcases (hlog ▸ hi).append_cases with hi | ⟨hu, hi⟩ | hi
    · obtain ⟨v, o, hv⟩ := q.source u r d hi
      exact ⟨v, o, hlog ▸ hv.append es⟩
    · -- the injection is of this step: the frame in hand was received before the release
      obtain ⟨hframe, -⟩ := hs.injected_of_append hlog hi
      obtain rfl : r = t := own _ hi
      obtain ⟨v, hv⟩ := hc.released_of_return hu
      exact ⟨v, some fd, hlog ▸ (q.inHand r d.bytes v (some fd) hv hframe).append es⟩
    · exact absurd rfl ((hs.nothing_after hlog hi).1 u .closed)
  · have hu : .returned u .closed ∈ w'.log := hi.mem_left
    rcases hs.acting_on_frame hv with hv' | ⟨rfl, d', hd, hlog'⟩
    · rcases (hlog ▸ hi).append_cases with hi | ⟨-, hi⟩ | hi
      · exact q.spent u r d hi v bs hv'
      · -- the read thread injected in this step and went back to its loop
        obtain ⟨hframe, hnext⟩ := hs.injected_of_append hlog hi
        obtain rfl : v = t := hb.reader_unique (by simp [hv', Task.isReader])
          (by simp [hframe, Task.isReader])
        simp [hnext] at hv
      · exact absurd rfl ((hs.nothing_after hlog hi).1 u .closed)
    · -- a read after a close returned is impossible: the lock holds no descriptor
      rw [hlog'] at hu
      rcases List.mem_append.mp hu with hu | hu
      · exact hc.unlocked hu v d' .loop hd
      · simp at hu
  · rcases Before.triple_cases (hlog ▸ hsub) with hsub | ⟨hab, hc'⟩ | hbc
    · exact q.once u r d r' d' hsub
    · -- the second injection is of this step, but nothing was in hand after the first
      exact q.spent u r d hab t _ (hs.injected_of_append hlog hc').1
    · exact (hs.nothing_after hlog hbc).2 r d rfl

theorem reach (hw : Reach fd w) : Injections w :=
  Reach.invariant (init fd) (fun hw q hs => q.step (Closing.reach hw) (Bridged.reach hw) hs) hw

end Injections

/-- Along every run of a device opened on descriptor `fd`, whatever its threads call and
however their steps interleave: unless a spawn of the read thread failed, a `wait` begun after a
`link_endpoint` call returned the endpoint returns only after every spawned read thread did its
last step, so none of them reads the device or injects a frame after the return; and after a
close returned, the read thread injects at most one more frame, one it received before the
descriptor `fd` was released. -/
theorem read_thread_quiet (fd : Nat) :
    (∀ w, Reach fd w → (∀ u, .spawnFailed u ∉ w.log) → ∀ l t s r e,
      Before w.log (.returned l (.linked (.ok ()))) (.began t .wait) → .spawned s r ∈ w.log →
      Before w.log (.returned t .waited) e → e.thread ≠ r) ∧
    (∀ w, Reach fd w → ∀ u r d r' d',
      ¬ [.returned u .closed, .injected r d, .injected r' d'].Sublist w.log) ∧
    ∀ w, Reach fd w → ∀ u r d, Before w.log (.returned u .closed) (.injected r d) →
      ∃ v, Before w.log (.received r (.frame d.bytes)) (.released v (some fd)) := by
  refine ⟨fun w hw => (Quiet.reach hw).silent, fun w hw => (Injections.reach hw).once,
    fun w hw u r d hi => ?_⟩
  obtain ⟨v, o, hv⟩ := (Injections.reach hw).source u r d hi
  -- the descriptor released is the device's own
  obtain ⟨rfl, -⟩ := (Closing.reach hw).ordered.release v o hv.mem_right
  exact ⟨v, hv⟩

/-- A failed spawn marks the read task finished for good, so a later `wait` does not wait for
the read thread a retried `link_endpoint` starts: thread 0's spawn fails; thread 1 starts the
bridge with read thread 2 and returns the endpoint; thread 3's `wait` begins after that and
returns at once; then the read thread reads the descriptor. -/

theorem wait_returns_while_reader_runs : ∃ w, Reach 7 w ∧ .spawnFailed 0 ∈ w.log ∧
    Before w.log (.returned 1 (.linked (.ok ()))) (.began 3 .wait) ∧ .spawned 1 2 ∈ w.log ∧
    Before w.log (.returned 3 .waited) (.touched 2 7) := by
  have run := Reach.init 7
    |>.step 0 (.call .link rfl) |>.step 0 (.link (.checkOpen rfl rfl))
    |>.step 0 (.link (.build rfl rfl)) |>.step 0 (.link (.start rfl))
    |>.step 0 (.link (.spawnFailed (.os .io) rfl))
    |>.step 1 (.call .link rfl) |>.step 1 (.link (.checkOpen rfl rfl))
    |>.step 1 (.link (.build rfl rfl)) |>.step 1 (.link (.start rfl))
    |>.step 1 (.link (.spawn 2 rfl rfl)) |>.step 1 (.link (.store rfl))
    |>.step 1 (.link (.recheckOpen rfl rfl))
    |>.step 3 (.call .wait rfl) |>.step 3 (.wait rfl rfl)
    |>.step 2 (.loop (.upgrade rfl)) |>.step 2 (.access (.acquire rfl rfl))
    |>.step 2 (.access (.receiveLoop .idle rfl))
  refine ⟨_, run, by simp, ?_, by simp, Before.of_mem_append (by simp) (by simp)⟩
  -- the endpoint returned before the wait began, and four steps follow the wait's start
  exact ((((Before.of_mem_append (by simp) (List.mem_singleton_self _)).append _).append _).append
    _).append _

end Threads

end TunBridge
