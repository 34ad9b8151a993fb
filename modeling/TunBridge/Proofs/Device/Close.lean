import TunBridge.Proofs.Device.Run
/-!
Closing a device shared by threads: the once lets exactly one close call run the body, and a
call begun after some close returned touches no descriptor. The invariant `Closing` gathers the
body's progress (`Gated`), the order of its events (`Ordered`) and the calls begun late. Main
statement: `close_once`.
-/
namespace TunBridge

namespace Threads

namespace Event

def isEntry : Event → Bool
  | .entered _ => true
  | _ => false

def isRelease : Event → Bool
  | .released .. => true
  | _ => false

def isTeardown : Event → Bool
  | .tornDown _ => true
  | _ => false

/-- The events only a close call makes: the three marks of the body and a close returning. -/
def ofClose : Event → Bool
  | .entered _ | .released .. | .tornDown _ | .returned _ .closed => true
  | _ => false

end Event

def Counts (log : List Event) (entries releases teardowns : Nat) : Prop :=
  log.countP Event.isEntry = entries ∧ log.countP Event.isRelease = releases ∧
    log.countP Event.isTeardown = teardowns

theorem Counts.append {log es : List Event} {a b c : Nat} (h : Counts log a b c)
    (quiet : ∀ e ∈ es, e.ofClose = false) : Counts (log ++ es) a b c := by
  obtain ⟨ha, hb, hc⟩ := h
  have entry : es.countP Event.isEntry = 0 := List.countP_eq_zero.mpr fun e he => by
    have := quiet e he
    cases e <;> simp_all [Event.ofClose, Event.isEntry]
  have release : es.countP Event.isRelease = 0 := List.countP_eq_zero.mpr fun e he => by
    have := quiet e he
    cases e <;> simp_all [Event.ofClose, Event.isRelease]
  have teardown : es.countP Event.isTeardown = 0 := List.countP_eq_zero.mpr fun e he => by
    have := quiet e he
    cases e <;> simp_all [Event.ofClose, Event.isTeardown]
  exact ⟨by rw [List.countP_append, entry, Nat.add_zero, ha],
    by rw [List.countP_append, release, Nat.add_zero, hb],
    by rw [List.countP_append, teardown, Nat.add_zero, hc]⟩

theorem Counts.entered {log : List Event} {a b c : Nat} (h : Counts log a b c) (t : Nat) :
    Counts (log ++ [.entered t]) (a + 1) b c := by
  obtain ⟨ha, hb, hc⟩ := h
  simp [Counts, List.countP_cons, Event.isEntry, Event.isRelease, Event.isTeardown, ha, hb, hc]

theorem Counts.released {log : List Event} {a b c : Nat} (h : Counts log a b c) (t : Nat)
    (o : Option Nat) : Counts (log ++ [.released t o]) a (b + 1) c := by
  obtain ⟨ha, hb, hc⟩ := h
  simp [Counts, Event.isEntry, Event.isRelease, Event.isTeardown, ha, hb, hc]

theorem Counts.returned {log : List Event} {a b c : Nat} (h : Counts log a b c) (t : Nat)
    (r : Reply) : Counts (log ++ [.returned t r]) a b c := by
  obtain ⟨ha, hb, hc⟩ := h
  simp [Counts, Event.isEntry, Event.isRelease, Event.isTeardown, ha, hb, hc]

theorem Counts.tornDown {log : List Event} {a b c : Nat} (h : Counts log a b c) (t : Nat)
    (r : Reply) : Counts (log ++ [.tornDown t, .returned t r]) a b (c + 1) := by
  obtain ⟨ha, hb, hc⟩ := h
  simp [Counts, List.countP_cons, Event.isEntry, Event.isRelease, Event.isTeardown, ha, hb, hc]

def CloseStage.inBody : CloseStage → Bool
  | .enter => false
  | _ => true

/-- What holds while the close body's thread `t` is at stage `c`: the marks so far, the
descriptor, the closed flag, and what `t` did. -/
def BodyAt (fd : Nat) (w : World) (t : Nat) : CloseStage → Prop
  | .enter => True
  | .flag => Counts w.log 1 0 0 ∧ w.shared.fd = some fd
  | .look => Counts w.log 1 0 0 ∧ w.shared.fd = some fd ∧ w.shared.closed = true ∧
      .flagged t ∈ w.log
  | .detach => Counts w.log 1 0 0 ∧ w.shared.fd = some fd ∧ w.shared.closed = true ∧
      .flagged t ∈ w.log ∧ .looked t true ∈ w.log
  | .release => Counts w.log 1 0 0 ∧ w.shared.fd = some fd ∧ w.shared.closed = true ∧
      .flagged t ∈ w.log ∧
      ∃ full, .looked t full ∈ w.log ∧ (full = true → Before w.log (.unregistered t) (.drained t))
  | .complete => Counts w.log 1 1 0 ∧ w.shared.fd = none ∧ w.shared.closed = true ∧
      .released t (some fd) ∈ w.log

section

variable {fd : Nat} {w w' : World} {t : Nat}

theorem BodyAt.of_not_inBody {c : CloseStage} (hc : c.inBody = false) : BodyAt fd w t c := by
  cases c <;> simp_all [CloseStage.inBody, BodyAt]

theorem BodyAt.grow {c : CloseStage} {es : List Event} (h : BodyAt fd w t c)
    (hlog : w'.log = w.log ++ es) (quiet : ∀ e ∈ es, e.ofClose = false)
    (hfd : w'.shared.fd = w.shared.fd) (hclosed : w'.shared.closed = w.shared.closed) :
    BodyAt fd w' t c := by
  have mem : ∀ {e}, e ∈ w.log → e ∈ w'.log := fun he => hlog ▸ List.mem_append_left es he
  cases c with
  | enter => trivial
  | flag =>
    obtain ⟨n, f⟩ := h
    exact ⟨hlog ▸ n.append quiet, hfd ▸ f⟩
  | look =>
    obtain ⟨n, f, cl, fl⟩ := h
    exact ⟨hlog ▸ n.append quiet, hfd ▸ f, hclosed ▸ cl, mem fl⟩
  | detach =>
    obtain ⟨n, f, cl, fl, lk⟩ := h
    exact ⟨hlog ▸ n.append quiet, hfd ▸ f, hclosed ▸ cl, mem fl, mem lk⟩
  | release =>
    obtain ⟨n, f, cl, fl, full, lk, det⟩ := h
    exact ⟨hlog ▸ n.append quiet, hfd ▸ f, hclosed ▸ cl, mem fl, full, mem lk,
      fun hf => hlog ▸ (det hf).append es⟩
  | complete =>
    obtain ⟨n, f, cl, rl⟩ := h
    exact ⟨hlog ▸ n.append quiet, hfd ▸ f, hclosed ▸ cl, mem rl⟩

theorem BodyAt.no_teardown {c : CloseStage} (h : BodyAt fd w t c) (hc : c.inBody) :
    w.log.countP Event.isTeardown = 0 := by
  cases c with
  | enter => simp [CloseStage.inBody] at hc
  | flag => exact h.1.2.2
  | look => exact h.1.2.2
  | detach => exact h.1.2.2
  | release => exact h.1.2.2
  | complete => exact h.1.2.2

end

/-- The once and the close body: before the once is taken nothing of the body happened; while it
runs exactly one thread is in the body, at a stage whose facts hold; once it is complete each
mark is in the log once, the descriptor is gone and the device is closed. -/
structure Gated (fd : Nat) (w : World) : Prop where
  ready : w.shared.once = .ready → Counts w.log 0 0 0 ∧ w.shared.fd = some fd
  running : w.shared.once = .running → ∃ t c l, w.tasks t = .closing c l ∧ c.inBody
  complete : w.shared.once = .complete →
    Counts w.log 1 1 1 ∧ w.shared.fd = none ∧ w.shared.closed = true
  body : ∀ t c l, w.tasks t = .closing c l → BodyAt fd w t c
  outside : w.shared.once ≠ .running → ∀ t c l, w.tasks t = .closing c l → c.inBody = false
  unique : ∀ t u c c' l l', w.tasks t = .closing c l → w.tasks u = .closing c' l' →
    c.inBody → c'.inBody → t = u

/-- What a step outside `close` keeps: the once, the descriptor and the closed flag, the
threads in the body, and the log but for events no close call makes; and it puts no new
thread into the body. -/
structure Outside (w w' : World) : Prop where
  once : w'.shared.once = w.shared.once
  fd : w'.shared.fd = w.shared.fd
  closed : w'.shared.closed = w.shared.closed
  log : ∃ es, w'.log = w.log ++ es ∧ ∀ e ∈ es, e.ofClose = false
  keep : ∀ u c l, w.tasks u = .closing c l → c.inBody → w'.tasks u = .closing c l
  enter : ∀ u c l, w'.tasks u = .closing c l → c.inBody = false ∨ w.tasks u = .closing c l

section

variable {fd : Nat} {w w' w'' : World} {t : Nat}

theorem Outside.trans (h : Outside w w') (h' : Outside w' w'') : Outside w w'' := by
  obtain ⟨es, hlog, quiet⟩ := h.log
  obtain ⟨es', hlog', quiet'⟩ := h'.log
  refine ⟨h'.once.trans h.once, h'.fd.trans h.fd, h'.closed.trans h.closed,
    ⟨es ++ es', by rw [hlog', hlog, List.append_assoc], ?_⟩,
    fun u c l hu hc => h'.keep u c l (h.keep u c l hu hc) hc, fun u c l hu => ?_⟩
  · intro e he
    rcases List.mem_append.mp he with he | he
    · exact quiet e he
    · exact quiet' e he
  · rcases h'.enter u c l hu with hc | hu
    · exact .inl hc
    · exact h.enter u c l hu

theorem Outside.move {s : Shared} {task : Task} {es : List Event}
    (ht : ∀ c l, w.tasks t = .closing c l → c.inBody = false)
    (hnew : ∀ c l, task = .closing c l → c.inBody = false)
    (quiet : ∀ e ∈ es, e.ofClose = false)
    (honce : s.once = w.shared.once) (hfd : s.fd = w.shared.fd)
    (hclosed : s.closed = w.shared.closed) :
    Outside w ((w.setShared s).move t task es) where
  once := honce
  fd := hfd
  closed := hclosed
  log := ⟨es, rfl, quiet⟩
  keep u c l hu hc := by
    have hut : u ≠ t := by
      rintro rfl
      simp [ht c l hu] at hc
    simpa [move_tasks_of_ne hut] using hu
  enter u c l hu := by
    by_cases hut : u = t
    · subst hut
      exact .inl (hnew c l (by simpa using hu))
    · exact .inr (by simpa [move_tasks_of_ne hut] using hu)

theorem AccessStep.outside (h : AccessStep t w w') : Outside w w' := by
  cases h <;>
    exact Outside.move (fun c l hc => by simp_all) (by simp) (by simp [Event.ofClose]) rfl rfl rfl

theorem LinkStep.outside (h : LinkStep t w w') : Outside w w' := by
  cases h
  case spawn r ht hr =>
    have hrt : r ≠ t := by
      rintro rfl
      simp [ht] at hr
    refine Outside.trans (Outside.move (fun c l hc => by simp_all) (by simp) (by simp) rfl rfl rfl)
      (Outside.move (fun c l hc => ?_) (by simp) (by simp [Event.ofClose]) rfl rfl rfl)
    simp [move_tasks_of_ne hrt.symm, ht] at hc
  all_goals
    exact Outside.move (fun c l hc => by simp_all) (by simp) (by simp [Event.ofClose]) rfl rfl rfl

theorem LoopStep.outside (h : LoopStep t w w') : Outside w w' := by
  cases h
  case decide o attached ht =>
    exact Outside.move (fun c l hc => by simp_all) (by
      cases o.react attached w.shared.closed <;> simp [loopNext, CloseStage.inBody])
      (by cases o.react attached w.shared.closed <;> simp [loopNext, Event.ofClose]) rfl rfl rfl
  all_goals
    exact Outside.move (fun c l hc => by simp_all) (by simp) (by simp [Event.ofClose]) rfl rfl rfl

/-- Only close calls change the once, the descriptor or the closed flag. -/
theorem Step.outside_or_close (h : Step t w w') : Outside w w' ∨ CloseStep t w w' := by
  cases h with
  | call c ht =>
    refine .inl (Outside.move (fun c l hc => by simp_all) (fun c' l hc => ?_)
      (by simp [Event.ofClose]) rfl rfl rfl)
    cases c <;> simp only [Call.task, Task.closing.injEq, reduceCtorEq] at hc
    rw [← hc.1]
    rfl
  | close h => exact .inr h
  | access h => exact .inl h.outside
  | link h => exact .inl h.outside
  | wait => exact .inl (Outside.move (fun c l hc => by simp_all) (by simp)
      (by simp [Event.ofClose]) rfl rfl rfl)
  | loop h => exact .inl h.outside

theorem Gated.of_outside (h : Gated fd w) (o : Outside w w') : Gated fd w' := by
  obtain ⟨es, hlog, quiet⟩ := o.log
  refine ⟨fun hr => ?_, fun hr => ?_, fun hc => ?_, fun u c l hu => ?_, fun hr u c l hu => ?_,
    fun u v c c' l l' hu hv hc hc' => ?_⟩
  · obtain ⟨n, f⟩ := h.ready (o.once ▸ hr)
    exact ⟨hlog ▸ n.append quiet, o.fd ▸ f⟩
  · obtain ⟨u, c, l, hu, hc⟩ := h.running (o.once ▸ hr)
    exact ⟨u, c, l, o.keep u c l hu hc, hc⟩
  · obtain ⟨n, f, cl⟩ := h.complete (o.once ▸ hc)
    exact ⟨hlog ▸ n.append quiet, o.fd ▸ f, o.closed ▸ cl⟩
  · rcases o.enter u c l hu with hc | hu
    · exact BodyAt.of_not_inBody hc
    · exact (h.body u c l hu).grow hlog quiet o.fd o.closed
  · rcases o.enter u c l hu with hc | hu
    · exact hc
    · exact h.outside (o.once ▸ hr) u c l hu
  · have hu' := (o.enter u c l hu).resolve_left (by simp [hc])
    have hv' := (o.enter v c' l' hv).resolve_left (by simp [hc'])
    exact h.unique u v c c' l l' hu' hv' hc hc'

theorem Gated.init (fd : Nat) : Gated fd (World.init fd) where
  ready _ := ⟨by simp [Counts], rfl⟩
  running h := by simp at h
  complete h := by simp at h
  body t c l h := by simp at h
  outside _ t c l h := by simp at h
  unique t _ c _ l _ h := by simp at h

theorem Gated.alone (h : Gated fd w) {c : CloseStage} {l : Bool}
    (ht : w.tasks t = .closing c l) (hc : c.inBody) :
    ∀ u c' l', u ≠ t → w.tasks u = .closing c' l' → c'.inBody = false := by
  intro u c' l' hut hu
  exact Bool.eq_false_iff.mpr fun hc' => hut (h.unique u t c' c l' l hu ht hc' hc)

theorem Gated.running_of_body (h : Gated fd w) {c : CloseStage} {l : Bool}
    (ht : w.tasks t = .closing c l) (hc : c.inBody) : w.shared.once = .running :=
  Classical.byContradiction fun hr => by simp [h.outside hr t c l ht] at hc

theorem Gated.advance {c : CloseStage} {l : Bool}
    (others : ∀ u c' l', u ≠ t → w.tasks u = .closing c' l' → c'.inBody = false)
    (hrun : w'.shared.once = .running) (ht : w'.tasks t = .closing c l) (hc : c.inBody)
    (hbody : BodyAt fd w' t c) (hframe : ∀ u, u ≠ t → w'.tasks u = w.tasks u) :
    Gated fd w' := by
  have only : ∀ x c' l', w'.tasks x = .closing c' l' → c'.inBody → x = t := by
    intro x c' l' hx hc'
    refine Classical.byContradiction fun hxt => ?_
    rw [hframe x hxt] at hx
    simp [others x c' l' hxt hx] at hc'
  refine ⟨fun hr => by simp [hrun] at hr, fun _ => ⟨t, c, l, ht, hc⟩,
    fun hr => by simp [hrun] at hr, fun u c' l' hu => ?_, fun hr => absurd hrun hr,
    fun u v c₁ c₂ l₁ l₂ hu hv h₁ h₂ => by rw [only u c₁ l₁ hu h₁, only v c₂ l₂ hv h₂]⟩
  by_cases hut : u = t
  · subst hut
    rw [ht, Task.closing.injEq] at hu
    rw [← hu.1]
    exact hbody
  · rw [hframe u hut] at hu
    exact BodyAt.of_not_inBody (others u c' l' hut hu)

theorem Gated.retire
    (others : ∀ u c l, u ≠ t → w.tasks u = .closing c l → c.inBody = false)
    (hframe : ∀ u, u ≠ t → w'.tasks u = w.tasks u) (ht : ∀ c l, w'.tasks t ≠ .closing c l)
    (hcomplete : w'.shared.once = .complete) (counts : Counts w'.log 1 1 1)
    (hfd : w'.shared.fd = none) (hclosed : w'.shared.closed = true) : Gated fd w' := by
  have off : ∀ u c l, w'.tasks u = .closing c l → c.inBody = false := by
    intro u c l hu
    by_cases hut : u = t
    · subst hut
      exact absurd hu (ht c l)
    · rw [hframe u hut] at hu
      exact others u c l hut hu
  refine ⟨fun hr => by simp [hcomplete] at hr, fun hr => by simp [hcomplete] at hr,
    fun _ => ⟨counts, hfd, hclosed⟩, fun u c l hu => BodyAt.of_not_inBody (off u c l hu),
    fun _ => off, fun u v c c' l l' hu _ hc _ => ?_⟩
  simp [off u c l hu] at hc

theorem Gated.of_close (h : Gated fd w) (hs : CloseStep t w w') : Gated fd w' := by
  cases hs with
  | enter ht hr =>
    have others : ∀ u c' l', u ≠ t → w.tasks u = .closing c' l' → c'.inBody = false :=
      fun u c' l' _ hu => h.outside (by simp [hr]) u c' l' hu
    obtain ⟨n, f⟩ := h.ready hr
    exact Gated.advance others (by simp) move_tasks_self rfl ⟨n.entered t, f⟩
      (fun u hu => move_tasks_of_ne hu)
  | @pass l ht hc =>
    obtain ⟨n, f, cl⟩ := h.complete hc
    exact Gated.retire (fun u c l _ hu => h.outside (by simp [hc]) u c l hu)
      (fun u hu => move_tasks_of_ne hu) (by cases l <;> simp [afterClose]) (by simpa using hc)
      (by simpa using n.returned t .closed) (by simpa using f) (by simpa using cl)
  | flag ht =>
    obtain ⟨n, f⟩ : BodyAt fd w t .flag := h.body t _ _ ht
    exact Gated.advance (h.alone ht rfl) (by simpa using h.running_of_body ht rfl) move_tasks_self rfl
      ⟨by simpa using n.append (show ∀ e ∈ [Event.flagged t], e.ofClose = false by
          simp [Event.ofClose]), by simpa using f,
        by simp, by simp⟩ (fun u hu => move_tasks_of_ne hu)
  | look ht =>
    obtain ⟨n, f, cl, fl⟩ : BodyAt fd w t .look := h.body t _ _ ht
    have n' := n.append (show ∀ e ∈ [Event.looked t (w.shared.cell == .full)], e.ofClose = false by
      simp [Event.ofClose])
    by_cases hcell : w.shared.cell = .full
    · rw [if_pos hcell]
      refine Gated.advance (h.alone ht rfl) (by simpa using h.running_of_body ht rfl)
        move_tasks_self (by simp [CloseStage.inBody]) ?_ (fun u hu => move_tasks_of_ne hu)
      exact ⟨by simpa using n', by simpa using f, by simpa using cl, by simp [fl],
        by simp [hcell]⟩
    · rw [if_neg hcell]
      refine Gated.advance (h.alone ht rfl) (by simpa using h.running_of_body ht rfl)
        move_tasks_self (by simp [CloseStage.inBody]) ?_ (fun u hu => move_tasks_of_ne hu)
      exact ⟨by simpa using n', by simpa using f, by simpa using cl, by simp [fl], false,
        by simp [hcell], by simp⟩
  | detach ht =>
    obtain ⟨n, f, cl, fl, lk⟩ : BodyAt fd w t .detach := h.body t _ _ ht
    have n' := n.append (show ∀ e ∈ [Event.unregistered t, Event.drained t], e.ofClose = false by
      simp [Event.ofClose])
    refine Gated.advance (h.alone ht rfl) (by simpa using h.running_of_body ht rfl) move_tasks_self rfl
      ⟨by simpa using n', by simpa using f, by simpa using cl, by simp [fl], true, by simp [lk],
        fun _ => by simpa using Before.pair w.log _ _⟩ (fun u hu => move_tasks_of_ne hu)
  | release ht free =>
    obtain ⟨n, f, cl, -⟩ : BodyAt fd w t .release := h.body t _ _ ht
    refine Gated.advance (h.alone ht rfl) (by simpa using h.running_of_body ht rfl) move_tasks_self rfl
      ⟨by simpa [f] using n.released t (some fd), by simp, by simpa using cl, by simp [f]⟩
      (fun u hu => move_tasks_of_ne hu)
  | @complete l ht =>
    obtain ⟨n, f, cl, -⟩ : BodyAt fd w t .complete := h.body t _ _ ht
    exact Gated.retire (h.alone ht rfl) (fun u hu => move_tasks_of_ne hu)
      (by cases l <;> simp [afterClose]) (by simp) (by simpa using n.tornDown t .closed)
      (by simpa using f) (by simpa using cl)

theorem Gated.step (h : Gated fd w) (hs : Step t w w') : Gated fd w' :=
  hs.outside_or_close.elim h.of_outside h.of_close

theorem Gated.marks_le (h : Gated fd w) : w.log.countP Event.isEntry ≤ 1 ∧
    w.log.countP Event.isRelease ≤ 1 ∧ w.log.countP Event.isTeardown ≤ 1 := by
  cases hr : w.shared.once with
  | ready =>
    obtain ⟨⟨a, b, c⟩, -⟩ := h.ready hr
    omega
  | running =>
    obtain ⟨u, c, l, hu, hc⟩ := h.running hr
    have body := h.body u c l hu
    -- at every stage of the body the marks so far are counted
    cases c
    case enter => simp [CloseStage.inBody] at hc
    all_goals
      obtain ⟨a, b, c⟩ := body.1
      omega
  | complete =>
    obtain ⟨⟨a, b, c⟩, -⟩ := h.complete hr
    omega

theorem Gated.complete_of_teardown (h : Gated fd w) {v : Nat} (hv : .tornDown v ∈ w.log) :
    w.shared.once = .complete := by
  have some : 0 < w.log.countP Event.isTeardown :=
    List.countP_pos_iff.mpr ⟨_, hv, by simp [Event.isTeardown]⟩
  cases hr : w.shared.once with
  | ready => simp [(h.ready hr).1.2.2] at some
  | running =>
    obtain ⟨u, c, l, hu, hc⟩ := h.running hr
    have := (h.body u c l hu).no_teardown hc
    omega
  | complete => rfl

theorem Gated.fd_of_release (h : Gated fd w) {v : Nat} {o : Option Nat}
    (hv : .released v o ∈ w.log) : w.shared.fd = none := by
  have some : 0 < w.log.countP Event.isRelease :=
    List.countP_pos_iff.mpr ⟨_, hv, by simp [Event.isRelease]⟩
  cases hr : w.shared.once with
  | ready => simp [(h.ready hr).1.2.1] at some
  | running =>
    obtain ⟨u, c, l, hu, hc⟩ := h.running hr
    have body := h.body u c l hu
    -- only the last stage of the body comes after the release
    cases c
    case enter => simp [CloseStage.inBody] at hc
    case complete => exact body.2.1
    all_goals
      have := body.1.2.1
      omega
  | complete => exact (h.complete hr).2.1

end

/-- The order of the close body's events: the descriptor is released only after the closed flag
was set and the thread looked in the bridge cell, having detached the bridge it found there; the
once completes only after the release; and a close returns only after the once completed. -/
structure Ordered (fd : Nat) (log : List Event) : Prop where
  release : ∀ u o, .released u o ∈ log →
    o = some fd ∧ Before log (.flagged u) (.released u o) ∧
      ∃ full, Before log (.looked u full) (.released u o) ∧
        (full = true → Before log (.unregistered u) (.drained u) ∧
          Before log (.drained u) (.released u o))
  teardown : ∀ u, .tornDown u ∈ log → Before log (.released u (some fd)) (.tornDown u)
  closeReturn : ∀ u, .returned u .closed ∈ log → ∃ v, Before log (.tornDown v) (.returned u .closed)

section

variable {fd : Nat} {w w' : World} {t : Nat} {log : List Event}

theorem Ordered.extend {es : List Event} (h : Ordered fd log)
    (hrel : ∀ u o, .released u o ∈ es → o = some fd ∧
      Before (log ++ es) (.flagged u) (.released u o) ∧
      ∃ full, Before (log ++ es) (.looked u full) (.released u o) ∧
        (full = true → Before (log ++ es) (.unregistered u) (.drained u) ∧
          Before (log ++ es) (.drained u) (.released u o)))
    (htd : ∀ u, .tornDown u ∈ es → Before (log ++ es) (.released u (some fd)) (.tornDown u))
    (hret : ∀ u, .returned u .closed ∈ es →
      ∃ v, Before (log ++ es) (.tornDown v) (.returned u .closed)) :
    Ordered fd (log ++ es) := by
  refine ⟨fun u o hu => ?_, fun u hu => ?_, fun u hu => ?_⟩
  · rcases List.mem_append.mp hu with hu | hu
    · obtain ⟨ho, fl, full, lk, det⟩ := h.release u o hu
      exact ⟨ho, fl.append es, full, lk.append es,
        fun hf => ⟨(det hf).1.append es, (det hf).2.append es⟩⟩
    · exact hrel u o hu
  · rcases List.mem_append.mp hu with hu | hu
    · exact (h.teardown u hu).append es
    · exact htd u hu
  · rcases List.mem_append.mp hu with hu | hu
    · obtain ⟨v, hv⟩ := h.closeReturn u hu
      exact ⟨v, hv.append es⟩
    · exact hret u hu

theorem Ordered.of_outside (h : Ordered fd w.log) (o : Outside w w') : Ordered fd w'.log := by
  obtain ⟨es, hlog, quiet⟩ := o.log
  rw [hlog]
  exact h.extend (fun u o hu => by simpa [Event.ofClose] using quiet _ hu)
    (fun u hu => by simpa [Event.ofClose] using quiet _ hu)
    (fun u hu => by simpa [Event.ofClose] using quiet _ hu)

theorem Ordered.of_close (h : Ordered fd w.log) (hg : Gated fd w) (hs : CloseStep t w w') :
    Ordered fd w'.log := by
  cases hs with
  | enter => exact h.extend (by simp) (by simp) (by simp)
  | pass _ hc =>
    obtain ⟨v, hv, hvt⟩ := List.countP_pos_iff.mp (by simp [(hg.complete hc).1.2.2] :
      0 < w.log.countP Event.isTeardown)
    cases v <;> simp [Event.isTeardown] at hvt
    exact h.extend (by simp) (by simp)
      (fun u hu => ⟨_, Before.of_mem_append hv hu⟩)
  | flag => exact h.extend (by simp) (by simp) (by simp)
  | look => exact h.extend (by simp) (by simp) (by simp)
  | detach => exact h.extend (by simp) (by simp) (by simp)
  | release ht _ =>
    obtain ⟨-, f, -, fl, full, lk, det⟩ : BodyAt fd w t .release := hg.body t _ _ ht
    refine h.extend (fun u o hu => ?_) (by simp) (by simp)
    simp only [List.mem_singleton, Event.released.injEq] at hu
    obtain ⟨rfl, rfl⟩ := hu
    have new : Event.released u w.shared.fd ∈ [Event.released u w.shared.fd] := by simp
    exact ⟨f, Before.of_mem_append fl new, full, Before.of_mem_append lk new,
      fun hf => ⟨(det hf).append _, Before.of_mem_append (det hf).mem_right new⟩⟩
  | complete ht =>
    obtain ⟨-, -, -, rl⟩ : BodyAt fd w t .complete := hg.body t _ _ ht
    refine h.extend (by simp) (fun u hu => ?_) (fun u hu => ?_)
    · simp only [List.mem_cons, Event.tornDown.injEq, reduceCtorEq, List.not_mem_nil,
        or_false] at hu
      subst hu
      exact Before.of_mem_append rl (List.mem_cons_self ..)
    · simp only [List.mem_cons, reduceCtorEq, Event.returned.injEq, and_true,
        List.not_mem_nil, false_or, or_false] at hu
      subst hu
      exact ⟨u, Before.pair w.log _ _⟩

theorem Ordered.step (h : Ordered fd w.log) (hg : Gated fd w) (hs : Step t w w') :
    Ordered fd w'.log :=
  hs.outside_or_close.elim h.of_outside (h.of_close hg)

end

def Call.closedReply : Call → Reply
  | .close => .closed
  | .read | .readSlice => .read (.error IoError.closed)
  | .write _ => .wrote (.error IoError.closed)
  | .link => .linked (.error .closed)
  | .wait => .waited

section

variable {fd : Nat} {w w' : World} {t : Nat}

theorem Step.after_close {c : Call} (h : Step t w w') (ht : w.tasks t = c.task)
    (hfd : w.shared.fd = none) (hclosed : w.shared.closed = true)
    (honce : w.shared.once = .complete) : w' = w.reply t c.closedReply := by
  rcases h with _ | h | h | h | _ | h
  all_goals try cases h
  all_goals cases c <;> simp_all [Call.task, Call.closedReply, afterClose]

theorem Step.not_done {r : Reply} (h : Step t w w') (ht : w.tasks t = .done r) : False := by
  rcases h with _ | h | h | h | _ | h
  all_goals try cases h
  all_goals simp_all

theorem Step.of_idle (h : Step t w w') (ht : w.tasks t = .idle) :
    ∃ c, w' = w.move t c.task [.began t c] := by
  rcases h with _ | h | h | h | _ | h
  · exact ⟨_, rfl⟩
  all_goals try cases h
  all_goals simp_all

theorem Step.in_use (h : Step t w w') : w'.tasks t ≠ .idle := by
  rcases h with ⟨c⟩ | h | h | h | _ | h
  · cases c <;> simp [Call.task]
  all_goals try cases h
  all_goals try simp
  case close.pass l _ _ => cases l <;> simp [afterClose]
  case close.complete l _ => cases l <;> simp [afterClose]
  case loop.decide o attached _ =>
    cases o.react attached w.shared.closed <;> simp [loopNext]

theorem Step.began_of_append {es : List Event} {c : Call} (h : Step t w w')
    (hlog : w'.log = w.log ++ es) (hb : .began t c ∈ es) : w.tasks t = .idle := by
  rcases h with _ | h | h | h | _ | h
  · assumption
  all_goals try cases h
  all_goals simp only [move_log, setShared_log, reply_eq, List.append_nil,
    List.append_cancel_left_eq, List.self_eq_append_right] at hlog
  all_goals try (subst hlog; simp at hb)
  case loop.decide o attached _ =>
    subst hlog
    cases hr : o.react attached w.shared.closed <;> simp [loopNext, hr] at hb

end

/-- The invariant behind closing: the once and the body, the order of the body's events, that
an unused thread did nothing yet, that a thread holding the handle's lock holds the descriptor
there, and what every call begun after a close returned did. -/
structure Closing (fd : Nat) (w : World) : Prop where
  gated : Gated fd w
  ordered : Ordered fd w.log
  fresh : ∀ t, w.tasks t = .idle → ∀ e ∈ w.log, e.thread ≠ t
  lock : ∀ t d a, w.tasks t = .holding d a → w.shared.fd = some d
  late : ∀ u t c, Before w.log (.returned u .closed) (.began t c) →
    (∀ d, .touched t d ∉ w.log) ∧ (w.tasks t = c.task ∨ w.tasks t = .done c.closedReply) ∧
      ∀ r, .returned t r ∈ w.log → r = c.closedReply

namespace Closing

variable {fd : Nat} {w w' : World} {t u : Nat}

theorem init (fd : Nat) : Closing fd (World.init fd) where
  gated := Gated.init fd
  ordered := ⟨by simp, by simp, by simp⟩
  fresh := by simp
  lock := by simp
  late := by simp [Before]

theorem closed_down (h : Closing fd w) (hr : .returned u .closed ∈ w.log) :
    w.shared.once = .complete ∧ w.shared.fd = none ∧ w.shared.closed = true := by
  obtain ⟨v, hv⟩ := h.ordered.closeReturn u hr
  have honce := h.gated.complete_of_teardown hv.mem_left
  exact ⟨honce, (h.gated.complete honce).2⟩

theorem fresh_step (h : Closing fd w) (hs : Step t w w') :
    ∀ u, w'.tasks u = .idle → ∀ e ∈ w'.log, e.thread ≠ u := by
  obtain ⟨es, hlog, own, frame⟩ := hs.frame
  intro u hu e he
  rw [hlog] at he
  by_cases hut : u = t
  · subst hut
    exact absurd hu hs.in_use
  · rcases frame u hut with same | ⟨-, loop⟩
    · rw [same] at hu
      rcases List.mem_append.mp he with he | he
      · exact h.fresh u hu e he
      · rw [own e he]
        exact Ne.symm hut
    · rw [loop] at hu
      cases hu

theorem lock_step (h : Closing fd w) (hs : Step t w w') :
    ∀ u d a, w'.tasks u = .holding d a → w'.shared.fd = some d := by
  intro u d a hu
  have old := h.lock u d a
  rcases hs with ⟨c⟩ | h | h | h | _ | h
  · cases c <;> by_cases hut : u = t <;> simp_all [move_tasks, Call.task]
  all_goals try cases h
  case loop.decide o attached _ =>
    cases hr : o.react attached w.shared.closed <;>
      by_cases hut : u = t <;> simp_all [move_tasks, loopNext]
  case close.release free =>
    by_cases hut : u = t
    · simp_all
    · have := free u
      simp_all [move_tasks, Task.holdsLock]
  case link.spawn r _ _ =>
    by_cases hut : u = t <;> by_cases hur : u = r <;> simp_all [move_tasks]
  case close.pass l _ _ => cases l <;> by_cases hut : u = t <;> simp_all [move_tasks, afterClose]
  case close.complete l _ => cases l <;> by_cases hut : u = t <;> simp_all [move_tasks, afterClose]
  all_goals by_cases hut : u = t <;> simp_all [move_tasks]

theorem late_step (h : Closing fd w) (hs : Step t w w') :
    ∀ u v c, Before w'.log (.returned u .closed) (.began v c) →
      (∀ d, .touched v d ∉ w'.log) ∧ (w'.tasks v = c.task ∨ w'.tasks v = .done c.closedReply) ∧
        ∀ r, .returned v r ∈ w'.log → r = c.closedReply := by
  obtain ⟨es, hlog, own, frame⟩ := hs.frame
  intro u v c hb
  by_cases hvt : v = t
  · subst hvt
    by_cases hidle : w.tasks v = .idle
    · -- the call begins now, after a close returned
      obtain ⟨c', rfl⟩ := hs.of_idle hidle
      have fresh : ∀ e ∈ w.log, e.thread ≠ v := h.fresh v hidle
      have hc : c' = c := by
        have := hb.mem_right
        simp only [move_log, List.mem_append, List.mem_singleton, Event.began.injEq,
          true_and] at this
        rcases this with old | rfl
        · exact absurd rfl (fresh _ old)
        · rfl
      subst hc
      refine ⟨fun d hd => ?_, .inl (by simp), fun r hr => ?_⟩
      · simp only [move_log, List.mem_append, List.mem_singleton, reduceCtorEq, or_false] at hd
        exact fresh _ hd rfl
      · simp only [move_log, List.mem_append, List.mem_singleton, reduceCtorEq, or_false] at hr
        exact absurd rfl (fresh _ hr)
    · -- the call began earlier, after a close returned: its one step is its closed reply
      have hb' : Before w.log (.returned u .closed) (.began v c) :=
        (hlog ▸ hb).of_append fun hin => hidle (hs.began_of_append hlog hin)
      obtain ⟨untouched, task, replies⟩ := h.late u v c hb'
      obtain ⟨honce, hfd, hclosed⟩ := h.closed_down hb'.mem_left
      rcases task with task | task
      · obtain rfl := hs.after_close task hfd hclosed honce
        refine ⟨fun d hd => ?_, .inr (by simp), fun r hr => ?_⟩
        · simp only [reply_eq, move_log, List.mem_append, List.mem_singleton, reduceCtorEq,
            or_false] at hd
          exact untouched d hd
        · simp only [reply_eq, move_log, List.mem_append, List.mem_singleton,
            Event.returned.injEq, true_and] at hr
          rcases hr with hr | rfl
          · exact replies r hr
          · rfl
      · exact (hs.not_done task).elim
  · -- another thread moved: what `v` did and does stays as it was
    have hb' : Before w.log (.returned u .closed) (.began v c) :=
      (hlog ▸ hb).of_append fun hin => hvt (by simpa [Event.thread] using own _ hin)
    obtain ⟨untouched, task, replies⟩ := h.late u v c hb'
    have busy : w.tasks v ≠ .idle := fun hi => h.fresh v hi _ hb'.mem_right (by simp [Event.thread])
    have same : w'.tasks v = w.tasks v := (frame v hvt).resolve_right fun hx => busy hx.1
    rw [hlog, same]
    refine ⟨fun d hd => ?_, task, fun r hr => ?_⟩
    · rcases List.mem_append.mp hd with hd | hd
      · exact untouched d hd
      · exact hvt (by simpa [Event.thread] using own _ hd)
    · rcases List.mem_append.mp hr with hr | hr
      · exact replies r hr
      · exact absurd (by simpa [Event.thread] using own _ hr) hvt

theorem step (h : Closing fd w) (hs : Step t w w') : Closing fd w' where
  gated := h.gated.step hs
  ordered := h.ordered.step h.gated hs
  fresh := h.fresh_step hs
  lock := h.lock_step hs
  late := h.late_step hs

theorem reach (hw : Reach fd w) : Closing fd w :=
  Reach.invariant (init fd) (fun _ h hs => h.step hs) hw

end Closing

/-- Along every run of a device opened on descriptor `fd`, whatever `close`, `read`,
`read_slice`, `write`, `link_endpoint` and `wait` calls its threads make, the implicit close on
the last owner's drop and the read thread's own close among them, and however their steps
interleave: the once is taken, the descriptor released and the once completed at most once each;
every close call returns only after the once completed; the once completes only after its thread
released the descriptor `fd`; the descriptor is released only after the closed flag was set and
the releasing thread looked in the bridge cell, having detached the bridge it found there (its
writer unregistered, then its queue drained); every call begun after some close returned touches
no descriptor and answers what a closed device answers (`NotConnected` for reads and writes,
`Closed` for `link_endpoint`); and the closed flag, once set, stays set. -/
theorem close_once (fd : Nat) :
    (∀ w, Reach fd w →
      w.log.countP Event.isEntry ≤ 1 ∧ w.log.countP Event.isRelease ≤ 1 ∧
      w.log.countP Event.isTeardown ≤ 1 ∧
      (∀ t, .returned t .closed ∈ w.log → ∃ u, Before w.log (.tornDown u) (.returned t .closed)) ∧
      (∀ u, .tornDown u ∈ w.log → Before w.log (.released u (some fd)) (.tornDown u)) ∧
      (∀ u o, .released u o ∈ w.log → o = some fd ∧ Before w.log (.flagged u) (.released u o) ∧
        ∃ full, Before w.log (.looked u full) (.released u o) ∧
          (full = true → Before w.log (.unregistered u) (.drained u) ∧
            Before w.log (.drained u) (.released u o))) ∧
      ∀ u t c, Before w.log (.returned u .closed) (.began t c) →
        (∀ d, .touched t d ∉ w.log) ∧ ∀ r, .returned t r ∈ w.log → r = c.closedReply) ∧
    ∀ w w', Relation.ReflTransGen Next w w' → w.shared.closed = true →
      w'.shared.closed = true := by
  refine ⟨fun w hw => ?_, fun w w' run => closed_mono_of_run run⟩
  have h := Closing.reach hw
  obtain ⟨entries, releases, teardowns⟩ := h.gated.marks_le
  refine ⟨entries, releases, teardowns, h.ordered.closeReturn, h.ordered.teardown,
    h.ordered.release, fun u t c hb => ?_⟩
  obtain ⟨untouched, -, replies⟩ := h.late u t c hb
  exact ⟨untouched, replies⟩

end Threads

end TunBridge
