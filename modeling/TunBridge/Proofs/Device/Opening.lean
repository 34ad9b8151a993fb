import TunBridge.Host.Basic
/-!
Opening a device on any system, as its descriptors see it: the calls an opening makes are one of
the traces of `Opening.Trace`, and on a system whose calls obey `Opening.Lawful` an opening that
fails leaves the table of open descriptors as it was, one that succeeds adds exactly the
device's descriptor, and only descriptors it made are closed. Main statement:
`Opening.open_descriptors`.
-/
namespace TunBridge

namespace Opening

inductive Event (φ : Type) where
  | created (name : String) (answer : Except IoError (φ × String))
  | flagsRead (fd : φ) (answer : Except IoError Nat)
  | flagsSet (fd : φ) (flags : Nat) (answer : Except IoError Unit)
  | duplicated (fd : Int) (answer : Except IoError φ)
  | infoRead (fd : φ) (answer : Except IoError (String × UInt16))
  | closed (fd : φ)

variable {ω φ : Type}

/-- The system of `O`, with every call and its answer written down as it is made. -/
def traced (O : Opening ω φ) : Opening (ω × List (Event φ)) φ where
  createIface w name :=
    let r := O.createIface w.1 name
    ((r.1, w.2 ++ [.created name r.2]), r.2)
  getFlags w fd :=
    let r := O.getFlags w.1 fd
    ((r.1, w.2 ++ [.flagsRead fd r.2]), r.2)
  setFlags w fd flags :=
    let r := O.setFlags w.1 fd flags
    ((r.1, w.2 ++ [.flagsSet fd flags r.2]), r.2)
  dup w fd :=
    let r := O.dup w.1 fd
    ((r.1, w.2 ++ [.duplicated fd r.2]), r.2)
  tunInfo w fd :=
    let r := O.tunInfo w.1 fd
    ((r.1, w.2 ++ [.infoRead fd r.2]), r.2)
  close w fd := (O.close w.1 fd, w.2 ++ [.closed fd])

inductive FlagTrace (fd : φ) : List (Event φ) → Except IoError Unit → Prop
  | unread (e : IoError) : FlagTrace fd [.flagsRead fd (.error e)] (.error e)
  | already (flags : Nat) : flags &&& nonblockFlag ≠ 0 →
      FlagTrace fd [.flagsRead fd (.ok flags)] (.ok ())
  | set (flags : Nat) (answer : Except IoError Unit) : flags &&& nonblockFlag = 0 →
      FlagTrace fd [.flagsRead fd (.ok flags), .flagsSet fd (flags ||| nonblockFlag) answer] answer

/-- The calls opening the interface of a name, with the result: none for a name too long; else
the interface constructor, then the flag calls on its descriptor, which is closed if they fail. -/
inductive NameTrace (name : String) :
    List (Event φ) → Except TunError (String × DeviceHandle φ) → Prop
  | tooLong : ifNameSize ≤ name.utf8ByteSize →
      NameTrace name [] (.error (.openFailed "check interface name"
        (.custom .invalidInput ("interface name `" ++ name ++ "` too long"))))
  | createFailed (e : IoError) : name.utf8ByteSize < ifNameSize →
      NameTrace name [.created name (.error e)] (.error (.openFailed "create interface" e))
  | flagsFailed (fd : φ) (resolved : String) (evs : List (Event φ)) (e : IoError) :
      name.utf8ByteSize < ifNameSize → FlagTrace fd evs (.error e) →
      NameTrace name (.created name (.ok (fd, resolved)) :: evs ++ [.closed fd])
        (.error (.openFailed "set non-blocking" e))
  | opened (fd : φ) (resolved : String) (evs : List (Event φ)) :
      name.utf8ByteSize < ifNameSize → FlagTrace fd evs (.ok ()) →
      NameTrace name (.created name (.ok (fd, resolved)) :: evs) (.ok (resolved, .named fd))

/-- The calls taking a duplicate of descriptor `n`, with the result: the duplication, then
`TUNGETIFF` on the duplicate, which is closed unless it is a TUN interface without packet
information. -/
inductive FdTrace (n : Int) : List (Event φ) → Except TunError (String × DeviceHandle φ) → Prop
  | dupFailed (e : IoError) :
      FdTrace n [.duplicated n (.error e)] (.error (.openFailed "duplicate descriptor" e))
  | infoFailed (fd : φ) (e : IoError) :
      FdTrace n [.duplicated n (.ok fd), .infoRead fd (.error e), .closed fd]
        (.error (.unsupportedKind ("descriptor " ++ toString n ++ " is not a tun device: " ++
          e.message)))
  | notTunNoPi (fd : φ) (name : String) (flags : UInt16) : isTunNoPi flags = false →
      FdTrace n [.duplicated n (.ok fd), .infoRead fd (.ok (name, flags)), .closed fd]
        (.error (.unsupportedKind "only tun device and no pi mode supported"))
  | adopted (fd : φ) (name : String) (flags : UInt16) : isTunNoPi flags = true →
      FdTrace n [.duplicated n (.ok fd), .infoRead fd (.ok (name, flags))] (.ok (name, .adopted fd))

/-- The calls opening the device a specification names, with the result: none when the
specification does not read, else those of its kind. -/
inductive Trace (spec : String) : List (Event φ) → Except TunError (OpenedDevice φ) → Prop
  | unread (e : TunError) : DeviceSpec.parse spec = .error e → Trace spec [] (.error e)
  | byName (s : DeviceSpec) (n : String) (evs : List (Event φ))
      (r : Except TunError (String × DeviceHandle φ)) :
      DeviceSpec.parse spec = .ok s → s.kind = .name n → NameTrace n evs r →
      Trace spec evs (r.map fun o => ⟨s, o.1, o.2⟩)
  | byDescriptor (s : DeviceSpec) (n : Int) (evs : List (Event φ))
      (r : Except TunError (String × DeviceHandle φ)) :
      DeviceSpec.parse spec = .ok s → s.kind = .fd n → FdTrace n evs r →
      Trace spec evs (r.map fun o => ⟨s, o.1, o.2⟩)

section Traced

variable (O : Opening ω φ) (w : ω) (t : List (Event φ))

@[simp] theorem traced_createIface (name : String) :
    O.traced.createIface (w, t) name =
      (((O.createIface w name).1, t ++ [.created name (O.createIface w name).2]),
        (O.createIface w name).2) := rfl

@[simp] theorem traced_getFlags (fd : φ) :
    O.traced.getFlags (w, t) fd =
      (((O.getFlags w fd).1, t ++ [.flagsRead fd (O.getFlags w fd).2]), (O.getFlags w fd).2) := rfl

@[simp] theorem traced_setFlags (fd : φ) (flags : Nat) :
    O.traced.setFlags (w, t) fd flags =
      (((O.setFlags w fd flags).1, t ++ [.flagsSet fd flags (O.setFlags w fd flags).2]),
        (O.setFlags w fd flags).2) := rfl

@[simp] theorem traced_dup (n : Int) :
    O.traced.dup (w, t) n =
      (((O.dup w n).1, t ++ [.duplicated n (O.dup w n).2]), (O.dup w n).2) := rfl

@[simp] theorem traced_tunInfo (fd : φ) :
    O.traced.tunInfo (w, t) fd =
      (((O.tunInfo w fd).1, t ++ [.infoRead fd (O.tunInfo w fd).2]), (O.tunInfo w fd).2) := rfl

@[simp] theorem traced_close (fd : φ) :
    O.traced.close (w, t) fd = (O.close w fd, t ++ [.closed fd]) := rfl

theorem traced_setNonblocking (fd : φ) :
    ∃ evs, O.traced.setNonblocking (w, t) fd =
      (((O.setNonblocking w fd).1, t ++ evs), (O.setNonblocking w fd).2) ∧
      FlagTrace fd evs (O.setNonblocking w fd).2 := by
  rcases hg : O.getFlags w fd with ⟨w₁, e | flags⟩
  · refine ⟨[.flagsRead fd (.error e)], ?_, ?_⟩
    · simp [setNonblocking, hg]
    · simpa [setNonblocking, hg] using .unread e
  by_cases set : flags &&& nonblockFlag = 0
  · refine ⟨[.flagsRead fd (.ok flags), .flagsSet fd (flags ||| nonblockFlag)
      (O.setFlags w₁ fd (flags ||| nonblockFlag)).2], ?_, ?_⟩
    · simp [setNonblocking, hg, set]
    · simpa [setNonblocking, hg, set] using .set flags _ set
  · refine ⟨[.flagsRead fd (.ok flags)], ?_, ?_⟩
    · simp [setNonblocking, hg, set]
    · simpa [setNonblocking, hg, set] using .already flags set

theorem traced_byName (name : String) :
    ∃ evs, O.traced.byName (w, t) name = (((O.byName w name).1, t ++ evs), (O.byName w name).2) ∧
      NameTrace name evs (O.byName w name).2 := by
  by_cases long : ifNameSize ≤ name.utf8ByteSize
  · refine ⟨[], ?_, ?_⟩
    · simp [byName, long]
    · simpa [byName, long] using .tooLong long
  have short : name.utf8ByteSize < ifNameSize := by omega
  -- one case for each answer that ends the opening, in the order the calls are made
  rcases hc : O.createIface w name with ⟨w₁, e | ⟨fd, resolved⟩⟩
  · refine ⟨[.created name (.error e)], ?_, ?_⟩
    · simp [byName, long, hc]
    · simpa [byName, long, hc] using .createFailed e short
  obtain ⟨evs, flagsRun, flagsTrace⟩ :=
    O.traced_setNonblocking w₁ (t ++ [.created name (.ok (fd, resolved))]) fd
  rcases hn : O.setNonblocking w₁ fd with ⟨w₂, e | ⟨⟩⟩
  · rw [hn] at flagsTrace
    refine ⟨.created name (.ok (fd, resolved)) :: evs ++ [.closed fd], ?_, ?_⟩
    · simp [byName, long, hc, flagsRun, hn]
    · simpa [byName, long, hc, hn] using .flagsFailed fd resolved evs e short flagsTrace
  · rw [hn] at flagsTrace
    refine ⟨.created name (.ok (fd, resolved)) :: evs, ?_, ?_⟩
    · simp [byName, long, hc, flagsRun, hn]
    · simpa [byName, long, hc, hn] using .opened fd resolved evs short flagsTrace

theorem traced_byDescriptor (n : Int) :
    ∃ evs, O.traced.byDescriptor (w, t) n =
      (((O.byDescriptor w n).1, t ++ evs), (O.byDescriptor w n).2) ∧
      FdTrace n evs (O.byDescriptor w n).2 := by
  rcases hd : O.dup w n with ⟨w₁, e | fd⟩
  · refine ⟨[.duplicated n (.error e)], ?_, ?_⟩
    · simp [byDescriptor, hd]
    · simpa [byDescriptor, hd] using .dupFailed e
  rcases hi : O.tunInfo w₁ fd with ⟨w₂, e | ⟨name, flags⟩⟩
  · refine ⟨[.duplicated n (.ok fd), .infoRead fd (.error e), .closed fd], ?_, ?_⟩
    · simp [byDescriptor, hd, hi]
    · simpa [byDescriptor, hd, hi] using .infoFailed fd e
  cases tun : isTunNoPi flags
  · refine ⟨[.duplicated n (.ok fd), .infoRead fd (.ok (name, flags)), .closed fd], ?_, ?_⟩
    · simp [byDescriptor, hd, hi, tun]
    · simpa [byDescriptor, hd, hi, tun] using .notTunNoPi fd name flags tun
  · refine ⟨[.duplicated n (.ok fd), .infoRead fd (.ok (name, flags))], ?_, ?_⟩
    · simp [byDescriptor, hd, hi, tun]
    · simpa [byDescriptor, hd, hi, tun] using .adopted fd name flags tun

section Kind

variable {spec : String} {s : DeviceSpec} (hp : DeviceSpec.parse spec = .ok s)
include hp

theorem openSpec_of_name {n : String} (hk : s.kind = .name n) :
    O.openSpec w spec = ((O.byName w n).1, (O.byName w n).2.map fun o => ⟨s, o.1, o.2⟩) := by
  rcases hb : O.byName w n with ⟨w', e | o⟩ <;> simp [openSpec, hp, hk, hb, Except.map]

theorem openSpec_of_fd {n : Int} (hk : s.kind = .fd n) :
    O.openSpec w spec =
      ((O.byDescriptor w n).1, (O.byDescriptor w n).2.map fun o => ⟨s, o.1, o.2⟩) := by
  rcases hb : O.byDescriptor w n with ⟨w', e | o⟩ <;> simp [openSpec, hp, hk, hb, Except.map]

end Kind

theorem traced_openSpec (spec : String) :
    ∃ evs, O.traced.openSpec (w, t) spec =
      (((O.openSpec w spec).1, t ++ evs), (O.openSpec w spec).2) ∧
      Trace spec evs (O.openSpec w spec).2 := by
  rcases hp : DeviceSpec.parse spec with e | s
  · refine ⟨[], ?_, ?_⟩
    · simp [openSpec, hp]
    · simpa [openSpec, hp] using .unread e hp
  rcases hk : s.kind with n | n
  · obtain ⟨evs, run, trace⟩ := O.traced_byName w t n
    rw [O.openSpec_of_name w hp hk, O.traced.openSpec_of_name (w, t) hp hk, run]
    exact ⟨evs, rfl, .byName s n evs _ hp hk trace⟩
  · obtain ⟨evs, run, trace⟩ := O.traced_byDescriptor w t n
    rw [O.openSpec_of_fd w hp hk, O.traced.openSpec_of_fd (w, t) hp hk, run]
    exact ⟨evs, rfl, .byDescriptor s n evs _ hp hk trace⟩

end Traced

theorem FlagTrace.not_closed {fd fd' : φ} {evs : List (Event φ)} {r : Except IoError Unit}
    (h : FlagTrace fd evs r) : Event.closed fd' ∉ evs := by
  cases h <;> simp

/-! ### The table of open descriptors -/

/-- What the calls of an opening do to the table of open descriptors `table`, as the system and
the TUN crate document them: the interface constructor and duplication each add one new
descriptor when they succeed and none when they fail, the constructor closing its own; the flag
calls and `TUNGETIFF` open and close nothing; `close` takes exactly its descriptor away. -/
structure Lawful [DecidableEq φ] (O : Opening ω φ) (table : ω → List φ) : Prop where
  createIface_ok : ∀ {w w' name fd resolved}, O.createIface w name = (w', .ok (fd, resolved)) →
    fd ∉ table w ∧ table w' = table w ++ [fd]
  createIface_error : ∀ {w w' name e}, O.createIface w name = (w', .error e) → table w' = table w
  getFlags : ∀ w fd, table (O.getFlags w fd).1 = table w
  setFlags : ∀ w fd flags, table (O.setFlags w fd flags).1 = table w
  dup_ok : ∀ {w w' n fd}, O.dup w n = (w', .ok fd) → fd ∉ table w ∧ table w' = table w ++ [fd]
  dup_error : ∀ {w w' n e}, O.dup w n = (w', .error e) → table w' = table w
  tunInfo : ∀ w fd, table (O.tunInfo w fd).1 = table w
  close : ∀ {w fd}, fd ∈ table w → table (O.close w fd) = (table w).erase fd

/-- The table after an opening from `w` that gives `r`: after a failure the table is as it was;
after a success it has the new device's descriptor added, which was not open before. -/
def Settled {α : Type} (table : ω → List φ) (w : ω) (fdOf : α → φ) (r : ω × Except TunError α) :
    Prop :=
  match r.2 with
  | .error _ => table r.1 = table w
  | .ok a => fdOf a ∉ table w ∧ table r.1 = table w ++ [fdOf a]

theorem erase_concat_fresh [DecidableEq φ] {l : List φ} {fd : φ} (fresh : fd ∉ l) :
    (l ++ [fd]).erase fd = l := by
  rw [List.erase_append_right _ fresh, List.erase_cons_head, List.append_nil]

theorem Lawful.close_added [DecidableEq φ] {O : Opening ω φ} {table : ω → List φ}
    (laws : O.Lawful table) {w w' : ω} {fd : φ} (fresh : fd ∉ table w)
    (added : table w' = table w ++ [fd]) : table (O.close w' fd) = table w := by
  rw [laws.close (by simp [added]), added, erase_concat_fresh fresh]

section Laws

variable [DecidableEq φ] {O : Opening ω φ} {table : ω → List φ} (laws : O.Lawful table) (w : ω)
include laws

theorem Lawful.setNonblocking (fd : φ) : table (O.setNonblocking w fd).1 = table w := by
  rcases hg : O.getFlags w fd with ⟨w₁, e | flags⟩
  · simpa [Opening.setNonblocking, hg] using laws.getFlags w fd
  have kept : table w₁ = table w := by simpa [hg] using laws.getFlags w fd
  by_cases set : flags &&& nonblockFlag = 0
  · simp only [Opening.setNonblocking, hg, set, if_true]
    rw [laws.setFlags, kept]
  · simpa [Opening.setNonblocking, hg, set] using kept

theorem Lawful.byName (name : String) :
    Settled table w (·.2.fd) (O.byName w name) ∧
      ∀ fd, .closed fd ∈ (O.traced.byName (w, []) name).1.2 → fd ∉ table w := by
  by_cases long : ifNameSize ≤ name.utf8ByteSize
  · simp [Settled, Opening.byName, long]
  rcases hc : O.createIface w name with ⟨w₁, e | ⟨fd, resolved⟩⟩
  · simp [Settled, Opening.byName, long, hc, laws.createIface_error hc]
  obtain ⟨fresh, added⟩ := laws.createIface_ok hc
  obtain ⟨evs, flagsRun, flagsTrace⟩ :=
    O.traced_setNonblocking w₁ [.created name (.ok (fd, resolved))] fd
  have kept := laws.setNonblocking w₁ fd
  rcases hn : O.setNonblocking w₁ fd with ⟨w₂, e | ⟨⟩⟩
  · -- the failed flag call's descriptor is the new one, and closing it gives the table back
    rw [hn] at kept
    have closed := laws.close_added fresh (kept.trans added)
    refine ⟨by simpa [Settled, Opening.byName, long, hc, hn] using closed, fun fd' hfd => ?_⟩
    simp [Opening.byName, long, hc, flagsRun, hn] at hfd
    rcases hfd with inFlags | rfl
    · exact absurd inFlags flagsTrace.not_closed
    · exact fresh
  · rw [hn] at kept
    refine ⟨by simpa [Settled, Opening.byName, long, hc, hn, kept] using ⟨fresh, added⟩,
      fun fd' hfd => ?_⟩
    simp [Opening.byName, long, hc, flagsRun, hn] at hfd
    exact absurd hfd flagsTrace.not_closed

theorem Lawful.byDescriptor (n : Int) :
    Settled table w (·.2.fd) (O.byDescriptor w n) ∧
      ∀ fd, .closed fd ∈ (O.traced.byDescriptor (w, []) n).1.2 → fd ∉ table w := by
  rcases hd : O.dup w n with ⟨w₁, e | fd⟩
  · simp [Settled, Opening.byDescriptor, hd, laws.dup_error hd]
  obtain ⟨fresh, added⟩ := laws.dup_ok hd
  have kept : table (O.tunInfo w₁ fd).1 = table w ++ [fd] := (laws.tunInfo w₁ fd).trans added
  -- the duplicate is closed on both failures, which gives the table back
  rcases hi : O.tunInfo w₁ fd with ⟨w₂, e | ⟨name, flags⟩⟩
  · rw [hi] at kept
    refine ⟨by simpa [Settled, Opening.byDescriptor, hd, hi] using laws.close_added fresh kept,
      fun fd' hfd => ?_⟩
    simp [Opening.byDescriptor, hd, hi] at hfd
    exact hfd ▸ fresh
  rw [hi] at kept
  cases tun : isTunNoPi flags
  · refine ⟨by simpa [Settled, Opening.byDescriptor, hd, hi, tun] using laws.close_added fresh kept,
      fun fd' hfd => ?_⟩
    simp [Opening.byDescriptor, hd, hi, tun] at hfd
    exact hfd ▸ fresh
  · refine ⟨by simpa [Settled, Opening.byDescriptor, hd, hi, tun] using ⟨fresh, kept⟩,
      fun fd' hfd => ?_⟩
    simp [Opening.byDescriptor, hd, hi, tun] at hfd

theorem Lawful.openSpec (spec : String) :
    Settled table w (·.handle.fd) (O.openSpec w spec) ∧
      ∀ fd, .closed fd ∈ (O.traced.openSpec (w, []) spec).1.2 → fd ∉ table w := by
  rcases hp : DeviceSpec.parse spec with e | s
  · simp [Settled, Opening.openSpec, hp]
  rcases hk : s.kind with n | n
  · obtain ⟨settled, closes⟩ := laws.byName w n
    rw [O.openSpec_of_name w hp hk, O.traced.openSpec_of_name (w, []) hp hk]
    refine ⟨?_, closes⟩
    revert settled
    rcases O.byName w n with ⟨w', e | o⟩ <;> simp [Settled, Except.map]
  · obtain ⟨settled, closes⟩ := laws.byDescriptor w n
    rw [O.openSpec_of_fd w hp hk, O.traced.openSpec_of_fd (w, []) hp hk]
    refine ⟨?_, closes⟩
    revert settled
    rcases O.byDescriptor w n with ⟨w', e | o⟩ <;> simp [Settled, Except.map]

end Laws

/-! ### Openings that ask the system nothing -/

/-- A specification whose opening asks the system nothing: one that does not read, its scheme
refused included, or that names an interface name of `ifNameSize` bytes or more. -/
def AsksNothing (spec : String) : Prop :=
  (∃ e, DeviceSpec.parse spec = .error e) ∨
    ∃ s n, DeviceSpec.parse spec = .ok s ∧ s.kind = .name n ∧ ifNameSize ≤ n.utf8ByteSize

theorem Trace.nil_iff {spec : String} {evs : List (Event φ)} {r : Except TunError (OpenedDevice φ)}
    (h : Trace spec evs r) : evs = [] ↔ AsksNothing spec := by
  cases h with
  | unread e hp => simp [AsksNothing, hp]
  | byName s n evs r hp hk trace =>
    cases trace with
    | tooLong long => simp [AsksNothing, hp, hk, long]
    | createFailed e short => simp [AsksNothing, hp, hk]; omega
    | flagsFailed fd resolved evs e short => simp [AsksNothing, hp, hk]; omega
    | opened fd resolved evs short => simp [AsksNothing, hp, hk]; omega
  | byDescriptor s n evs r hp hk trace =>
    cases trace <;> simp [AsksNothing, hp, hk]

/-- Opening a device on any system whose calls do to the table of open descriptors what they
are documented to do. Writing the calls down changes neither the world nor the result, and the
calls made, with their answers, are one of the traces of the specification: none when it asks
nothing of the system, and otherwise the interface constructor or the duplication first, and a
close of the new descriptor exactly when a later step fails, with the error named after that
step. Every descriptor closed is one the opening made, never one open before it; a failed
opening leaves the table as it was; a successful one adds the device's descriptor, new, and
closing the device gives the table back. -/
theorem open_descriptors [DecidableEq φ] (O : Opening ω φ) (table : ω → List φ)
    (laws : O.Lawful table) (w : ω) (spec : String) :
    (O.traced.openSpec (w, []) spec).1.1 = (O.openSpec w spec).1 ∧
    (O.traced.openSpec (w, []) spec).2 = (O.openSpec w spec).2 ∧
    Trace spec (O.traced.openSpec (w, []) spec).1.2 (O.openSpec w spec).2 ∧
    ((O.traced.openSpec (w, []) spec).1.2 = [] ↔ AsksNothing spec) ∧
    (∀ fd, .closed fd ∈ (O.traced.openSpec (w, []) spec).1.2 → fd ∉ table w) ∧
    (∀ e, (O.openSpec w spec).2 = .error e → table (O.openSpec w spec).1 = table w) ∧
    ∀ dev, (O.openSpec w spec).2 = .ok dev →
      dev.handle.fd ∉ table w ∧ table (O.openSpec w spec).1 = table w ++ [dev.handle.fd] ∧
      table (O.closeHandle (O.openSpec w spec).1 dev.handle) = table w := by
  obtain ⟨evs, run, trace⟩ := O.traced_openSpec w [] spec
  obtain ⟨settled, closes⟩ := laws.openSpec w spec
  rw [run] at closes ⊢
  refine ⟨rfl, rfl, trace, trace.nil_iff, closes, fun e failed => ?_, fun dev opened => ?_⟩
  · simpa [Settled, failed] using settled
  · have added : dev.handle.fd ∉ table w ∧
        table (O.openSpec w spec).1 = table w ++ [dev.handle.fd] := by
      simpa [Settled, opened] using settled
    exact ⟨added.1, added.2, laws.close_added added.1 added.2⟩

/-! ### A system that keeps only its table of descriptors -/

def nextFree (table : List Nat) : Nat := table.foldr max 0 + 1

theorem nextFree_not_mem (table : List Nat) : nextFree table ∉ table := by
  have bound : ∀ x ∈ table, x ≤ table.foldr max 0 := by
    induction table with
    | nil => simp
    | cons y ys ih =>
      intro x hx
      rcases List.mem_cons.mp hx with rfl | hx
      · simp only [List.foldr_cons]
        omega
      · have := ih x hx
        simp only [List.foldr_cons]
        omega
  intro h
  have := bound _ h
  simp only [nextFree] at this
  omega

/-- A system keeping only its table of open descriptors, by number: a new descriptor takes the
number after all open ones, an interface is made under the name asked, a descriptor is read-write
and reports a TUN interface without packet information, only an open descriptor can be
duplicated, and closing a descriptor takes it out of the table. -/
def numbered : Opening (List Nat) Nat where
  createIface table name := (table ++ [nextFree table], .ok (nextFree table, name))
  getFlags table _ := (table, .ok readWriteFlags)
  setFlags table _ _ := (table, .ok ())
  dup table n :=
    if 0 ≤ n ∧ n.toNat ∈ table then (table ++ [nextFree table], .ok (nextFree table))
    else (table, .error (.os .badDescriptor))
  tunInfo table _ := (table, .ok ("tun0", iffTun ||| iffNoPi))
  close table fd := table.erase fd

theorem numbered_lawful : numbered.Lawful id where
  createIface_ok h := by
    simp only [numbered, Prod.mk.injEq, Except.ok.injEq] at h
    obtain ⟨rfl, rfl, -⟩ := h
    exact ⟨nextFree_not_mem _, rfl⟩
  createIface_error h := by simp [numbered] at h
  getFlags _ _ := rfl
  setFlags _ _ _ := rfl
  dup_ok {table _ n _} h := by
    by_cases held : 0 ≤ n ∧ n.toNat ∈ table
    · simp only [numbered, held] at h
      obtain ⟨rfl, rfl⟩ := h
      exact ⟨nextFree_not_mem _, rfl⟩
    · simp [numbered, held] at h
  dup_error {table _ n _} h := by
    by_cases held : 0 ≤ n ∧ n.toNat ∈ table
    · simp [numbered, held] at h
    · simp only [numbered, held, if_false, Prod.mk.injEq] at h
      exact h.1.symm
  tunInfo _ _ := rfl
  close _ := rfl

/-- Opening `fd://3` while descriptors 0 to 3 are open: the device holds a duplicate numbered 4,
and closing the device leaves descriptors 0 to 3 open, descriptor 3 among them. -/
theorem open_descriptors_fd3 : numbered.Lawful id ∧
    ∃ dev, (numbered.openSpec [0, 1, 2, 3] "fd://3").2 = .ok dev ∧ dev.handle = .adopted 4 ∧
      numbered.closeHandle (numbered.openSpec [0, 1, 2, 3] "fd://3").1 dev.handle =
        [0, 1, 2, 3] := by
  have opened : (numbered.openSpec [0, 1, 2, 3] "fd://3").2 =
      .ok ⟨⟨"fd://3", .fd 3, 0⟩, "tun0", .adopted 4⟩ := by rfl
  have closes := (open_descriptors numbered id numbered_lawful [0, 1, 2, 3] "fd://3").2.2.2.2.2.2
    _ opened
  exact ⟨numbered_lawful, _, opened, rfl, closes.2.2⟩

end Opening

end TunBridge
