import TunBridge.Link.ReadLoop
/-!
Which frames the read loop hands on, over every sequence of reads and every schedule of attach
and detach calls around it (`pump_eq`). Main statement: `ReadLoop.inbound_delivery`.
-/
namespace TunBridge

namespace Turn

variable {Sink : Type}

/-- How a turn ends the loop, if it does: with nothing more once the device was let go, and as
`shutdown` says after a failed read, a read of no bytes into a buffer of `len` bytes being the end
of the device. -/
def ending (closed : Bool) (len : Nat) (t : Turn Sink) : Option (List (LoopAction Sink)) :=
  if !t.owned then some [] else
  match t.outcome with
  | .frame bs =>
    if min bs.length len = 0 then some (ReadLoop.shutdown (ReadLoop.failureReport closed endOfFile))
    else none
  | .idle => none
  | .failed e => some (ReadLoop.shutdown (ReadLoop.failureReport closed e))

/-- What a turn that does not end the loop hands on: its frame as far as a buffer of `len` bytes
holds it, tagged by its version, to the sink the injection found, when the check found one too. -/
def handed (len : Nat) (t : Turn Sink) : List (LoopAction Sink) :=
  match t.outcome, t.atCheck, t.atInject with
  | .frame bs, some _, some s => [.deliver s ⟨.ofFrame (bs.take len), bs.take len⟩]
  | _, _, _ => []

def refill (buf : List UInt8) (t : Turn Sink) : List UInt8 :=
  match t.outcome with
  | .frame bs => ReadLoop.recvInto buf bs
  | _ => buf

@[simp] theorem length_refill (buf : List UInt8) (t : Turn Sink) :
    (t.refill buf).length = buf.length := by
  unfold refill
  split <;> simp

def seen (t : Turn Sink) : ReadOutcome × Bool := (t.outcome, t.atCheck.isSome)

end Turn

namespace LoopAction

variable {Sink : Type}

def delivery? : LoopAction Sink → Option Delivery
  | .deliver _ d => some d
  | _ => none

@[simp] theorem delivery?_shutdown (report : Option TunError) :
    (ReadLoop.shutdown report : List (LoopAction Sink)).filterMap delivery? = [] := by
  cases report <;> simp [ReadLoop.shutdown, delivery?]

@[simp] theorem filter_shutdown (report : Option TunError) :
    (ReadLoop.shutdown report : List (LoopAction Sink)).filter (·.delivery?.isNone) =
      ReadLoop.shutdown report := by
  cases report <;> simp [ReadLoop.shutdown, delivery?]

end LoopAction

namespace ReadLoop

variable {Sink : Type}

theorem pump_cons_of_ending {closed : Bool} {buf : List UInt8} {t : Turn Sink}
    {acts : List (LoopAction Sink)} (h : t.ending closed buf.length = some acts)
    (rest : List (Turn Sink)) : pump closed buf (t :: rest) = acts := by
  unfold Turn.ending at h
  cases howned : t.owned
  · simp only [howned, Bool.not_false, if_true, Option.some.injEq] at h
    simp [pump, howned, h]
  · cases hout : t.outcome with
    | idle => simp [howned, hout] at h
    | failed e =>
      simp only [howned, hout, Bool.not_true, Bool.false_eq_true, if_false, Option.some.injEq] at h
      simp [pump, howned, hout, h]
    | frame bs =>
      by_cases hmin : min bs.length buf.length = 0
      · simp only [howned, hout, hmin, Bool.not_true, Bool.false_eq_true, if_true, if_false,
          Option.some.injEq] at h
        simp [pump, howned, hout, hmin, h]
      · simp [howned, hout, hmin] at h

theorem pump_cons_of_live {closed : Bool} {buf : List UInt8} {t : Turn Sink}
    (h : t.ending closed buf.length = none) (rest : List (Turn Sink)) :
    pump closed buf (t :: rest) = t.handed buf.length ++ pump closed (t.refill buf) rest := by
  unfold Turn.ending at h
  cases howned : t.owned
  · simp [howned] at h
  · cases hout : t.outcome with
    | idle => simp [pump, howned, hout, Turn.handed, Turn.refill]
    | failed e => simp [howned, hout] at h
    | frame bs =>
      have hmin : min bs.length buf.length ≠ 0 := by
        intro hz
        simp [howned, hout, hz] at h
      simp only [pump, howned, Bool.not_true, Bool.false_eq_true, if_false, hout, hmin,
        take_recvInto, Turn.handed, Turn.refill]
      cases t.atCheck <;> cases t.atInject <;> rfl

/-- The loop's actions, without its buffer: what the turns before the first one that ends the
loop hand on, in turn order, then how that turn ends it. -/
theorem pump_eq (closed : Bool) (buf : List UInt8) (turns : List (Turn Sink)) :
    pump closed buf turns =
      (turns.takeWhile fun t => (t.ending closed buf.length).isNone).flatMap
          (Turn.handed buf.length) ++
        (turns.findSome? (Turn.ending closed buf.length)).getD [] := by
  -- the buffer changes from turn to turn, its length does not
  induction turns generalizing buf with
  | nil => rfl
  | cons t rest ih =>
    cases hend : t.ending closed buf.length with
    | some acts => simp [pump_cons_of_ending hend, hend]
    | none =>
      rw [pump_cons_of_live hend, ih, Turn.length_refill]
      simp [hend]

/-- A buffer holding older bytes, a frame handed on, a frame whose sink was detached before the
injection, an idle read and a failure on a closed device. -/
example : pump true [9, 9, 9] [{ outcome := .frame [0x45, 1], atCheck := some 0, atInject := some 0 },
    { outcome := .frame [0x60], atCheck := some 0, atInject := none },
    { outcome := .idle, atCheck := none, atInject := none },
    { outcome := .failed IoError.closed, atCheck := some 0, atInject := some 0 },
    { outcome := .frame [0x45], atCheck := some 0, atInject := some 0 }] =
    [.deliver 0 ⟨.ipv4, [0x45, 1]⟩, .close, .finish] := by
  decide

theorem pump_append_of_ending {closed : Bool} {buf : List UInt8} {t : Turn Sink}
    (h : (t.ending closed buf.length).isSome) (pre post : List (Turn Sink)) :
    pump closed buf (pre ++ t :: post) = pump closed buf (pre ++ [t]) := by
  induction pre generalizing buf with
  | nil =>
    obtain ⟨acts, hacts⟩ := Option.isSome_iff_exists.mp h
    rw [List.nil_append, List.nil_append, pump_cons_of_ending hacts, pump_cons_of_ending hacts]
  | cons u pre ih =>
    rw [List.cons_append, List.cons_append]
    cases hend : u.ending closed buf.length with
    | some acts => rw [pump_cons_of_ending hend, pump_cons_of_ending hend]
    | none =>
      have hkeep : (t.ending closed (u.refill buf).length).isSome := by rwa [Turn.length_refill]
      rw [pump_cons_of_live hend, pump_cons_of_live hend, ih hkeep]

/-- Where the two looks at the sink agree, the device stays owned and every frame fits the
buffer, the loop hands on the frames `run` delivers, in the same order, and ends as `run` stops. -/
theorem pump_run {closed : Bool} {buf : List UInt8} {turns : List (Turn Sink)}
    (h : ∀ t ∈ turns, t.owned = true ∧ t.atCheck.isSome = t.atInject.isSome ∧
      ∀ bs, t.outcome = .frame bs → bs.length ≤ buf.length) :
    (pump closed buf turns).filterMap LoopAction.delivery? = (run closed (turns.map Turn.seen)).1 ∧
      (pump closed buf turns).filter (·.delivery?.isNone) =
        ((run closed (turns.map Turn.seen)).2.map shutdown).getD [] := by
  induction turns generalizing buf with
  | nil => simp [pump, run]
  | cons t rest ih =>
    obtain ⟨howned, hlooks, hfit⟩ := h t List.mem_cons_self
    have hrest := @ih (t.refill buf) fun u hu => by
      rw [Turn.length_refill]
      exact h u (List.mem_cons_of_mem _ hu)
    cases hout : t.outcome with
    | idle =>
      have hend : t.ending closed buf.length = none := by simp [Turn.ending, howned, hout]
      rw [pump_cons_of_live hend]
      simpa [Turn.handed, hout, Turn.seen, run, ReadOutcome.react] using hrest
    | failed e =>
      have hend : t.ending closed buf.length = some (shutdown (failureReport closed e)) := by
        simp [Turn.ending, howned, hout]
      rw [pump_cons_of_ending hend]
      simp [Turn.seen, hout, run, ReadOutcome.react, failureReport]
    | frame bs =>
      cases bs with
      | nil =>
        have hend : t.ending closed buf.length = some (shutdown (failureReport closed endOfFile)) := by
          simp [Turn.ending, howned, hout]
        rw [pump_cons_of_ending hend]
        simp [Turn.seen, hout, run, ReadOutcome.react, failureReport]
      | cons b bs =>
        have hlen := hfit _ hout
        have hpos : min (b :: bs).length buf.length ≠ 0 := by
          rw [Nat.min_eq_left hlen]
          exact Nat.succ_ne_zero _
        have hend : t.ending closed buf.length = none := by
          simp only [Turn.ending, howned, Bool.not_true, Bool.false_eq_true, if_false, hout, hpos]
        have htake : (b :: bs).take buf.length = b :: bs := List.take_of_length_le hlen
        rw [pump_cons_of_live hend]
        cases hc : t.atCheck <;> cases hi : t.atInject <;> simp [hc, hi] at hlooks <;>
          simpa [Turn.handed, hout, hc, hi, htake, Turn.seen, run, ReadOutcome.react,
            LoopAction.delivery?] using hrest

/-- For every sequence of turns of the read loop, whatever each read gives and whatever sinks
other threads attach and detach around it, and whatever the buffer it reuses holds: the loop
hands on, in read order and each at most once, the frames of the turns before the first one that
ends it whose check and injection both found a sink, each as the bytes the read gave (as far as
the buffer holds them, whatever it held before) tagged by its version, to the sink the injection
found; a frame read with no sink attached at the check is never handed on; an idle read hands on
nothing and the loop reads again; the first zero-length read or failure makes the loop report it
unless the device was closed, close the device and mark its read task finished, and nothing after
it is read. The tag is IPv4 for version 4, IPv6 for version 6 and unknown otherwise,
and the frame is handed on all the same. Where the two looks agree, the device stays owned and
frames fit the buffer, this is what `run` delivers and how it stops. -/
theorem inbound_delivery {Sink : Type} :
    (∀ (closed : Bool) (buf : List UInt8) (turns : List (Turn Sink)),
      pump closed buf turns =
        (turns.takeWhile fun t => (t.ending closed buf.length).isNone).flatMap
            (Turn.handed buf.length) ++
          (turns.findSome? (Turn.ending closed buf.length)).getD []) ∧
    (∀ (closed : Bool) (buf : List UInt8) (t : Turn Sink) (pre post : List (Turn Sink)),
      (t.ending closed buf.length).isSome →
        pump closed buf (pre ++ t :: post) = pump closed buf (pre ++ [t])) ∧
    (∀ (b : UInt8) (bs : List UInt8), NetworkProtocol.ofFrame (b :: bs) =
      if (b &&& 0xF0) >>> 4 = 4 then .ipv4 else if (b &&& 0xF0) >>> 4 = 6 then .ipv6 else .unknown) ∧
    NetworkProtocol.ofFrame [] = .unknown ∧
    ∀ (closed : Bool) (buf : List UInt8) (turns : List (Turn Sink)),
      (∀ t ∈ turns, t.owned = true ∧ t.atCheck.isSome = t.atInject.isSome ∧
        ∀ bs, t.outcome = .frame bs → bs.length ≤ buf.length) →
      (pump closed buf turns).filterMap LoopAction.delivery? = (run closed (turns.map Turn.seen)).1 ∧
        (pump closed buf turns).filter (·.delivery?.isNone) =
          ((run closed (turns.map Turn.seen)).2.map shutdown).getD [] :=
  ⟨pump_eq, fun _ _ _ pre post h => pump_append_of_ending h pre post,
    NetworkProtocol.ofFrame_cons, NetworkProtocol.ofFrame_nil, fun _ _ _ h => pump_run h⟩

end ReadLoop

end TunBridge
