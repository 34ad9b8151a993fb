import TunBridge.Device.Basic
/-!
Reading a device specification: its URL, its kind, the descriptor read as a signed 32-bit
decimal (`Decimal.I32Text`), the MTU from the first `mtu` query pair (`DeviceSpec.AsksMtu`), and
the MTU a device then answers. Main statement: `DeviceSpec.parse_contract`.
-/
namespace TunBridge

namespace Decimal

def digitsFrom (acc : Nat) (ds : List Char) : Nat :=
  ds.foldl (fun a c => a * 10 + (c.toNat - 48)) acc

def Numeral (ds : List Char) (v : Nat) : Prop :=
  ds ≠ [] ∧ (∀ c ∈ ds, c.isDigit) ∧ v = digitsFrom 0 ds

/-- The text of the signed 32-bit integer `n`: a numeral, possibly after `+`, of value at most
`2^31 - 1`, or a numeral after `-` whose negation is at least `-2^31`. -/
def I32Text (cs : List Char) (n : Int) : Prop :=
  (∃ ds v, (cs = ds ∨ cs = '+' :: ds) ∧ Numeral ds v ∧ n = v ∧ n ≤ 2147483647) ∨
    (∃ ds v, cs = '-' :: ds ∧ Numeral ds v ∧ n = -v ∧ -2147483648 ≤ n)

theorem le_digitsFrom (acc : Nat) (ds : List Char) : acc ≤ digitsFrom acc ds := by
  induction ds generalizing acc with
  | nil => simp [digitsFrom]
  | cons c ds ih =>
    have := ih (acc * 10 + (c.toNat - 48))
    simp only [digitsFrom, List.foldl_cons] at this ⊢
    omega

/-- The digit loop succeeds exactly on digits whose value stays within the bound. The value only
grows, so the bound on the last value bounds every value on the way. -/
theorem magnitude_eq_ok_iff {bound acc : Nat} {excess : IntError} {cs : List Char} {n : Nat}
    (hacc : acc ≤ bound) :
    magnitude bound excess acc cs = .ok n ↔
      (∀ c ∈ cs, c.isDigit) ∧ n = digitsFrom acc cs ∧ n ≤ bound := by
  induction cs generalizing acc with
  | nil =>
    simp only [magnitude, Except.ok.injEq, digitsFrom, List.foldl_nil]
    constructor
    · rintro rfl
      exact ⟨by simp, rfl, hacc⟩
    · exact fun h => h.2.1.symm
  | cons c cs ih =>
    by_cases digit : c.isDigit
    · by_cases room : acc * 10 + (c.toNat - 48) ≤ bound
      · simp [magnitude, digit, room, ih room, digitsFrom]
      · have grows := le_digitsFrom (acc * 10 + (c.toNat - 48)) cs
        simp only [magnitude, digit, room, digitsFrom, List.foldl_cons] at grows ⊢
        simp only [if_true, if_false, reduceCtorEq, false_iff]
        omega
    · simp [magnitude, digit]

theorem unsigned_eq_ok_iff {ds : List Char} {n : Int} (hne : ds ≠ []) :
    (magnitude maxInt32 .tooLarge 0 ds).map Int.ofNat = .ok n ↔
      ∃ v, Numeral ds v ∧ n = v ∧ n ≤ 2147483647 := by
  rcases hm : magnitude maxInt32 .tooLarge 0 ds with e | v
  · simp only [Except.map, reduceCtorEq, false_iff, not_exists, not_and]
    rintro v ⟨-, digits, rfl⟩ rfl bounded
    have accepted := (@magnitude_eq_ok_iff maxInt32 0 .tooLarge ds _ (Nat.zero_le _)).mpr
      ⟨digits, rfl, by simp only [maxInt32]; omega⟩
    simp [hm] at accepted
  · obtain ⟨digits, rfl, bounded⟩ := (magnitude_eq_ok_iff (Nat.zero_le maxInt32)).mp hm
    simp only [Except.map, Except.ok.injEq, Numeral, Int.ofNat_eq_natCast]
    constructor
    · rintro rfl
      exact ⟨_, ⟨hne, digits, rfl⟩, rfl, by simp only [maxInt32] at bounded; omega⟩
    · rintro ⟨v, ⟨-, -, rfl⟩, rfl, -⟩
      rfl

theorem negative_eq_ok_iff {ds : List Char} {n : Int} (hne : ds ≠ []) :
    (magnitude (maxInt32 + 1) .tooSmall 0 ds).map (fun v => -Int.ofNat v) = .ok n ↔
      ∃ v, Numeral ds v ∧ n = -v ∧ -2147483648 ≤ n := by
  rcases hm : magnitude (maxInt32 + 1) .tooSmall 0 ds with e | v
  · simp only [Except.map, reduceCtorEq, false_iff, not_exists, not_and]
    rintro v ⟨-, digits, rfl⟩ rfl bounded
    have accepted := (@magnitude_eq_ok_iff (maxInt32 + 1) 0 .tooSmall ds _ (Nat.zero_le _)).mpr
      ⟨digits, rfl, by simp only [maxInt32]; omega⟩
    simp [hm] at accepted
  · obtain ⟨digits, rfl, bounded⟩ := (magnitude_eq_ok_iff (Nat.zero_le (maxInt32 + 1))).mp hm
    simp only [Except.map, Except.ok.injEq, Numeral, Int.ofNat_eq_natCast]
    constructor
    · rintro rfl
      exact ⟨_, ⟨hne, digits, rfl⟩, rfl, by simp only [maxInt32] at bounded; omega⟩
    · rintro ⟨v, ⟨-, -, rfl⟩, rfl, -⟩
      rfl

theorem parseInt32_eq_ok_iff (cs : List Char) (n : Int) : parseInt32 cs = .ok n ↔ I32Text cs n := by
  rcases cs with _ | ⟨c, rest⟩
  · simp [parseInt32, I32Text, Numeral]
  by_cases plus : c = '+'
  · subst plus
    rcases rest with _ | ⟨d, rest⟩
    · simp [parseInt32, I32Text, Numeral]
    rw [parseInt32.eq_4 _ (by simp), unsigned_eq_ok_iff (by simp)]
    simp [I32Text, Numeral]
  by_cases minus : c = '-'
  · subst minus
    rcases rest with _ | ⟨d, rest⟩
    · simp [parseInt32, I32Text, Numeral]
    rw [parseInt32.eq_5 _ (by simp), negative_eq_ok_iff (by simp)]
    simp [I32Text, Numeral]
  rw [parseInt32.eq_6 _ (by simp) (by simp [plus]) (by simp [minus]) (by simp [plus])
    (by simp [minus]), unsigned_eq_ok_iff (by simp)]
  simp [I32Text, plus, minus]

/-- The range is not symmetric: `-2^31` is read, `2^31` is too large. -/
example : parseInt32 "-2147483648".toList = .ok (-2147483648) ∧
    parseInt32 "2147483648".toList = .error .tooLarge := ⟨rfl, rfl⟩

end Decimal

namespace Url

theorem firstValue_eq_some_iff {query name : String} {v : List UInt8} :
    firstValue query name = some v ↔
      ∃ pre rest, formPairs query = pre ++ (name.toList.flatMap String.utf8EncodeChar, v) :: rest ∧
        ∀ p ∈ pre, p.1 ≠ name.toList.flatMap String.utf8EncodeChar := by
  simp only [firstValue, Option.map_eq_some_iff, List.find?_eq_some_iff_append, decide_eq_true_eq,
    Bool.not_eq_eq_eq_not, Bool.not_true, decide_eq_false_iff_not]
  constructor
  · rintro ⟨⟨k, v⟩, ⟨named, pre, rest, pairs, before⟩, rfl⟩
    subst named
    exact ⟨pre, rest, pairs, before⟩
  · rintro ⟨pre, rest, pairs, before⟩
    exact ⟨_, ⟨rfl, pre, rest, pairs, before⟩, rfl⟩

end Url

namespace DeviceSpec

/-- The query asks for the MTU `n`: its first pair whose decoded name is `mtu` has a value that
reads as the signed 32-bit decimal `n`. Pairs after that one are not looked at. -/
def AsksMtu (query : Option String) (n : Int) : Prop :=
  ∃ q pre v rest, query = some q ∧
    Url.formPairs q = pre ++ ("mtu".toList.flatMap String.utf8EncodeChar, v) :: rest ∧
    (∀ p ∈ pre, p.1 ≠ "mtu".toList.flatMap String.utf8EncodeChar) ∧
    Decimal.parseInt32 (v.map fun b => Char.ofNat b.toNat) = .ok n

theorem asksMtu_iff {query : Option String} {n : Int} :
    AsksMtu query n ↔ ∃ v, query.bind (Url.firstValue · "mtu") = some v ∧
      Decimal.parseInt32 (v.map fun b => Char.ofNat b.toNat) = .ok n := by
  constructor
  · rintro ⟨q, pre, v, rest, rfl, pairs, before, read⟩
    exact ⟨v, Url.firstValue_eq_some_iff.mpr ⟨pre, rest, pairs, before⟩, read⟩
  · rintro ⟨v, first, read⟩
    obtain ⟨q, rfl, first⟩ := Option.bind_eq_some_iff.mp first
    obtain ⟨pre, rest, pairs, before⟩ := Url.firstValue_eq_some_iff.mp first
    exact ⟨q, pre, v, rest, rfl, pairs, before, read⟩

theorem queryMtu_eq_iff {query : Option String} {n : Int} (hn : n ≠ 0) :
    queryMtu query = n ↔ AsksMtu query n := by
  rw [asksMtu_iff, queryMtu]
  rcases hq : query.bind (Url.firstValue · "mtu") with _ | v
  · simp [Ne.symm hn]
  · rcases hp : Decimal.parseInt32 (v.map fun b => Char.ofNat b.toNat) with e | m
    · simp [hp, Ne.symm hn]
    · simp [hp]

/-- Only the first `mtu` pair counts, its name and value decoded: here `mt%75` is `mtu` and `%2B`
is `+`, and the later `mtu=9` is not looked at. -/
example : queryMtu (some "mt%75=%2B1400&mtu=9") = 1400 ∧ queryMtu (some "mtu=abc&mtu=1400") = 0 :=
  ⟨rfl, rfl⟩

/-- A specification whose MTU comes from a query uses it exactly when the query asks for an MTU
in `1..=65535`. -/
theorem mtuOverride_eq_some_iff {spec : DeviceSpec} {query : Option String}
    (hmtu : spec.mtu = queryMtu query) {m : Nat} :
    spec.mtuOverride = some m ↔ AsksMtu query m ∧ 1 ≤ m ∧ m ≤ maxMtu := by
  rw [mtuOverride]
  by_cases inRange : 1 ≤ spec.mtu ∧ spec.mtu ≤ maxMtu
  · have positive : spec.mtu = (spec.mtu.toNat : Int) := by omega
    rw [if_pos inRange, Option.some.injEq]
    constructor
    · rintro rfl
      exact ⟨(queryMtu_eq_iff (by omega)).mp (by rw [← hmtu, ← positive]), by omega, by omega⟩
    · rintro ⟨asked, low, -⟩
      have used : spec.mtu = m := hmtu.trans ((queryMtu_eq_iff (by omega)).mpr asked)
      omega
  · rw [if_neg inRange]
    simp only [reduceCtorEq, false_iff, not_and]
    intro asked low high
    have used : spec.mtu = m := hmtu.trans ((queryMtu_eq_iff (by omega)).mpr asked)
    exact inRange ⟨by omega, by omega⟩

section Reading

variable {s : String} {u : Url}

theorem parse_of_url_error {e : Url.UrlError} (h : Url.parse s = .error e) :
    parse s = .error (.invalidUrl s e.message) := by
  simp [parse, h]

theorem parse_dev (h : Url.parse s = .ok u) (dev : u.scheme = "dev") :
    parse s = .ok ⟨s, .name (u.host.getD ""), queryMtu u.query⟩ := by
  simp [parse, h, dev]

theorem parse_fd (h : Url.parse s = .ok u) (fd : u.scheme = "fd") {n : Int}
    (read : Decimal.parseInt32 (u.host.getD "").toList = .ok n) :
    parse s = .ok ⟨s, .fd n, queryMtu u.query⟩ := by
  simp [parse, h, fd, read]

theorem parse_bad_fd (h : Url.parse s = .ok u) (fd : u.scheme = "fd") {e : Decimal.IntError}
    (read : Decimal.parseInt32 (u.host.getD "").toList = .error e) :
    parse s =
      .error (.invalidUrl s ("bad descriptor `" ++ u.host.getD "" ++ "`: " ++ e.message)) := by
  simp [parse, h, fd, read]

theorem parse_unsupported (h : Url.parse s = .ok u) (dev : u.scheme ≠ "dev")
    (fd : u.scheme ≠ "fd") :
    parse s = .error (.unsupportedKind ("unsupported device type `" ++ u.scheme ++ "`")) := by
  simp [parse, h, dev, fd]

theorem url_mtu_of_parse {spec : DeviceSpec} (hu : Url.parse s = .ok u) (h : parse s = .ok spec) :
    spec.url = s ∧ spec.mtu = queryMtu u.query := by
  simp only [parse, hu] at h
  -- one case per scheme; the refused ones contradict `h`
  split at h
  · cases h
    exact ⟨rfl, rfl⟩
  · split at h
    · split at h
      · cases h
        exact ⟨rfl, rfl⟩
      · cases h
    · cases h

end Reading

end DeviceSpec

namespace Device

theorem mtu?_of_override {d : Device} {m : Nat} (h : d.spec.mtuOverride = some m) (k : Kernel) :
    d.mtu? k = .ok m := by
  rw [mtu?, h]

theorem mtu?_of_no_override {d : Device} (h : d.spec.mtuOverride = none) (k : Kernel) :
    d.mtu? k = (k.ifaceMtu d.name).mapError fun e => .openFailed "query mtu" (.os e) := by
  rw [mtu?, h]
  cases k.ifaceMtu d.name <;> rfl

end Device

namespace DeviceSpec

/-- Reading a device specification `s`. A URL error is reported with `s` and the error's text.
Otherwise scheme `dev` names the interface by the host (empty without one), `fd` names the
descriptor the host reads as, or is refused with the reader's error under `bad descriptor`, and
any other scheme is refused by name. A specification read keeps `s` as its text, and uses an MTU
exactly when the first `mtu` pair of its query asks for one in `1..=65535`. The reader of signed
32-bit integers accepts exactly their texts. A device answers its specification's MTU whatever
the kernel, and without one the kernel's MTU of its interface, a failure reported as a failed
`query mtu` step. -/
theorem parse_contract :
    (∀ s e, Url.parse s = .error e → parse s = .error (.invalidUrl s e.message)) ∧
    (∀ s u, Url.parse s = .ok u →
      (u.scheme = "dev" → parse s = .ok ⟨s, .name (u.host.getD ""), queryMtu u.query⟩) ∧
      (u.scheme = "fd" → ∀ n, Decimal.parseInt32 (u.host.getD "").toList = .ok n →
        parse s = .ok ⟨s, .fd n, queryMtu u.query⟩) ∧
      (u.scheme = "fd" → ∀ e, Decimal.parseInt32 (u.host.getD "").toList = .error e →
        parse s =
          .error (.invalidUrl s ("bad descriptor `" ++ u.host.getD "" ++ "`: " ++ e.message))) ∧
      (u.scheme ≠ "dev" → u.scheme ≠ "fd" →
        parse s = .error (.unsupportedKind ("unsupported device type `" ++ u.scheme ++ "`"))) ∧
      ∀ spec, parse s = .ok spec → spec.url = s ∧
        ∀ m : Nat, spec.mtuOverride = some m ↔ AsksMtu u.query m ∧ 1 ≤ m ∧ m ≤ maxMtu) ∧
    (∀ cs n, Decimal.parseInt32 cs = .ok n ↔ Decimal.I32Text cs n) ∧
    (∀ (d : Device) (k : Kernel) (m : Nat), d.spec.mtuOverride = some m → d.mtu? k = .ok m) ∧
    (∀ (d : Device) (k : Kernel), d.spec.mtuOverride = none →
      d.mtu? k = (k.ifaceMtu d.name).mapError fun e => .openFailed "query mtu" (.os e)) := by
  refine ⟨fun _ _ => parse_of_url_error, fun s u hu => ⟨parse_dev hu, fun fd _ => parse_fd hu fd,
    fun fd _ => parse_bad_fd hu fd, parse_unsupported hu, fun spec h => ?_⟩,
    Decimal.parseInt32_eq_ok_iff, fun _ k _ h => Device.mtu?_of_override h k,
    fun _ k h => Device.mtu?_of_no_override h k⟩
  obtain ⟨text, mtu⟩ := url_mtu_of_parse hu h
  exact ⟨text, fun _ => mtuOverride_eq_some_iff mtu⟩

end DeviceSpec

end TunBridge
