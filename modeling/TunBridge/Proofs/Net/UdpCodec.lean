import TunBridge.Net.UdpHeader
/-!
The UDP header codec, against its layout in arithmetic (`Layout`). Main statement:
`UdpHeader.header_codec`.
-/
namespace TunBridge

@[simp] theorem be16_word16 (hi lo : UInt8) : be16 (word16 hi lo) = [hi, lo] := by
  have high : ((word16 hi lo) >>> 8).toUInt8 = hi := by
    apply UInt8.toNat_inj.mp
    have := lo.toNat_lt
    have := hi.toNat_lt
    rw [UInt16.toNat_toUInt8, UInt16.toNat_shiftRight, toNat_word16, Nat.shiftRight_eq_div_pow]
    simp only [UInt16.reduceToNat, Nat.reduceMod, Nat.reducePow]
    omega
  have low : (word16 hi lo).toUInt8 = lo := by
    apply UInt8.toNat_inj.mp
    have := lo.toNat_lt
    rw [UInt16.toNat_toUInt8, toNat_word16]
    omega
  rw [be16, high, low]

def wordAt (bs : List UInt8) (i : Nat) : Nat :=
  (bs.getD i 0).toNat * 256 + (bs.getD (i + 1) 0).toNat

namespace UdpHeader

/-- A text starts with a header: it has eight bytes or more, and each field of the header is the
big-endian word at the field's offset. -/
def Layout (h : UdpHeader) (bs : List UInt8) : Prop :=
  8 ≤ bs.length ∧ h.srcPort.toNat = wordAt bs 0 ∧ h.dstPort.toNat = wordAt bs 2 ∧
    h.length.toNat = wordAt bs 4 ∧ h.checksum.toNat = wordAt bs 6

theorem ofBytes?_eq_none_iff : ∀ bs : List UInt8, ofBytes? bs = none ↔ bs.length < 8
  | [] | [_] | [_, _] | [_, _, _] | [_, _, _, _] | [_, _, _, _, _] | [_, _, _, _, _, _]
  | [_, _, _, _, _, _, _] => by simp [ofBytes?]
  | _ :: _ :: _ :: _ :: _ :: _ :: _ :: _ :: _ => by simp [ofBytes?]

theorem eq_of_ofBytes? : ∀ {bs : List UInt8} {h : UdpHeader}, ofBytes? bs = some h →
    ∃ b0 b1 b2 b3 b4 b5 b6 b7 rest, bs = b0 :: b1 :: b2 :: b3 :: b4 :: b5 :: b6 :: b7 :: rest ∧
      h = ⟨word16 b0 b1, word16 b2 b3, word16 b4 b5, word16 b6 b7⟩
  | b0 :: b1 :: b2 :: b3 :: b4 :: b5 :: b6 :: b7 :: rest, _, hh => by
    cases hh
    exact ⟨b0, b1, b2, b3, b4, b5, b6, b7, rest, rfl, rfl⟩

theorem layout_of_ofBytes? {bs : List UInt8} {h : UdpHeader} (hh : ofBytes? bs = some h) :
    Layout h bs := by
  obtain ⟨b0, b1, b2, b3, b4, b5, b6, b7, rest, rfl, rfl⟩ := eq_of_ofBytes? hh
  simp [Layout, wordAt]

theorem Layout.unique {h h' : UdpHeader} {bs : List UInt8} (lh : Layout h bs) (lh' : Layout h' bs) :
    h = h' := by
  obtain ⟨_, src, dst, len, sum⟩ := lh
  obtain ⟨_, src', dst', len', sum'⟩ := lh'
  cases h
  cases h'
  simp only [mk.injEq]
  exact ⟨UInt16.toNat_inj.mp (src.trans src'.symm), UInt16.toNat_inj.mp (dst.trans dst'.symm),
    UInt16.toNat_inj.mp (len.trans len'.symm), UInt16.toNat_inj.mp (sum.trans sum'.symm)⟩

theorem ofBytes?_eq_some_iff {bs : List UInt8} {h : UdpHeader} :
    ofBytes? bs = some h ↔ Layout h bs := by
  refine ⟨layout_of_ofBytes?, fun lh => ?_⟩
  -- a text of eight bytes or more is read as some header, which is laid out there too
  obtain ⟨h', hh'⟩ := Option.ne_none_iff_exists'.mp
    (mt (ofBytes?_eq_none_iff bs).mp (Nat.not_lt.mpr lh.1))
  rw [hh', (layout_of_ofBytes? hh').unique lh]

theorem ofBytes?_toBytes (h : UdpHeader) : ofBytes? h.toBytes = some h := by
  simp [toBytes, be16, ofBytes?]

theorem toBytes_of_ofBytes? {bs : List UInt8} {h : UdpHeader} (hh : ofBytes? bs = some h) :
    h.toBytes = bs.take 8 := by
  obtain ⟨b0, b1, b2, b3, b4, b5, b6, b7, rest, rfl, rfl⟩ := eq_of_ofBytes? hh
  simp [toBytes]

/-- The header codec: a text is refused exactly when it is shorter than eight bytes; otherwise
it is read as the header whose fields are the big-endian words at offsets 0, 2, 4 and 6, and the
rest of the text is ignored. Writing a header lays its fields out the same way in eight bytes,
reading what was written gives the header back, and writing what was read gives back the first
eight bytes of the text. -/
theorem header_codec :
    (∀ bs : List UInt8, ofBytes? bs = none ↔ bs.length < 8) ∧
    (∀ (bs : List UInt8) (h : UdpHeader), ofBytes? bs = some h ↔ Layout h bs) ∧
    (∀ h : UdpHeader, h.toBytes.length = 8 ∧ Layout h h.toBytes) ∧
    (∀ h : UdpHeader, ofBytes? h.toBytes = some h) ∧
    (∀ (bs : List UInt8) (h : UdpHeader), ofBytes? bs = some h → h.toBytes = bs.take 8) := by
  refine ⟨ofBytes?_eq_none_iff, fun _ _ => ofBytes?_eq_some_iff, fun h => ⟨?_, ?_⟩,
    ofBytes?_toBytes, fun _ _ => toBytes_of_ofBytes?⟩
  · simp [toBytes]
  · exact ofBytes?_eq_some_iff.mp (ofBytes?_toBytes h)

end UdpHeader

end TunBridge
