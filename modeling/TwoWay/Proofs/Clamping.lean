import TwoWay.Proofs.Measurements

/-!
# Clamped on the way

**Theorem (`roundTrip_eq_nearest_iff`).** The round trip is a clamped difference of two clamped
differences. What clamping takes from the inner two (`excess`) does not come back in the outer one,
so with a codec that uses the whole range of a word a round trip can be wrong that would have fitted
(`roundTrip_of_long_dwell`).
-/

namespace TwoWay

/-! ## What clamping takes -/

/-- How far an integer is above or below the signed words. -/
def excess (z : Int) : Int := z - (nearestInt64 z).toInt

theorem toInt_nearestInt64_eq_sub (z : Int) : (nearestInt64 z).toInt = z - excess z := by
  rw [excess]
  omega

theorem excess_eq_zero_iff (z : Int) : excess z = 0 ↔ FitsInt64 z := by
  simp only [excess, toInt_nearestInt64, FitsInt64, minInt64, maxInt64]
  omega

theorem excess_pos_iff (z : Int) : 0 < excess z ↔ maxInt64 < z := by
  simp only [excess, toInt_nearestInt64, minInt64, maxInt64]
  omega

theorem excess_neg_iff (z : Int) : excess z < 0 ↔ z < minInt64 := by
  simp only [excess, toInt_nearestInt64, minInt64, maxInt64]
  omega

/-- The integer with more excess is at the upper end, or else the other is at the lower one. -/
theorem toInt_nearestInt64_le_of_excess_lt {x y : Int} (h : excess x < excess y) :
    (nearestInt64 x).toInt ≤ (nearestInt64 y).toInt := by
  rcases Int.lt_or_le 0 (excess y) with hy | hy
  · have hmax := (excess_pos_iff y).1 hy
    simp only [toInt_nearestInt64]
    omega
  · have hmin := (excess_neg_iff x).1 (by omega)
    simp only [toInt_nearestInt64]
    omega

/-- Adding away from zero changes nothing if nothing is added or that end is reached already. -/
theorem toInt_nearestInt64_add_eq_iff {z k : Int} (hpos : 0 < k → 0 ≤ z) (hneg : k < 0 → z ≤ 0) :
    (nearestInt64 z).toInt = (nearestInt64 (z + k)).toInt ↔
      k = 0 ∨ 0 < k ∧ (nearestInt64 z).toInt = maxInt64 ∨
        k < 0 ∧ (nearestInt64 z).toInt = minInt64 := by
  simp only [toInt_nearestInt64, minInt64, maxInt64]
  omega

/-- Clamping two integers and then their difference, against clamping the difference alone. -/
theorem toInt_nearestInt64_sub_eq_iff (x y : Int) :
    let z := (nearestInt64 x).toInt - (nearestInt64 y).toInt
    (nearestInt64 z).toInt = (nearestInt64 (x - y)).toInt ↔
      excess x = excess y ∨ excess y < excess x ∧ (nearestInt64 z).toInt = maxInt64 ∨
        excess x < excess y ∧ (nearestInt64 z).toInt = minInt64 := by
  intro z
  have hexact : x - y = z + (excess x - excess y) := by
    have hx := toInt_nearestInt64_eq_sub x
    have hy := toInt_nearestInt64_eq_sub y
    omega
  -- What is lost on the way points away from zero, as the difference of the clamped words does.
  have hpos : 0 < excess x - excess y → 0 ≤ z := fun h => by
    have hle := toInt_nearestInt64_le_of_excess_lt (x := y) (y := x) (by omega)
    omega
  have hneg : excess x - excess y < 0 → z ≤ 0 := fun h => by
    have hle := toInt_nearestInt64_le_of_excess_lt (x := x) (y := y) (by omega)
    omega
  rw [hexact, toInt_nearestInt64_add_eq_iff hpos hneg]
  omega

/-! ## The round trip -/

namespace Delays

/-- **The round trip, with any codec.** It is the signed word nearest to the exact one exactly if
clamping takes as much from both inner differences, or more from the one that has driven it to that
end of the range. In particular it is if both fit. -/
theorem roundTrip_eq_nearest_iff (codec : Codec) (reply : Reply) (arrival : Timestamp) :
    let d := Delays.ofReply codec reply arrival
    let whole : Int :=
      (codec.decode arrival).toNat - (codec.decode reply.senderTimestamp).toNat
    let dwell : Int :=
      (codec.decode reply.timestamp).toNat - (codec.decode reply.receiveTimestamp).toNat
    (d.roundTrip = nearestInt64 (whole - dwell) ↔
      excess whole = excess dwell ∨
        excess dwell < excess whole ∧ d.roundTrip.toInt = maxInt64 ∨
        excess whole < excess dwell ∧ d.roundTrip.toInt = minInt64) ∧
      (FitsInt64 whole → FitsInt64 dwell → d.roundTrip = nearestInt64 (whole - dwell)) := by
  intro d whole dwell
  have hnearest : d.roundTrip = nearestInt64 (whole - dwell) ↔
      excess whole = excess dwell ∨
        excess dwell < excess whole ∧ d.roundTrip.toInt = maxInt64 ∨
        excess whole < excess dwell ∧ d.roundTrip.toInt = minInt64 := by
    rw [← Int64.toInt_inj]
    exact toInt_nearestInt64_sub_eq_iff whole dwell
  refine ⟨hnearest, fun hwhole hdwell => hnearest.2 (.inl ?_)⟩
  rw [(excess_eq_zero_iff whole).2 hwhole, (excess_eq_zero_iff dwell).2 hdwell]

end Delays

/-- A codec that uses the whole range of a word. -/
def Codec.halves : Codec where
  encode now := ⟨(now / 4294967296).toUInt32, now.toUInt32⟩
  decode t := t.seconds.toUInt64 * 4294967296 + t.fraction.toUInt64

namespace Delays

/-- Held one nanosecond too long for a signed word, a probe is told a round trip of none. -/
theorem roundTrip_of_long_dwell :
    let codec := Codec.halves
    let reply : Reply := ⟨7, ⟨2147483648, 0⟩, ⟨1⟩, ⟨0, 0⟩, 7, ⟨0, 0⟩, ⟨1⟩, 64⟩
    let arrival : Timestamp := ⟨2147483648, 1000⟩
    let whole : Int :=
      (codec.decode arrival).toNat - (codec.decode reply.senderTimestamp).toNat
    let dwell : Int :=
      (codec.decode reply.timestamp).toNat - (codec.decode reply.receiveTimestamp).toNat
    let d := Delays.ofReply codec reply arrival
    whole - dwell = 1000 ∧ d.roundTrip.toInt = 0 ∧ d.roundTrip ≠ nearestInt64 (whole - dwell) := by
  decide

end Delays

end TwoWay
