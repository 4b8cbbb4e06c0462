import TwoWay.Timestamp.Codec

/-!
# Fractions in units of 232 picoseconds

**Theorem (`fraction_ahead`).** A fraction counts units of 232 picoseconds, a little less than
`2^-32` seconds, so a receiver that takes it for an exact one sees a time ahead of the reading, by
less than 3567588 nanoseconds. It is ahead the most where the 32 bits are used up, at 996432412
nanoseconds (`units_lt_units_iff`).
-/

namespace TwoWay.Codec

/-- Units of 232 picoseconds in so many nanoseconds, as long as the 32 bits last. -/
def units (nanos : Nat) : Nat := min (nanos * 1000 / 232) 4294967295

/-- Units of `2^-32` seconds in so many nanoseconds. -/
def exactUnits (nanos : Nat) : Nat := nanos * 4294967296 / 1000000000

theorem toNat_fraction_ntp (now : UInt64) :
    (ntp.encode now).fraction.toNat = units (now.toNat % 1000000000) :=
  toNat_fraction_encode_ntp now

/-! ## Units that are counted -/

variable {m n nanos : Nat}

theorem units_of_le (h : nanos ≤ 996432412) : units nanos = nanos * 125 / 29 := by
  unfold units
  omega

theorem units_of_lt (h : 996432412 < nanos) : units nanos = 4294967295 := by
  unfold units
  omega

theorem units_mono (h : m ≤ n) : units m ≤ units n := by
  unfold units
  omega

theorem units_lt_units_iff (h : m < n) : units m < units n ↔ m ≤ maxFractionNanos.toNat := by
  rw [toNat_maxFractionNanos]
  by_cases hm : m ≤ 996432412
  · have hfirst := units_of_le hm
    by_cases hn : n ≤ 996432412
    · -- A nanosecond is more than four units, so rounding down does not hide it.
      have hsecond := units_of_le hn
      omega
    · have hsecond := units_of_lt (Nat.not_le.1 hn)
      omega
  · have hfirst := units_of_lt (Nat.not_le.1 hm)
    have hsecond := units_of_lt (Nat.lt_trans (Nat.not_le.1 hm) h)
    omega

/-! ## Units that are meant -/

theorem exactUnits_le_units (h : nanos < 1000000000) : exactUnits nanos ≤ units nanos := by
  unfold exactUnits
  by_cases hunits : nanos ≤ 996432412
  · rw [units_of_le hunits]
    omega
  · rw [units_of_lt (Nat.not_le.1 hunits)]
    omega

theorem units_ahead_lt (h : nanos < 1000000000) :
    units nanos * 1000000000 < (nanos + 3567588) * 4294967296 := by
  by_cases hunits : nanos ≤ 996432412
  · rw [units_of_le hunits]
    omega
  · rw [units_of_lt (Nat.not_le.1 hunits)]
    omega

/-- **Fractions as others read them.** Every fraction is at least the exact one, and less than
3567588 nanoseconds ahead; the last nanosecond with units of its own is more than 3567587 ahead. -/
theorem fraction_ahead (now : UInt64) :
    exactUnits (now.toNat % 1000000000) ≤ (ntp.encode now).fraction.toNat ∧
    let nanos := now.toNat % 1000000000
    let fraction := (ntp.encode now).fraction.toNat
    fraction * 1000000000 < (nanos + 3567588) * 4294967296 ∧
      (nanos = 996432412 → (nanos + 3567587) * 4294967296 < fraction * 1000000000) := by
  have hnanos : now.toNat % 1000000000 < 1000000000 := Nat.mod_lt now.toNat (by decide)
  rw [toNat_fraction_ntp]
  refine ⟨exactUnits_le_units hnanos, units_ahead_lt hnanos, fun hlast => ?_⟩
  rw [units_of_le (Nat.le_of_eq hlast), hlast]
  decide

end TwoWay.Codec
