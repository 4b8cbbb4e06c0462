import Mathlib.Algebra.Order.Floor.Div
import TwoWay.Proofs.Fractions

/-!
# Timestamps that are read and written again

**Theorem (`encode_decode`).** What any timestamp becomes when it is read and written again, and any
reading, with either codec. A fraction is rounded down to nanoseconds first and then to units; as 29
nanoseconds are 125 units, every 125th fraction comes back.
-/

namespace TwoWay.Codec

/-- A fraction is the units of its nanoseconds and those lost with the picoseconds. -/
theorem units_add_lost {fraction : Nat} (h : fraction ≤ 4294967295) :
    units (fraction * 232 / 1000) + 232 * fraction % 1000 ⌈/⌉ 232 = fraction := by
  have hnanos : fraction * 232 / 1000 ≤ 996432412 := by omega
  rw [units_of_le hnanos, Nat.ceilDiv_eq_add_pred_div]
  omega

theorem lost_le (fraction : Nat) : 232 * fraction % 1000 ⌈/⌉ 232 ≤ 5 := by
  rw [Nat.ceilDiv_eq_add_pred_div]
  omega

theorem lost_eq_zero_iff (fraction : Nat) :
    232 * fraction % 1000 ⌈/⌉ 232 = 0 ↔ 125 ∣ fraction := by
  rw [Nat.ceilDiv_eq_add_pred_div]
  omega

theorem toNat_seconds_encode_decode_ntp (t : Timestamp) :
    (ntp.encode (ntp.decode t)).seconds.toNat = max t.seconds.toNat 2208988800 := by
  have hs := t.seconds.toNat_lt
  have hf := t.fraction.toNat_lt
  -- The largest fraction stays below a second, so nothing is carried over to the seconds.
  have hcarry : t.fraction.toNat * 232 / 1000 < 1000000000 := by omega
  rw [toNat_seconds_encode_ntp, toNat_decode_ntp, Nat.mul_comm _ 1000000000,
    Nat.mul_add_div (by decide), Nat.div_eq_of_lt hcarry]
  omega

theorem toNat_fraction_encode_decode_ntp (t : Timestamp) :
    (ntp.encode (ntp.decode t)).fraction.toNat = units (t.fraction.toNat * 232 / 1000) := by
  have hf := t.fraction.toNat_lt
  rw [toNat_fraction_ntp, toNat_decode_ntp]
  congr 1
  omega

theorem toNat_seconds_encode_decode_unix (t : Timestamp) :
    (unix.encode (unix.decode t)).seconds.toNat =
      (t.seconds.toNat + t.fraction.toNat / 1000000000) % 4294967296 := by
  rw [toNat_seconds_encode_unix, toNat_decode_unix]
  omega

theorem toNat_fraction_encode_decode_unix (t : Timestamp) :
    (unix.encode (unix.decode t)).fraction.toNat = t.fraction.toNat % 1000000000 := by
  rw [toNat_fraction_encode_unix, toNat_decode_unix]
  omega

theorem toNat_decode_encode_unix (now : UInt64) :
    (unix.decode (unix.encode now)).toNat = now.toNat % (4294967296 * 1000000000) := by
  rw [toNat_decode_unix, toNat_seconds_encode_unix, toNat_fraction_encode_unix]
  omega

/-- **Timestamps read and written again.** With the NTP codec a fraction loses five units at most,
and a timestamp comes back exactly if it is of 1970 or later and its fraction is a multiple of 125.
With the Unix codec the fraction has to be less than a second, and a reading loses its eras. -/
theorem encode_decode (t : Timestamp) :
    let seconds := t.seconds.toNat
    let fraction := t.fraction.toNat
    let overNtp := ntp.encode (ntp.decode t)
    let overUnix := unix.encode (unix.decode t)
    (overNtp.seconds.toNat = max seconds 2208988800 ∧
      overNtp.fraction.toNat + 232 * fraction % 1000 ⌈/⌉ 232 = fraction ∧
      overNtp.fraction.toNat ≤ fraction ∧ fraction ≤ overNtp.fraction.toNat + 5 ∧
      (overNtp = t ↔ 2208988800 ≤ seconds ∧ 125 ∣ fraction)) ∧
    (overUnix.seconds.toNat = (seconds + fraction / 1000000000) % 4294967296 ∧
      overUnix.fraction.toNat = fraction % 1000000000 ∧
      (overUnix = t ↔ fraction < 1000000000)) ∧
    ∀ now : UInt64,
      (unix.decode (unix.encode now)).toNat = now.toNat % (4294967296 * 1000000000) := by
  intro seconds fraction overNtp overUnix
  have hs : seconds < 4294967296 := t.seconds.toNat_lt
  have hf : fraction < 4294967296 := t.fraction.toNat_lt
  refine ⟨?_, ?_, toNat_decode_encode_unix⟩
  · have hseconds : overNtp.seconds.toNat = max seconds 2208988800 :=
      toNat_seconds_encode_decode_ntp t
    have hfraction : overNtp.fraction.toNat + 232 * fraction % 1000 ⌈/⌉ 232 = fraction := by
      rw [toNat_fraction_encode_decode_ntp t]
      exact units_add_lost (by omega)
    have hlost := lost_le fraction
    have hwhole := lost_eq_zero_iff fraction
    refine ⟨hseconds, hfraction, by omega, by omega, ?_⟩
    -- No fraction gains, so it comes back if and only if it has lost nothing.
    rw [Timestamp.eq_iff_toNat, hseconds, ← hwhole]
    omega
  · have hseconds : overUnix.seconds.toNat = (seconds + fraction / 1000000000) % 4294967296 :=
      toNat_seconds_encode_decode_unix t
    have hfraction : overUnix.fraction.toNat = fraction % 1000000000 :=
      toNat_fraction_encode_decode_unix t
    refine ⟨hseconds, hfraction, ?_⟩
    rw [Timestamp.eq_iff_toNat, hseconds, hfraction]
    omega

/-- A fraction from which five units are lost. -/
example : ntp.encode (ntp.decode ⟨3908988800, 56⟩) = ⟨3908988800, 51⟩ := by decide

end TwoWay.Codec
