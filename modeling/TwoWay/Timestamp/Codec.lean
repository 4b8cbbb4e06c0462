import TwoWay.Clamp
import TwoWay.Timestamp.Basic

/-!
# Timestamp codecs

A codec puts nanoseconds since 1970 on the wire and reads them back. NTP counts seconds from 1900
and fractions in units of 232 picoseconds, so that a fraction is a little ahead of the true one and
the last few milliseconds of a second share the largest. Unix sends seconds and nanoseconds.
-/

namespace TwoWay

abbrev nanosPerSecond : UInt64 := 1000000000

/-- A way to write clock readings, in nanoseconds since 1970, as timestamps. -/
structure Codec where
  encode : UInt64 → Timestamp
  decode : Timestamp → UInt64

namespace Codec

/-- Seconds from the start of 1900 to the start of 1970. -/
abbrev eraOffset : UInt64 := 2208988800

/-- Picoseconds in one unit of an NTP fraction. -/
abbrev fractionPicos : UInt64 := 232

abbrev maxFraction : UInt64 := 4294967295

/-- Nanoseconds spelled by the largest NTP fraction; later ones in a second are not told apart. -/
abbrev maxFractionNanos : UInt64 := maxFraction * fractionPicos / 1000

/-- Seconds wrap at the end of an era, and a second before 1970 reads as 1970. -/
def ntp : Codec where
  encode now :=
    { seconds := (now / nanosPerSecond + eraOffset).toUInt32
      fraction := (min (now % nanosPerSecond * 1000 / fractionPicos) maxFraction).toUInt32 }
  decode t :=
    subClamped t.seconds.toUInt64 eraOffset * nanosPerSecond +
      t.fraction.toUInt64 * fractionPicos / 1000

/-- The fraction is a number of nanoseconds, and may exceed a second when read. -/
def unix : Codec where
  encode now :=
    { seconds := (now / nanosPerSecond).toUInt32
      fraction := (now % nanosPerSecond).toUInt32 }
  decode t := t.seconds.toUInt64 * nanosPerSecond + t.fraction.toUInt64

/-! ## Values of the built-in codecs -/

theorem toNat_maxFractionNanos : maxFractionNanos.toNat = 996432412 := rfl

theorem toNat_seconds_encode_ntp (now : UInt64) :
    (ntp.encode now).seconds.toNat = (now.toNat / 1000000000 + 2208988800) % 4294967296 := by
  have h := now.toNat_lt
  simp only [ntp, nanosPerSecond, eraOffset, UInt64.toNat_toUInt32, UInt64.toNat_add,
    UInt64.toNat_div, UInt64.reduceToNat]
  omega

theorem toNat_fraction_encode_ntp (now : UInt64) :
    (ntp.encode now).fraction.toNat = min (now.toNat % 1000000000 * 1000 / 232) (4294967295) := by
  have hq : (now % nanosPerSecond * 1000 / fractionPicos).toNat =
      now.toNat % 1000000000 * 1000 / 232 := by
    simp only [nanosPerSecond, fractionPicos, UInt64.toNat_div, UInt64.toNat_mul,
      UInt64.toNat_mod, UInt64.reduceToNat]
    omega
  simp only [ntp, UInt64.toNat_toUInt32]
  by_cases hm : now % nanosPerSecond * 1000 / fractionPicos ≤ maxFraction
  · have hle := UInt64.le_iff_toNat_le.1 hm
    rw [show min (now % nanosPerSecond * 1000 / fractionPicos) maxFraction =
        now % nanosPerSecond * 1000 / fractionPicos from if_pos hm, hq]
    simp only [hq, maxFraction, UInt64.reduceToNat] at hle
    omega
  · have hlt := UInt64.lt_iff_toNat_lt.1 (UInt64.not_le.1 hm)
    rw [show min (now % nanosPerSecond * 1000 / fractionPicos) maxFraction =
        maxFraction from if_neg hm]
    simp only [hq, maxFraction, UInt64.reduceToNat] at hlt ⊢
    omega

theorem toNat_decode_ntp (t : Timestamp) :
    (ntp.decode t).toNat =
      (t.seconds.toNat - 2208988800) * 1000000000 + t.fraction.toNat * 232 / 1000 := by
  have hs := t.seconds.toNat_lt
  have hf := t.fraction.toNat_lt
  simp only [ntp, nanosPerSecond, eraOffset, fractionPicos, UInt64.toNat_add, UInt64.toNat_mul,
    UInt64.toNat_div, toNat_subClamped, UInt32.toNat_toUInt64, UInt64.reduceToNat]
  rw [Nat.mod_eq_of_lt (a := t.fraction.toNat * 232) (by omega),
    Nat.mod_eq_of_lt (a := (t.seconds.toNat - 2208988800) * 1000000000) (by omega)]
  omega

theorem toNat_seconds_encode_unix (now : UInt64) :
    (unix.encode now).seconds.toNat = now.toNat / 1000000000 % 4294967296 := by
  have h : (now / nanosPerSecond).toNat = now.toNat / 1000000000 := UInt64.toNat_div now _
  rw [← h]
  exact UInt64.toNat_toUInt32 _

theorem toNat_fraction_encode_unix (now : UInt64) :
    (unix.encode now).fraction.toNat = now.toNat % 1000000000 := by
  simp only [unix, nanosPerSecond, UInt64.toNat_toUInt32, UInt64.toNat_mod, UInt64.reduceToNat]
  omega

theorem toNat_decode_unix (t : Timestamp) :
    (unix.decode t).toNat = t.seconds.toNat * 1000000000 + t.fraction.toNat := by
  have hs := t.seconds.toNat_lt
  have hf := t.fraction.toNat_lt
  simp only [unix, nanosPerSecond, UInt64.toNat_add, UInt64.toNat_mul, UInt32.toNat_toUInt64,
    UInt64.reduceToNat]
  omega

end Codec

end TwoWay
