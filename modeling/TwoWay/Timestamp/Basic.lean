import TwoWay.Octets

/-!
# Timestamps on the wire

Seconds and a fraction, four octets each. What the numbers mean is settled by a codec; order and
octets are not. Main statement: reading the octets of a timestamp gives it back.
-/

namespace TwoWay

/-- Seconds since a codec's epoch and a fraction of a second. -/
structure Timestamp where
  seconds : UInt32
  fraction : UInt32
deriving DecidableEq, Inhabited

namespace Timestamp

abbrev size : Nat := 8

/-- Seconds first, then the fraction. -/
def octets (t : Timestamp) : Octets size :=
  ((Octets.zeros size).put 0 (Octets.ofWord32 t.seconds)).put 4 (Octets.ofWord32 t.fraction)

def ofOctets (v : Octets size) : Timestamp where
  seconds := (v.field 0 4 (by decide)).word32
  fraction := (v.field 4 4 (by decide)).word32

/-- Seconds decide, the fraction breaks ties. -/
instance : Ord Timestamp where
  compare a b := (compare a.seconds b.seconds).then (compare a.fraction b.fraction)

instance : LE Timestamp := leOfOrd

instance : LT Timestamp := ltOfOrd

@[simp] theorem ofOctets_octets (t : Timestamp) : ofOctets t.octets = t := by
  simp [ofOctets, octets, Octets.field_put_of_disjoint]

theorem eq_iff_toNat {t u : Timestamp} :
    t = u ↔ t.seconds.toNat = u.seconds.toNat ∧ t.fraction.toNat = u.fraction.toNat := by
  obtain ⟨seconds, fraction⟩ := t
  obtain ⟨seconds', fraction'⟩ := u
  simp only [mk.injEq, UInt32.toNat_inj]

end Timestamp

end TwoWay
