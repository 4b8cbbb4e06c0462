import TwoWay.ErrorEstimate
import TwoWay.Octets
import TwoWay.Timestamp.Basic

/-!
# Probes

The record that a sender puts at the start of a test packet. Thirty of its octets must be zero: they
are written as zero and not looked at when read.
-/

namespace TwoWay

structure Probe where
  sequence : UInt32
  timestamp : Timestamp
  errorEstimate : ErrorEstimate
deriving DecidableEq

namespace Probe

/-! ## Layout -/

abbrev size : Nat := 44

abbrev sequenceAt : Nat := 0

abbrev timestampAt : Nat := 4

abbrev errorEstimateAt : Nat := 12

/-- Where the octets that must be zero begin. -/
abbrev reservedAt : Nat := 14

abbrev reservedSize : Nat := 30

/-! ## Octets -/

/-- The fields in their places, and zero elsewhere. -/
def octets (p : Probe) : Octets size :=
  (((Octets.zeros size).put sequenceAt (Octets.ofWord32 p.sequence)).put
    timestampAt p.timestamp.octets).put
    errorEstimateAt (Octets.ofWord16 p.errorEstimate.bits)

/-- The fields from their places, whatever stands elsewhere. -/
def ofOctets (v : Octets size) : Probe where
  sequence := (v.field sequenceAt 4 (by decide)).word32
  timestamp := .ofOctets (v.field timestampAt Timestamp.size (by decide))
  errorEstimate := ⟨(v.field errorEstimateAt 2 (by decide)).word16⟩

instance : Inhabited Probe := ⟨⟨0, ⟨0, 0⟩, ⟨0⟩⟩⟩

@[simp] theorem ofOctets_octets (p : Probe) : ofOctets p.octets = p := by
  simp [ofOctets, octets, Octets.field_put_of_disjoint, sequenceAt, timestampAt,
    errorEstimateAt, Timestamp.size]

end Probe

end TwoWay
