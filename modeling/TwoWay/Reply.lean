import TwoWay.Probe

/-!
# Replies

The record that a reflector puts over a probe. Its first three fields lie where a probe has them, so
a reply can be answered as a probe again. Main statement: a reply survives writing and reading.
-/

namespace TwoWay

structure Reply where
  sequence : UInt32
  timestamp : Timestamp
  errorEstimate : ErrorEstimate
  receiveTimestamp : Timestamp
  senderSequence : UInt32
  senderTimestamp : Timestamp
  senderErrorEstimate : ErrorEstimate
  senderTtl : UInt8
deriving DecidableEq

/-- A reflector that keeps no state of its own repeats the sender's sequence number. -/
def Probe.answer (p : Probe) (received sent : Timestamp) (estimate : ErrorEstimate)
    (ttl : UInt8) : Reply where
  sequence := p.sequence
  timestamp := sent
  errorEstimate := estimate
  receiveTimestamp := received
  senderSequence := p.sequence
  senderTimestamp := p.timestamp
  senderErrorEstimate := p.errorEstimate
  senderTtl := ttl

namespace Reply

/-! ## Layout -/

abbrev size : Nat := 44

abbrev sequenceAt : Nat := 0

abbrev timestampAt : Nat := 4

abbrev errorEstimateAt : Nat := 12

/-- The first of three runs of octets that must be zero. -/
abbrev reserved1At : Nat := 14

abbrev receiveTimestampAt : Nat := 16

abbrev senderSequenceAt : Nat := 24

abbrev senderTimestampAt : Nat := 28

abbrev senderErrorEstimateAt : Nat := 36

abbrev reserved2At : Nat := 38

abbrev senderTtlAt : Nat := 40

abbrev reserved3At : Nat := 41

/-! ## Octets -/

def octets (r : Reply) : Octets size :=
  (((((((((Octets.zeros size).put
    sequenceAt (Octets.ofWord32 r.sequence)).put
    timestampAt r.timestamp.octets).put
    errorEstimateAt (Octets.ofWord16 r.errorEstimate.bits)).put
    receiveTimestampAt r.receiveTimestamp.octets).put
    senderSequenceAt (Octets.ofWord32 r.senderSequence)).put
    senderTimestampAt r.senderTimestamp.octets).put
    senderErrorEstimateAt (Octets.ofWord16 r.senderErrorEstimate.bits)).put
    senderTtlAt #v[r.senderTtl])

def ofOctets (v : Octets size) : Reply where
  sequence := (v.field sequenceAt 4 (by decide)).word32
  timestamp := .ofOctets (v.field timestampAt Timestamp.size (by decide))
  errorEstimate := ⟨(v.field errorEstimateAt 2 (by decide)).word16⟩
  receiveTimestamp := .ofOctets (v.field receiveTimestampAt Timestamp.size (by decide))
  senderSequence := (v.field senderSequenceAt 4 (by decide)).word32
  senderTimestamp := .ofOctets (v.field senderTimestampAt Timestamp.size (by decide))
  senderErrorEstimate := ⟨(v.field senderErrorEstimateAt 2 (by decide)).word16⟩
  senderTtl := v[senderTtlAt]

instance : Inhabited Reply := ⟨⟨0, ⟨0, 0⟩, ⟨0⟩, ⟨0, 0⟩, 0, ⟨0, 0⟩, ⟨0⟩, 0⟩⟩

@[simp] theorem ofOctets_octets (r : Reply) : ofOctets r.octets = r := by
  simp [ofOctets, octets, Octets.field_put_of_disjoint, Octets.getElem_put, sequenceAt,
    timestampAt, errorEstimateAt, receiveTimestampAt, senderSequenceAt, senderTimestampAt,
    senderErrorEstimateAt, senderTtlAt, Timestamp.size]

end Reply

end TwoWay
