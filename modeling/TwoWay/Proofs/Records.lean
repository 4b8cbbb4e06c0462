import TwoWay.Reply

/-!
# Records on the wire

The octets of a reply as a row of fields (`toList_octets`). The first three are those of a probe, so
a reply that comes in again is a probe with its own number, time and estimate (`ofOctets_reply`).
-/

namespace TwoWay

namespace Octets

variable {k : Nat}

theorem toList_field_add (v : Octets k) (start m n : Nat) (h : start + (m + n) ≤ k) :
    (v.field start (m + n) h).toList =
      (v.field start m (by omega)).toList ++ (v.field (start + m) n (by omega)).toList := by
  refine List.ext_getElem (by simp) fun i hi₁ hi₂ => ?_
  rw [List.getElem_append]
  split
  · simp
  · next hi =>
    simp only [Vector.length_toList] at hi
    simp only [Vector.getElem_toList, getElem_field, Vector.length_toList]
    congr 1
    omega

theorem field_field (v : Octets k) (start count first n : Nat) (h : start + count ≤ k)
    (h' : first + n ≤ count) :
    (v.field start count h).field first n h' = v.field (start + first) n (by omega) := by
  apply Vector.ext
  intro i hi
  simp only [getElem_field, Nat.add_assoc]

theorem toList_field_ofArray (octets : Array UInt8) (start count : Nat)
    (h : start + count ≤ octets.size) :
    ((ofArray octets).field start count h).toList =
      (octets.extract start (start + count)).toList := by
  refine List.ext_getElem (by simp; omega) fun i hi₁ hi₂ => ?_
  rw [Vector.getElem_toList, getElem_field, Array.getElem_toList, Array.getElem_extract]
  rfl

theorem toList_eq_field (v : Octets k) : v.toList = (v.field 0 k (by omega)).toList := by
  refine List.ext_getElem (by simp) fun i hi₁ hi₂ => ?_
  simp

@[simp] theorem field_zeros (n start count : Nat) (h : start + count ≤ n) :
    (zeros n).field start count h = zeros count := by
  apply Vector.ext
  intro i hi
  simp

@[simp] theorem toList_zeros (n : Nat) : (zeros n).toList = List.replicate n 0 := by
  simp [zeros]

end Octets

theorem Timestamp.toList_octets (t : Timestamp) :
    t.octets.toList = (Octets.ofWord32 t.seconds).toList ++ (Octets.ofWord32 t.fraction).toList :=
  rfl

namespace Reply

open Octets

/-- Fields of a reply in a row: the places leave no gap and do not overlap. -/
theorem toList_octets (r : Reply) :
    r.octets.toList =
      (ofWord32 r.sequence).toList ++ r.timestamp.octets.toList ++
      (ofWord16 r.errorEstimate.bits).toList ++ [0, 0] ++
      r.receiveTimestamp.octets.toList ++ (ofWord32 r.senderSequence).toList ++
      r.senderTimestamp.octets.toList ++ (ofWord16 r.senderErrorEstimate.bits).toList ++ [0, 0] ++
      [r.senderTtl] ++ [0, 0, 0] := by
  have hrow : r.octets.toList =
      (r.octets.field 0 (4 + (8 + (2 + (2 + (8 + (4 + (8 + (2 + (2 + (1 + 3))))))))))
        (by decide)).toList := toList_eq_field r.octets
  rw [hrow]
  simp only [toList_field_add]
  simp [octets, field_put_of_disjoint, sequenceAt,
    timestampAt, errorEstimateAt, receiveTimestampAt, senderSequenceAt, senderTimestampAt,
    senderErrorEstimateAt, senderTtlAt, Timestamp.size]

theorem ofOctets_probe (v : Octets size) :
    Probe.ofOctets v =
      ⟨(ofOctets v).sequence, (ofOctets v).timestamp, (ofOctets v).errorEstimate⟩ := rfl

theorem ofOctets_reply (r : Reply) :
    Probe.ofOctets r.octets = ⟨r.sequence, r.timestamp, r.errorEstimate⟩ := by
  rw [ofOctets_probe, ofOctets_octets]

end Reply

end TwoWay
