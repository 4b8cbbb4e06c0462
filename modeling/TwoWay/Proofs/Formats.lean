import TwoWay.Proofs.Records

/-!
# Formats of records

**Theorem (`formats_canonical`).** What is read as a probe or a reply and written again is the same
octets, but for zero at the positions that must be zero. Each field that is written takes its
positions from those that are blank (`put_field_blank`).
-/

namespace TwoWay

/-! ## Blanks -/

namespace Octets

variable {n : Nat} (p q : Nat → Prop) [DecidablePred p] [DecidablePred q] (v w : Octets n)

/-- The octets with zero at the positions in `p`. -/
def blank : Octets n := v.mapIdx fun i octet => if p i then 0 else octet

@[simp] theorem getElem_blank (i : Nat) (hi : i < n) :
    (v.blank p)[i] = if p i then 0 else v[i] := by
  simp [blank]

theorem blank_congr (h : ∀ i < n, p i ↔ q i) : v.blank p = v.blank q := by
  apply Vector.ext
  intro i hi
  simp only [getElem_blank, h i hi]

theorem blank_eq_self_iff : v.blank p = v ↔ ∀ i (hi : i < n), p i → v[i] = 0 := by
  constructor
  · intro h i hi hp
    rw [← h, getElem_blank, if_pos hp]
  · intro h
    apply Vector.ext
    intro i hi
    rw [getElem_blank]
    split
    · next hp => exact (h i hi hp).symm
    · rfl

theorem blank_eq_blank_iff : v.blank p = w.blank p ↔ ∀ i (hi : i < n), ¬p i → v[i] = w[i] := by
  constructor
  · intro h i hi hp
    have hoctet := congrArg (fun u : Octets n => u[i]) h
    simpa [hp] using hoctet
  · intro h
    apply Vector.ext
    intro i hi
    rw [getElem_blank, getElem_blank]
    split
    · rfl
    · next hp => exact h i hi hp

theorem zeros_eq_blank : zeros n = v.blank fun _ => True := by
  apply Vector.ext
  intro i hi
  simp

theorem put_field_blank (start count : Nat) (h : start + count ≤ n) :
    (v.blank p).put start (v.field start count h) =
      v.blank fun i => p i ∧ ¬(start ≤ i ∧ i < start + count) := by
  apply Vector.ext
  intro i hi
  rw [getElem_put, getElem_blank, getElem_blank]
  by_cases hfield : start ≤ i ∧ i < start + count
  · rw [dif_pos hfield, if_neg (fun hp => hp.2 hfield), getElem_field]
    congr 1
    omega
  · rw [dif_neg hfield]
    simp only [hfield, not_false_eq_true, and_true]

end Octets

/-! ## Canonical formats -/

/-- A format of records in `n` octets, of which those at reserved positions must be zero. -/
structure Canonical {α : Type} {n : Nat} (octets : α → Octets n) (ofOctets : Octets n → α)
    (reserved : Nat → Prop) [DecidablePred reserved] : Prop where
  read : ∀ a, ofOctets (octets a) = a
  /-- Octets are written as they were read, with zero where they must be zero. -/
  written : ∀ v, octets (ofOctets v) = v.blank reserved
  /-- Octets that are zero there, and no others, are the writing of what they are read as. -/
  fixed : ∀ v, octets (ofOctets v) = v ↔ ∀ i (hi : i < n), reserved i → v[i] = 0
  /-- Octets are read as the same record if they are the same elsewhere, and only then. -/
  same : ∀ v w, ofOctets v = ofOctets w ↔ ∀ i (hi : i < n), ¬reserved i → v[i] = w[i]

/-- A format without loss in both directions, reserved positions apart, is canonical. -/
theorem Canonical.of_written {α : Type} {n : Nat} {octets : α → Octets n}
    {ofOctets : Octets n → α} {reserved : Nat → Prop} [DecidablePred reserved]
    (hread : ∀ a, ofOctets (octets a) = a)
    (hwritten : ∀ v, octets (ofOctets v) = v.blank reserved) :
    Canonical octets ofOctets reserved where
  read := hread
  written := hwritten
  fixed v := by rw [hwritten, Octets.blank_eq_self_iff]
  same v w := by
    rw [← Octets.blank_eq_blank_iff, ← hwritten, ← hwritten]
    -- A record is known by how it is written, because it is read back from there.
    exact ⟨congrArg octets, fun h => by rw [← hread (ofOctets v), h, hread]⟩

@[simp] theorem Timestamp.octets_ofOctets (v : Octets Timestamp.size) :
    (ofOctets v).octets = v := by
  rw [octets, ofOctets, Octets.ofWord32_word32, Octets.ofWord32_word32, Octets.zeros_eq_blank v,
    Octets.put_field_blank, Octets.put_field_blank, Octets.blank_eq_self_iff]
  intro i hi hblank
  simp only [Timestamp.size] at hi
  omega

namespace Probe

/-- The positions that must be zero in a probe: all behind its fields. -/
def Reserved (i : Nat) : Prop := reservedAt ≤ i ∧ i < reservedAt + reservedSize

instance : DecidablePred Reserved := fun _ => inferInstanceAs (Decidable (_ ∧ _))

theorem octets_ofOctets (v : Octets size) : (ofOctets v).octets = v.blank Reserved := by
  rw [octets, ofOctets, Octets.ofWord32_word32, Timestamp.octets_ofOctets, Octets.ofWord16_word16,
    Octets.zeros_eq_blank v]
  simp only [Octets.put_field_blank]
  refine Octets.blank_congr _ _ v fun i hi => ?_
  simp only [Reserved, true_and, size, sequenceAt, timestampAt, errorEstimateAt, reservedAt,
    reservedSize, Timestamp.size] at hi ⊢
  omega

end Probe

namespace Reply

/-- Two before the time of receipt, two before the hop limit, and three behind it. -/
def Reserved (i : Nat) : Prop :=
  reserved1At ≤ i ∧ i < receiveTimestampAt ∨ reserved2At ≤ i ∧ i < senderTtlAt ∨
    reserved3At ≤ i ∧ i < size

instance : DecidablePred Reserved := fun _ => inferInstanceAs (Decidable (_ ∧ _ ∨ _ ∧ _ ∨ _ ∧ _))

theorem octets_ofOctets (v : Octets size) : (ofOctets v).octets = v.blank Reserved := by
  have httl : #v[v[senderTtlAt]] = v.field senderTtlAt 1 (by decide) := by
    apply Vector.ext
    intro i hi
    obtain rfl : i = 0 := by omega
    simp
  simp only [octets, ofOctets, Octets.ofWord32_word32, Timestamp.octets_ofOctets,
    Octets.ofWord16_word16, httl]
  rw [Octets.zeros_eq_blank v]
  simp only [Octets.put_field_blank]
  refine Octets.blank_congr _ _ v fun i hi => ?_
  simp only [Reserved, true_and, size, sequenceAt, timestampAt, errorEstimateAt, reserved1At,
    receiveTimestampAt, senderSequenceAt, senderTimestampAt, senderErrorEstimateAt, reserved2At,
    senderTtlAt, reserved3At, Timestamp.size] at hi ⊢
  omega

end Reply

/-- **Canonical formats.** Probes and replies are read as they were written. Octets come out with
zero where they must be zero, so the same exactly if they have zero there, and two runs are the same
record exactly if they agree elsewhere. A reply reads as a probe with its own first three fields. -/
theorem formats_canonical :
    Canonical Probe.octets Probe.ofOctets Probe.Reserved ∧
      Canonical Reply.octets Reply.ofOctets Reply.Reserved ∧
      ∀ (probe : Probe) (received sent : Timestamp) (estimate : ErrorEstimate) (ttl : UInt8),
        Probe.ofOctets (probe.answer received sent estimate ttl).octets =
          ⟨probe.sequence, sent, estimate⟩ :=
  ⟨.of_written Probe.ofOctets_octets Probe.octets_ofOctets,
    .of_written Reply.ofOctets_octets Reply.octets_ofOctets,
    fun probe received sent estimate ttl =>
      Reply.ofOctets_reply (probe.answer received sent estimate ttl)⟩

end TwoWay
