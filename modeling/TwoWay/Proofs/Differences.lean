import TwoWay.Proofs.Measurements

/-!
# Differences of times

**Theorem (`delays_add_up`).** What a built-in codec decodes is less than a quarter of the range of
a word (`Codec.Bounded`), so no difference of times is clamped, and all delays are exact.
-/

namespace TwoWay

namespace Delays

theorem roundTripNanos_eq (d : Delays) : (d.roundTripNanos : Int) = max 0 d.roundTrip.toInt := by
  rw [roundTripNanos, Int.ofNat_toNat, Int.max_comm]

/-- **Delays add up.** For any reply at any time of arrival, with the four times as a built-in codec
decodes them: all differences formed on the way fit in a signed word, the round trip is the way
there and the way back, and with the time in the reflector they are the whole time. -/
theorem delays_add_up {codec : Codec} {last : Nat} (hcodec : codec.BuiltIn last) (reply : Reply)
    (arrival : Timestamp) :
    let d := Delays.ofReply codec reply arrival
    let t₁ : Int := (codec.decode reply.senderTimestamp).toNat
    let t₂ : Int := (codec.decode reply.receiveTimestamp).toNat
    let t₃ : Int := (codec.decode reply.timestamp).toNat
    let t₄ : Int := (codec.decode arrival).toNat
    (∀ z ∈ [t₂ - t₁, t₄ - t₃, t₃ - t₂, t₄ - t₁, (t₄ - t₁) - (t₃ - t₂)], FitsInt64 z) ∧
      d.forward.toInt = t₂ - t₁ ∧ d.backward.toInt = t₄ - t₃ ∧ d.dwell.toInt = t₃ - t₂ ∧
      d.roundTrip.toInt = (t₄ - t₁) - (t₃ - t₂) ∧
      d.roundTrip.toInt = d.forward.toInt + d.backward.toInt ∧
      d.forward.toInt + d.dwell.toInt + d.backward.toInt = t₄ - t₁ ∧
      (d.roundTripNanos : Int) = max 0 d.roundTrip.toInt := by
  intro d t₁ t₂ t₃ t₄
  have hbounded := hcodec.bounded
  obtain ⟨hforward, hbackward, hdwell, hroundTrip⟩ : d.Exact _ _ _ _ :=
    exact_ofReply hbounded reply arrival
  refine ⟨?_, hforward, hbackward, hdwell, hroundTrip, by omega, by omega, roundTripNanos_eq d⟩
  simp only [List.forall_mem_cons]
  exact ⟨hbounded.fits _ _, hbounded.fits _ _, hbounded.fits _ _, hbounded.fits _ _,
    hbounded.fits_sub _ _ _ _, by simp⟩

/-- Times as far apart as octets on the wire can say, with the Unix codec. -/
theorem delays_add_up_latest :
    let latest : Timestamp := ⟨4294967295, 4294967295⟩
    let d := Delays.ofReply .unix ⟨7, latest, ⟨1⟩, ⟨0, 0⟩, 7, latest, ⟨1⟩, 64⟩ ⟨0, 0⟩
    d.roundTrip.toInt = -8589934598589934590 ∧
      d.roundTrip.toInt = d.forward.toInt + d.backward.toInt ∧ d.roundTripNanos = 0 := by
  intro latest d
  obtain ⟨-, -, -, -, hroundTrip, hsum, -, hnanos⟩ := delays_add_up .unix
    ⟨7, latest, ⟨1⟩, ⟨0, 0⟩, 7, latest, ⟨1⟩, 64⟩ ⟨0, 0⟩
  have hvalue : d.roundTrip.toInt = -8589934598589934590 := hroundTrip.trans (by decide)
  refine ⟨hvalue, hsum, ?_⟩
  rw [hvalue] at hnanos
  exact Int.ofNat_inj.1 hnanos

end Delays

end TwoWay
