import TwoWay.Proofs.Codecs

/-!
# Readings that are relayed

**Theorem (`relayed_ntp_settles`).** A reading that is relayed over NTP loses a nanosecond every
time until its nanoseconds are a multiple of 29, and settles after 28 relays at most.

One relay is `keptNanos_max`. A reading past the last unit of its second first falls back to the
last nanosecond that has one, and then drifts like any other (`nanos_relayed_ntp_of_full`).
-/

namespace TwoWay.Codec

/-- A reading that has been on the wire `n` times. -/
def relayed (codec : Codec) (now : UInt64) : Nat → UInt64
  | 0 => now
  | n + 1 => codec.decode (codec.encode (codec.relayed now n))

theorem relayed_succ (codec : Codec) (now : UInt64) (n : Nat) :
    codec.relayed now (n + 1) = codec.relayed (codec.decode (codec.encode now)) n := by
  induction n with
  | zero => rfl
  | succ n ih => exact congrArg (fun t => codec.decode (codec.encode t)) ih

/-! ## Second and nanoseconds -/

namespace KeepsSeconds

variable {codec : Codec} {last : Nat} {kept : Nat → Nat} {now : UInt64}
  (h : codec.KeepsSeconds last kept) (hle : ∀ nanos, kept nanos ≤ nanos)
include h hle

theorem second_decode_encode (hlast : now.toNat / 1000000000 ≤ last) :
    (codec.decode (codec.encode now)).toNat / 1000000000 = now.toNat / 1000000000 := by
  have hkept := hle (now.toNat % 1000000000)
  rw [h now hlast]
  omega

theorem nanos_decode_encode (hlast : now.toNat / 1000000000 ≤ last) :
    (codec.decode (codec.encode now)).toNat % 1000000000 = kept (now.toNat % 1000000000) := by
  have hkept := hle (now.toNat % 1000000000)
  rw [h now hlast]
  omega

theorem second_relayed (hlast : now.toNat / 1000000000 ≤ last) (n : Nat) :
    (codec.relayed now n).toNat / 1000000000 = now.toNat / 1000000000 := by
  induction n with
  | zero => rfl
  | succ n ih => exact (h.second_decode_encode hle (by rwa [ih])).trans ih

theorem nanos_relayed_succ (hlast : now.toNat / 1000000000 ≤ last) (n : Nat) :
    (codec.relayed now (n + 1)).toNat % 1000000000 =
      kept ((codec.relayed now n).toNat % 1000000000) :=
  h.nanos_decode_encode hle (by rwa [h.second_relayed hle hlast])

end KeepsSeconds

/-! ## Drift -/

/-- Drifted by `n` but not past a multiple of 29, nanoseconds lose one more or none. -/
theorem keptNanos_max {nanos : Nat} (h : nanos ≤ 996432412) (n : Nat) :
    keptNanos (max (nanos - n) (29 * (nanos / 29))) =
      max (nanos - (n + 1)) (29 * (nanos / 29)) := by
  rw [keptNanos, if_neg (by omega)]
  split
  · omega
  · omega

section Ntp

variable {now : UInt64} (hera : now.toNat / 1000000000 ≤ 2085978495)
include hera

theorem second_relayed_ntp (n : Nat) :
    (ntp.relayed now n).toNat / 1000000000 = now.toNat / 1000000000 :=
  keepsSeconds_ntp.second_relayed keptNanos_le hera n

theorem nanos_relayed_ntp (hunits : now.toNat % 1000000000 ≤ 996432412) (n : Nat) :
    (ntp.relayed now n).toNat % 1000000000 =
      max (now.toNat % 1000000000 - n) (29 * (now.toNat % 1000000000 / 29)) := by
  induction n with
  | zero =>
    rw [relayed]
    omega
  | succ n ih =>
    rw [keepsSeconds_ntp.nanos_relayed_succ keptNanos_le hera, ih, keptNanos_max hunits]

/-- The first relay takes a reading for which no unit is left back to the last one. -/
theorem nanos_relayed_ntp_of_full (hfull : 996432412 < now.toNat % 1000000000) (n : Nat) :
    (ntp.relayed now (n + 1)).toNat % 1000000000 = max (996432412 - n) 996432402 := by
  have hsecond := keepsSeconds_ntp.second_decode_encode keptNanos_le hera
  have hnanos : (ntp.decode (ntp.encode now)).toNat % 1000000000 = 996432412 := by
    rw [keepsSeconds_ntp.nanos_decode_encode keptNanos_le hera, keptNanos, if_pos hfull]
  -- From there on it is a reading that has units left.
  rw [relayed_succ, nanos_relayed_ntp (by omega) (by omega), hnanos]

theorem nanos_relayed_succ_le (n : Nat) :
    (ntp.relayed now (n + 1)).toNat % 1000000000 ≤ 996432412 := by
  by_cases hunits : now.toNat % 1000000000 ≤ 996432412
  · rw [nanos_relayed_ntp hera hunits]
    omega
  · rw [nanos_relayed_ntp_of_full hera (by omega)]
    omega

/-- As long as units are left, a relay loses one nanosecond or none. -/
theorem relayed_succ_le (n : Nat) (hunits : (ntp.relayed now n).toNat % 1000000000 ≤ 996432412) :
    (ntp.relayed now (n + 1)).toNat ≤ (ntp.relayed now n).toNat ∧
      (ntp.relayed now n).toNat ≤ (ntp.relayed now (n + 1)).toNat + 1 := by
  have hlast : (ntp.relayed now n).toNat / 1000000000 ≤ 2085978495 := by
    rwa [second_relayed_ntp hera]
  exact keepsSeconds_ntp.loses hlast (keptNanos_le _) (le_keptNanos_add_one hunits)

theorem relayed_settled (n : Nat) : ntp.relayed now (28 + n) = ntp.relayed now 28 := by
  have hsecond := second_relayed_ntp hera (28 + n)
  have hsecond' := second_relayed_ntp hera 28
  have hnanos : (ntp.relayed now (28 + n)).toNat % 1000000000 =
      (ntp.relayed now 28).toNat % 1000000000 := by
    by_cases hunits : now.toNat % 1000000000 ≤ 996432412
    -- At most 28 nanoseconds are above a multiple of 29, and every relay has taken one of them.
    · rw [nanos_relayed_ntp hera hunits, nanos_relayed_ntp hera hunits]
      omega
    · have hfull : 996432412 < now.toNat % 1000000000 := by omega
      rw [Nat.add_comm, nanos_relayed_ntp_of_full hera hfull (n + 27),
        nanos_relayed_ntp_of_full hera hfull 27]
      omega
  apply UInt64.toNat_inj.1
  omega

/-- The second relay changes nothing if the first has come to a multiple of 29. -/
theorem relayed_two_eq_iff : ntp.relayed now 2 = ntp.relayed now 1 ↔
    now.toNat % 1000000000 ≤ 996432412 ∧ now.toNat % 1000000000 % 29 ≤ 1 := by
  have hone := second_relayed_ntp hera 1
  have htwo := second_relayed_ntp hera 2
  rw [← UInt64.toNat_inj]
  by_cases hunits : now.toNat % 1000000000 ≤ 996432412
  · have hnanos := nanos_relayed_ntp hera hunits 1
    have hnanos' := nanos_relayed_ntp hera hunits 2
    omega
  · have hfull : 996432412 < now.toNat % 1000000000 := by omega
    have hnanos : (ntp.relayed now 1).toNat % 1000000000 = 996432412 :=
      nanos_relayed_ntp_of_full hera hfull 0
    have hnanos' : (ntp.relayed now 2).toNat % 1000000000 = 996432411 :=
      nanos_relayed_ntp_of_full hera hfull 1
    omega

end Ntp

/-- **Readings that are relayed.** After `n` relays the nanoseconds are `n` less, but no less than
the multiple of 29 below them. Without a unit the first relay leaves 996432412, and the others take
one each down to 996432402. So 28 settle every reading, and one a multiple of 29 or the next. -/
theorem relayed_ntp_settles (now : UInt64) (hera : now.toNat / 1000000000 ≤ 2085978495) :
    (∀ n, 28 ≤ n → ntp.relayed now n = ntp.relayed now 28 ∧
      ntp.decode (ntp.encode (ntp.relayed now n)) = ntp.relayed now n) ∧
    (¬∀ t : UInt64, ntp.relayed t 2 = ntp.relayed t 1) ∧
    let seconds := now.toNat / 1000000000
    let nanos := now.toNat % 1000000000
    (ntp.relayed now 2 = ntp.relayed now 1 ↔ nanos ≤ 996432412 ∧ nanos % 29 ≤ 1) ∧
    (nanos ≤ 996432412 → ∀ n : Nat, ((ntp.relayed now n).toNat : Int) =
      seconds * 1000000000 + max ((nanos : Int) - n) (29 * (nanos / 29))) ∧
    (996432412 < nanos → ∀ n : Nat, 1 ≤ n → ((ntp.relayed now n).toNat : Int) =
      seconds * 1000000000 + max (996432412 - ((n : Int) - 1)) 996432402) ∧
    (∀ n, (ntp.relayed now n).toNat / 1000000000 = seconds) ∧
    (∀ n, 1 ≤ n → (ntp.relayed now n).toNat % 1000000000 ≤ 996432412) ∧
    ∀ n, (ntp.relayed now n).toNat % 1000000000 ≤ 996432412 →
      (ntp.relayed now (n + 1)).toNat ≤ (ntp.relayed now n).toNat ∧
        (ntp.relayed now n).toNat ≤ (ntp.relayed now (n + 1)).toNat + 1 := by
  have hsecond (n : Nat) : (ntp.relayed now n).toNat / 1000000000 = now.toNat / 1000000000 :=
    second_relayed_ntp hera n
  have hsettled (n : Nat) (hn : 28 ≤ n) : ntp.relayed now n = ntp.relayed now 28 := by
    rw [← Nat.add_sub_cancel' hn]
    exact relayed_settled hera (n - 28)
  refine ⟨fun n hn => ⟨hsettled n hn, ?_⟩, fun hall => ?_, relayed_two_eq_iff hera,
    fun hunits n => ?_, fun hfull n hn => ?_, hsecond, fun n hn => ?_, relayed_succ_le hera⟩
  · exact (hsettled (n + 1) (by omega)).trans (hsettled n hn).symm
  · exact absurd (hall 28) (by decide)
  · have hleft := nanos_relayed_ntp hera hunits n
    have hsplit := hsecond n
    omega
  · obtain ⟨m, rfl⟩ := Nat.exists_eq_add_of_le' hn
    have hleft := nanos_relayed_ntp_of_full hera hfull m
    have hsplit := hsecond (m + 1)
    omega
  · obtain ⟨m, rfl⟩ := Nat.exists_eq_add_of_le' hn
    exact nanos_relayed_succ_le hera m

/-- A reading that needs all 28 relays, and one from the end of a second. -/
theorem relayed_ntp_settles_samples :
    (ntp.relayed 1700000000000000028 27).toNat = 1700000000000000001 ∧
      ntp.relayed 1700000000000000028 1000 = ntp.relayed 1700000000000000028 28 ∧
      (ntp.relayed 1700000000999999999 11).toNat = 1700000000996432402 := by
  obtain ⟨hsettled, -, -, hdrift, -⟩ := relayed_ntp_settles 1700000000000000028 (by decide)
  obtain ⟨-, -, -, -, hfull, -⟩ := relayed_ntp_settles 1700000000999999999 (by decide)
  have hlast := hdrift (by decide) 27
  have hend := hfull (by decide) 11 (by decide)
  refine ⟨?_, (hsettled 1000 (by decide)).1, ?_⟩
  · exact Int.ofNat_inj.1 hlast
  · exact Int.ofNat_inj.1 hend

end TwoWay.Codec
