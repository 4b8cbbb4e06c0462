import TwoWay.Timestamp.Codec

/-!
# Readings on the wire and back

**Theorem (`decode_encode_ntp`).** What comes back from NTP, for every reading: the second, as long
as it can be told from those of another era (`KeepsSeconds`), and what the fraction has kept. As 29
nanoseconds are 125 units, any number that is not a multiple of 29 is rounded down twice.
-/

namespace TwoWay

/-! ## Words that hold a result -/

def addWord (a b : UInt64) : Option UInt64 :=
  if a.toNat + b.toNat ≤ maxUInt64 then some (a + b) else none

def mulWord (a b : UInt64) : Option UInt64 :=
  if a.toNat * b.toNat ≤ maxUInt64 then some (a * b) else none

theorem addWord_of_le {a b : UInt64} (h : a.toNat + b.toNat ≤ maxUInt64) :
    addWord a b = some (a + b) :=
  if_pos h

theorem mulWord_of_le {a b : UInt64} (h : a.toNat * b.toNat ≤ maxUInt64) :
    mulWord a b = some (a * b) :=
  if_pos h

namespace Codec

/-- Encoding for NTP that gives up at the first result that is not a word; decoding likewise. -/
def encodeNtp? (now : UInt64) : Option Timestamp := do
  let seconds ← addWord (now / nanosPerSecond) eraOffset
  let picos ← mulWord (now % nanosPerSecond) 1000
  return ⟨seconds.toUInt32, (min (picos / fractionPicos) maxFraction).toUInt32⟩

def decodeNtp? (t : Timestamp) : Option UInt64 := do
  let nanos ← mulWord (subClamped t.seconds.toUInt64 eraOffset) nanosPerSecond
  let picos ← mulWord t.fraction.toUInt64 fractionPicos
  addWord nanos (picos / 1000)

theorem encodeNtp?_eq (now : UInt64) : encodeNtp? now = some (ntp.encode now) := by
  have hnow := now.toNat_lt
  have hseconds : addWord (now / nanosPerSecond) eraOffset =
      some (now / nanosPerSecond + eraOffset) := by
    refine addWord_of_le ?_
    simp only [nanosPerSecond, eraOffset, maxUInt64, UInt64.toNat_div, UInt64.reduceToNat]
    omega
  have hpicos : mulWord (now % nanosPerSecond) 1000 = some (now % nanosPerSecond * 1000) := by
    refine mulWord_of_le ?_
    simp only [nanosPerSecond, maxUInt64, UInt64.toNat_mod, UInt64.reduceToNat]
    omega
  rw [encodeNtp?, hseconds, hpicos]
  rfl

theorem decodeNtp?_eq (t : Timestamp) : decodeNtp? t = some (ntp.decode t) := by
  have hs := t.seconds.toNat_lt
  have hf := t.fraction.toNat_lt
  have hseconds : (subClamped t.seconds.toUInt64 eraOffset).toNat =
      t.seconds.toNat - 2208988800 := by
    simp only [eraOffset, toNat_subClamped, UInt32.toNat_toUInt64, UInt64.reduceToNat]
  have hnanos : (subClamped t.seconds.toUInt64 eraOffset * nanosPerSecond).toNat =
      (t.seconds.toNat - 2208988800) * 1000000000 := by
    simp only [nanosPerSecond, UInt64.toNat_mul, hseconds, UInt64.reduceToNat]
    omega
  have hpicos : (t.fraction.toUInt64 * fractionPicos).toNat = t.fraction.toNat * 232 := by
    simp only [fractionPicos, UInt64.toNat_mul, UInt32.toNat_toUInt64, UInt64.reduceToNat]
    omega
  -- The products are less than `2^62` and `2^40`, so neither they nor their sum are too large.
  have hmul : mulWord (subClamped t.seconds.toUInt64 eraOffset) nanosPerSecond =
      some (subClamped t.seconds.toUInt64 eraOffset * nanosPerSecond) := by
    refine mulWord_of_le ?_
    simp only [hseconds, nanosPerSecond, maxUInt64, UInt64.reduceToNat]
    omega
  have hmul' : mulWord t.fraction.toUInt64 fractionPicos =
      some (t.fraction.toUInt64 * fractionPicos) := by
    refine mulWord_of_le ?_
    simp only [fractionPicos, maxUInt64, UInt32.toNat_toUInt64, UInt64.reduceToNat]
    omega
  have hsum : (subClamped t.seconds.toUInt64 eraOffset * nanosPerSecond).toNat +
      (t.fraction.toUInt64 * fractionPicos / 1000).toNat ≤ maxUInt64 := by
    simp only [UInt64.toNat_div, hnanos, hpicos, maxUInt64, UInt64.reduceToNat]
    omega
  have hadd : addWord (subClamped t.seconds.toUInt64 eraOffset * nanosPerSecond)
      (t.fraction.toUInt64 * fractionPicos / 1000) = some (ntp.decode t) := by
    rw [addWord_of_le hsum, ntp]
  rw [decodeNtp?, hmul, hmul', Option.bind_eq_bind, Option.bind_some, Option.bind_some, hadd]

/-! ## What a fraction keeps -/

/-- What an NTP fraction keeps of the nanoseconds of a second. Units run out at 996432412. -/
def keptNanos (nanos : Nat) : Nat :=
  if 996432412 < nanos then 996432412
  else if 29 ∣ nanos then nanos
  else nanos - 1

theorem keptNanos_eq (nanos : Nat) :
    min (nanos * 1000 / 232) 4294967295 * 232 / 1000 = keptNanos nanos := by
  have hcancel : nanos * 1000 / 232 = nanos * 125 / 29 := by omega
  unfold keptNanos
  split
  · omega
  · next hfits =>
    have hunits : min (nanos * 1000 / 232) 4294967295 = nanos * 125 / 29 := by omega
    rw [hunits]
    split
    · omega
    · next hpart =>
      -- As 29 has no factor in common with 125, some of the last unit is lost.
      have hlost : nanos * 125 / 29 * 29 ≠ nanos * 125 := by
        intro h
        omega
      omega

theorem keptNanos_le (nanos : Nat) : keptNanos nanos ≤ nanos := by
  unfold keptNanos
  split
  · omega
  · split <;> omega

theorem keptNanos_eq_iff {nanos : Nat} (h : nanos ≤ 996432412) :
    keptNanos nanos = nanos ↔ 29 ∣ nanos := by
  rw [keptNanos, if_neg (by omega)]
  split
  · next hwhole => exact ⟨fun _ => hwhole, fun _ => rfl⟩
  · omega

theorem le_keptNanos_add_one {nanos : Nat} (h : nanos ≤ 996432412) :
    nanos ≤ keptNanos nanos + 1 := by
  rw [keptNanos, if_neg (by omega)]
  split <;> omega

theorem le_keptNanos_add {nanos : Nat} (h : nanos < 1000000000) :
    nanos ≤ keptNanos nanos + 3567587 := by
  unfold keptNanos
  split
  · omega
  · split <;> omega

/-! ## What comes back -/

/-- A reading up to the second `last` keeps its second, and loses what its nanoseconds decide. -/
def KeepsSeconds (codec : Codec) (last : Nat) (kept : Nat → Nat) : Prop :=
  ∀ now : UInt64, now.toNat / 1000000000 ≤ last →
    (codec.decode (codec.encode now)).toNat =
      now.toNat / 1000000000 * 1000000000 + kept (now.toNat % 1000000000)

theorem toNat_decode_encode_ntp (now : UInt64) :
    (ntp.decode (ntp.encode now)).toNat =
      ((now.toNat / 1000000000 + 2208988800) % 4294967296 - 2208988800) * 1000000000 +
        keptNanos (now.toNat % 1000000000) := by
  rw [toNat_decode_ntp, toNat_seconds_encode_ntp, toNat_fraction_encode_ntp, keptNanos_eq]

theorem keepsSeconds_ntp : ntp.KeepsSeconds 2085978495 keptNanos := by
  intro now h
  rw [toNat_decode_encode_ntp, Nat.mod_eq_of_lt (by omega), Nat.add_sub_cancel]

theorem keepsSeconds_unix : unix.KeepsSeconds 4294967295 id := by
  intro now h
  rw [toNat_decode_unix, toNat_seconds_encode_unix, toNat_fraction_encode_unix,
    Nat.mod_eq_of_lt (by omega)]
  rfl

/-- A reading comes back with nothing gained and no more than `loss` lost. -/
def Loses (codec : Codec) (loss : Nat) (now : UInt64) : Prop :=
  (codec.decode (codec.encode now)).toNat ≤ now.toNat ∧
    now.toNat ≤ (codec.decode (codec.encode now)).toNat + loss

namespace KeepsSeconds

variable {codec : Codec} {last loss : Nat} {kept : Nat → Nat} {now : UInt64}

theorem loses (h : codec.KeepsSeconds last kept) (hlast : now.toNat / 1000000000 ≤ last)
    (hle : kept (now.toNat % 1000000000) ≤ now.toNat % 1000000000)
    (hloss : now.toNat % 1000000000 ≤ kept (now.toNat % 1000000000) + loss) :
    codec.Loses loss now := by
  rw [Loses, h now hlast]
  omega

theorem decode_encode (h : codec.KeepsSeconds last kept) (hlast : now.toNat / 1000000000 ≤ last)
    (hkept : kept (now.toNat % 1000000000) = now.toNat % 1000000000) :
    codec.decode (codec.encode now) = now := by
  apply UInt64.toNat_inj.1
  rw [h now hlast, hkept]
  omega

/-- Readings that differ by whole seconds come back as far apart as they are. -/
theorem add_decode_encode {a b : UInt64} (h : codec.KeepsSeconds last kept)
    (ha : a.toNat / 1000000000 ≤ last) (hb : b.toNat / 1000000000 ≤ last)
    (hnanos : a.toNat % 1000000000 = b.toNat % 1000000000) :
    (codec.decode (codec.encode a)).toNat + b.toNat =
      (codec.decode (codec.encode b)).toNat + a.toNat := by
  rw [h a ha, h b hb, hnanos]
  omega

end KeepsSeconds

/-- The codecs that are built in, each with the last second that it tells from all before. -/
inductive BuiltIn : Codec → Nat → Prop
  | ntp : BuiltIn .ntp 2085978495
  | unix : BuiltIn .unix 4294967295

theorem BuiltIn.keepsSeconds {codec : Codec} {last : Nat} (h : codec.BuiltIn last) :
    ∃ kept, codec.KeepsSeconds last kept := by
  cases h with
  | ntp => exact ⟨keptNanos, keepsSeconds_ntp⟩
  | unix => exact ⟨id, keepsSeconds_unix⟩

/-- **Readings over NTP.** Nothing overflows in either direction. Up to the last second of the era
nothing is gained and at most 3567587 nanoseconds are lost, one at most while units last, and none
exactly if 29 divides the nanoseconds. A reading of a later second comes back smaller. -/
theorem decode_encode_ntp (now : UInt64) :
    encodeNtp? now = some (ntp.encode now) ∧ (∀ t, decodeNtp? t = some (ntp.decode t)) ∧
    let seconds := now.toNat / 1000000000
    let nanos := now.toNat % 1000000000
    let back := (ntp.decode (ntp.encode now)).toNat
    back = ((seconds + 2208988800) % 4294967296 - 2208988800) * 1000000000 +
      (if 996432412 < nanos then 996432412 else if 29 ∣ nanos then nanos else nanos - 1) ∧
    (seconds ≤ 2085978495 →
      back ≤ now.toNat ∧ now.toNat ≤ back + 3567587 ∧
      (nanos ≤ 996432412 → now.toNat ≤ back + 1 ∧ (back = now.toNat ↔ 29 ∣ nanos))) ∧
    (2085978495 < seconds → back < now.toNat) := by
  refine ⟨encodeNtp?_eq now, decodeNtp?_eq, ?_⟩
  intro seconds nanos back
  have hback : back = ((seconds + 2208988800) % 4294967296 - 2208988800) * 1000000000 +
      keptNanos nanos := toNat_decode_encode_ntp now
  have hsplit : now.toNat = seconds * 1000000000 + nanos := by omega
  have hkept := keptNanos_le nanos
  refine ⟨hback, fun hera => ?_, fun hlater => ?_⟩
  · have hwithin : back = seconds * 1000000000 + keptNanos nanos := keepsSeconds_ntp now hera
    have hloss : nanos ≤ keptNanos nanos + 3567587 := le_keptNanos_add (by omega)
    refine ⟨by omega, by omega, fun hunits => ?_⟩
    have hone := le_keptNanos_add_one hunits
    have hexact := keptNanos_eq_iff hunits
    exact ⟨by omega, by omega⟩
  · -- The wrapped second is in the era, and so at least one second earlier.
    omega

/-- A whole number of units, the end of a second, and the first second of the next era. -/
theorem decode_encode_ntp_samples :
    (ntp.decode (ntp.encode 1700000000000000029)).toNat = 1700000000000000029 ∧
      1700000000999999999 ≤ (ntp.decode (ntp.encode 1700000000999999999)).toNat + 3567587 ∧
      (ntp.decode (ntp.encode 2085978496000000000)).toNat < 2085978496000000000 := by
  obtain ⟨-, -, -, hwhole, -⟩ := decode_encode_ntp 1700000000000000029
  obtain ⟨-, -, -, hend, -⟩ := decode_encode_ntp 1700000000999999999
  obtain ⟨-, -, -, -, hlater⟩ := decode_encode_ntp 2085978496000000000
  have hexact := ((hwhole (by decide)).2.2 (by decide)).2
  exact ⟨hexact.2 (by decide), (hend (by decide)).2.1, hlater (by decide)⟩

end Codec

end TwoWay
