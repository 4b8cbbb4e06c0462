import TwoWay.Proofs.Fractions
import TwoWay.Proofs.Measurements

/-!
# Earlier and later on the wire

Timestamps compare as their octets do (`Timestamp.compare_octets`). Within an era the seconds on the
wire keep their order, and of the codec only the order of fractions matters (`CountsFrom`).

**Theorem (`encode_adjust_ordered`).** Within an era no later reading gets a smaller timestamp. So
no reply says that it was sent before its probe came in, unless the clock went back
(`Reflector.received_le_sent`).
-/

namespace TwoWay

/-! ## Octets in order -/

namespace Octets

/-- The number that octets spell, the highest first, when those before them spell `n`. -/
def spell (n : Nat) : List UInt8 → Nat
  | [] => n
  | octet :: rest => spell (n * 256 + octet.toNat) rest

theorem compare_toNat (a b : UInt8) : compare a.toNat b.toNat = compare a b := by
  simp only [compare, compareOfLessAndEq, UInt8.lt_iff_toNat_lt, ← UInt8.toNat_inj]

/-- An octet decides only between numbers that are equal without it. -/
theorem compare_mul_add_toNat (m n : Nat) (a b : UInt8) :
    compare (m * 256 + a.toNat) (n * 256 + b.toNat) = (compare m n).then (compare a b) := by
  have ha := a.toNat_lt
  have hb := b.toNat_lt
  rcases Nat.lt_trichotomy m n with hless | rfl | hmore
  · rw [Nat.compare_eq_lt.2 hless, Nat.compare_eq_lt.2 (by omega)]
    rfl
  · rw [Nat.compare_eq_eq.2 rfl, Ordering.eq_then, ← compare_toNat]
    simp only [Nat.compare_eq_ite_lt, Nat.add_lt_add_iff_left]
  · rw [Nat.compare_eq_gt.2 hmore, Nat.compare_eq_gt.2 (by omega)]
    rfl

/-- Runs of octets of one length compare like the numbers that they spell. -/
theorem compare_spell {v w : List UInt8} (h : v.length = w.length) (m n : Nat) :
    compare (spell m v) (spell n w) = (compare m n).then (compare v w) := by
  induction v generalizing w m n with
  | nil =>
    obtain rfl : w = [] := List.length_eq_zero_iff.1 h.symm
    exact Ordering.then_eq.symm
  | cons a v ih =>
    cases w with
    | nil => cases h
    | cons b w =>
      rw [spell, spell, ih (Nat.succ.inj h), compare_mul_add_toNat, List.compare_cons_cons,
        Ordering.then_assoc]

theorem compare_spell_zero {v w : List UInt8} (h : v.length = w.length) :
    compare (spell 0 v) (spell 0 w) = compare v w := by
  rw [compare_spell h, Nat.compare_eq_eq.2 rfl, Ordering.eq_then]

theorem spell_ofWord32 (w : UInt32) : spell 0 (ofWord32 w).toList = w.toNat := by
  have hword := toNat_word32 (ofWord32 w)
  rw [word32_ofWord32] at hword
  rw [hword, ← Nat.zero_add (ofWord32 w)[0].toNat]
  rfl

theorem compare_ofWord32 (a b : UInt32) :
    compare (ofWord32 a).toList (ofWord32 b).toList = compare a b := by
  have hlength : (ofWord32 a).toList.length = (ofWord32 b).toList.length := by simp
  rw [← compare_spell_zero hlength, spell_ofWord32, spell_ofWord32]
  simp only [compare, compareOfLessAndEq, UInt32.lt_iff_toNat_lt, ← UInt32.toNat_inj]

theorem compare_append {v w : List UInt8} (h : v.length = w.length) (v' w' : List UInt8) :
    compare (v ++ v') (w ++ w') = (compare v w).then (compare v' w') := by
  induction v generalizing w with
  | nil =>
    obtain rfl : w = [] := List.length_eq_zero_iff.1 h.symm
    rfl
  | cons a v ih =>
    cases w with
    | nil => cases h
    | cons b w =>
      rw [List.cons_append, List.cons_append, List.compare_cons_cons, List.compare_cons_cons,
        ih (Nat.succ.inj h), Ordering.then_assoc]

end Octets

namespace Timestamp

open Octets

theorem compare_octets (t u : Timestamp) :
    compare t u = compare t.octets.toList u.octets.toList := by
  have hlength : (ofWord32 t.seconds).toList.length = (ofWord32 u.seconds).toList.length := by simp
  rw [toList_octets, toList_octets, compare_append hlength, compare_ofWord32, compare_ofWord32]
  rfl

theorem lt_iff {t u : Timestamp} :
    t < u ↔ t.seconds.toNat < u.seconds.toNat ∨
      t.seconds.toNat = u.seconds.toNat ∧ t.fraction.toNat < u.fraction.toNat := by
  show (compare t.seconds u.seconds).then (compare t.fraction u.fraction) = .lt ↔ _
  rw [Ordering.then_eq_lt, Std.compare_eq_lt, Std.compare_eq_iff_eq, Std.compare_eq_lt,
    UInt32.lt_iff_toNat_lt, ← UInt32.toNat_inj, UInt32.lt_iff_toNat_lt]

theorem le_iff {t u : Timestamp} :
    t ≤ u ↔ t.seconds.toNat < u.seconds.toNat ∨
      t.seconds.toNat = u.seconds.toNat ∧ t.fraction.toNat ≤ u.fraction.toNat := by
  show ((compare t.seconds u.seconds).then (compare t.fraction u.fraction)).isLE = true ↔ _
  rw [Ordering.isLE_then_iff_or, Std.compare_eq_lt, Std.compare_eq_iff_eq, Std.isLE_compare,
    UInt32.lt_iff_toNat_lt, ← UInt32.toNat_inj, UInt32.le_iff_toNat_le]

end Timestamp

/-! ## Readings in order -/

theorem Settings.adjust_le_adjust (s : Settings) {c c' : UInt64} (h : c ≤ c') :
    s.adjust c ≤ s.adjust c' := by
  rw [UInt64.le_iff_toNat_le] at h ⊢
  rw [toNat_adjust, toNat_adjust]
  omega

namespace Codec

/-- The era of a reading, where seconds are counted from `epoch` seconds before 1970. -/
def era (epoch : Nat) (now : UInt64) : Nat := (now.toNat / 1000000000 + epoch) / 4294967296

/-- Seconds count from `epoch`, and fractions do not fall as the nanoseconds grow. -/
structure CountsFrom (codec : Codec) (epoch : Nat) (parts : Nat → Nat) : Prop where
  seconds : ∀ now, (codec.encode now).seconds.toNat =
    (now.toNat / 1000000000 + epoch) % 4294967296
  fraction : ∀ now, (codec.encode now).fraction.toNat = parts (now.toNat % 1000000000)
  mono : ∀ {m n}, m ≤ n → parts m ≤ parts n

theorem countsFrom_ntp : ntp.CountsFrom 2208988800 units :=
  ⟨toNat_seconds_encode_ntp, toNat_fraction_ntp, units_mono⟩

theorem countsFrom_unix : unix.CountsFrom 0 id :=
  ⟨toNat_seconds_encode_unix, toNat_fraction_encode_unix, id⟩

namespace CountsFrom

variable {codec : Codec} {epoch : Nat} {parts : Nat → Nat} {a b : UInt64}

theorem encode_lt_encode_iff (h : codec.CountsFrom epoch parts) (hera : era epoch a = era epoch b) :
    codec.encode a < codec.encode b ↔ a.toNat / 1000000000 < b.toNat / 1000000000 ∨
      a.toNat / 1000000000 = b.toNat / 1000000000 ∧
        parts (a.toNat % 1000000000) < parts (b.toNat % 1000000000) := by
  -- In one era the counter has wrapped equally often for both readings.
  unfold era at hera
  rw [Timestamp.lt_iff, h.seconds, h.seconds, h.fraction, h.fraction]
  omega

theorem encode_le_encode (h : codec.CountsFrom epoch parts) (hera : era epoch a = era epoch b)
    (hle : a ≤ b) : codec.encode a ≤ codec.encode b := by
  unfold era at hera
  have hnat := UInt64.le_iff_toNat_le.1 hle
  rw [Timestamp.le_iff, h.seconds, h.seconds, h.fraction, h.fraction]
  by_cases hsecond : a.toNat / 1000000000 = b.toNat / 1000000000
  · exact .inr ⟨by rw [hsecond], h.mono (by omega)⟩
  · exact .inl (by omega)

end CountsFrom

/-- Readings of one second that share the largest NTP fraction. -/
def Indistinct (a b : UInt64) : Prop :=
  a.toNat / 1000000000 = b.toNat / 1000000000 ∧
    996432412 < a.toNat % 1000000000 ∧ 996432412 < b.toNat % 1000000000

instance (a b : UInt64) : Decidable (Indistinct a b) :=
  inferInstanceAs (Decidable (_ ∧ _ ∧ _))

theorem encode_ntp_of_indistinct {a b : UInt64} (h : Indistinct a b) :
    ntp.encode a = ntp.encode b := by
  obtain ⟨hsecond, ha, hb⟩ := h
  rw [Timestamp.eq_iff_toNat, countsFrom_ntp.seconds, countsFrom_ntp.seconds,
    countsFrom_ntp.fraction, countsFrom_ntp.fraction, hsecond, units_of_lt ha, units_of_lt hb]
  exact ⟨rfl, rfl⟩

theorem encode_ntp_lt_iff {a b : UInt64} (hera : era 2208988800 a = era 2208988800 b)
    (hlt : a < b) : ntp.encode a < ntp.encode b ↔ ¬Indistinct a b := by
  have hnat := UInt64.lt_iff_toNat_lt.1 hlt
  rw [countsFrom_ntp.encode_lt_encode_iff hera, Indistinct]
  by_cases hsecond : a.toNat / 1000000000 = b.toNat / 1000000000
  · rw [units_lt_units_iff (by omega), toNat_maxFractionNanos]
    omega
  · omega

theorem encode_unix_lt {a b : UInt64} (hera : era 0 a = era 0 b) (hlt : a < b) :
    unix.encode a < unix.encode b := by
  have hnat := UInt64.lt_iff_toNat_lt.1 hlt
  rw [countsFrom_unix.encode_lt_encode_iff hera]
  simp only [id_eq]
  omega

/-- **Order of readings and of timestamps.** Settings take the offset from a reading, or leave zero,
and keep the order. Timestamps have the order of their octets. Within an era a later reading gets a
larger timestamp, or an equal one over NTP if both are past the last unit of their second. -/
theorem encode_adjust_ordered (s : Settings) (c c' : UInt64) (h : c ≤ c') :
    let a := s.adjust c
    let a' := s.adjust c'
    a.toNat = c.toNat - s.clockOffset.toNat * 1000000000 ∧
    a'.toNat = c'.toNat - s.clockOffset.toNat * 1000000000 ∧ a ≤ a' ∧
    (∀ t u : Timestamp, compare t u = compare t.octets.toList u.octets.toList) ∧
    (era 2208988800 a = era 2208988800 a' →
      ntp.encode a ≤ ntp.encode a' ∧
        (a < a' → (ntp.encode a < ntp.encode a' ↔ ¬Indistinct a a')) ∧
        (Indistinct a a' → ntp.encode a = ntp.encode a')) ∧
    (era 0 a = era 0 a' →
      unix.encode a ≤ unix.encode a' ∧ (a < a' → unix.encode a < unix.encode a')) := by
  intro a a'
  have hle : a ≤ a' := s.adjust_le_adjust h
  refine ⟨s.toNat_adjust c, s.toNat_adjust c', hle, Timestamp.compare_octets,
    fun hera => ⟨?_, encode_ntp_lt_iff hera, encode_ntp_of_indistinct⟩,
    fun hera => ⟨?_, encode_unix_lt hera⟩⟩
  · exact countsFrom_ntp.encode_le_encode hera hle
  · exact countsFrom_unix.encode_le_encode hera hle

/-- A nanosecond apart at the start of a second, and several at its end, less 37 seconds. -/
theorem encode_adjust_ordered_samples :
    let s : Settings := { (default : Settings) with clockOffset := 37 }
    ntp.encode (s.adjust 1700000037000000000) < ntp.encode (s.adjust 1700000037000000001) ∧
      ntp.encode (s.adjust 1700000037999999990) = ntp.encode (s.adjust 1700000037999999997) ∧
      unix.encode (s.adjust 1700000037999999990) < unix.encode (s.adjust 1700000037999999997) := by
  intro s
  obtain ⟨-, -, -, -, hstart, -⟩ :=
    encode_adjust_ordered s 1700000037000000000 1700000037000000001 (by decide)
  obtain ⟨-, -, -, -, hend, hunix⟩ :=
    encode_adjust_ordered s 1700000037999999990 1700000037999999997 (by decide)
  exact ⟨((hstart (by decide)).2.1 (by decide)).2 (by decide),
    (hend (by decide)).2.2 (by decide), (hunix (by decide)).2 (by decide)⟩

/-- Between the last nanosecond of an era and the first of the next the order is lost. -/
example : ntp.encode 2085978496000000000 < ntp.encode 2085978495999999999 := by decide

end Codec

namespace Reflector

variable {σ : Type} [Clock σ]

/-- The clock must not go back, nor the era change, while the probe is answered. -/
theorem received_le_sent (r : Reflector) (clock : σ) (f : Frame) (interface : UInt32)
    {epoch : Nat} {parts : Nat → Nat} (hcounts : r.codec.CountsFrom epoch parts)
    (hclock : (Clock.tick clock).1 ≤ (Clock.tick (Clock.next clock)).1)
    (hera : Codec.era epoch (r.settings.adjust (Clock.tick clock).1) =
      Codec.era epoch (r.settings.adjust (Clock.tick (Clock.next clock)).1))
    (h : (r.handle clock f).disposition = .redirect interface) :
    ∃ reply, Session.replyIn (r.handle clock f).frame.octets = .ok reply ∧
      reply.receiveTimestamp ≤ reply.timestamp :=
  ⟨r.replyTo clock f, replyIn_handle r clock (isProbe_of_redirect h),
    hcounts.encode_le_encode hera (r.settings.adjust_le_adjust hclock)⟩

end Reflector

end TwoWay
