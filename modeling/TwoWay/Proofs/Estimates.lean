import TwoWay.ErrorEstimate

/-!
# Parts of an error estimate

The sixteen bits of an estimate are four parts side by side, and there is nothing else to it
(`toNat_bits`). One that is put together from parts has just these parts (`ofParts_eq_ok_iff`).
-/

namespace TwoWay.ErrorEstimate

/-- For NTP timestamps, and no claim to a perfect clock. -/
def Valid (e : ErrorEstimate) : Prop := e.ptp = false ∧ e.multiplier ≠ 0

instance (e : ErrorEstimate) : Decidable e.Valid := inferInstanceAs (Decidable (_ ∧ _))

/-! ## Four parts -/

theorem toNat_synchronized (e : ErrorEstimate) :
    e.synchronized.toNat = e.bits.toNat / 32768 % 2 := by
  rw [synchronized, Nat.toNat_testBit]

theorem toNat_ptp (e : ErrorEstimate) : e.ptp.toNat = e.bits.toNat / 16384 % 2 := by
  rw [ptp, Nat.toNat_testBit]

theorem toNat_scale (e : ErrorEstimate) : e.scale.toNat = e.bits.toNat / 256 % 64 := by
  simp only [scale, UInt16.toNat_toUInt8, UInt16.toNat_mod, UInt16.toNat_div, UInt16.reduceToNat]
  omega

theorem toNat_multiplier (e : ErrorEstimate) : e.multiplier.toNat = e.bits.toNat % 256 :=
  UInt16.toNat_toUInt8 e.bits

theorem toNat_bits (e : ErrorEstimate) :
    e.bits.toNat = 32768 * e.synchronized.toNat + 16384 * e.ptp.toNat + 256 * e.scale.toNat +
      e.multiplier.toNat := by
  have hbits := e.bits.toNat_lt
  rw [toNat_synchronized, toNat_ptp, toNat_scale, toNat_multiplier]
  omega

/-! ## Put together -/

section OfParts

variable (synchronized : Bool) (scale multiplier : UInt8)

theorem ofParts_of_lt (h : maxScale < scale) :
    ofParts synchronized scale multiplier = .error (.scaleOutOfRange scale) :=
  if_pos h

/-- Nothing is carried from one part into the next, and the bit for PTP stays clear. -/
theorem ofParts_of_le (h : scale ≤ maxScale) :
    ∃ e, ofParts synchronized scale multiplier = .ok e ∧
      e.bits.toNat =
        32768 * synchronized.toNat + 256 * scale.toNat + max 1 multiplier.toNat := by
  refine ⟨_, if_neg (UInt8.not_lt.2 h), ?_⟩
  have hscale : scale.toNat ≤ 63 := h
  have hmultiplier := multiplier.toNat_lt
  have hsync : (if synchronized = true then 32768 else 0 : UInt16).toNat =
      32768 * synchronized.toNat := by
    cases synchronized <;> rfl
  have hweight : (if multiplier = 0 then 1 else multiplier : UInt8).toNat =
      max 1 multiplier.toNat := by
    split
    · next hzero => rw [hzero]; rfl
    · next hzero =>
      have hpos : multiplier.toNat ≠ 0 := fun h0 => hzero (UInt8.toNat_inj.1 h0)
      omega
  -- The parts add up to `32768 + 256 * 63 + 255` at most, which is a word.
  have hbit := Bool.toNat_le synchronized
  simp only [UInt16.toNat_add, UInt16.toNat_mul, UInt8.toNat_toUInt16, UInt16.reduceToNat, hsync,
    hweight]
  omega

theorem ofParts_eq_error_iff (e : SettingsError) :
    ofParts synchronized scale multiplier = .error e ↔
      63 < scale ∧ e = .scaleOutOfRange scale := by
  by_cases h : maxScale < scale
  · rw [ofParts_of_lt _ _ _ h]
    constructor
    · rintro ⟨⟩
      exact ⟨h, rfl⟩
    · rintro ⟨-, rfl⟩
      rfl
  · obtain ⟨e', he', -⟩ := ofParts_of_le synchronized scale multiplier (UInt8.not_lt.1 h)
    rw [he']
    exact ⟨nofun, fun ⟨hlt, _⟩ => absurd hlt h⟩

/-- An estimate is known by its parts: those that were given, no PTP, and one for zero. -/
theorem ofParts_eq_ok_iff (e : ErrorEstimate) :
    ofParts synchronized scale multiplier = .ok e ↔
      scale ≤ 63 ∧ e.synchronized = synchronized ∧ e.ptp = false ∧ e.scale = scale ∧
        e.multiplier.toNat = max 1 multiplier.toNat := by
  by_cases h : maxScale < scale
  · rw [ofParts_of_lt _ _ _ h]
    exact ⟨nofun, fun ⟨hle, _⟩ => absurd h (UInt8.not_lt.2 hle)⟩
  obtain ⟨e', he', hbits'⟩ := ofParts_of_le synchronized scale multiplier (UInt8.not_lt.1 h)
  have hscale : scale.toNat ≤ 63 := UInt8.not_lt.1 h
  have hmultiplier := multiplier.toNat_lt
  have hbit := Bool.toNat_le synchronized
  rw [he']
  constructor
  · rintro ⟨⟩
    have hsync := toNat_synchronized e
    have hptp := toNat_ptp e
    have hfield := toNat_scale e
    have hweight := toNat_multiplier e
    have hbool : ∀ a b : Bool, a.toNat = b.toNat → a = b := by decide
    exact ⟨UInt8.not_lt.1 h, hbool _ _ (by omega), Bool.toNat_eq_zero.1 (by omega),
      UInt8.toNat_inj.1 (by omega), by omega⟩
  -- Equal parts spell equal bits, and there is nothing else to an estimate.
  · rintro ⟨-, rfl, hptp, rfl, hweight⟩
    have hbits := toNat_bits e
    have hsame : e'.bits = e.bits := by
      rw [hptp, hweight] at hbits
      exact UInt16.toNat_inj.1 (by simpa using hbits'.trans hbits.symm)
    cases e
    cases e'
    exact congrArg Except.ok (congrArg ErrorEstimate.mk hsame)

end OfParts

theorem valid_of_ofParts {synchronized : Bool} {scale multiplier : UInt8} {e : ErrorEstimate}
    (h : ofParts synchronized scale multiplier = .ok e) : e.Valid := by
  obtain ⟨-, -, hptp, -, hweight⟩ := (ofParts_eq_ok_iff synchronized scale multiplier e).1 h
  refine ⟨hptp, fun hzero => ?_⟩
  rw [hzero] at hweight
  exact absurd hweight (Nat.ne_of_lt (Nat.le_max_left 1 multiplier.toNat))

end TwoWay.ErrorEstimate
