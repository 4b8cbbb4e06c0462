/-!
# Arithmetic that stops at the ends of a word

A result that is out of range is replaced by the nearest number in range, never reduced modulo the
range. Main statement of each operation: its value as an exact integer, clamped.
-/

namespace TwoWay

abbrev maxUInt64 : Nat := 18446744073709551615

abbrev maxInt64 : Int := 9223372036854775807

abbrev minInt64 : Int := -9223372036854775808

/-- The 64-bit word nearest to a natural number. -/
def nearestUInt64 (k : Nat) : UInt64 := UInt64.ofNat (min k maxUInt64)

/-- The signed 64-bit word nearest to an integer. -/
def nearestInt64 (z : Int) : Int64 := Int64.ofInt (max minInt64 (min z maxInt64))

/-- Subtraction that stops at zero. -/
def subClamped (a b : UInt64) : UInt64 := if b ≤ a then a - b else 0

def mulClamped (a b : UInt64) : UInt64 := nearestUInt64 (a.toNat * b.toNat)

/-- The signed distance from `earlier` to `later`. -/
def span (later earlier : UInt64) : Int64 :=
  nearestInt64 ((later.toNat : Int) - (earlier.toNat : Int))

/-! ## Laws -/

theorem toNat_nearestUInt64 (k : Nat) : (nearestUInt64 k).toNat = min k maxUInt64 := by
  rw [nearestUInt64, UInt64.toNat_ofNat', Nat.mod_eq_of_lt]
  exact Nat.lt_of_le_of_lt (Nat.min_le_right _ _) (by decide)

theorem toInt_nearestInt64 (z : Int) :
    (nearestInt64 z).toInt = max minInt64 (min z maxInt64) := by
  have h := Int.le_max_left minInt64 (min z maxInt64)
  have h' : max minInt64 (min z maxInt64) ≤ maxInt64 :=
    Int.max_le.2 ⟨by decide, Int.min_le_right _ _⟩
  rw [nearestInt64]
  generalize max minInt64 (min z maxInt64) = y at h h'
  exact Int64.toInt_ofInt_of_le h (Int.lt_of_le_of_lt h' (by decide))

theorem toNat_subClamped (a b : UInt64) : (subClamped a b).toNat = a.toNat - b.toNat := by
  unfold subClamped
  split
  · next h => exact UInt64.toNat_sub_of_le a b h
  · next h =>
    have : a.toNat < b.toNat := UInt64.lt_iff_toNat_lt.1 (UInt64.not_le.1 h)
    simp only [UInt64.toNat_zero]
    omega

theorem toNat_mulClamped (a b : UInt64) :
    (mulClamped a b).toNat = min (a.toNat * b.toNat) maxUInt64 :=
  toNat_nearestUInt64 _

end TwoWay
