/-!
# Octets in wire order

A field on the wire is a run of octets, a word with the high octet first. Main statements: words and
octets are inverse to each other (`word16_ofWord16`, `ofWord16_word16` and their kin for four
octets), and what is put into a run can be read from its place (`field_put_self`) and disturbs no
other (`field_put_of_disjoint`).
-/

namespace TwoWay

abbrev Octets (n : Nat) := Vector UInt8 n

namespace Octets

variable {n : Nat}

/-- The `count` octets from position `start` on. -/
def field (v : Octets n) (start count : Nat) (h : start + count ≤ n) : Octets count :=
  Vector.ofFn fun i => v[start + i.val]

def ofArray (a : Array UInt8) : Octets a.size := ⟨a, rfl⟩

def zeros (n : Nat) : Octets n := Vector.replicate n 0

/-- Overwrite from position `start` on. Octets that would fall behind the end are dropped. -/
def put {m : Nat} (v : Octets n) (start : Nat) (w : Octets m) : Octets n :=
  Vector.ofFn fun i => if h : start ≤ i.val ∧ i.val < start + m then w[i.val - start] else v[i]

/-! ## Words -/

/-- The word that two octets spell. -/
def word16 (v : Octets 2) : UInt16 := v[0].toUInt16 * (256 : UInt16) + v[1].toUInt16

def ofWord16 (w : UInt16) : Octets 2 := #v[(w / 256).toUInt8, w.toUInt8]

def word32 (v : Octets 4) : UInt32 :=
  let base : UInt32 := 256
  ((v[0].toUInt32 * base + v[1].toUInt32) * base + v[2].toUInt32) * base + v[3].toUInt32

def ofWord32 (w : UInt32) : Octets 4 :=
  #v[(w / 16777216).toUInt8, (w / 65536).toUInt8, (w / 256).toUInt8, w.toUInt8]

/-- A last octet without a partner is the high half of its word. -/
def words : List UInt8 → List UInt16
  | high :: low :: rest => word16 #v[high, low] :: words rest
  | [high] => [word16 #v[high, 0]]
  | [] => []

/-! ## Laws -/

@[simp] theorem getElem_field (v : Octets n) (start count : Nat) (h : start + count ≤ n)
    (i : Nat) (hi : i < count) : (v.field start count h)[i] = v[start + i] := by
  simp [field]

@[simp] theorem getElem_zeros (i : Nat) (hi : i < n) : (zeros n)[i] = 0 := by
  simp [zeros]

theorem getElem_put {m : Nat} (v : Octets n) (start : Nat) (w : Octets m) (i : Nat) (hi : i < n) :
    (v.put start w)[i] =
      if h : start ≤ i ∧ i < start + m then w[i - start] else v[i] := by
  simp [put]

@[simp] theorem field_put_self {m : Nat} (v : Octets n) (start : Nat) (w : Octets m)
    (h : start + m ≤ n) : (v.put start w).field start m h = w := by
  apply Vector.ext
  intro i hi
  rw [getElem_field, getElem_put, dif_pos (by omega)]
  simp

theorem field_put_of_disjoint {m : Nat} (v : Octets n) (start : Nat) (w : Octets m)
    (first count : Nat) (h : first + count ≤ n)
    (hd : first + count ≤ start ∨ start + m ≤ first) :
    (v.put start w).field first count h = v.field first count h := by
  apply Vector.ext
  intro i hi
  rw [getElem_field, getElem_put, dif_neg (by omega), getElem_field]

theorem toNat_word16 (v : Octets 2) : v.word16.toNat = v[0].toNat * 256 + v[1].toNat := by
  have h0 := v[0].toNat_lt
  have h1 := v[1].toNat_lt
  simp only [word16, UInt16.toNat_add, UInt16.toNat_mul, UInt8.toNat_toUInt16,
    UInt16.reduceToNat]
  omega

theorem toNat_word32 (v : Octets 4) :
    v.word32.toNat = ((v[0].toNat * 256 + v[1].toNat) * 256 + v[2].toNat) * 256 + v[3].toNat := by
  have h0 := v[0].toNat_lt
  have h1 := v[1].toNat_lt
  have h2 := v[2].toNat_lt
  have h3 := v[3].toNat_lt
  simp only [word32, UInt32.toNat_add, UInt32.toNat_mul, UInt8.toNat_toUInt32,
    UInt32.reduceToNat]
  omega

@[simp] theorem word16_ofWord16 (w : UInt16) : (ofWord16 w).word16 = w := by
  have h := w.toNat_lt
  apply UInt16.toNat_inj.1
  simp only [toNat_word16, ofWord16, Vector.getElem_mk, List.getElem_toArray,
    List.getElem_cons_zero, List.getElem_cons_succ, UInt16.toNat_toUInt8, UInt16.toNat_div,
    UInt16.reduceToNat]
  omega

@[simp] theorem word32_ofWord32 (w : UInt32) : (ofWord32 w).word32 = w := by
  have h := w.toNat_lt
  apply UInt32.toNat_inj.1
  simp only [toNat_word32, ofWord32, Vector.getElem_mk, List.getElem_toArray,
    List.getElem_cons_zero, List.getElem_cons_succ, UInt32.toNat_toUInt8, UInt32.toNat_div,
    UInt32.reduceToNat]
  omega

@[simp] theorem ofWord16_word16 (v : Octets 2) : ofWord16 v.word16 = v := by
  have h0 := v[0].toNat_lt
  have h1 := v[1].toNat_lt
  apply Vector.ext
  intro i hi
  apply UInt8.toNat_inj.1
  obtain rfl | rfl : i = 0 ∨ i = 1 := by omega
  · simp only [ofWord16, Vector.getElem_mk, List.getElem_toArray, List.getElem_cons_zero,
      UInt16.toNat_toUInt8, UInt16.toNat_div, UInt16.reduceToNat, toNat_word16]
    omega
  · simp only [ofWord16, Vector.getElem_mk, List.getElem_toArray, List.getElem_cons_zero,
      List.getElem_cons_succ, UInt16.toNat_toUInt8, toNat_word16]
    omega

@[simp] theorem ofWord32_word32 (v : Octets 4) : ofWord32 v.word32 = v := by
  have h0 := v[0].toNat_lt
  have h1 := v[1].toNat_lt
  have h2 := v[2].toNat_lt
  have h3 := v[3].toNat_lt
  apply Vector.ext
  intro i hi
  apply UInt8.toNat_inj.1
  obtain rfl | rfl | rfl | rfl : i = 0 ∨ i = 1 ∨ i = 2 ∨ i = 3 := by omega
  all_goals
    simp only [ofWord32, Vector.getElem_mk, List.getElem_toArray, List.getElem_cons_zero,
      List.getElem_cons_succ, UInt32.toNat_toUInt8, UInt32.toNat_div, UInt32.reduceToNat,
      toNat_word32]
    omega

end Octets

end TwoWay
