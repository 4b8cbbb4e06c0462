import TwoWay.Checksum

/-!
# One's-complement arithmetic

Sums of words with their carries brought back in are numbers modulo 65535, except that there are two
words for zero, and a checksum in place is never the word zero. One word is corrected by
`replaceWord_mod`; from it, word by word, a whole run of them by `replace_mod`.
-/

namespace TwoWay

/-! ## Words of octets -/

namespace Octets

/-- Octets up to an even position spell the same words with or without what follows. -/
theorem words_append (xs ys : List UInt8) (h : xs.length % 2 = 0) :
    words (xs ++ ys) = words xs ++ words ys := by
  induction xs using words.induct with
  | case1 high low rest ih =>
    have hrest : rest.length % 2 = 0 := by
      simp only [List.length_cons] at h
      omega
    simp [words, ih hrest]
  | case2 high => simp at h
  | case3 => simp [words]

theorem length_words (xs : List UInt8) : (words xs).length = (xs.length + 1) / 2 := by
  induction xs using words.induct with
  | case1 high low rest ih =>
    simp only [words, List.length_cons, ih]
    omega
  | case2 high => simp [words]
  | case3 => simp [words]

theorem words_two (v : Octets 2) : words v.toList = [v.word16] := by
  have hv : v.toList = [v[0], v[1]] := by
    refine List.ext_getElem (by simp) fun i h₁ h₂ => ?_
    obtain rfl | rfl : i = 0 ∨ i = 1 := by
      simp only [List.length_cons, List.length_nil] at h₂
      omega
    · simp
    · simp
  rw [hv]
  rfl

end Octets

namespace Checksum

@[simp] theorem total_append (xs ys : List UInt16) : total (xs ++ ys) = total xs + total ys := by
  induction xs with
  | nil => simp [total]
  | cons x xs ih => simp [total, ih, Nat.add_assoc]

/-! ## Carries -/

theorem toNat_folded {sum : Nat} (h : 0 < sum) : (folded sum).toNat = (sum - 1) % 65535 + 1 := by
  rw [folded, if_neg (by omega), UInt16.toNat_ofNat']
  omega

theorem folded_mod (sum : Nat) : (folded sum).toNat % 65535 = sum % 65535 := by
  by_cases h : 0 < sum
  · rw [toNat_folded h]
    omega
  · obtain rfl : sum = 0 := by omega
    rfl

/-- To fold is to bring carries in until there are none. -/
theorem folded_carry (sum : Nat) : folded (sum % 65536 + sum / 65536) = folded sum := by
  by_cases h : 0 < sum
  · apply UInt16.toNat_inj.1
    rw [toNat_folded h, toNat_folded (by omega)]
    omega
  · obtain rfl : sum = 0 := by omega
    rfl

theorem folded_of_lt {sum : Nat} (h : sum < 65536) : folded sum = UInt16.ofNat sum := by
  unfold folded
  split
  · next h0 => rw [h0]; rfl
  · congr 1
    omega

theorem toNat_fold (sum : UInt32) :
    (fold sum).toNat = sum.toNat % 65536 + sum.toNat / 65536 := by
  have h := sum.toNat_lt
  simp only [fold, UInt32.toNat_add, UInt32.toNat_mod, UInt32.toNat_div, UInt32.reduceToNat]
  omega

theorem toNat_add_words (a b c : UInt16) :
    (a.toUInt32 + b.toUInt32 + c.toUInt32).toNat = a.toNat + b.toNat + c.toNat := by
  have ha := a.toNat_lt
  have hb := b.toNat_lt
  have hc := c.toNat_lt
  simp only [UInt32.toNat_add, UInt16.toNat_toUInt32]
  omega

/-- Two folds bring the sum back to sixteen bits. One may leave a carry. -/
theorem fold_fold_add_words_lt (a b c : UInt16) :
    (fold (fold (a.toUInt32 + b.toUInt32 + c.toUInt32))).toNat < 65536 := by
  have ha := a.toNat_lt
  have hb := b.toNat_lt
  have hc := c.toNat_lt
  rw [toNat_fold, toNat_fold, toNat_add_words]
  omega

theorem toNat_replaceWord_eq_sub (check old new : UInt16) :
    (replaceWord check old new).toNat =
      65535 - (fold (fold ((~~~check).toUInt32 + (~~~old).toUInt32 + new.toUInt32))).toNat := by
  have hbound := fold_fold_add_words_lt (~~~check) (~~~old) new
  simp only [replaceWord, UInt16.toNat_not, UInt16.size, UInt32.toNat_toUInt16]
  omega

/-- Two folds bring all carries in, so the new checksum is the complement of a folded sum. -/
theorem replaceWord_eq_not_folded (check old new : UInt16) :
    replaceWord check old new = ~~~folded ((~~~check).toNat + (~~~old).toNat + new.toNat) := by
  have hfold (sum : UInt32) : folded (fold sum).toNat = folded sum.toNat := by
    rw [toNat_fold, folded_carry]
  -- After two folds nothing is left to carry, and folding further makes no difference.
  have hword := folded_of_lt (fold_fold_add_words_lt (~~~check) (~~~old) new)
  rw [hfold, hfold, toNat_add_words] at hword
  rw [hword]
  rfl

/-- What the checksum gains, the new word has lost on the old one. -/
theorem replaceWord_mod (check old new : UInt16) :
    ((replaceWord check old new).toNat + new.toNat) % 65535 =
      (check.toNat + old.toNat) % 65535 := by
  have hsum := folded_mod ((~~~check).toNat + (~~~old).toNat + new.toNat)
  have hfolded := (folded ((~~~check).toNat + (~~~old).toNat + new.toNat)).toNat_lt
  have hc := check.toNat_lt
  have ho := old.toNat_lt
  rw [replaceWord_eq_not_folded, UInt16.toNat_not]
  simp only [UInt16.toNat_not, UInt16.size] at hsum hfolded ⊢
  omega

theorem foldl_replaceWord_mod (check : UInt16) (old new : List UInt16)
    (h : old.length = new.length) :
    (((old.zip new).foldl (fun c w => replaceWord c w.1 w.2) check).toNat + total new) % 65535 =
      (check.toNat + total old) % 65535 := by
  induction old generalizing check new with
  | nil =>
    obtain rfl := List.length_eq_zero_iff.1 h.symm
    rfl
  | cons o old ih =>
    cases new with
    | nil => simp at h
    | cons n new =>
      have htail := ih (replaceWord check o n) new (by simpa using h)
      have hhead := replaceWord_mod check o n
      simp only [List.zip_cons_cons, List.foldl_cons, total]
      omega

/-! ## Two words for zero -/

theorem nonzero_ne_zero (check : UInt16) : nonzero check ≠ 0 := by
  unfold nonzero
  split
  · decide
  · assumption

theorem nonzero_mod (check : UInt16) : (nonzero check).toNat % 65535 = check.toNat % 65535 := by
  unfold nonzero
  split
  · next h => rw [h]; rfl
  · rfl

/-- Checksums in place are told apart by what they are modulo 65535. -/
theorem eq_of_mod_eq {a b : UInt16} (ha : a ≠ 0) (hb : b ≠ 0)
    (h : a.toNat % 65535 = b.toNat % 65535) : a = b := by
  have ha' : a.toNat ≠ 0 := fun h' => ha (UInt16.toNat_inj.1 h')
  have hb' : b.toNat ≠ 0 := fun h' => hb (UInt16.toNat_inj.1 h')
  have hla := a.toNat_lt
  have hlb := b.toNat_lt
  apply UInt16.toNat_inj.1
  omega

theorem replace_ne_zero (check : UInt16) (old new : List UInt16) : replace check old new ≠ 0 :=
  nonzero_ne_zero _

/-- A corrected checksum makes up for all words that have changed. -/
theorem replace_mod (check : UInt16) (old new : List UInt16) (h : old.length = new.length) :
    ((replace check old new).toNat + total new) % 65535 =
      (check.toNat + total old) % 65535 := by
  have hwords := foldl_replaceWord_mod check old new h
  have hnonzero := nonzero_mod ((old.zip new).foldl (fun c w => replaceWord c w.1 w.2) check)
  rw [replace]
  omega

theorem replace_replace (check : UInt16) {first second third : List UInt16}
    (h : first.length = second.length) (h' : second.length = third.length) :
    replace (replace check first second) second third = replace check first third := by
  have hsecond := replace_mod check first second h
  have hthird := replace_mod (replace check first second) second third h'
  have honce := replace_mod check first third (h.trans h')
  exact eq_of_mod_eq (replace_ne_zero _ _ _) (replace_ne_zero _ _ _) (by omega)

/-! ## From scratch -/

theorem holds_iff (ws : List UInt16) : Holds ws ↔ 0 < total ws ∧ total ws % 65535 = 0 := by
  rw [Holds]
  by_cases h : 0 < total ws
  · rw [← UInt16.toNat_inj, toNat_folded h]
    show (total ws - 1) % 65535 + 1 = 65535 ↔ _
    omega
  · obtain h0 : total ws = 0 := by omega
    simp [h0, folded]

theorem ofWords_ne_zero (ws : List UInt16) : ofWords ws ≠ 0 :=
  nonzero_ne_zero _

/-- Data and the checksum of data add up to nothing. -/
theorem ofWords_mod (ws : List UInt16) : ((ofWords ws).toNat + total ws) % 65535 = 0 := by
  have hnonzero := nonzero_mod (~~~folded (total ws))
  rw [UInt16.toNat_not] at hnonzero
  rw [ofWords]
  by_cases h : 0 < total ws
  · rw [toNat_folded h, UInt16.size] at hnonzero
    omega
  · obtain h0 : total ws = 0 := by omega
    rw [h0]
    rfl

end Checksum

end TwoWay
