import Mathlib.Algebra.BigOperators.Fin
import Mathlib.Data.Int.ModEq
import TwoWay.Proofs.OnesComplement

/-!
# Corrections of a checksum

**Theorem (`corrections_compose`).** Corrections can be made in any order, joined and undone. A
corrected checksum is the one word besides zero with the right remainder modulo 65535
(`eq_replace_iff`), and that remainder sees nothing of the data but two sums.
-/

namespace TwoWay

/-! ## Sums -/

namespace Octets

variable {n : Nat}

/-- The sum of the words that octets spell: an octet counts 256-fold where a word begins. -/
def wordSum (v : Octets n) : Nat :=
  ∑ i : Fin n, (if i.val % 2 = 0 then 256 else 1) * (v.get i).toNat

open Checksum

theorem total_words (xs : List UInt8) :
    total (words xs) =
      ∑ i ∈ Finset.range xs.length, (if i % 2 = 0 then 256 else 1) * (xs.getD i 0).toNat := by
  induction xs using words.induct with
  | case1 high low rest ih =>
    have hparity (i : Nat) : (i + 1 + 1) % 2 = i % 2 := by omega
    have hword : (word16 #v[high, low]).toNat = high.toNat * 256 + low.toNat := toNat_word16 _
    rw [words, total, hword, ih, List.length_cons, List.length_cons, Finset.sum_range_succ',
      Finset.sum_range_succ']
    simp only [List.getD_cons_succ, List.getD_cons_zero, hparity, Nat.zero_add, Nat.zero_mod,
      Nat.one_mod, one_ne_zero, ↓reduceIte]
    omega
  | case2 high =>
    simp [words, total, toNat_word16, Nat.mul_comm]
  | case3 => rfl

theorem total_words_toList (v : Octets n) : total (words v.toList) = v.wordSum := by
  rw [total_words, Vector.length_toList, Finset.sum_range, wordSum]
  refine Finset.sum_congr rfl fun i _ => ?_
  simp [Vector.get]

end Octets

namespace Checksum

theorem total_perm {xs ys : List UInt16} (h : xs.Perm ys) : total xs = total ys := by
  induction h with
  | nil => rfl
  | cons x _ ih => rw [total, total, ih]
  | swap x y xs => simp only [total]; omega
  | trans _ _ ih ih' => exact ih.trans ih'

/-! ## Corrected words -/

section Replace

variable (check : UInt16) {old new : List UInt16} (h : old.length = new.length)
include h

/-- There is one word that a corrected checksum can be. -/
theorem eq_replace_iff (word : UInt16) :
    word = replace check old new ↔
      word ≠ 0 ∧ (word.toNat + total new) % 65535 = (check.toNat + total old) % 65535 := by
  have hreplace := replace_mod check old new h
  constructor
  · rintro rfl
    exact ⟨replace_ne_zero _ _ _, hreplace⟩
  · rintro ⟨hword, hmod⟩
    exact eq_of_mod_eq hword (replace_ne_zero _ _ _) (by omega)

theorem replace_modEq :
    ((replace check old new).toNat : ℤ) ≡ check.toNat + total old - total new [ZMOD 65535] := by
  have hreplace := replace_mod check old new h
  unfold Int.ModEq
  omega

theorem replace_congr {old' new' : List UInt16} (h' : old'.length = new'.length)
    (hold : total old' = total old) (hnew : total new' = total new) :
    replace check old' new' = replace check old new := by
  refine (eq_replace_iff check h _).2 ⟨replace_ne_zero _ _ _, ?_⟩
  rw [← hold, ← hnew]
  exact replace_mod check old' new' h'

end Replace

theorem replace_self {check : UInt16} (hcheck : check ≠ 0) (ws : List UInt16) :
    replace check ws ws = check :=
  ((eq_replace_iff check rfl check).2 ⟨hcheck, rfl⟩).symm

example : replace 0 [] [] = 65535 := rfl

theorem replace_perm (check : UInt16) {pairs pairs' : List (UInt16 × UInt16)}
    (h : pairs'.Perm pairs) :
    replace check (pairs'.map Prod.fst) (pairs'.map Prod.snd) =
      replace check (pairs.map Prod.fst) (pairs.map Prod.snd) :=
  replace_congr check (by simp) (by simp) (total_perm (h.map Prod.fst))
    (total_perm (h.map Prod.snd))

/-! ## Laws -/

/-- What a correction obeys, where `sum` is the sum of the words of the data. -/
structure Corrects {α : Type} (sum : α → Nat) (correct : UInt16 → α → α → UInt16) : Prop where
  bounds : ∀ check old new,
    1 ≤ (correct check old new).toNat ∧ (correct check old new).toNat ≤ 65535
  modEq : ∀ check old new,
    ((correct check old new).toNat : ℤ) ≡ check.toNat + sum old - sum new [ZMOD 65535]
  /-- Of the data it depends on the sums alone. -/
  sums : ∀ check {old new old' new'}, sum old' = sum old → sum new' = sum new →
    correct check old' new' = correct check old new
  same : ∀ {check}, check ≠ 0 → ∀ data, correct check data data = check
  /-- Two corrections in a row are one. -/
  composes : ∀ check first second third,
    correct (correct check first second) second third = correct check first third
  undone : ∀ {check}, check ≠ 0 → ∀ old new, correct (correct check old new) new old = check

theorem corrects_of_words {α : Type} (words : α → List UInt16)
    (h : ∀ a b, (words a).length = (words b).length) :
    Corrects (fun a => total (words a)) fun check old new =>
      replace check (words old) (words new) where
  bounds check old new := by
    have hne : (replace check (words old) (words new)).toNat ≠ 0 := fun h0 =>
      replace_ne_zero _ _ _ (UInt16.toNat_inj.1 h0)
    have hlt := (replace check (words old) (words new)).toNat_lt
    omega
  modEq check old new := replace_modEq check (h old new)
  sums check old new old' new' hold hnew := replace_congr check (h old new) (h old' new') hold hnew
  same hcheck data := replace_self hcheck (words data)
  composes check first second third := replace_replace check (h first second) (h second third)
  undone {check} hcheck old new := by
    rw [replace_replace check (h old new) (h new old), replace_self hcheck]

/-- **Corrections.** For runs of equally many words, and for octets by the words they spell: what
`Corrects` says of them, and that the words may be changed in any order. For every word the sum is
exact in 32 bits, and folded twice it is a word, of which the new checksum is the complement. -/
theorem corrections_compose :
    (∀ n, Corrects (fun ws : Vector UInt16 n => total ws.toList) fun check old new =>
      replace check old.toList new.toList) ∧
    (∀ n, Corrects (fun v : Octets n => v.wordSum) fun check old new =>
      replace check (Octets.words old.toList) (Octets.words new.toList)) ∧
    (∀ check (pairs pairs' : List (UInt16 × UInt16)), pairs'.Perm pairs →
      replace check (pairs'.map Prod.fst) (pairs'.map Prod.snd) =
        replace check (pairs.map Prod.fst) (pairs.map Prod.snd)) ∧
    ∀ check old new : UInt16,
      let sum := (~~~check).toUInt32 + (~~~old).toUInt32 + new.toUInt32
      sum.toNat = (~~~check).toNat + (~~~old).toNat + new.toNat ∧
        (fold (fold sum)).toNat < 65536 ∧
        (replaceWord check old new).toNat = 65535 - (fold (fold sum)).toNat := by
  refine ⟨fun n => ?_, fun n => ?_, fun check pairs pairs' h => replace_perm check h,
    fun check old new => ?_⟩
  · exact corrects_of_words (fun ws : Vector UInt16 n => ws.toList) fun a b => by simp
  · have hwords := corrects_of_words (fun v : Octets n => Octets.words v.toList) fun a b => by
      simp only [Octets.length_words, Vector.length_toList]
    simpa only [Octets.total_words_toList] using hwords
  · exact ⟨toNat_add_words _ _ _, fold_fold_add_words_lt _ _ _, toNat_replaceWord_eq_sub _ _ _⟩

/-- A correction by way of zero and back, 44 octets to and fro, and two words in either order. -/
theorem corrections_compose_samples :
    let zeros : Octets 44 := Octets.zeros 44
    let ones : Octets 44 := Vector.replicate 44 255
    let correct (check : UInt16) (old new : Octets 44) :=
      replace check (Octets.words old.toList) (Octets.words new.toList)
    replaceWord 0x0030 0x0000 0x0030 = 0 ∧
      replace (replace 0x0030 [0x0000, 0x4500] [0x0030, 0x4500]) [0x0030, 0x4500] [0x0000, 0x4500] =
        0x0030 ∧
      correct (correct 0xbacf zeros ones) ones zeros = 0xbacf ∧
      replace 0xbacf [0x4500, 0x0030] [0x0031, 0x8001] =
        replace 0xbacf [0x0030, 0x4500] [0x8001, 0x0031] := by
  intro zeros ones correct
  obtain ⟨hwords, hoctets, hperm, -⟩ := corrections_compose
  refine ⟨by decide, ?_, (hoctets 44).undone (by decide) zeros ones,
    hperm 0xbacf [(0x0030, 0x8001), (0x4500, 0x0031)] [(0x4500, 0x0031), (0x0030, 0x8001)]
      (.swap _ _ _)⟩
  exact (hwords 2).undone (by decide) #v[0x0000, 0x4500] #v[0x0030, 0x4500]

end Checksum

end TwoWay
