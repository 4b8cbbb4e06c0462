import TwoWay.Proofs.Handling
import TwoWay.Proofs.OnesComplement

/-!
# Checksums of datagrams

**Theorem (`checksums_kept`).** A datagram without a checksum stays without one; with one, the sum
stays what it was modulo 65535. The checksum field gains what the record has lost, and to exchange
the ends is nothing to a sum.
-/

namespace TwoWay.Frame

open Checksum Octets

/-! ## What the checksums are over -/

/-- The words under the checksum: addresses, protocol and length, and then the datagram. -/
def datagramWords (f : Frame) : List UInt16 :=
  words (f.block 26 8).toList ++ [17, f.word 38] ++ words (f.block 34 (f.word 38).toNat).toList

/-- The checksum that the datagram should have, whatever its checksum field says. -/
def freshChecksum (f : Frame) : UInt16 := ofWords (f.write 40 (zeros 2)).datagramWords

def headerWords (f : Frame) : List UInt16 := words (f.block 14 20).toList

/-- The checksum of `g` says of `g` what that of `f` says of `f`. -/
structure ChecksumKept (f g : Frame) : Prop where
  absent : f.word 40 = 0 → g.word 40 = 0
  present : f.word 40 ≠ 0 → g.word 40 ≠ 0
  sum : f.word 40 ≠ 0 → total g.datagramWords % 65535 = total f.datagramWords % 65535
  /-- A wrong checksum is not put right, nor a right one spoilt. -/
  holds_iff : f.word 40 ≠ 0 → (Holds g.datagramWords ↔ Holds f.datagramWords)
  fresh : f.word 40 ≠ 0 → Holds f.datagramWords → g.word 40 = g.freshChecksum

/-! ## Sums in parts -/

theorem words_block_add (f : Frame) (start m n : Nat) (h : m % 2 = 0) :
    words (f.block start (m + n)).toList =
      words (f.block start m).toList ++ words (f.block (start + m) n).toList := by
  rw [toList_block_add, words_append _ _ (by simpa using h)]

theorem words_block_two_add (f : Frame) (start n : Nat) :
    words (f.block start (2 + n)).toList =
      f.word start :: words (f.block (start + 2) n).toList := by
  rw [words_block_add f start 2 n rfl, words_two]
  rfl

/-- What the checksum is over, but for the field itself and the record. -/
def restTotal (f : Frame) : Nat :=
  total (words (f.block 26 4).toList) + total (words (f.block 30 4).toList) + 17 +
    (f.word 34).toNat + (f.word 36).toNat + 2 * (f.word 38).toNat +
    total (words (f.block 86 ((f.word 38).toNat - 52)).toList)

theorem total_datagramWords (f : Frame) (h : 52 ≤ (f.word 38).toNat) :
    total f.datagramWords =
      f.restTotal + (f.word 40).toNat + total (words (f.block 42 44).toList) := by
  have haddresses : words (f.block 26 8).toList =
      words (f.block 26 4).toList ++ words (f.block 30 4).toList :=
    words_block_add f 26 4 4 rfl
  -- Four words of header, the record, and what comes behind it.
  obtain ⟨k, hk⟩ : ∃ k, (f.word 38).toNat = 2 + (2 + (2 + (2 + (44 + k)))) :=
    ⟨(f.word 38).toNat - 52, by omega⟩
  have hdatagram : words (f.block 34 (2 + (2 + (2 + (2 + (44 + k)))))).toList =
      f.word 34 :: f.word 36 :: f.word 38 :: f.word 40 ::
        (words (f.block 42 44).toList ++ words (f.block 86 k).toList) := by
    rw [words_block_two_add, words_block_two_add, words_block_two_add, words_block_two_add,
      words_block_add f _ 44 k rfl]
  have hrest : (f.word 38).toNat - 52 = k := by omega
  rw [datagramWords, restTotal, haddresses, hrest, hk, hdatagram]
  simp only [total_append, total]
  show _ + (17 + _) + _ = _
  omega

/-! ## What decides about a checksum -/

/-- It makes no difference to a sum which end comes first. -/
theorem restTotal_eq {f g : Frame} (hends : g.ends = f.ends ∨ g.ends = f.ends.reverse)
    (hlength : g.word 38 = f.word 38) (htail : ∀ n, g.block 86 n = f.block 86 n) :
    g.restTotal = f.restTotal := by
  rw [restTotal, restTotal, hlength, htail]
  rcases hends with h | h
  · obtain ⟨-, -, hsource, hdestination, hsourcePort, hdestinationPort⟩ := ends_eq_iff.1 h
    rw [hsource, hdestination, hsourcePort, hdestinationPort]
  · obtain ⟨-, -, hsource, hdestination, hsourcePort, hdestinationPort⟩ := ends_eq_reverse_iff.1 h
    rw [hsource, hdestination, hsourcePort, hdestinationPort]
    omega

theorem freshChecksum_mod (f : Frame) (hsize : 86 ≤ f.octets.size)
    (hlength : 52 ≤ (f.word 38).toNat) :
    (f.freshChecksum.toNat + f.restTotal + total (words (f.block 42 44).toList)) % 65535 = 0 := by
  have hblock {first count : Nat} (hd : first + count ≤ 40 ∨ 42 ≤ first) :
      (f.write 40 (zeros 2)).block first count = f.block first count :=
    block_write_of_disjoint f _ (by omega) hd
  have hword : (f.write 40 (zeros 2)).word 38 = f.word 38 :=
    congrArg word16 (hblock (.inl (by omega)))
  have hcheck : (f.write 40 (zeros 2)).word 40 = 0 := by
    rw [word, block_write_self _ _ (by omega)]
    decide
  have hrest : (f.write 40 (zeros 2)).restTotal = f.restTotal :=
    restTotal_eq (.inl (ends_eq_of_block_eq fun _ => hblock (.inl (by omega)))) hword
      fun _ => hblock (.inr (by omega))
  have htotal := total_datagramWords (f.write 40 (zeros 2)) (by rw [hword]; exact hlength)
  rw [hrest, hcheck, hblock (.inr (by omega))] at htotal
  have hfresh := ofWords_mod (f.write 40 (zeros 2)).datagramWords
  rw [htotal] at hfresh
  rw [freshChecksum]
  simpa [Nat.add_assoc] using hfresh

/-- A frame with the same ends, either way about, and a checksum corrected for its record. -/
theorem checksumKept_of_revised {f g : Frame} {record : Octets Reply.size}
    (hnested : f.Nested) (hsize : 86 ≤ g.octets.size) (hlength : g.word 38 = f.word 38)
    (hrest : g.restTotal = f.restTotal) (hcheck : g.word 40 = f.revisedCheck record)
    (hrecord : g.block 42 44 = record) : f.ChecksumKept g := by
  have hf := total_datagramWords f hnested.datagram
  have hg := total_datagramWords g (by rw [hlength]; exact hnested.datagram)
  by_cases hzero : f.word 40 = 0
  · have hcheck0 : g.word 40 = 0 := by rw [hcheck, revisedCheck, if_pos hzero]
    exact ⟨fun _ => hcheck0, fun h => absurd hzero h, fun h => absurd hzero h,
      fun h => absurd hzero h, fun h => absurd hzero h⟩
  · rw [revisedCheck, if_neg hzero] at hcheck
    have hne : g.word 40 ≠ 0 := by
      rw [hcheck]
      exact replace_ne_zero _ _ _
    have hwords : (words (f.block 42 44).toList).length = (words record.toList).length := by
      simp only [length_words, Vector.length_toList]
    have hrevised := replace_mod (f.word 40) _ _ hwords
    rw [← hcheck, ← hrecord] at hrevised
    have hsum : total g.datagramWords % 65535 = total f.datagramWords % 65535 := by omega
    -- The protocol number alone keeps the sums away from zero, the one number whose fold is zero.
    have hpos : 0 < f.restTotal := by
      rw [restTotal]
      omega
    have hholds : Holds g.datagramWords ↔ Holds f.datagramWords := by
      rw [holds_iff, holds_iff]
      omega
    have hfresh := freshChecksum_mod g hsize (by rw [hlength]; exact hnested.datagram)
    refine ⟨fun h => absurd h hzero, fun _ => hne, fun _ => hsum, fun _ => hholds,
      fun _ h => eq_of_mod_eq hne (ofWords_ne_zero _) ?_⟩
    have hzeroSum := ((holds_iff _).1 (hholds.2 h)).2
    change (g.word 40).toNat % 65535 = g.freshChecksum.toNat % 65535
    omega

/-! ## Answers and replies -/

theorem checksumKept_answered {f : Frame} (h : f.Nested) (record : Octets Reply.size) :
    f.ChecksumKept (f.answered record) := by
  have hsize := h.le_size_octets
  have hlength : (f.answered record).word 38 = f.word 38 :=
    congrArg word16 (block_answered_of_disjoint record hsize (.inl (by omega)))
  have hrest : (f.answered record).restTotal = f.restTotal :=
    restTotal_eq (.inl (ends_answered hsize record)) hlength fun n =>
      block_answered_of_disjoint record hsize (.inr (by omega))
  exact checksumKept_of_revised h (by simpa using hsize) hlength hrest
    (word_answered_check record hsize) (block_answered_record record hsize)

theorem checksumKept_replied {f : Frame} (h : f.Nested) (record : Octets Reply.size) :
    f.ChecksumKept (f.replied record) := by
  have hsize := h.le_size_octets
  have hlength : (f.replied record).word 38 = f.word 38 :=
    congrArg word16 (block_replied_length record hsize)
  have hrest : (f.replied record).restTotal = f.restTotal :=
    restTotal_eq (.inr (ends_replied hsize record)) hlength (block_replied_tail record hsize)
  exact checksumKept_of_revised h (by simpa using hsize) hlength hrest
    (word_replied_check record hsize) (block_replied_record record hsize)

theorem total_headerWords (f : Frame) :
    total f.headerWords =
      total (words (f.block 14 12).toList) + total (words (f.block 26 4).toList) +
        total (words (f.block 30 4).toList) := by
  have hsplit : words (f.block 14 20).toList =
      words (f.block 14 12).toList ++
        (words (f.block 26 4).toList ++ words (f.block 30 4).toList) := by
    rw [← words_block_add f 26 4 4 rfl]
    exact words_block_add f 14 12 8 rfl
  rw [headerWords, hsplit, total_append, total_append, Nat.add_assoc]

theorem total_headerWords_replied {f : Frame} (h : 86 ≤ f.octets.size)
    (record : Octets Reply.size) :
    total (f.replied record).headerWords = total f.headerWords := by
  have hhead : (f.replied record).block 14 12 = f.block 14 12 :=
    block_part (block_replied_head record h) 2 (by omega)
  obtain ⟨-, -, hsource, hdestination, -, -⟩ := ends_eq_reverse_iff.1 (ends_replied h record)
  rw [total_headerWords, total_headerWords, hhead, hsource, hdestination]
  omega

/-- **Checksums are kept.** By an answer in place on any frame with sound lengths, and by the whole
handling of any frame that is redirected, with the sum and the checksum of the packet's header. -/
theorem checksums_kept {σ : Type} [Clock σ] :
    (∀ (f : Frame) (received sent : Timestamp) (estimate : ErrorEstimate),
      f.checkLengths = .ok () →
        let g := f.answered (f.replyTo received sent estimate).octets
        answer received sent estimate f = .ok () g ∧ f.ChecksumKept g) ∧
    ∀ (r : Reflector) (clock : σ) (f : Frame) (interface : UInt32),
      (r.handle clock f).disposition = .redirect interface →
        let g := (r.handle clock f).frame
        f.ChecksumKept g ∧ total g.headerWords = total f.headerWords ∧ g.word 24 = f.word 24 ∧
          (Holds g.headerWords ↔ Holds f.headerWords) := by
  refine ⟨fun f received sent estimate h => ?_, fun r clock f interface h => ?_⟩
  · exact ⟨answer_eq f h received sent estimate,
      checksumKept_answered ((checkLengths_eq_ok_iff f).1 h) _⟩
  · have hprobe := Reflector.isProbe_of_redirect h
    have hsize := hprobe.nested.le_size_octets
    rw [Reflector.handle_of_isProbe r clock hprobe]
    generalize (r.replyTo clock f).octets = record
    have htotal := total_headerWords_replied hsize record
    have hcheck : (f.replied record).word 24 = f.word 24 :=
      congrArg word16 (block_part (block_replied_head record hsize) 12 (by omega))
    refine ⟨checksumKept_replied hprobe.nested record, htotal, hcheck, ?_⟩
    rw [holds_iff, holds_iff, htotal]

/-- The sample, whose checksum holds, after an answer and after all of its handling. -/
theorem checksums_kept_of_sample :
    let r := Reflector.sample none
    let clock : SteppingClock := ⟨1700000000000000000, 1000⟩
    let answered := sample.answered (sample.replyTo ⟨1, 2⟩ ⟨3, 4⟩ ⟨5⟩).octets
    sample.checkLengths = .ok () ∧ (r.handle clock sample).disposition = .redirect 7 ∧
      sample.word 40 ≠ 0 ∧ Holds sample.datagramWords ∧
      answer ⟨1, 2⟩ ⟨3, 4⟩ ⟨5⟩ sample = .ok () answered ∧
      answered.word 40 = answered.freshChecksum ∧
      Holds (r.handle clock sample).frame.datagramWords ∧
      Holds (r.handle clock sample).frame.headerWords := by
  intro r clock answered
  have hlengths : sample.checkLengths = .ok () := rfl
  have hredirect : (r.handle clock sample).disposition = .redirect 7 := by
    rw [Reflector.handle_of_isProbe r clock (by decide)]
    rfl
  have hpresent : sample.word 40 ≠ 0 := by decide
  have hholds : Holds sample.datagramWords := by decide
  obtain ⟨hanswer, hhandle⟩ := checksums_kept (σ := SteppingClock)
  obtain ⟨hanswered, hkept⟩ := hanswer sample ⟨1, 2⟩ ⟨3, 4⟩ ⟨5⟩ hlengths
  obtain ⟨hkept', -, -, hheader⟩ := hhandle r clock sample 7 hredirect
  exact ⟨hlengths, hredirect, hpresent, hholds, hanswered, hkept.fresh hpresent hholds,
    (hkept'.holds_iff hpresent).2 hholds, hheader.2 (by decide)⟩

end TwoWay.Frame
