import TwoWay.Proofs.OnesComplement
import TwoWay.Proofs.Records
import TwoWay.Proofs.Refusals
import TwoWay.Proofs.Rewriting

/-!
# Answers in place

**Theorem (`answered_again`).** An answer fails with the first length that is short and no change,
or it succeeds and leaves the lengths as they were, so the frame can be answered again.
-/

namespace TwoWay.Frame

open Octets

/-! ## Lengths -/

/-- Each length of a frame beside what it has to cover, from the record outwards. -/
def lengths (f : Frame) : List Truncation :=
  [⟨86, f.size⟩, ⟨52, (f.word 38).toNat⟩, ⟨20 + (f.word 38).toNat, (f.word 16).toNat⟩,
    ⟨14 + (f.word 16).toNat, f.size⟩]

theorem ite_check (t : Truncation) (x : Except Truncation Unit) :
    (if t.available < t.needed then .error t else x) = (do t.check; x) := by
  rw [Truncation.check]
  split <;> rfl

theorem require_eq_check (f : Frame) (stop : Nat) :
    f.require stop = Truncation.check ⟨stop, f.size⟩ := by
  rw [require, Truncation.check]
  split <;> simp_all

theorem checkLengths_eq_forM (f : Frame) : f.checkLengths = forM f.lengths Truncation.check := by
  rw [checkLengths_eq, require_eq_check]
  simp only [lengths, List.forM_cons, List.forM_nil, bind_pure_unit, ← ite_check]

theorem checkLengths_eq_ok_iff_covers (f : Frame) :
    f.checkLengths = .ok () ↔ ∀ l ∈ f.lengths, l.needed ≤ l.available := by
  simp only [checkLengths_eq_forM, forM_eq_ok_iff, Truncation.check_eq_ok_iff]

theorem checkLengths_eq_error_iff (f : Frame) (t : Truncation) :
    f.checkLengths = .error t ↔
      ∃ before after, f.lengths = before ++ t :: after ∧
        (∀ l ∈ before, l.needed ≤ l.available) ∧ t.available < t.needed := by
  simp only [checkLengths_eq_forM, forM_eq_error_iff, Truncation.check_eq_ok_iff,
    Truncation.check_eq_error_iff]
  constructor
  · rintro ⟨before, l, after, hf, hbefore, rfl, hl⟩
    exact ⟨before, after, hf, hbefore, hl⟩
  · rintro ⟨before, after, hf, hbefore, ht⟩
    exact ⟨before, t, after, hf, hbefore, rfl, ht⟩

theorem Nested.inside {f : Frame} (h : f.Nested) :
    86 ≤ 34 + (f.word 38).toNat ∧ 34 + (f.word 38).toNat ≤ 14 + (f.word 16).toNat ∧
      14 + (f.word 16).toNat ≤ f.size := by
  have hdatagram := h.datagram
  have hpacket := h.packet
  exact ⟨by omega, by omega, h.size⟩

theorem checkLengths_of_lengths_eq {f g : Frame} (h : g.lengths = f.lengths) :
    g.checkLengths = f.checkLengths := by
  rw [checkLengths_eq_forM, checkLengths_eq_forM, h]

/-! ## One answer -/

theorem answer_of_error {f : Frame} {t : Truncation} (h : f.checkLengths = .error t)
    (received sent : Timestamp) (estimate : ErrorEstimate) :
    answer received sent estimate f = .error t f :=
  bind_look_error h _

theorem answer_eq_ok_iff (f : Frame) (received sent : Timestamp) (estimate : ErrorEstimate) :
    (∃ g, answer received sent estimate f = .ok () g) ↔ f.checkLengths = .ok () := by
  constructor
  · rintro ⟨g, hg⟩
    cases h : f.checkLengths with
    | error t =>
      rw [answer_of_error h] at hg
      cases hg
    | ok u => rfl
  · intro h
    exact ⟨_, answer_eq f h received sent estimate⟩

/-! ## Another answer -/

section Answered

variable {f : Frame} (h : 86 ≤ f.octets.size) (record : Octets Reply.size)
include h

theorem lengths_answered : (f.answered record).lengths = f.lengths := by
  have hword {i : Nat} (hi : i + 2 ≤ 40) : (f.answered record).word i = f.word i :=
    congrArg word16 (block_answered_of_disjoint record h (.inl hi))
  rw [lengths, lengths, hword (by decide), hword (by decide), size_answered]

theorem octet_answered_ttl : (f.answered record).octet 22 = f.octet 22 := by
  have hblock : (f.answered record).block 22 1 = f.block 22 1 :=
    block_answered_of_disjoint record h (.inl (by decide))
  exact octet_eq_octet hblock (i := 0) (by decide)

/-- The reply in an answered frame is the probe of the next answer. -/
theorem replyTo_answered (reply : Reply) (received sent : Timestamp) (estimate : ErrorEstimate) :
    (f.answered reply.octets).replyTo received sent estimate =
      (⟨reply.sequence, reply.timestamp, reply.errorEstimate⟩ : Probe).answer received sent estimate
        (f.octet 22) := by
  rw [replyTo, block_answered_record _ h, Reply.ofOctets_reply, octet_answered_ttl h]

/-- The checksum goes from record to record and forgets those between. -/
theorem revisedCheck_answered (next : Octets Reply.size) :
    (f.answered record).revisedCheck next = f.revisedCheck next := by
  have hcheck := word_answered_check record h
  -- no checksum stays no checksum; another never becomes zero, so the second answer sees one too
  by_cases hzero : f.word 40 = 0
  · have hanswered : (f.answered record).word 40 = 0 := by rw [hcheck, revisedCheck, if_pos hzero]
    rw [revisedCheck, revisedCheck, if_pos hanswered, if_pos hzero]
  · have hreplaced : (f.answered record).word 40 =
        Checksum.replace (f.word 40) (words (f.block 42 44).toList) (words record.toList) := by
      rw [hcheck, revisedCheck, if_neg hzero]
    have hanswered : (f.answered record).word 40 ≠ 0 := by
      rw [hreplaced]
      exact Checksum.replace_ne_zero _ _ _
    rw [revisedCheck, revisedCheck, if_neg hanswered, if_neg hzero, hreplaced,
      block_answered_record record h]
    exact Checksum.replace_replace _ (by simp only [length_words, Vector.length_toList])
      (by simp only [length_words, Vector.length_toList])

end Answered

/-- **Answers, once and again.** An answer fails with just the report of the check of the lengths,
and no change. Else a second answer is to the number of the probe and to the first reply's time and
estimate, and its checksum is as if its record had come straight after the probe. -/
theorem answered_again (f : Frame) (received sent received' sent' : Timestamp)
    (estimate estimate' : ErrorEstimate) :
    (f.checkLengths = .ok () ↔ ∀ l ∈ f.lengths, l.needed ≤ l.available) ∧
    (∀ t, f.checkLengths = .error t ↔
      ∃ before after, f.lengths = before ++ t :: after ∧
        (∀ l ∈ before, l.needed ≤ l.available) ∧ t.available < t.needed) ∧
    (f.checkLengths = .ok () →
      86 ≤ 34 + (f.word 38).toNat ∧ 34 + (f.word 38).toNat ≤ 14 + (f.word 16).toNat ∧
        14 + (f.word 16).toNat ≤ f.size) ∧
    ((∃ g, answer received sent estimate f = .ok () g) ↔ f.checkLengths = .ok ()) ∧
    (∀ t, f.checkLengths = .error t → answer received sent estimate f = .error t f) ∧
    ∀ g, answer received sent estimate f = .ok () g →
      let probe := Probe.ofOctets (f.block 42 44)
      let reply := probe.answer received sent estimate (f.octet 22)
      let reply' := (⟨probe.sequence, sent, estimate⟩ : Probe).answer received' sent' estimate'
        (f.octet 22)
      g.block 42 44 = reply.octets ∧ g.checkLengths = .ok () ∧
        ∃ k, answer received' sent' estimate' g = .ok () k ∧ k.block 42 44 = reply'.octets ∧
          k.word 40 =
            if f.word 40 = 0 then 0
            else Checksum.replace (f.word 40) (words (f.block 42 44).toList)
              (words reply'.octets.toList) := by
  refine ⟨checkLengths_eq_ok_iff_covers f, checkLengths_eq_error_iff f,
    fun h => ((checkLengths_eq_ok_iff f).1 h).inside, answer_eq_ok_iff f received sent estimate,
    fun t h => answer_of_error h _ _ _, ?_⟩
  intro g hg probe reply reply'
  have hlengths := (answer_eq_ok_iff f received sent estimate).1 ⟨g, hg⟩
  have hsize := ((checkLengths_eq_ok_iff f).1 hlengths).le_size_octets
  obtain rfl : f.answered reply.octets = g := by
    rw [answer_eq f hlengths] at hg
    cases hg
    rfl
  have hagain : (f.answered reply.octets).checkLengths = .ok () :=
    (checkLengths_of_lengths_eq (lengths_answered hsize _)).trans hlengths
  have hanswer := answer_eq _ hagain received' sent' estimate'
  rw [replyTo_answered hsize] at hanswer
  refine ⟨block_answered_record _ hsize, hagain, _, hanswer,
    block_answered_record _ (by simpa using hsize), ?_⟩
  rw [word_answered_check _ (by simpa using hsize), revisedCheck_answered hsize]
  rfl

/-- The sample answered twice, and cut by one octet not at all. -/
theorem answered_again_sample :
    let cut := ofPrefix sampleBuffer 86 7
    answer ⟨1, 2⟩ ⟨3, 4⟩ ⟨5⟩ cut = .error ⟨87, 86⟩ cut ∧
      ∃ g k, answer ⟨1, 2⟩ ⟨3, 4⟩ ⟨5⟩ sample = .ok () g ∧ answer ⟨6, 7⟩ ⟨8, 9⟩ ⟨10⟩ g = .ok () k ∧
        Reply.ofOctets (k.block 42 44) = ⟨7, ⟨8, 9⟩, ⟨10⟩, ⟨6, 7⟩, 7, ⟨3, 4⟩, ⟨5⟩, 64⟩ ∧
        k.word 40 = 45472 := by
  intro cut
  obtain ⟨-, hfault, -, -, hcut, -⟩ := answered_again cut ⟨1, 2⟩ ⟨3, 4⟩ ⟨6, 7⟩ ⟨8, 9⟩ ⟨5⟩ ⟨10⟩
  have hshort : cut.checkLengths = .error ⟨87, 86⟩ :=
    (hfault _).2 ⟨[⟨86, 86⟩, ⟨52, 53⟩, ⟨73, 73⟩], [], by decide⟩
  obtain ⟨-, -, -, hsound, -, hanswer⟩ :=
    answered_again sample ⟨1, 2⟩ ⟨3, 4⟩ ⟨6, 7⟩ ⟨8, 9⟩ ⟨5⟩ ⟨10⟩
  obtain ⟨g, hg⟩ := hsound.2 rfl
  obtain ⟨-, -, k, hk, hreply, hcheck⟩ := hanswer g hg
  refine ⟨hcut _ hshort, g, k, hg, hk, ?_, ?_⟩
  · rw [hreply, Reply.ofOctets_octets]
    decide
  · rw [hcheck]
    decide +kernel

end TwoWay.Frame
