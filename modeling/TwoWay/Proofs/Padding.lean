import TwoWay.Proofs.Replies

/-!
# What has no say in a reply

**Theorem (`handled_alike`).** A reflector reads the headers of a frame, fourteen octets of its
record, and the size of the frame for no more than whether the packet fits in. Frames that agree in
these are handled alike, whatever stands behind the record, the packet or the frame.
-/

namespace TwoWay

namespace Frame

open Octets

/-! ## Frames with a common start -/

section Start

variable {f g : Frame} {n : Nat}

theorem block_of_start {m : Nat} (h : f.block 0 n = g.block 0 n) (a : Nat) (ha : a + m ≤ n) :
    f.block a m = g.block a m := by
  simpa using block_part h a ha

theorem word_of_start (h : f.block 0 n = g.block 0 n) (i : Nat) (hi : i + 2 ≤ n) :
    f.word i = g.word i :=
  congrArg word16 (block_of_start h i hi)

theorem octet_of_start (h : f.block 0 n = g.block 0 n) (i : Nat) (hi : i < n) :
    f.octet i = g.octet i := by
  simpa using octet_eq_octet h hi

theorem block_add {a : Nat} (m n : Nat) (hm : f.block a m = g.block a m)
    (hn : f.block (a + m) n = g.block (a + m) n) : f.block a (m + n) = g.block a (m + n) := by
  apply Vector.toList_inj.1
  rw [toList_block_add, toList_block_add, hm, hn]

end Start

/-! ## Checks -/

/-- The screening reads the three headers and is content with any size that holds them. -/
theorem screen_of_start {f g : Frame} (h : f.block 0 42 = g.block 0 42) (hf : 42 ≤ f.size)
    (hg : 42 ≤ g.size) (s : Settings) : f.screen s = g.screen s := by
  have hlink : f.screenLink = g.screenLink := by
    rw [screenLink_eq, screenLink_eq, if_neg (show ¬f.size < 14 by omega),
      if_neg (show ¬g.size < 14 by omega), word_of_start h 12 (by omega)]
  have hnetwork : f.screenNetwork = g.screenNetwork := by
    rw [screenNetwork_eq, screenNetwork_eq, if_neg (show ¬f.size < 34 by omega),
      if_neg (show ¬g.size < 34 by omega), octet_of_start h 14 (by omega),
      word_of_start h 20 (by omega), octet_of_start h 23 (by omega)]
  have hports : f.screenPorts s.ports = g.screenPorts s.ports := by
    rw [screenPorts_eq, screenPorts_eq, if_neg (show ¬f.size < 42 by omega),
      if_neg (show ¬g.size < 42 by omega), word_of_start h 34 (by omega),
      word_of_start h 36 (by omega)]
  have haddress : f.screenAddress s.localAddress = g.screenAddress s.localAddress := by
    cases s.localAddress with
    | none => rfl
    | some a =>
      rw [screenAddress_some f a (by omega), screenAddress_some g a (by omega),
        block_of_start h 30 (by omega)]
  rw [screen, screen, hlink, hnetwork, hports, haddress]

/-- Of the size of a frame, its lengths ask only that the packet fits in. -/
theorem nested_of_start {f g : Frame} (h : f.block 0 42 = g.block 0 42)
    (hfit : 14 + (f.word 16).toNat ≤ f.size ↔ 14 + (g.word 16).toNat ≤ g.size) :
    f.Nested ↔ g.Nested := by
  have hdatagram := congrArg UInt16.toNat (word_of_start h 38 (by omega))
  have hpacket := congrArg UInt16.toNat (word_of_start h 16 (by omega))
  constructor
  · rintro ⟨h₁, h₂, h₃⟩
    exact ⟨by omega, by omega, hfit.1 h₃⟩
  · rintro ⟨h₁, h₂, h₃⟩
    exact ⟨by omega, by omega, hfit.2 h₃⟩

/-! ## Replies -/

/-- A reply takes the number, the time and the estimate from the probe, and the hop limit. -/
theorem replyTo_of_start {f g : Frame} (h : f.block 0 56 = g.block 0 56)
    (received sent : Timestamp) (estimate : ErrorEstimate) :
    f.replyTo received sent estimate = g.replyTo received sent estimate := by
  rw [replyTo, replyTo, ofOctets_block, ofOctets_block, block_of_start h 42 (by omega),
    block_of_start h 46 (by omega), block_of_start h 50 (by omega),
    word_of_start h 54 (by omega), octet_of_start h 22 (by omega)]

section Replied

variable {f g : Frame} (hf : 86 ≤ f.octets.size) (hg : 86 ≤ g.octets.size)
include hf hg

/-- Up to the checksum it makes no difference what the reply says. -/
theorem block_replied_start (h : f.block 0 40 = g.block 0 40) (a b : Octets Reply.size) :
    (f.replied a).block 0 40 = (g.replied b).block 0 40 := by
  have hends : f.ends = g.ends := ends_eq_of_block_eq fun hd => block_of_start h _ (by omega)
  have hreplied : (f.replied a).ends = (g.replied b).ends := by
    rw [ends_replied hf, ends_replied hg, hends]
  obtain ⟨hmac, hmac', hip, hip', hport, hport'⟩ := ends_eq_iff.1 hreplied
  rw [word_eq_word_iff] at hport hport'
  have hhead : (f.replied a).block 12 14 = (g.replied b).block 12 14 := by
    rw [block_replied_head a hf, block_replied_head b hg, block_of_start h 12 (by omega)]
  have hlength : (f.replied a).block 38 2 = (g.replied b).block 38 2 := by
    rw [block_replied_length a hf, block_replied_length b hg, block_of_start h 38 (by omega)]
  exact block_add 6 34 hmac' <| block_add 6 28 hmac <| block_add 14 14 hhead <|
    block_add 4 10 hip <| block_add 4 6 hip' <| block_add 2 4 hport <| block_add 2 2 hport' hlength

theorem block_replied_check {a b : Octets Reply.size}
    (h : f.revisedCheck a = g.revisedCheck b) :
    (f.replied a).block 40 2 = (g.replied b).block 40 2 := by
  rw [← word_eq_word_iff, word_replied_check a hf, word_replied_check b hg, h]

/-- The whole record goes into the checksum, and so the reply agrees where the probes do. -/
theorem block_replied_of_start (h : f.block 0 86 = g.block 0 86) (record : Octets Reply.size) :
    (f.replied record).block 0 86 = (g.replied record).block 0 86 := by
  have hcheck : f.revisedCheck record = g.revisedCheck record := by
    rw [revisedCheck, revisedCheck, word_of_start h 40 (by omega),
      block_of_start h 42 (by omega)]
  have hrecord : (f.replied record).block 42 44 = (g.replied record).block 42 44 := by
    rw [block_replied_record record hf, block_replied_record record hg]
  have hstart := block_replied_start hf hg (block_of_start h 0 (by omega)) record record
  exact block_add 40 46 hstart <| block_add 2 44 (block_replied_check hf hg hcheck) hrecord

end Replied

end Frame

namespace Reflector

open TwoWay.Frame Octets

variable {σ : Type} [Clock σ]

/-- Behind the record nothing is written, whatever becomes of the frame. -/
theorem getElem?_handle_tail (r : Reflector) (clock : σ) (f : Frame) {i : Nat} (hi : 86 ≤ i) :
    (r.handle clock f).frame.octets[i]? = f.octets[i]? := by
  by_cases h : r.Probes f
  · rw [handle_of_isProbe r clock h]
    refine getElem?_eq_of_octet_eq (size_octets_replied f _) ?_
    have htail := block_replied_tail (r.replyTo clock f).octets h.nested.le_size_octets (i + 1)
    have hoctet := octet_eq_octet htail (i := i - 86) (by omega)
    rwa [show 86 + (i - 86) = i by omega] at hoctet
  · rw [(handle_of_not_isProbe r clock h).2]

/-- What is behind the record, and how much of it, has no say. -/
theorem handle_of_start (r : Reflector) (clock : σ) {f g : Frame}
    (hinterface : f.interface = g.interface) (hf : 86 ≤ f.size) (hg : 86 ≤ g.size)
    (h : f.block 0 86 = g.block 0 86)
    (hfit : 14 + (f.word 16).toNat ≤ f.size ↔ 14 + (g.word 16).toNat ≤ g.size) :
    (r.handle clock f).disposition = (r.handle clock g).disposition ∧
      (r.handle clock f).frame.block 0 86 = (r.handle clock g).frame.block 0 86 ∧
      (r.handle clock f).clock = (r.handle clock g).clock := by
  have hheaders : f.block 0 42 = g.block 0 42 := block_of_start h 0 (by omega)
  have hscreen := screen_of_start hheaders (by omega) (by omega) r.settings
  have hlengths : f.checkLengths = .ok () ↔ g.checkLengths = .ok () := by
    rw [checkLengths_eq_ok_iff, checkLengths_eq_ok_iff]
    exact nested_of_start hheaders hfit
  cases hs : f.screen r.settings with
  | error e =>
    rw [handle_of_refused r clock hs, handle_of_refused r clock (hscreen ▸ hs)]
    exact ⟨rfl, h, rfl⟩
  | ok u =>
    cases hl : f.checkLengths with
    | error e =>
      -- The sizes may differ, so the two refusals need not be the same.
      obtain ⟨e', hl'⟩ : ∃ e', g.checkLengths = .error e' := by
        cases hl' : g.checkLengths with
        | error e' => exact ⟨e', rfl⟩
        | ok v => rw [hlengths.2 hl'] at hl; cases hl
      rw [handle_of_unsound r clock hs hl, handle_of_unsound r clock (hscreen ▸ hs) hl']
      exact ⟨rfl, h, rfl⟩
    | ok v =>
      have hprobe : r.Probes f := (isProbe_iff f r.settings).2 ⟨hs, hl⟩
      have hprobe' : r.Probes g := (isProbe_iff g r.settings).2 ⟨hscreen ▸ hs, hlengths.1 hl⟩
      have hreply : r.replyTo clock f = r.replyTo clock g :=
        replyTo_of_start (block_of_start h 0 (by omega)) _ _ _
      rw [handle_of_isProbe r clock hprobe, handle_of_isProbe r clock hprobe', hinterface, hreply]
      exact ⟨rfl, block_replied_of_start hprobe.nested.le_size_octets
        hprobe'.nested.le_size_octets h _, rfl⟩

/-- The octets that a probe reserves have no say either, once they are in the checksum. -/
theorem handle_of_probe_start (r : Reflector) (clock : σ) {f g : Frame} (hf : r.Probes f)
    (hg : r.Probes g) (h : f.block 0 56 = g.block 0 56) :
    (r.handle clock f).frame.block 0 40 = (r.handle clock g).frame.block 0 40 ∧
      (r.handle clock f).frame.block 42 44 = (r.handle clock g).frame.block 42 44 ∧
      (f.word 40 = 0 →
        (r.handle clock f).frame.block 40 2 = (r.handle clock g).frame.block 40 2) := by
  have hsize := hf.nested.le_size_octets
  have hsize' := hg.nested.le_size_octets
  have hreply : r.replyTo clock f = r.replyTo clock g := replyTo_of_start h _ _ _
  rw [handle_of_isProbe r clock hf, handle_of_isProbe r clock hg, hreply]
  refine ⟨block_replied_start hsize hsize' (block_of_start h 0 (by omega)) _ _, ?_,
    fun hzero => block_replied_check hsize hsize' ?_⟩
  · rw [block_replied_record _ hsize, block_replied_record _ hsize']
  · have hzero' : g.word 40 = 0 := (word_of_start h 40 (by omega)).symm.trans hzero
    rw [revisedCheck, revisedCheck, if_pos hzero, if_pos hzero']

/-- **Handled alike.** Behind octet 86 a buffer stays as it is. Frames that agree in their first 86
octets, and whose packets both fit or both do not, end alike and agree in these octets again. If
they agree up to the end of the probe's fields alone and both go back, the replies still agree but
for the checksum, and in that too if there is none. -/
theorem handled_alike (r : Reflector) (clock : σ) (f g : Frame)
    (hinterface : f.interface = g.interface) :
    let handled := r.handle clock f
    let handled' := r.handle clock g
    (∀ i, 86 ≤ i → handled.frame.octets[i]? = f.octets[i]? ∧
      handled'.frame.octets[i]? = g.octets[i]?) ∧
    (86 ≤ f.size → 86 ≤ g.size → f.block 0 86 = g.block 0 86 →
      (14 + (f.word 16).toNat ≤ f.size ↔ 14 + (g.word 16).toNat ≤ g.size) →
        handled.disposition = handled'.disposition ∧
        handled.frame.block 0 86 = handled'.frame.block 0 86 ∧
        handled.clock = handled'.clock) ∧
    (handled.disposition = .redirect f.interface →
      handled'.disposition = .redirect g.interface → f.block 0 56 = g.block 0 56 →
        handled.frame.block 0 40 = handled'.frame.block 0 40 ∧
        handled.frame.block 42 44 = handled'.frame.block 42 44 ∧
        (f.word 40 = 0 → handled.frame.block 40 2 = handled'.frame.block 40 2)) := by
  intro handled handled'
  refine ⟨fun i hi => ?_, fun hf hg h hfit => ?_, fun hf hg h => ?_⟩
  · exact ⟨getElem?_handle_tail r clock f hi, getElem?_handle_tail r clock g hi⟩
  · exact handle_of_start r clock hinterface hf hg h hfit
  · exact handle_of_probe_start r clock (isProbe_of_redirect hf) (isProbe_of_redirect hg) h

/-- The sample with other octets behind its record, and with a reserved octet and no checksum. -/
theorem handled_alike_samples :
    let r := sample none
    let clock : SteppingClock := ⟨1700000000000000000, 1000⟩
    let f := Frame.sample
    let g := Frame.ofPrefix (f.write 86 #v[0x77]).octets 90 7
    let u := f.write 40 (zeros 2)
    let v := u.write 60 #v[0xff]
    ((r.handle clock f).disposition = (r.handle clock g).disposition ∧
      (r.handle clock f).frame.block 0 86 = (r.handle clock g).frame.block 0 86 ∧
      (r.handle clock g).frame.octets[86]? = some 0x77) ∧
    u.octet 60 ≠ v.octet 60 ∧
    (r.handle clock u).frame.block 42 44 = (r.handle clock v).frame.block 42 44 ∧
    (r.handle clock u).frame.block 40 2 = (r.handle clock v).frame.block 40 2 := by
  intro r clock f g u v
  have hredirect {k : Frame} (h : r.Probes k) :
      (r.handle clock k).disposition = .redirect k.interface := by
    rw [handle_of_isProbe r clock h]
  have hoctets : g.octets = (f.write 86 #v[0x77]).octets := rfl
  have hsize : g.size = 90 := by
    rw [size_ofPrefix, size_octets_write]
    rfl
  have hstart : g.block 0 86 = f.block 0 86 := by
    rw [block_eq_of_octets_eq hoctets, block_write_of_disjoint f _ (by decide) (.inl (by decide))]
  have hfields : v.block 0 56 = u.block 0 56 :=
    block_write_of_disjoint u #v[0xff] (by decide) (.inl (by decide))
  obtain ⟨htail, halike, -⟩ := handled_alike r clock f g (Eq.refl 7)
  have hfit : 14 + (f.word 16).toNat ≤ f.size ↔ 14 + (g.word 16).toNat ≤ g.size := by
    rw [word_of_start hstart 16 (by decide), hsize]
    decide
  obtain ⟨hdisposition, hreply, -⟩ := halike (by decide) (by omega) hstart.symm hfit
  obtain ⟨-, -, hreserved⟩ := handled_alike r clock u v (interface_write u 60 _).symm
  obtain ⟨-, hrecord, hcheck⟩ :=
    hreserved (hredirect (by decide)) (hredirect (by decide)) hfields.symm
  exact ⟨⟨hdisposition, hreply, (htail 86 (by decide)).2.trans (by decide)⟩, by decide, hrecord,
    hcheck (by decide)⟩

end Reflector

end TwoWay
