import TwoWay.Proofs.Codecs
import TwoWay.Proofs.Replies
import TwoWay.Reflector.Session

/-!
# What a sender measures

**Theorem (`delays_of_redirected`).** The delays told by the reply to a probe, against the times at
which sender and reflector read their clocks. With the built-in codecs no difference is clamped
(`Delays.exact_ofReply`), so they are as good as the four times they are taken from.

**Theorem (`delays_free_of_offset`).** A clock that is ahead by whole seconds moves the one-way
delays and nothing else.
-/

namespace TwoWay

/-! ## Differences that are not clamped -/

/-- Decoded times leave room in a signed word for differences of differences. -/
def Codec.Bounded (codec : Codec) : Prop :=
  ∀ t, (codec.decode t).toNat ≤ 4611686018427387903

theorem Codec.bounded_ntp : ntp.Bounded := by
  intro t
  have hs := t.seconds.toNat_lt
  have hf := t.fraction.toNat_lt
  rw [toNat_decode_ntp]
  omega

theorem Codec.bounded_unix : unix.Bounded := by
  intro t
  have hs := t.seconds.toNat_lt
  have hf := t.fraction.toNat_lt
  rw [toNat_decode_unix]
  omega

theorem Codec.BuiltIn.bounded {codec : Codec} {last : Nat} (h : codec.BuiltIn last) :
    codec.Bounded := by
  cases h with
  | ntp => exact bounded_ntp
  | unix => exact bounded_unix

def FitsInt64 (z : Int) : Prop := minInt64 ≤ z ∧ z ≤ maxInt64

theorem toInt_nearestInt64_of_fits {z : Int} (h : FitsInt64 z) : (nearestInt64 z).toInt = z := by
  obtain ⟨hmin, hmax⟩ := h
  rw [toInt_nearestInt64, Int.min_eq_left hmax, Int.max_eq_right hmin]

theorem Codec.Bounded.fits {codec : Codec} (h : codec.Bounded) (t u : Timestamp) :
    FitsInt64 ((codec.decode t).toNat - (codec.decode u).toNat) := by
  have ht := h t
  have hu := h u
  simp only [FitsInt64, minInt64, maxInt64]
  omega

theorem Codec.Bounded.fits_sub {codec : Codec} (h : codec.Bounded) (t u v w : Timestamp) :
    FitsInt64 (((codec.decode t).toNat - (codec.decode u).toNat) -
      ((codec.decode v).toNat - (codec.decode w).toNat)) := by
  have ht := h t
  have hu := h u
  have hv := h v
  have hw := h w
  simp only [FitsInt64, minInt64, maxInt64]
  omega

theorem Codec.Bounded.toInt_span {codec : Codec} (h : codec.Bounded) (t u : Timestamp) :
    (span (codec.decode t) (codec.decode u)).toInt =
      ((codec.decode t).toNat : Int) - (codec.decode u).toNat :=
  toInt_nearestInt64_of_fits (h.fits t u)

namespace Delays

/-- The delays between four times: the probe is sent, comes in, its reply is sent, comes in. -/
structure Exact (d : Delays) (t₁ t₂ t₃ t₄ : UInt64) : Prop where
  forward : d.forward.toInt = (t₂.toNat : Int) - t₁.toNat
  backward : d.backward.toInt = (t₄.toNat : Int) - t₃.toNat
  dwell : d.dwell.toInt = (t₃.toNat : Int) - t₂.toNat
  roundTrip : d.roundTrip.toInt = ((t₄.toNat : Int) - t₁.toNat) - ((t₃.toNat : Int) - t₂.toNat)

/-- Out by no more than `error`, and the round trip by no more than twice that. -/
structure Within (d : Delays) (error : Nat) (t₁ t₂ t₃ t₄ : UInt64) : Prop where
  forward : (d.forward.toInt - ((t₂.toNat : Int) - t₁.toNat)).natAbs ≤ error
  backward : (d.backward.toInt - ((t₄.toNat : Int) - t₃.toNat)).natAbs ≤ error
  dwell : (d.dwell.toInt - ((t₃.toNat : Int) - t₂.toNat)).natAbs ≤ error
  roundTrip : (d.roundTrip.toInt -
    (((t₄.toNat : Int) - t₁.toNat) - ((t₃.toNat : Int) - t₂.toNat))).natAbs ≤ 2 * error

/-- A reply tells the delays between the times that are decoded from it. -/
theorem exact_ofReply {codec : Codec} (h : codec.Bounded) (reply : Reply) (arrival : Timestamp) :
    (ofReply codec reply arrival).Exact (codec.decode reply.senderTimestamp)
      (codec.decode reply.receiveTimestamp) (codec.decode reply.timestamp)
      (codec.decode arrival) := by
  refine ⟨h.toInt_span _ _, h.toInt_span _ _, h.toInt_span _ _, ?_⟩
  show (nearestInt64 ((span _ _).toInt - (span _ _).toInt)).toInt = _
  rw [h.toInt_span, h.toInt_span, toInt_nearestInt64_of_fits (h.fits_sub _ _ _ _)]

section Readings

variable {codec : Codec} {d : Delays} {t₁ t₂ t₃ t₄ : UInt64}
  (h : d.Exact (codec.decode (codec.encode t₁)) (codec.decode (codec.encode t₂))
    (codec.decode (codec.encode t₃)) (codec.decode (codec.encode t₄)))
include h

theorem exact_of_decode_encode
    (hback : ∀ t ∈ [t₁, t₂, t₃, t₄], codec.decode (codec.encode t) = t) :
    d.Exact t₁ t₂ t₃ t₄ := by
  simp only [List.forall_mem_cons] at hback
  obtain ⟨h₁, h₂, h₃, h₄, -⟩ := hback
  rwa [h₁, h₂, h₃, h₄] at h

/-- All times are early if at all, so of two of them only one counts against their difference. -/
theorem within_of_loses {loss : Nat} (hloses : ∀ t ∈ [t₁, t₂, t₃, t₄], codec.Loses loss t) :
    d.Within loss t₁ t₂ t₃ t₄ := by
  simp only [List.forall_mem_cons, Codec.Loses] at hloses
  obtain ⟨h₁, h₂, h₃, h₄, -⟩ := hloses
  obtain ⟨hforward, hbackward, hdwell, hroundTrip⟩ := h
  exact ⟨by omega, by omega, by omega, by omega⟩

end Readings

end Delays

/-! ## The reply to a probe -/

theorem Session.replyIn_octets (f : Frame) (h : 86 ≤ f.octets.size) :
    replyIn f.octets = .ok (Reply.ofOctets (f.block 42 44)) := by
  have hload : (Frame.ofArray f.octets 0).load (Frame.recordAt 0) Reply.size =
      .ok ((Frame.ofArray f.octets 0).block 42 44) :=
    Frame.load_eq_block (Frame.ofArray f.octets 0) 42 44 h
  have hblock : (Frame.ofArray f.octets 0).block 42 44 = f.block 42 44 :=
    Frame.block_eq_of_octets_eq rfl 42 44
  rw [replyIn, hload, hblock]
  rfl

namespace Reflector

open TwoWay.Frame

variable {σ : Type} [Clock σ]

/-- A redirected frame can be read for its reply. -/
theorem replyIn_handle (r : Reflector) (clock : σ) {f : Frame} (h : r.Probes f) :
    Session.replyIn (r.handle clock f).frame.octets = .ok (r.replyTo clock f) := by
  have hsize := h.nested.le_size_octets
  rw [handle_of_isProbe r clock h, Session.replyIn_octets _ (by simpa using hsize),
    block_replied_record _ hsize, Reply.ofOctets_octets]

/-- A reply tells the delays between its four times as they are decoded. -/
theorem exact_delays (r : Reflector) (clock : σ) (f : Frame) (arrival : Timestamp)
    (h : r.codec.Bounded) :
    (Delays.ofReply r.codec (r.replyTo clock f) arrival).Exact
      (r.codec.decode (Probe.ofOctets (f.block 42 44)).timestamp)
      (r.codec.decode (r.stamp clock)) (r.codec.decode (r.stamp (Clock.next clock)))
      (r.codec.decode arrival) :=
  Delays.exact_ofReply h (r.replyTo clock f) arrival

/-- **Delays of a probe.** It is sent at `t₁`, the reflector reads `c₂` and `c₃`, and the reply is
back at `t₄`. With the Unix codec the delays are exact. With the NTP codec they are out by 3567587
nanoseconds at most, by one while units last, and by none at multiples of 29. -/
theorem delays_of_redirected (r : Reflector) (clock : σ) (f : Frame) (interface : UInt32)
    (t₁ t₄ : UInt64) (h : (r.handle clock f).disposition = .redirect interface)
    (hsent : (Probe.ofOctets (f.block 42 44)).timestamp = r.codec.encode t₁) :
    let c₂ := r.settings.adjust (Clock.tick clock).1
    let c₃ := r.settings.adjust (Clock.tick (Clock.tick clock).2).1
    let times := [t₁, c₂, c₃, t₄]
    ∃ reply, Session.replyIn (r.handle clock f).frame.octets = .ok reply ∧
      let d := Delays.ofReply r.codec reply (r.codec.encode t₄)
      d.sequence = (Probe.ofOctets (f.block 42 44)).sequence ∧ d.senderTtl = f.octet 22 ∧
      (r.codec = .unix → (∀ t ∈ times, t.toNat < 4294967296 * 1000000000) →
        d.Exact t₁ c₂ c₃ t₄) ∧
      (r.codec = .ntp → (∀ t ∈ times, t.toNat / 1000000000 ≤ 2085978495) →
        d.Within 3567587 t₁ c₂ c₃ t₄ ∧
        ((∀ t ∈ times, t.toNat % 1000000000 ≤ 996432412) →
          d.Within 1 t₁ c₂ c₃ t₄ ∧
          ((∀ t ∈ times, 29 ∣ t.toNat % 1000000000) → d.Exact t₁ c₂ c₃ t₄))) := by
  intro c₂ c₃ times
  have hprobe := isProbe_of_redirect h
  refine ⟨_, replyIn_handle r clock hprobe, ?_⟩
  intro d
  have hexact (hbounded : r.codec.Bounded) :
      d.Exact (r.codec.decode (r.codec.encode t₁)) (r.codec.decode (r.codec.encode c₂))
        (r.codec.decode (r.codec.encode c₃)) (r.codec.decode (r.codec.encode t₄)) := by
    rw [← hsent]
    exact r.exact_delays clock f (r.codec.encode t₄) hbounded
  refine ⟨rfl, rfl, fun hcodec hera => ?_, fun hcodec hera => ?_⟩
  · rw [hcodec] at hexact
    refine Delays.exact_of_decode_encode (hexact Codec.bounded_unix) fun t ht => ?_
    have hsecond := hera t ht
    exact Codec.keepsSeconds_unix.decode_encode (by omega) rfl
  · rw [hcodec] at hexact
    have hdelays := hexact Codec.bounded_ntp
    -- One bound for all nanoseconds, one as long as units last, and none lost by multiples of 29.
    refine ⟨Delays.within_of_loses hdelays fun t ht => ?_, fun hunits =>
      ⟨Delays.within_of_loses hdelays fun t ht => ?_, fun hwhole =>
        Delays.exact_of_decode_encode hdelays fun t ht => ?_⟩⟩
    · exact Codec.keepsSeconds_ntp.loses (hera t ht) (Codec.keptNanos_le _)
        (Codec.le_keptNanos_add (by omega))
    · exact Codec.keepsSeconds_ntp.loses (hera t ht) (Codec.keptNanos_le _)
        (Codec.le_keptNanos_add_one (hunits t ht))
    · exact Codec.keepsSeconds_ntp.decode_encode (hera t ht)
        ((Codec.keptNanos_eq_iff (hunits t ht)).2 (hwhole t ht))

def sentAt (codec : Codec) (t₁ : UInt64) : Frame := Frame.sample.write 46 (codec.encode t₁).octets

/-- The sample over both codecs, at times that are multiples of 29 nanoseconds. -/
theorem delays_of_redirected_samples :
    let clock : SteppingClock := ⟨1700000037000000029, 58⟩
    ∀ r ∈ [sample none, { sample none with codec := .unix }],
      ∃ reply, Session.replyIn
          (r.handle clock (sentAt r.codec 1700000000000000000)).frame.octets = .ok reply ∧
        (Delays.ofReply r.codec reply (r.codec.encode 1700000000000000145)).Exact
          1700000000000000000 1700000000000000029 1700000000000000087 1700000000000000145 := by
  intro clock r hr
  obtain ⟨hprobe, hsent⟩ : r.Probes (sentAt r.codec 1700000000000000000) ∧
      (Probe.ofOctets ((sentAt r.codec 1700000000000000000).block 42 44)).timestamp =
        r.codec.encode 1700000000000000000 := by
    revert r
    decide
  obtain ⟨hc₂, hc₃⟩ : r.settings.adjust (Clock.tick clock).1 = 1700000000000000029 ∧
      r.settings.adjust (Clock.tick (Clock.tick clock).2).1 = 1700000000000000087 := by
    revert r
    decide
  obtain ⟨reply, hreply, -, -, hunix, hntp⟩ := delays_of_redirected r clock _ _ _
    1700000000000000145 (by rw [handle_of_isProbe r clock hprobe]) hsent
  rw [hc₂, hc₃] at hunix hntp
  refine ⟨reply, hreply, ?_⟩
  have hcodec : r.codec = .ntp ∨ r.codec = .unix := by
    simp only [List.mem_cons, List.not_mem_nil, or_false] at hr
    rcases hr with rfl | rfl
    · exact .inl rfl
    · exact .inr rfl
  rcases hcodec with hcodec | hcodec
  · exact ((hntp hcodec (by simp)).2 (by simp)).2 (by simp)
  · exact hunix hcodec (by simp)

end Reflector

/-! ## A clock that is ahead -/

/-- Two readings that come from one by different offsets are told apart by just these. -/
theorem Codec.KeepsSeconds.add_decode_adjust {codec : Codec} {last : Nat} {kept : Nat → Nat}
    (h : codec.KeepsSeconds last kept) {s s' : Settings} {reading : UInt64}
    (hs : s.clockOffset.toNat * 1000000000 ≤ reading.toNat)
    (hs' : s'.clockOffset.toNat * 1000000000 ≤ reading.toNat)
    (hlast : (s.adjust reading).toNat / 1000000000 ≤ last)
    (hlast' : (s'.adjust reading).toNat / 1000000000 ≤ last) :
    (codec.decode (codec.encode (s.adjust reading))).toNat + s.clockOffset.toNat * 1000000000 =
      (codec.decode (codec.encode (s'.adjust reading))).toNat +
        s'.clockOffset.toNat * 1000000000 := by
  have ha := s.toNat_adjust reading
  have hb := s'.toNat_adjust reading
  have hdifference := h.add_decode_encode hlast hlast' (by omega)
  omega

namespace Reflector

open TwoWay.Frame

variable {σ τ : Type} [Clock σ] [Clock τ]

/-- The offset has no say in what is a probe, and so none in what is redirected. -/
theorem redirect_of_offset {codec : Codec} {s : Settings} {o₁ : UInt64} {clock : σ} {f : Frame}
    {interface : UInt32}
    (h : (handle ⟨{ s with clockOffset := o₁ }, codec⟩ clock f).disposition = .redirect interface)
    (o₂ : UInt64) (clock' : τ) :
    (handle ⟨{ s with clockOffset := o₂ }, codec⟩ clock' f).disposition = .redirect interface := by
  rw [disposition_eq] at h ⊢
  exact h

/-- **A clock that is ahead.** Two reflectors that differ in their offsets alone answer one frame at
the same two readings. The round trip and the time in the reflector come out the same, and the
one-way delays differ by the difference of the offsets, which one gains and the other loses. -/
theorem delays_free_of_offset {codec : Codec} {last : Nat} (hcodec : codec.BuiltIn last)
    (s : Settings) (o₁ o₂ c₂ c₃ : UInt64) (clock : σ) (clock' : τ) (f : Frame) (interface : UInt32)
    (arrival : Timestamp)
    (hc₂ : (Clock.tick clock).1 = c₂ ∧ (Clock.tick clock').1 = c₂)
    (hc₃ : (Clock.tick (Clock.tick clock).2).1 = c₃ ∧ (Clock.tick (Clock.tick clock').2).1 = c₃)
    (hoffsets : ∀ o ∈ [o₁, o₂], ∀ c ∈ [c₂, c₃], o.toNat * 1000000000 ≤ c.toNat ∧
      (Settings.adjust { s with clockOffset := o } c).toNat / 1000000000 ≤ last)
    (h : (handle ⟨{ s with clockOffset := o₁ }, codec⟩ clock f).disposition =
      .redirect interface) :
    let handled₁ := handle ⟨{ s with clockOffset := o₁ }, codec⟩ clock f
    let handled₂ := handle ⟨{ s with clockOffset := o₂ }, codec⟩ clock' f
    handled₂.disposition = .redirect interface ∧
    ∃ reply₁ reply₂, Session.replyIn handled₁.frame.octets = .ok reply₁ ∧
      Session.replyIn handled₂.frame.octets = .ok reply₂ ∧
      let d₁ := Delays.ofReply codec reply₁ arrival
      let d₂ := Delays.ofReply codec reply₂ arrival
      d₁.roundTrip = d₂.roundTrip ∧ d₁.dwell = d₂.dwell ∧
      d₁.forward.toInt - d₂.forward.toInt = ((o₂.toNat : Int) - o₁.toNat) * 1000000000 ∧
      d₁.backward.toInt - d₂.backward.toInt = -(((o₂.toNat : Int) - o₁.toNat) * 1000000000) := by
  intro handled₁ handled₂
  have h' := redirect_of_offset h o₂ clock'
  obtain ⟨kept, hkeeps⟩ := hcodec.keepsSeconds
  refine ⟨h', _, _, replyIn_handle _ clock (isProbe_of_redirect h),
    replyIn_handle _ clock' (isProbe_of_redirect h'), ?_⟩
  intro d₁ d₂
  -- What the two replies tell of one reading differs by the offsets, although both are rounded.
  have hshift (c : UInt64) (hc : c ∈ [c₂, c₃]) :
      (codec.decode (codec.encode (Settings.adjust { s with clockOffset := o₁ } c))).toNat +
          o₁.toNat * 1000000000 =
        (codec.decode (codec.encode (Settings.adjust { s with clockOffset := o₂ } c))).toNat +
          o₂.toNat * 1000000000 := by
    obtain ⟨hfits₁, hlast₁⟩ := hoffsets o₁ (by simp) c hc
    obtain ⟨hfits₂, hlast₂⟩ := hoffsets o₂ (by simp) c hc
    exact hkeeps.add_decode_adjust hfits₁ hfits₂ hlast₁ hlast₂
  have hreceived := hshift c₂ (by simp)
  have hanswered := hshift c₃ (by simp)
  have hexact₁ := exact_delays ⟨{ s with clockOffset := o₁ }, codec⟩ clock f arrival
    hcodec.bounded
  have hexact₂ := exact_delays ⟨{ s with clockOffset := o₂ }, codec⟩ clock' f arrival
    hcodec.bounded
  simp only [stamp, Clock.next, hc₂, hc₃] at hexact₁ hexact₂
  obtain ⟨hforward₁, hbackward₁, hdwell₁, hroundTrip₁⟩ : d₁.Exact _ _ _ _ := hexact₁
  obtain ⟨hforward₂, hbackward₂, hdwell₂, hroundTrip₂⟩ : d₂.Exact _ _ _ _ := hexact₂
  have hroundTrip : d₁.roundTrip.toInt = d₂.roundTrip.toInt := by omega
  have hdwell : d₁.dwell.toInt = d₂.dwell.toInt := by omega
  exact ⟨Int64.toInt_inj.1 hroundTrip, Int64.toInt_inj.1 hdwell, by omega, by omega⟩

/-- The sample at the end of a second, with an offset of 37 seconds and with one of 5. -/
theorem delays_free_of_offset_sample :
    let s := (sample none).settings
    let clock : SteppingClock := ⟨1700000000999999990, 7⟩
    let arrival : Timestamp := ⟨3908988801, 4000000000⟩
    ∃ reply₁ reply₂,
      Session.replyIn
          (handle ⟨{ s with clockOffset := 37 }, .ntp⟩ clock Frame.sample).frame.octets =
        .ok reply₁ ∧
      Session.replyIn
          (handle ⟨{ s with clockOffset := 5 }, .ntp⟩ clock Frame.sample).frame.octets =
        .ok reply₂ ∧
      (Delays.ofReply .ntp reply₁ arrival).roundTrip =
        (Delays.ofReply .ntp reply₂ arrival).roundTrip ∧
      (Delays.ofReply .ntp reply₁ arrival).forward.toInt -
        (Delays.ofReply .ntp reply₂ arrival).forward.toInt = -32000000000 := by
  intro s clock arrival
  have hprobe : Probes ⟨{ s with clockOffset := 37 }, .ntp⟩ Frame.sample := by decide
  have hredirect : (handle ⟨{ s with clockOffset := 37 }, .ntp⟩ clock Frame.sample).disposition =
      .redirect Frame.sample.interface := by
    rw [handle_of_isProbe _ _ hprobe]
  have hclock : (Clock.tick clock).1 = 1700000000999999990 ∧
      (Clock.tick (Clock.tick clock).2).1 = 1700000000999999997 := by
    decide
  have hoffsets : ∀ o ∈ [37, 5], ∀ c ∈ [1700000000999999990, 1700000000999999997],
      UInt64.toNat o * 1000000000 ≤ UInt64.toNat c ∧
        (Settings.adjust { s with clockOffset := o } c).toNat / 1000000000 ≤ 2085978495 := by
    simp only [Settings.toNat_adjust]
    simp
  obtain ⟨-, reply₁, reply₂, hreply₁, hreply₂, hroundTrip, -, hforward, -⟩ :=
    delays_free_of_offset .ntp s 37 5 1700000000999999990
      1700000000999999997 clock clock Frame.sample _ arrival ⟨hclock.1, hclock.1⟩
      ⟨hclock.2, hclock.2⟩ hoffsets hredirect
  refine ⟨reply₁, reply₂, hreply₁, hreply₂, hroundTrip, ?_⟩
  rw [hforward]
  decide

end Reflector

end TwoWay
