import TwoWay.Proofs.Replies

/-!
# A reply that comes in again

**Theorem (`rounds_of_redirected`).** A reply is a probe if the probe was, but for the address it is
sent to, so nothing but a local address ends the rounds of a reflector that is fed its own replies.

The proof carries along what all rounds have in common with the first (`Kept`).
-/

namespace TwoWay

/-- The clock once it has been read `n` times. -/
def Clock.after {σ : Type} [Clock σ] (clock : σ) : Nat → σ
  | 0 => clock
  | n + 1 => Clock.next (Clock.after clock n)

namespace Frame

open Checksum Octets

/-- The ends after `n` ways back. -/
def Ends.turned (e : Ends) (n : Nat) : Ends := if n % 2 = 0 then e else e.reverse

theorem Ends.turned_succ (e : Ends) (n : Nat) : e.turned (n + 1) = (e.turned n).reverse := by
  unfold turned
  by_cases h : n % 2 = 0
  · rw [if_pos h, if_neg (by omega)]
  · rw [if_neg h, if_pos (by omega), Ends.reverse_reverse]

/-- What `n` rounds have left of a frame. -/
structure Kept (f : Frame) (n : Nat) (g : Frame) : Prop where
  size_octets : g.octets.size = f.octets.size
  size : g.size = f.size
  head : g.block 12 14 = f.block 12 14
  length : g.word 38 = f.word 38
  ends : g.ends = f.ends.turned n
  sequence :
    (Probe.ofOctets (g.block 42 44)).sequence = (Probe.ofOctets (f.block 42 44)).sequence
  checksum : f.word 40 ≠ 0 → Holds f.datagramWords → g.word 40 ≠ 0 ∧ Holds g.datagramWords

namespace Kept

variable {f g : Frame} {n : Nat}

theorem refl (f : Frame) : Kept f 0 f :=
  ⟨rfl, rfl, rfl, rfl, rfl, rfl, fun hpresent hholds => ⟨hpresent, hholds⟩⟩

theorem of_octets_eq {g' : Frame} (h : Kept f n g) (hoctets : g'.octets = g.octets)
    (hsize : g'.size = g.size) : Kept f n g' := by
  obtain ⟨octets, size, hle, interface⟩ := g
  obtain ⟨octets', size', hle', interface'⟩ := g'
  obtain rfl : octets' = octets := hoctets
  obtain rfl : size' = size := hsize
  exact ⟨h.size_octets, h.size, h.head, h.length, h.ends, h.sequence, h.checksum⟩

theorem word_head (h : Kept f n g) (d : Nat) (hd : d + 2 ≤ 14) :
    g.word (12 + d) = f.word (12 + d) :=
  congrArg word16 (block_part h.head d hd)

theorem octet_head (h : Kept f n g) (d : Nat) (hd : d < 14) :
    g.octet (12 + d) = f.octet (12 + d) :=
  octet_eq_octet h.head hd

/-- The fields of the ends are those of the first frame, or the other way about. -/
theorem ends_cases (h : Kept f n g) :
    (g.word 34 = f.word 34 ∧ g.word 36 = f.word 36 ∧ g.block 30 4 = f.block 30 4) ∨
      g.word 34 = f.word 36 ∧ g.word 36 = f.word 34 ∧ g.block 30 4 = f.block 26 4 := by
  have hends := h.ends
  unfold Ends.turned at hends
  split at hends
  · obtain ⟨-, -, -, hdestination, hports⟩ := ends_eq_iff.1 hends
    exact .inl ⟨hports.1, hports.2, hdestination⟩
  · obtain ⟨-, -, -, hdestination, hports⟩ := ends_eq_reverse_iff.1 hends
    exact .inr ⟨hports.1, hports.2, hdestination⟩

/-- With the local address, if there is one, at both ends, a reply to a probe is a probe. -/
theorem isProbe {ports : PortTable} {address : Option Ipv4Address} (h : Kept f n g)
    (hprobe : f.IsProbe ports address)
    (hboth : ∀ a ∈ address, f.block 26 4 = a ∧ f.block 30 4 = a) : g.IsProbe ports address where
  type := (h.word_head 0 (by omega)).trans hprobe.type
  shape := (h.octet_head 2 (by omega)).trans hprobe.shape
  whole := by
    rw [h.word_head 8 (by omega)]
    exact hprobe.whole
  protocol := (h.octet_head 11 (by omega)).trans hprobe.protocol
  port := by
    obtain ⟨p, hp, haccepted⟩ := hprobe.port
    refine ⟨p, ?_, haccepted⟩
    rcases h.ends_cases with ⟨hsource, hdestination, -⟩ | ⟨hsource, hdestination, -⟩
    · rw [hsource, hdestination]
      exact hp
    -- The ports have changed places, and it makes no difference which of them is accepted.
    · rw [hsource, hdestination]
      exact List.Perm.mem_iff (List.Perm.swap _ _ _) |>.1 hp
  address := fun a ha => by
    rcases h.ends_cases with ⟨-, -, hdestination⟩ | ⟨-, -, hdestination⟩
    · exact hdestination.trans (hboth a ha).2
    · exact hdestination.trans (hboth a ha).1
  datagram := by
    rw [h.length]
    exact hprobe.datagram
  packet := by
    rw [h.length, h.word_head 4 (by omega)]
    exact hprobe.packet
  size := by
    rw [h.size, h.word_head 4 (by omega)]
    exact hprobe.size

theorem replied (h : Kept f n g) (hg : g.Nested) (received sent : Timestamp)
    (estimate : ErrorEstimate) :
    Kept f (n + 1) (g.replied (g.replyTo received sent estimate).octets) := by
  have hsize := hg.le_size_octets
  have hsum := checksumKept_replied hg (g.replyTo received sent estimate).octets
  refine ⟨?_, ?_, ?_, ?_, ?_, ?_, ?_⟩
  · rw [size_octets_replied, h.size_octets]
  · rw [size_replied, h.size]
  · rw [block_replied_head _ hsize, h.head]
  · rw [← h.length]
    exact congrArg word16 (block_replied_length _ hsize)
  · rw [ends_replied hsize, h.ends, Ends.turned_succ]
  · rw [block_replied_record _ hsize, Reply.ofOctets_reply]
    exact h.sequence
  · intro hpresent hholds
    obtain ⟨hpresent', hholds'⟩ := h.checksum hpresent hholds
    exact ⟨hsum.present hpresent', (hsum.holds_iff hpresent').2 hholds'⟩

end Kept

end Frame

namespace Reflector

open TwoWay.Frame Checksum

variable {σ : Type} [Clock σ]

/-- The clock and the buffer after `n` rounds, each about what the round before has left. -/
def rounds (r : Reflector) (size : Nat) (interface : Nat → UInt32) (clock : σ)
    (buffer : Array UInt8) : Nat → σ × Array UInt8
  | 0 => (clock, buffer)
  | n + 1 =>
    let (clock, buffer) := rounds r size interface clock buffer n
    let handled := r.handle clock (.ofPrefix buffer size (interface n))
    (handled.clock, handled.frame.octets)

section Rounds

variable (r : Reflector) (size : Nat) (interface : Nat → UInt32) (clock : σ)
  (buffer : Array UInt8)

/-- The frame that the next round after `n` is about. -/
def roundFrame (n : Nat) : Frame :=
  .ofPrefix (r.rounds size interface clock buffer n).2 size (interface n)

def roundClock (n : Nat) : σ := (r.rounds size interface clock buffer n).1

theorem size_roundFrame (n : Nat) :
    (r.roundFrame size interface clock buffer n).size =
      min size (r.roundFrame size interface clock buffer n).octets.size := rfl

theorem rounds_succ (n : Nat) :
    r.rounds size interface clock buffer (n + 1) =
      let handled := r.handle (r.roundClock size interface clock buffer n)
        (r.roundFrame size interface clock buffer n)
      (handled.clock, handled.frame.octets) := rfl

variable {r size interface clock buffer}

/-- A round about a probe leaves its reply in the buffer. -/
theorem round_of_isProbe {n : Nat}
    (h : r.Probes (r.roundFrame size interface clock buffer n)) :
    let g := r.roundFrame size interface clock buffer n
    let c := r.roundClock size interface clock buffer n
    r.roundClock size interface clock buffer (n + 1) = Clock.next (Clock.next c) ∧
      (r.roundFrame size interface clock buffer (n + 1)).octets =
        (g.replied (r.replyTo c g).octets).octets ∧
      (r.roundFrame size interface clock buffer (n + 1)).size =
        (g.replied (r.replyTo c g).octets).size := by
  intro g c
  have hround : r.rounds size interface clock buffer (n + 1) =
      (Clock.next (Clock.next c), (g.replied (r.replyTo c g).octets).octets) := by
    rw [rounds_succ, handle_of_isProbe r c h]
  have hoctets : (r.roundFrame size interface clock buffer (n + 1)).octets =
      (g.replied (r.replyTo c g).octets).octets := by
    rw [roundFrame, octets_ofPrefix, hround]
  refine ⟨by rw [roundClock, hround], hoctets, ?_⟩
  rw [size_roundFrame, hoctets, size_octets_replied, size_replied]
  exact (size_roundFrame r size interface clock buffer n).symm

/-- **The invariant.** Every round is about a probe, so there is always a next one. -/
theorem kept_rounds (hprobe : r.Probes (.ofPrefix buffer size (interface 0)))
    (hboth : ∀ a ∈ r.settings.localAddress,
      (Frame.ofPrefix buffer size (interface 0)).block 26 4 = a ∧
        (Frame.ofPrefix buffer size (interface 0)).block 30 4 = a) (n : Nat) :
    r.roundClock size interface clock buffer n = Clock.after clock (2 * n) ∧
      Kept (.ofPrefix buffer size (interface 0)) n
        (r.roundFrame size interface clock buffer n) := by
  induction n with
  | zero => exact ⟨rfl, Kept.refl _⟩
  -- What was kept makes the frame a probe, and the reply to a probe keeps it.
  | succ n ih =>
    obtain ⟨hclock, hkept⟩ := ih
    have hround := hkept.isProbe hprobe hboth
    obtain ⟨hnext, hoctets, hsize⟩ := round_of_isProbe hround
    refine ⟨by rw [hnext, hclock]; rfl, ?_⟩
    exact (hkept.replied hround.nested _ _ _).of_octets_eq hoctets hsize

/-- What the sender's fields of a reply say is what the record before it said. -/
theorem reply_round_succ {n : Nat} (h : r.Probes (r.roundFrame size interface clock buffer n)) :
    let g := r.roundFrame size interface clock buffer n
    let reply := Reply.ofOctets
      ((r.roundFrame size interface clock buffer (n + 1)).block 42 44)
    let probe := Probe.ofOctets (g.block 42 44)
    reply.sequence = probe.sequence ∧ reply.senderSequence = probe.sequence ∧
      reply.senderTimestamp = probe.timestamp ∧ reply.senderTtl = g.octet 22 ∧
      reply.errorEstimate = r.settings.errorEstimate ∧
      reply.senderErrorEstimate = probe.errorEstimate := by
  intro g reply probe
  have hsize := h.nested.le_size_octets
  have hrecord : (r.roundFrame size interface clock buffer (n + 1)).block 42 44 =
      (r.replyTo (r.roundClock size interface clock buffer n) g).octets :=
    (block_eq_of_octets_eq (round_of_isProbe h).2.1 42 44).trans (block_replied_record _ hsize)
  have hreply : reply = r.replyTo (r.roundClock size interface clock buffer n) g := by
    show Reply.ofOctets _ = _
    rw [hrecord, Reply.ofOctets_octets]
  rw [hreply]
  exact ⟨rfl, rfl, rfl, rfl, rfl, rfl⟩

/-- Refused before the clock is read, if the probe did not come from the local address. -/
theorem handle_round_one (hprobe : r.Probes (.ofPrefix buffer size (interface 0)))
    {a : Ipv4Address} (ha : a ∈ r.settings.localAddress)
    (hne : (Frame.ofPrefix buffer size (interface 0)).block 26 4 ≠ a) :
    let g := r.roundFrame size interface clock buffer 1
    let c := r.roundClock size interface clock buffer 1
    r.handle c g = ⟨.pass, g, c⟩ := by
  intro g c
  obtain ⟨-, -, -, hend, -, -⟩ := ends_eq_reverse_iff.1
    (ends_replied hprobe.nested.le_size_octets (r.replyTo clock _).octets)
  have hdestination : g.block 30 4 = (Frame.ofPrefix buffer size (interface 0)).block 26 4 :=
    (block_eq_of_octets_eq (round_of_isProbe hprobe).2.1 30 4).trans hend
  cases hscreen : g.screen r.settings with
  | ok u =>
    obtain ⟨-, -, -, -, -, -, haddress⟩ := (screen_eq_ok_iff g r.settings).1 hscreen
    exact absurd (hdestination.symm.trans (haddress a ha)) hne
  | error e => exact handle_of_refused r c hscreen

end Rounds

/-- **Rounds.** Let the first round redirect. With no local address, or with one at both ends, all
do, and the theorem says what each leaves: the clock, the ends, the checksum and the reply. If the
probe came from another address, the second round passes and changes nothing. -/
theorem rounds_of_redirected (r : Reflector) (size : Nat) (interface : Nat → UInt32) (clock : σ)
    (buffer : Array UInt8)
    (h : (r.handle clock (.ofPrefix buffer size (interface 0))).disposition =
      .redirect (interface 0)) :
    let f := Frame.ofPrefix buffer size (interface 0)
    let frame := r.roundFrame size interface clock buffer
    let reading := r.roundClock size interface clock buffer
    let reply := fun n => Reply.ofOctets ((frame n).block 42 44)
    ((∀ a ∈ r.settings.localAddress, f.block 26 4 = a ∧ f.block 30 4 = a) → ∀ n,
      (r.handle (reading n) (frame n)).disposition = .redirect (interface n) ∧
      reading n = Clock.after clock (2 * n) ∧
      (frame n).ends = (if n % 2 = 0 then f.ends else f.ends.reverse) ∧
      (f.word 40 ≠ 0 → Holds f.datagramWords →
        (frame n).word 40 ≠ 0 ∧ Holds (frame n).datagramWords) ∧
      (frame n).octet 22 = f.octet 22 ∧
      (1 ≤ n →
        (reply n).sequence = (Probe.ofOctets (f.block 42 44)).sequence ∧
        (reply n).senderSequence = (Probe.ofOctets (f.block 42 44)).sequence ∧
        (reply n).senderTtl = f.octet 22) ∧
      (2 ≤ n →
        (reply n).senderTimestamp = (reply (n - 1)).timestamp ∧
        (reply n).senderErrorEstimate = r.settings.errorEstimate)) ∧
    ∀ a ∈ r.settings.localAddress, f.block 26 4 ≠ a →
      (r.handle (reading 1) (frame 1)).disposition = .pass ∧
        r.rounds size interface clock buffer 2 = r.rounds size interface clock buffer 1 := by
  intro f frame reading reply
  have hprobe := isProbe_of_redirect h
  refine ⟨fun hboth n => ?_, fun a ha hne => ?_⟩
  · have hkept (n : Nat) : reading n = Clock.after clock (2 * n) ∧ Kept f n (frame n) :=
      kept_rounds hprobe hboth n
    have hround (n : Nat) : r.Probes (frame n) := (hkept n).2.isProbe hprobe hboth
    have hredirect : (r.handle (reading n) (frame n)).disposition = .redirect (interface n) := by
      rw [handle_of_isProbe r _ (hround n)]
      rfl
    refine ⟨hredirect, (hkept n).1, (hkept n).2.ends, (hkept n).2.checksum,
      (hkept n).2.octet_head 10 (by omega), fun hn => ?_, fun hn => ?_⟩
    · obtain ⟨k, rfl⟩ : ∃ k, n = k + 1 := ⟨n - 1, by omega⟩
      have hlast := (hkept k).2
      obtain ⟨hsequence, hsender, -, httl, -, -⟩ := reply_round_succ (hround k)
      exact ⟨hsequence.trans hlast.sequence, hsender.trans hlast.sequence,
        httl.trans (hlast.octet_head 10 (by omega))⟩
    · obtain ⟨k, rfl⟩ : ∃ k, n = k + 1 + 1 := ⟨n - 2, by omega⟩
      obtain ⟨-, -, htime, -, -, hestimate⟩ := reply_round_succ (hround (k + 1))
      obtain ⟨-, -, -, -, hown, -⟩ := reply_round_succ (hround k)
      exact ⟨htime, hestimate.trans hown⟩
  · have hsecond : r.handle (reading 1) (frame 1) = ⟨.pass, frame 1, reading 1⟩ :=
      handle_round_one hprobe ha hne
    refine ⟨congrArg Handled.disposition hsecond, ?_⟩
    exact congrArg (fun handled => (handled.clock, handled.frame.octets)) hsecond

/-- The sample, for any address and for 10.0.0.2 alone. -/
theorem rounds_of_redirected_sample :
    let clock : SteppingClock := ⟨1700000000000000000, 1000⟩
    let interface (n : Nat) := UInt32.ofNat (n + 7)
    let anywhere := sample none
    let bound := sample (some #v[10, 0, 0, 2])
    let frame := anywhere.roundFrame 87 interface clock sampleBuffer 3
    let reading := anywhere.roundClock 87 interface clock sampleBuffer 3
    (anywhere.handle clock Frame.sample).disposition = .redirect 7 ∧
      (bound.handle clock Frame.sample).disposition = .redirect 7 ∧
      (anywhere.handle reading frame).disposition = .redirect 10 ∧
      reading = ⟨1700000000000006000, 1000⟩ ∧
      frame.ends = Frame.sample.ends.reverse ∧ Holds frame.datagramWords ∧
      bound.rounds 87 interface clock sampleBuffer 2 =
        bound.rounds 87 interface clock sampleBuffer 1 := by
  intro clock interface anywhere bound frame reading
  have hanywhere : (anywhere.handle clock Frame.sample).disposition = .redirect 7 := by
    rw [handle_of_isProbe anywhere clock (by decide)]
    rfl
  have hbound : (bound.handle clock Frame.sample).disposition = .redirect 7 := by
    rw [handle_of_isProbe bound clock (by decide)]
    rfl
  obtain ⟨hrounds, -⟩ := rounds_of_redirected anywhere 87 interface clock sampleBuffer hanywhere
  obtain ⟨-, hrest⟩ := rounds_of_redirected bound 87 interface clock sampleBuffer hbound
  obtain ⟨hredirect, hreading, hends, hchecksum, -⟩ := hrounds (fun _ ha => nomatch ha) 3
  exact ⟨hanywhere, hbound, hredirect, hreading.trans (by decide), hends,
    (hchecksum (by decide) (by decide)).2, (hrest _ rfl (by decide)).2⟩

end Reflector

end TwoWay
