import TwoWay.Proofs.Rewriting

/-!
# What becomes of a frame

**Theorem (`redirects_exactly_probes`).** A probe goes out where it came in, and any other frame
passes with its buffer as it was. No step of the rewriting fails.
-/

namespace TwoWay

/-! ## Readings -/

def Clock.next {σ : Type} [Clock σ] (clock : σ) : σ := (Clock.tick clock).2

namespace Reflector

open TwoWay.Frame

variable {σ : Type} [Clock σ]

/-- The next reading of the clock, less the offset, as it goes on the wire. -/
def stamp (r : Reflector) (clock : σ) : Timestamp :=
  r.codec.encode (r.settings.adjust (Clock.tick clock).1)

theorem timestamp_eq (r : Reflector) (clock : σ) :
    r.timestamp clock = (r.stamp clock, Clock.next clock) := rfl

/-- The reply to a probe: it came in at the first reading and goes out at the second. -/
def replyTo (r : Reflector) (clock : σ) (f : Frame) : Reply :=
  f.replyTo (r.stamp clock) (r.stamp (Clock.next clock)) r.settings.errorEstimate

abbrev Probes (r : Reflector) (f : Frame) : Prop :=
  f.IsProbe r.settings.ports r.settings.localAddress

/-! ## Three ways to end -/

/-- Refused before the clock is read. -/
theorem handle_of_refused (r : Reflector) (clock : σ) {f : Frame} {e : Refusal}
    (h : f.screen r.settings = .error e) : r.handle clock f = ⟨.pass, f, clock⟩ := by
  rw [handle, h]

/-- Given up after one reading. -/
theorem handle_of_unsound (r : Reflector) (clock : σ) {f : Frame} {e : Truncation}
    (h : f.screen r.settings = .ok ()) (hlengths : f.checkLengths = .error e) :
    r.handle clock f = ⟨.pass, f, Clock.next clock⟩ := by
  rw [handle, h]
  simp only [timestamp_eq, hlengths]

/-- Answered after two. -/
theorem handle_of_isProbe (r : Reflector) (clock : σ) {f : Frame} (h : r.Probes f) :
    r.handle clock f =
      ⟨.redirect f.interface, f.replied (r.replyTo clock f).octets,
        Clock.next (Clock.next clock)⟩ := by
  obtain ⟨hscreen, hlengths⟩ := (isProbe_iff f r.settings).1 h
  rw [handle, hscreen]
  simp only [timestamp_eq, hlengths, reflect_eq f hlengths]
  rfl

theorem handle_of_not_isProbe (r : Reflector) (clock : σ) {f : Frame} (h : ¬r.Probes f) :
    (r.handle clock f).disposition = .pass ∧ (r.handle clock f).frame = f := by
  cases hscreen : f.screen r.settings with
  | error e => simp [handle_of_refused r clock hscreen]
  | ok u =>
    cases hlengths : f.checkLengths with
    | error e => simp [handle_of_unsound r clock hscreen hlengths]
    | ok v => exact absurd ((isProbe_iff f r.settings).2 ⟨hscreen, hlengths⟩) h

theorem isProbe_of_redirect {r : Reflector} {clock : σ} {f : Frame} {interface : UInt32}
    (h : (r.handle clock f).disposition = .redirect interface) : r.Probes f := by
  refine Decidable.byContradiction fun hnot => ?_
  rw [(handle_of_not_isProbe r clock hnot).1] at h
  cases h

theorem disposition_eq (r : Reflector) (clock : σ) (f : Frame) :
    (r.handle clock f).disposition = if r.Probes f then .redirect f.interface else .pass := by
  split
  · next h => rw [handle_of_isProbe r clock h]
  · next h => exact (handle_of_not_isProbe r clock h).1

/-- **Probes and only probes.** A frame is redirected exactly if it is a probe, and then to where it
came in; otherwise it passes and the whole buffer is as it was. The rewriting does not fail, and no
clock, codec, offset or estimate has a say in what becomes of a frame. -/
theorem redirects_exactly_probes (r : Reflector) (clock : σ) (buffer : Array UInt8) (n : Nat)
    (interface : UInt32) :
    let f := Frame.ofPrefix buffer n interface
    let handled := r.handle clock f
    (handled.disposition = .redirect interface ↔
        f.IsProbe r.settings.ports r.settings.localAddress) ∧
      (¬f.IsProbe r.settings.ports r.settings.localAddress →
        handled.disposition = .pass ∧ handled.frame.octets = buffer) ∧
      (f.screen r.settings = .ok () → f.checkLengths = .ok () →
        ∀ received sent estimate, Frame.reflect received sent estimate f =
          .ok (.redirect interface) (f.replied (f.replyTo received sent estimate).octets)) ∧
      ∀ (τ : Type) [Clock τ] (other : τ) (codec : Codec) (offset : UInt64)
          (estimate : ErrorEstimate),
        (handle ⟨{ r.settings with clockOffset := offset, errorEstimate := estimate }, codec⟩
          other f).disposition = handled.disposition := by
  intro f handled
  refine ⟨⟨isProbe_of_redirect, fun h => ?_⟩, fun h => ?_,
    fun _ hlengths received sent estimate => ?_, fun τ _ other codec offset estimate => ?_⟩
  · exact congrArg Handled.disposition (handle_of_isProbe r clock h)
  · obtain ⟨hpass, hframe⟩ := handle_of_not_isProbe r clock h
    exact ⟨hpass, congrArg Frame.octets hframe⟩
  · exact reflect_eq f hlengths received sent estimate
  · rw [disposition_eq, disposition_eq]

/-- A reflector on the well-known port, for all addresses or for one. -/
def sample (address : Option Ipv4Address) : Reflector :=
  ⟨⟨.empty, address, 37, ⟨0x8A03⟩⟩, .ntp⟩

/-- The sample goes back to 10.0.0.1, and cut by one octet it passes, whatever the clock. -/
theorem redirects_sample_unless_cut :
    let r := sample (some #v[10, 0, 0, 2])
    let clock : SteppingClock := ⟨1700000000000000000, 1000⟩
    (r.handle clock (.ofPrefix sampleBuffer 87 7)).disposition = .redirect 7 ∧
      (r.handle clock (.ofPrefix sampleBuffer 86 7)).disposition = .pass ∧
      (r.handle clock (.ofPrefix sampleBuffer 86 7)).frame.octets = sampleBuffer := by
  intro r clock
  have hwhole := redirects_exactly_probes r clock sampleBuffer 87 7
  have hcut := redirects_exactly_probes r clock sampleBuffer 86 7
  exact ⟨hwhole.1.2 (by decide), hcut.2.1 (by decide)⟩

end Reflector

end TwoWay
