import TwoWay.Proofs.Rounds

/-!
# Readings of a clock

`Clock.after` is the clock that has been read so many times, and a stepping clock tells how many,
modulo its word (`after_stepping`). A frame takes two readings if it is answered, one if only its
lengths are at fault, and none if the screening refuses it (`clock_handle`).
-/

namespace TwoWay

namespace Clock

variable {σ : Type} [Clock σ]

theorem after_add (clock : σ) (m n : Nat) : after clock (m + n) = after (after clock m) n := by
  induction n with
  | zero => rfl
  | succ n ih => exact congrArg next ih

/-- Every reading moves a stepping clock by one step, modulo the range of its word. -/
theorem after_stepping (clock : SteppingClock) (n : Nat) :
    after clock n = ⟨.ofNat (clock.now.toNat + clock.step.toNat * n), clock.step⟩ := by
  induction n with
  | zero => simp [after]
  | succ n ih =>
    have hnow : UInt64.ofNat (clock.now.toNat + clock.step.toNat * (n + 1)) =
        .ofNat (clock.now.toNat + clock.step.toNat * n) + clock.step := by
      rw [Nat.mul_succ, ← Nat.add_assoc, UInt64.ofNat_add, UInt64.ofNat_toNat]
    rw [hnow, after, ih]
    rfl

theorem after_of_still {clock : SteppingClock} (h : clock.step = 0) (n : Nat) :
    after clock n = clock := by
  obtain ⟨now, step⟩ := clock
  obtain rfl : step = 0 := h
  rw [after_stepping]
  simp

end Clock

namespace Reflector

open TwoWay.Frame

variable {σ : Type} [Clock σ]

/-- Readings of the clock that a frame takes, by what the checks say of it. -/
def readings (r : Reflector) (f : Frame) : Nat :=
  match f.screen r.settings, f.checkLengths with
  | .error _, _ => 0
  | .ok _, .error _ => 1
  | .ok _, .ok _ => 2

theorem readings_of_refused {r : Reflector} {f : Frame} {e : Refusal}
    (h : f.screen r.settings = .error e) : r.readings f = 0 := by
  rw [readings, h]

theorem readings_of_unsound {r : Reflector} {f : Frame} {e : Truncation}
    (h : f.screen r.settings = .ok ()) (hlengths : f.checkLengths = .error e) :
    r.readings f = 1 := by
  rw [readings, h, hlengths]

theorem readings_of_isProbe {r : Reflector} {f : Frame} (h : r.Probes f) : r.readings f = 2 := by
  obtain ⟨hscreen, hlengths⟩ := (isProbe_iff f r.settings).1 h
  rw [readings, hscreen, hlengths]

theorem clock_handle (r : Reflector) (clock : σ) (f : Frame) :
    (r.handle clock f).clock = Clock.after clock (r.readings f) := by
  cases hscreen : f.screen r.settings with
  | error e =>
    rw [handle_of_refused r clock hscreen, readings_of_refused hscreen]
    rfl
  | ok u =>
    cases hlengths : f.checkLengths with
    | error e =>
      rw [handle_of_unsound r clock hscreen hlengths, readings_of_unsound hscreen hlengths]
      rfl
    | ok v =>
      have hprobe : r.Probes f := (isProbe_iff f r.settings).2 ⟨hscreen, hlengths⟩
      rw [handle_of_isProbe r clock hprobe, readings_of_isProbe hprobe]
      rfl

end Reflector

end TwoWay
