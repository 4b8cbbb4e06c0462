import TwoWay.Clock
import TwoWay.Frame.Answer
import TwoWay.Frame.Return
import TwoWay.Frame.Screening

/-!
# Reflectors

A probe becomes its reply inside the frame, and the frame goes back. The clock is read once after
the screening and once more when the lengths are found sound; before that nothing is written.
-/

namespace TwoWay

/-- What stays the same from frame to frame. -/
structure Reflector where
  settings : Settings
  codec : Codec

/-- A frame that was handled, what is to become of it, and the clock afterwards. -/
structure Handled (σ : Type) where
  disposition : Disposition
  frame : Frame
  clock : σ

def Frame.reflect (received sent : Timestamp) (estimate : ErrorEstimate) :
    Frame.Edit Disposition := do
  Frame.answer received sent estimate
  let disposition ← modifyGet Frame.turnBack
  match disposition with
  | .pass => return .pass
  | .redirect interface =>
    let _ ← Frame.exchangePorts
    return .redirect interface

namespace Reflector

variable {σ : Type} [Clock σ]

/-- The time now, as it goes on the wire. -/
def timestamp (r : Reflector) (clock : σ) : Timestamp × σ :=
  let (reading, clock) := Clock.tick clock
  (r.codec.encode (r.settings.adjust reading), clock)

/-- Answer a frame if it is a probe, and let any other pass. -/
def handle (r : Reflector) (clock : σ) (frame : Frame) : Handled σ :=
  match frame.screen r.settings with
  | .error _ => ⟨.pass, frame, clock⟩
  | .ok () =>
    let (received, clock) := r.timestamp clock
    match frame.checkLengths with
    | .error _ => ⟨.pass, frame, clock⟩
    | .ok () =>
      let (sent, clock) := r.timestamp clock
      match Frame.reflect received sent r.settings.errorEstimate frame with
      | .ok disposition frame => ⟨disposition, frame, clock⟩
      | .error _ frame => ⟨.pass, frame, clock⟩

end Reflector

end TwoWay
