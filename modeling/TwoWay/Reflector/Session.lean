import TwoWay.Delays
import TwoWay.Reflector.Basic

/-!
# Sessions

A reflector at work: its clock moves on, and the buffer of the last frame stays at hand. What
happens is a list of events, each of which has a report.
-/

namespace TwoWay

/-- A reflector with a stepping clock and the buffer of the last frame. -/
structure Session where
  reflector : Reflector
  clock : SteppingClock
  buffer : Array UInt8

namespace Session

inductive Event
  /-- A frame comes in, in a new buffer or in the one at hand, of all its octets or of `size`. -/
  | frame (buffer : Option (Array UInt8)) (size : Option Nat) (interface : UInt32)
  | timestamp
  | setClock (now : UInt64)
  | readClock
  | reply
  /-- The reply in the buffer comes back to its sender. -/
  | delays (arrival : Timestamp)
  | settings

inductive Report
  | handled (disposition : Disposition) (buffer : Array UInt8)
  | timestamp (t : Timestamp)
  | done
  | reading (nanos : UInt64)
  | reply (r : Reply)
  | delays (d : Delays)
  | settings (s : Settings)

/-- The reply in a buffer, which has to be long enough to hold one. -/
def replyIn (buffer : Array UInt8) : Except Truncation Reply :=
  ((Frame.ofArray buffer 0).load (Frame.recordAt 0) Reply.size).map Reply.ofOctets

/-- One event. Looking at the buffer or the settings changes nothing. -/
def step (s : Session) : Event → Except Truncation Report × Session
  | .frame buffer size interface =>
    let buffer := buffer.getD s.buffer
    let frame := Frame.ofPrefix buffer (size.getD buffer.size) interface
    let h := s.reflector.handle s.clock frame
    (.ok (.handled h.disposition h.frame.octets),
      { s with clock := h.clock, buffer := h.frame.octets })
  | .timestamp =>
    let (t, clock) := s.reflector.timestamp s.clock
    (.ok (.timestamp t), { s with clock })
  | .setClock now => (.ok .done, { s with clock := { s.clock with now } })
  | .readClock =>
    let (reading, clock) := Clock.tick s.clock
    (.ok (.reading reading), { s with clock })
  | .reply => ((replyIn s.buffer).map .reply, s)
  | .delays arrival =>
    ((replyIn s.buffer).map fun r => .delays (.ofReply s.reflector.codec r arrival), s)
  | .settings => (.ok (.settings s.reflector.settings), s)

/-- Each report comes with the clock as the event left it. -/
def run (s : Session) : List Event → List (Except Truncation Report × SteppingClock) × Session
  | [] => ([], s)
  | event :: rest =>
    let (report, s) := s.step event
    let (reports, last) := s.run rest
    ((report, s.clock) :: reports, last)

end Session

end TwoWay
