import TwoWay.Frame.Answer
import TwoWay.Frame.Return
import TwoWay.Frame.Screening

/-!
# Operations on frames as data

All that can be done to a frame, one constructor each, so that a run of operations is a list.
-/

namespace TwoWay.Frame

/-- One look at a frame, or one change of it. -/
inductive Operation
  | describe
  | require (stop : Nat)
  | load (start count : Nat)
  | load8 (start : Nat)
  | load16 (start : Nat)
  | load32 (start : Nat)
  | store (start : Nat) (octets : Array UInt8)
  | store16 (start : Nat) (word : UInt16)
  | route
  | screen (settings : Settings)
  | checkLengths
  | answer (received sent : Timestamp) (estimate : ErrorEstimate)
  | turnBack
  | exchangePorts

inductive Outcome
  | done
  | description (size : Nat) (empty : Bool) (interface : UInt32)
  | octets (octets : Array UInt8)
  | number (value : Nat)
  | route (route : Route)
  | disposition (disposition : Disposition)
  | exchanged (differed : Bool)

namespace Operation

/-- A look at a frame leaves it as it is. -/
def ofView {α : Type} (view : Except Truncation α) (outcome : α → Outcome) (f : Frame) :
    Except Refusal Outcome × Frame :=
  ((orRefuse view).map outcome, f)

/-- A change that stops at an error leaves what it has changed so far. -/
def ofEdit {α : Type} (edit : Edit α) (outcome : α → Outcome) (f : Frame) :
    Except Refusal Outcome × Frame :=
  match edit f with
  | .ok a f => (.ok (outcome a), f)
  | .error e f => (.error (.truncated e), f)

def run : Operation → Frame → Except Refusal Outcome × Frame
  | .describe, f => (.ok (.description f.size f.isEmpty f.interface), f)
  | .require stop, f => ofView (f.require stop) (fun _ => .done) f
  | .load start count, f => ofView (f.load start count) (fun v => .octets v.toArray) f
  | .load8 start, f => ofView (f.load8 start) (fun b => .number b.toNat) f
  | .load16 start, f => ofView (f.load16 start) (fun w => .number w.toNat) f
  | .load32 start, f => ofView (f.load32 start) (fun w => .number w.toNat) f
  | .store start octets, f =>
    ofEdit (Frame.store start (Octets.ofArray octets)) (fun _ => .done) f
  | .store16 start word, f => ofEdit (Frame.store16 start word) (fun _ => .done) f
  | .route, f => ofView f.route .route f
  | .screen settings, f => ((f.screen settings).map fun _ => .done, f)
  | .checkLengths, f => ofView f.checkLengths (fun _ => .done) f
  | .answer received sent estimate, f =>
    ofEdit (Frame.answer received sent estimate) (fun _ => .done) f
  | .turnBack, f => (.ok (.disposition f.turnBack.1), f.turnBack.2)
  | .exchangePorts, f => ofEdit Frame.exchangePorts .exchanged f

end Operation

def runAll (operations : List Operation) (f : Frame) : List (Except Refusal Outcome) × Frame :=
  match operations with
  | [] => ([], f)
  | operation :: rest =>
    let (outcome, f) := operation.run f
    let (outcomes, f) := runAll rest f
    (outcome :: outcomes, f)

end TwoWay.Frame
