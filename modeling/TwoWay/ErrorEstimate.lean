import TwoWay.Clamp
import TwoWay.Failure

/-!
# Error estimates

Sixteen bits by which a clock states how far off it may be: whether it is synchronised, whether
timestamps have the PTP format, six bits of scale and eight of multiplier. The error is
`multiplier * 2 ^ (scale - 32)` seconds.
-/

namespace TwoWay

structure ErrorEstimate where
  bits : UInt16
deriving DecidableEq

namespace ErrorEstimate

abbrev maxScale : UInt8 := 63

/-- A multiplier of zero would claim a perfect clock and is raised to one. -/
def ofParts (synchronized : Bool) (scale multiplier : UInt8) :
    Except SettingsError ErrorEstimate :=
  if maxScale < scale then
    .error (.scaleOutOfRange scale)
  else
    let sync : UInt16 := if synchronized then 32768 else 0
    let weight : UInt8 := if multiplier = 0 then 1 else multiplier
    .ok ⟨sync + scale.toUInt16 * (256 : UInt16) + weight.toUInt16⟩

def synchronized (e : ErrorEstimate) : Bool := e.bits.toNat.testBit 15

def ptp (e : ErrorEstimate) : Bool := e.bits.toNat.testBit 14

def scale (e : ErrorEstimate) : UInt8 := (e.bits / 256 % 64).toUInt8

def multiplier (e : ErrorEstimate) : UInt8 := e.bits.toUInt8

/-- The error in whole nanoseconds, rounded down. -/
def nanos (e : ErrorEstimate) : UInt64 :=
  nearestUInt64 (((e.multiplier.toNat <<< e.scale.toNat) * 1000000000) >>> 32)

/-- No claim beyond the least error of the smallest scale. -/
instance : Inhabited ErrorEstimate := ⟨⟨1⟩⟩

end ErrorEstimate

end TwoWay
