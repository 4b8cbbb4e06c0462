import TwoWay.Clamp
import TwoWay.ErrorEstimate
import TwoWay.Octets
import TwoWay.PortTable
import TwoWay.Timestamp.Codec

/-!
# Settings of a reflector

Which probes are answered, and what the answers say about time.
-/

namespace TwoWay

abbrev Ipv4Address := Octets 4

structure Settings where
  ports : PortTable
  /-- Answer only what is sent to this address. -/
  localAddress : Option Ipv4Address
  /-- Seconds that the clock is ahead, such as those between TAI and UTC. -/
  clockOffset : UInt64
  errorEstimate : ErrorEstimate
deriving DecidableEq

namespace Settings

instance : Inhabited Settings := ⟨⟨.empty, none, 0, default⟩⟩

/-- A clock reading less the offset. Time before 1970 counts as 1970. -/
def adjust (s : Settings) (reading : UInt64) : UInt64 :=
  subClamped reading (mulClamped s.clockOffset nanosPerSecond)

/-- An offset that has to be clamped is more than any reading, so the clamping never shows. -/
theorem toNat_adjust (s : Settings) (reading : UInt64) :
    (s.adjust reading).toNat = reading.toNat - s.clockOffset.toNat * 1000000000 := by
  have h := reading.toNat_lt
  rw [adjust, toNat_subClamped, toNat_mulClamped]
  simp only [nanosPerSecond, maxUInt64, UInt64.reduceToNat]
  omega

end Settings

end TwoWay
