import TwoWay.Frame.Basic
import TwoWay.Settings.Basic

/-!
# Headers of a frame

Positions of the header fields, counted from the start of the frame, for an Ethernet header, an IPv4
header without options and a UDP header in a row.
-/

namespace TwoWay

namespace Ethernet

abbrev headerSize : Nat := 14

abbrev destinationAt : Nat := 0

abbrev sourceAt : Nat := 6

abbrev typeAt : Nat := 12

abbrev ipv4Type : UInt16 := 0x0800

abbrev addressSize : Nat := 6

end Ethernet

namespace Ipv4

abbrev headerSize : Nat := 20

abbrev headerAt : Nat := Ethernet.headerSize

abbrev shapeAt : Nat := headerAt

abbrev totalLengthAt : Nat := headerAt + 2

abbrev fragmentAt : Nat := headerAt + 6

abbrev ttlAt : Nat := headerAt + 8

abbrev protocolAt : Nat := headerAt + 9

abbrev checksumAt : Nat := headerAt + 10

abbrev sourceAt : Nat := headerAt + 12

abbrev destinationAt : Nat := headerAt + 16

/-- Version 4, and a header of five words. -/
abbrev plainShape : UInt8 := 0x45

/-- The bits that only a fragment has: more to come, or an offset. -/
abbrev fragmentMask : UInt16 := 0x3FFF

abbrev udpProtocol : UInt8 := 17

abbrev addressSize : Nat := 4

end Ipv4

namespace Udp

abbrev headerSize : Nat := 8

abbrev headerAt : Nat := Ipv4.headerAt + Ipv4.headerSize

abbrev sourceAt : Nat := headerAt

abbrev destinationAt : Nat := headerAt + 2

abbrev lengthAt : Nat := headerAt + 4

abbrev checksumAt : Nat := headerAt + 6

abbrev payloadAt : Nat := headerAt + headerSize

end Udp

/-- Position in a frame of a field of the record it carries. -/
def Frame.recordAt (field : Nat) : Nat := Udp.payloadAt + field

/-! ## Routes -/

abbrev MacAddress := Octets 6

/-- Both ends of a frame's way. -/
structure Route where
  sourceMac : MacAddress
  destinationMac : MacAddress
  sourceIp : Ipv4Address
  destinationIp : Ipv4Address
deriving DecidableEq

def Route.reverse (r : Route) : Route :=
  ⟨r.destinationMac, r.sourceMac, r.destinationIp, r.sourceIp⟩

@[simp] theorem Route.reverse_reverse (r : Route) : r.reverse.reverse = r := rfl

/-- The route that the headers of a frame state. -/
def Frame.route (f : Frame) : Except Truncation Route := do
  f.require Udp.headerAt
  let sourceMac ← f.load Ethernet.sourceAt Ethernet.addressSize
  let destinationMac ← f.load Ethernet.destinationAt Ethernet.addressSize
  let sourceIp ← f.load Ipv4.sourceAt Ipv4.addressSize
  let destinationIp ← f.load Ipv4.destinationAt Ipv4.addressSize
  return ⟨sourceMac, destinationMac, sourceIp, destinationIp⟩

end TwoWay
