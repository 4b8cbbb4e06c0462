import TwoWay.Checksum
import TwoWay.Frame.Header
import TwoWay.Reply

/-!
# Answers in place

The reply is written over the probe and has its size. Before that the three lengths of the frame are
checked: the record lies in the datagram, the datagram in the packet, the packet in the frame.
-/

namespace TwoWay.Frame

abbrev minDatagram : Nat := Udp.headerSize + Probe.size

/-- Padding of the link is not part of the packet. -/
def checkLengths (f : Frame) : Except Truncation Unit := do
  f.require (recordAt Probe.size)
  let datagram := (← f.load16 Udp.lengthAt).toNat
  if datagram < minDatagram then
    throw ⟨minDatagram, datagram⟩
  let packet := (← f.load16 Ipv4.totalLengthAt).toNat
  if packet < Ipv4.headerSize + datagram then
    throw ⟨Ipv4.headerSize + datagram, packet⟩
  f.require (Ethernet.headerSize + packet)

/-- A checksum of zero says that there is none, and stays; any other is corrected. -/
def answer (received sent : Timestamp) (estimate : ErrorEstimate) : Edit Unit := do
  look checkLengths
  let probe ← look (·.load (recordAt 0) Probe.size)
  let ttl ← look (·.load8 Ipv4.ttlAt)
  let reply := ((Probe.ofOctets probe).answer received sent estimate ttl).octets
  let check ← look (·.load16 Udp.checksumAt)
  store (recordAt 0) reply
  if check ≠ 0 then
    store16 Udp.checksumAt
      (Checksum.replace check (Octets.words probe.toList) (Octets.words reply.toList))

end TwoWay.Frame
