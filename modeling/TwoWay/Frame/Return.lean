import TwoWay.Frame.Header

/-!
# The way back

A frame goes back where it came from when its ends are exchanged. That moves words of a sum about
and leaves the sum alone, so no checksum has to be corrected for it.
-/

namespace TwoWay

/-- What is to become of a frame. -/
inductive Disposition
  | pass
  | redirect (interface : UInt32)
deriving DecidableEq

namespace Frame

def exchange (a b n : Nat) : Edit Unit := do
  let atA ← look (·.load a n)
  let atB ← look (·.load b n)
  store a atB
  store b atA

/-- Exchange the ends of the route. -/
def exchangeAddresses : Edit Unit := do
  look (·.require (Ipv4.headerAt + Ipv4.headerSize))
  exchange Ipv4.sourceAt Ipv4.destinationAt Ipv4.addressSize
  look (·.require Ethernet.headerSize)
  exchange Ethernet.sourceAt Ethernet.destinationAt Ethernet.addressSize

/-- Exchange the ports, if they differ. The result tells whether they did. -/
def exchangePorts : Edit Bool := do
  look (·.require (Udp.headerAt + Udp.headerSize))
  let source ← look (·.load16 Udp.sourceAt)
  let destination ← look (·.load16 Udp.destinationAt)
  if source = destination then
    return false
  store16 Udp.sourceAt destination
  store16 Udp.destinationAt source
  return true

/-- Address a frame to where it came from. One too short to have addresses passes. -/
def turnBack (f : Frame) : Disposition × Frame :=
  match exchangeAddresses f with
  | .ok () f => (.redirect f.interface, f)
  | .error _ f => (.pass, f)

end Frame

end TwoWay
