import TwoWay.Frame.Header

/-!
# Screening of frames

Which frames are candidates for an answer. Checks run from the link upwards and the first that fails
gives the refusal; no octet is looked at before it is known to be there.
-/

namespace TwoWay.Frame

def orRefuse {α : Type} (r : Except Truncation α) : Except Refusal α :=
  r.mapError .truncated

def screenLink (f : Frame) : Except Refusal Unit := do
  let type ← orRefuse (f.load16 Ethernet.typeAt)
  if type ≠ Ethernet.ipv4Type then
    throw (.notApplicable (.etherType type))

/-- The packet is plain, whole, and carries UDP. -/
def screenNetwork (f : Frame) : Except Refusal Unit := do
  orRefuse (f.require (Ipv4.headerAt + Ipv4.headerSize))
  let shape ← orRefuse (f.load8 Ipv4.shapeAt)
  if shape ≠ Ipv4.plainShape then
    throw (.notApplicable (.ipv4Shape shape))
  let fragment ← orRefuse (f.load16 Ipv4.fragmentAt)
  if fragment &&& Ipv4.fragmentMask ≠ 0 then
    throw (.notApplicable .fragment)
  let protocol ← orRefuse (f.load8 Ipv4.protocolAt)
  if protocol ≠ Ipv4.udpProtocol then
    throw (.notApplicable (.protocol protocol))

def screenPorts (f : Frame) (ports : PortTable) : Except Refusal Unit := do
  orRefuse (f.require (Udp.headerAt + Udp.headerSize))
  let source ← orRefuse (f.load16 Udp.sourceAt)
  let destination ← orRefuse (f.load16 Udp.destinationAt)
  if !ports.accepts source destination then
    throw (.notApplicable (.port source destination))

/-- The packet is addressed to us, if we have an address. -/
def screenAddress (f : Frame) : Option Ipv4Address → Except Refusal Unit
  | none => return
  | some address => do
    let destination ← orRefuse (f.load Ipv4.destinationAt Ipv4.addressSize)
    if destination ≠ address then
      throw (.notApplicable .destination)

/-- All checks in order, from the link to the address. -/
def screen (f : Frame) (s : Settings) : Except Refusal Unit := do
  f.screenLink
  f.screenNetwork
  f.screenPorts s.ports
  f.screenAddress s.localAddress

end TwoWay.Frame
