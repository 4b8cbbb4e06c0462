import TwoWay.Frame.Answer
import TwoWay.Frame.Screening
import TwoWay.Proofs.Blocks

/-!
# What the checks accept

Every check of the screening and of the lengths, as a list of cases in order.

**Theorem (`isProbe_iff`).** The checks find no fault with a frame exactly if it is a probe for us,
which is a matter of its octets and its size alone.
-/

namespace TwoWay.Frame

/-- A probe for somebody with these accepted ports and this address. -/
structure IsProbe (f : Frame) (ports : PortTable) (address : Option Ipv4Address) : Prop where
  type : f.word 12 = 0x0800
  /-- Version 4, and a header of five words. -/
  shape : f.octet 14 = 0x45
  /-- Nothing is to follow, and nothing came before. -/
  whole : f.word 20 &&& 0x3FFF = 0
  protocol : f.octet 23 = 17
  /-- One of the ports is the well-known one or a configured one. -/
  port : ∃ p ∈ [f.word 34, f.word 36], p = 862 ∨ p ∈ ports.extra
  address : ∀ a ∈ address, f.block 30 4 = a
  datagram : 52 ≤ (f.word 38).toNat
  packet : 20 + (f.word 38).toNat ≤ (f.word 16).toNat
  size : 14 + (f.word 16).toNat ≤ f.size

instance (f : Frame) (ports : PortTable) (address : Option Ipv4Address) :
    Decidable (f.IsProbe ports address) :=
  -- Looks at the address there is, not through all that there might be.
  have : Decidable (∀ a ∈ address, f.block 30 4 = a) := Option.decidableForallMem address
  decidable_of_iff
    (f.word 12 = 0x0800 ∧ f.octet 14 = 0x45 ∧ f.word 20 &&& 0x3FFF = 0 ∧ f.octet 23 = 17 ∧
      (∃ p ∈ [f.word 34, f.word 36], p = 862 ∨ p ∈ ports.extra) ∧
      (∀ a ∈ address, f.block 30 4 = a) ∧ 52 ≤ (f.word 38).toNat ∧
      20 + (f.word 38).toNat ≤ (f.word 16).toNat ∧ 14 + (f.word 16).toNat ≤ f.size)
    ⟨fun ⟨h1, h2, h3, h4, h5, h6, h7, h8, h9⟩ => ⟨h1, h2, h3, h4, h5, h6, h7, h8, h9⟩,
      fun ⟨h1, h2, h3, h4, h5, h6, h7, h8, h9⟩ => ⟨h1, h2, h3, h4, h5, h6, h7, h8, h9⟩⟩

/-- The record lies in the datagram, the datagram in the packet, the packet in the frame. -/
structure Nested (f : Frame) : Prop where
  datagram : 52 ≤ (f.word 38).toNat
  packet : 20 + (f.word 38).toNat ≤ (f.word 16).toNat
  size : 14 + (f.word 16).toNat ≤ f.size

theorem Nested.le_size {f : Frame} (h : f.Nested) : 86 ≤ f.size := by
  have := h.datagram
  have := h.packet
  have := h.size
  omega

theorem Nested.le_size_octets {f : Frame} (h : f.Nested) : 86 ≤ f.octets.size :=
  Nat.le_trans h.le_size f.size_le

/-! ## Screening -/

theorem screenLink_eq (f : Frame) :
    f.screenLink =
      if f.size < 14 then .error (.truncated ⟨14, f.size⟩)
      else if f.word 12 ≠ 0x0800 then .error (.notApplicable (.etherType (f.word 12)))
      else .ok () := by
  by_cases h : f.size < 14
  · rw [if_pos h, screenLink, load16_of_lt f _ h]
    rfl
  · rw [if_neg h, screenLink, load16_eq_word f _ (Nat.le_of_not_lt h)]
    rfl

theorem screenNetwork_eq (f : Frame) :
    f.screenNetwork =
      if f.size < 34 then .error (.truncated ⟨34, f.size⟩)
      else if f.octet 14 ≠ 0x45 then .error (.notApplicable (.ipv4Shape (f.octet 14)))
      else if f.word 20 &&& 0x3FFF ≠ 0 then .error (.notApplicable .fragment)
      else if f.octet 23 ≠ 17 then .error (.notApplicable (.protocol (f.octet 23)))
      else .ok () := by
  by_cases h : f.size < 34
  · rw [if_pos h, screenNetwork, require_of_lt f (Ipv4.headerAt + Ipv4.headerSize) h]
    rfl
  · have h' : 34 ≤ f.size := Nat.le_of_not_lt h
    rw [if_neg h, screenNetwork, require_of_le f (Ipv4.headerAt + Ipv4.headerSize) h',
      load8_eq_octet f Ipv4.shapeAt (Nat.le_trans (by decide) h'),
      load16_eq_word f Ipv4.fragmentAt (Nat.le_trans (by decide) h'),
      load8_eq_octet f Ipv4.protocolAt (Nat.le_trans (by decide) h')]
    rfl

theorem screenPorts_eq (f : Frame) (ports : PortTable) :
    f.screenPorts ports =
      if f.size < 42 then .error (.truncated ⟨42, f.size⟩)
      else if !ports.accepts (f.word 34) (f.word 36) then
        .error (.notApplicable (.port (f.word 34) (f.word 36)))
      else .ok () := by
  by_cases h : f.size < 42
  · rw [if_pos h, screenPorts, require_of_lt f (Udp.headerAt + Udp.headerSize) h]
    rfl
  · have h' : 42 ≤ f.size := Nat.le_of_not_lt h
    rw [if_neg h, screenPorts, require_of_le f (Udp.headerAt + Udp.headerSize) h',
      load16_eq_word f Udp.sourceAt (Nat.le_trans (by decide) h'),
      load16_eq_word f Udp.destinationAt (Nat.le_trans (by decide) h')]
    rfl

theorem screenAddress_none (f : Frame) : f.screenAddress none = .ok () := rfl

theorem screenAddress_some (f : Frame) (a : Ipv4Address) (h : 34 ≤ f.size) :
    f.screenAddress (some a) =
      if f.block 30 4 ≠ a then .error (.notApplicable .destination) else .ok () := by
  rw [screenAddress, load_eq_block f Ipv4.destinationAt Ipv4.addressSize h]
  rfl

/-! ## Lengths -/

theorem checkLengths_eq (f : Frame) :
    f.checkLengths =
      if f.size < 86 then .error ⟨86, f.size⟩
      else if (f.word 38).toNat < 52 then .error ⟨52, (f.word 38).toNat⟩
      else if (f.word 16).toNat < 20 + (f.word 38).toNat then
        .error ⟨20 + (f.word 38).toNat, (f.word 16).toNat⟩
      else f.require (14 + (f.word 16).toNat) := by
  by_cases h : f.size < 86
  · rw [if_pos h, checkLengths, require_of_lt f (recordAt Probe.size) h]
    rfl
  · have h' : 86 ≤ f.size := Nat.le_of_not_lt h
    rw [if_neg h, checkLengths, require_of_le f (recordAt Probe.size) h',
      load16_eq_word f Udp.lengthAt (Nat.le_trans (by decide) h'),
      load16_eq_word f Ipv4.totalLengthAt (Nat.le_trans (by decide) h')]
    rfl

/-! ## Frames without fault -/

/-- A list of cases accepts if the first does not apply and the rest accepts. -/
theorem ite_error_eq_ok_iff {ε α : Type} {c : Prop} [Decidable c] (e : ε) (x : Except ε α)
    (a : α) : (if c then .error e else x) = .ok a ↔ ¬c ∧ x = .ok a := by
  split <;> simp_all

theorem then_eq_ok_iff {ε : Type} (x y : Except ε Unit) :
    (do x; y) = .ok () ↔ x = .ok () ∧ y = .ok () := by
  cases x with
  | error e => simp [bind, Except.bind]
  | ok u => simp [bind, Except.bind]

theorem accepts_iff (ports : PortTable) (a b : UInt16) :
    ports.accepts a b = true ↔ ∃ p ∈ [a, b], p = 862 ∨ p ∈ ports.extra := by
  simp [PortTable.accepts, PortTable.contains_iff]

theorem screenAddress_eq_ok_iff (f : Frame) (address : Option Ipv4Address) (h : 34 ≤ f.size) :
    f.screenAddress address = .ok () ↔ ∀ a ∈ address, f.block 30 4 = a := by
  cases address with
  | none => simp [screenAddress_none]
  | some a => simp [screenAddress_some f a h]

/-- The screening accepts a frame with all three headers, each of the kind it is to be. -/
theorem screen_eq_ok_iff (f : Frame) (s : Settings) :
    f.screen s = .ok () ↔
      42 ≤ f.size ∧ f.word 12 = 0x0800 ∧ f.octet 14 = 0x45 ∧ f.word 20 &&& 0x3FFF = 0 ∧
        f.octet 23 = 17 ∧ (∃ p ∈ [f.word 34, f.word 36], p = 862 ∨ p ∈ s.ports.extra) ∧
        ∀ a ∈ s.localAddress, f.block 30 4 = a := by
  rw [screen, then_eq_ok_iff, then_eq_ok_iff, then_eq_ok_iff, screenLink_eq, screenNetwork_eq,
    screenPorts_eq, ← accepts_iff]
  simp only [ite_error_eq_ok_iff, Decidable.not_not, Nat.not_lt, Bool.not_eq_true',
    Bool.not_eq_false, and_true]
  constructor
  · rintro ⟨⟨-, htype⟩, ⟨hsize, hshape, hwhole, hprotocol⟩, ⟨hheaders, hport⟩, haddress⟩
    exact ⟨hheaders, htype, hshape, hwhole, hprotocol, hport,
      (screenAddress_eq_ok_iff f _ hsize).1 haddress⟩
  · rintro ⟨hheaders, htype, hshape, hwhole, hprotocol, hport, haddress⟩
    exact ⟨⟨by omega, htype⟩, ⟨by omega, hshape, hwhole, hprotocol⟩, ⟨hheaders, hport⟩,
      (screenAddress_eq_ok_iff f _ (by omega)).2 haddress⟩

theorem checkLengths_eq_ok_iff (f : Frame) : f.checkLengths = .ok () ↔ f.Nested := by
  rw [checkLengths_eq]
  simp only [ite_error_eq_ok_iff, Nat.not_lt, require_eq_ok_iff]
  constructor
  · rintro ⟨-, hdatagram, hpacket, hsize⟩
    exact ⟨hdatagram, hpacket, hsize⟩
  · intro h
    exact ⟨h.le_size, h.datagram, h.packet, h.size⟩

theorem IsProbe.nested {f : Frame} {ports : PortTable} {address : Option Ipv4Address}
    (h : f.IsProbe ports address) : f.Nested :=
  ⟨h.datagram, h.packet, h.size⟩

/-- **Probes.** A frame is a probe exactly if no check finds fault with it. -/
theorem isProbe_iff (f : Frame) (s : Settings) :
    f.IsProbe s.ports s.localAddress ↔ f.screen s = .ok () ∧ f.checkLengths = .ok () := by
  rw [screen_eq_ok_iff, checkLengths_eq_ok_iff]
  constructor
  · intro h
    have hsize := h.nested.le_size
    exact ⟨⟨by omega, h.type, h.shape, h.whole, h.protocol, h.port, h.address⟩, h.nested⟩
  · rintro ⟨⟨-, htype, hshape, hwhole, hprotocol, hport, haddress⟩, hnested⟩
    exact ⟨htype, hshape, hwhole, hprotocol, hport, haddress, hnested.datagram, hnested.packet,
      hnested.size⟩

/-! ## A probe -/

/-- A probe from 10.0.0.1 to 10.0.0.2, in a buffer with three octets to spare. -/
def sampleBuffer : Array UInt8 := #[
  0x02, 0, 0, 0, 0, 0x0b, 0x02, 0, 0, 0, 0, 0x0a, 0x08, 0,
  0x45, 0, 0, 0x49, 0x12, 0x34, 0x40, 0, 0x40, 0x11, 0x14, 0x6e, 0x0a, 0, 0, 0x01, 0x0a, 0, 0, 0x02,
  0x9c, 0x40, 0x03, 0x5e, 0, 0x35, 0x60, 0x08,
  0, 0, 0, 0x07, 0xe8, 0xe8, 0xe8, 0xe8, 0x40, 0, 0, 0, 0x80, 0x01,
  0, 0, 0, 0, 0, 0, 0, 0, 0, 0, 0, 0, 0, 0, 0, 0, 0, 0, 0, 0, 0, 0, 0, 0, 0, 0, 0, 0, 0, 0,
  0x5a, 0xee, 0xee, 0xee]

def sample : Frame := .ofPrefix sampleBuffer 87 7

example : sample.IsProbe .empty (some #v[10, 0, 0, 2]) := by decide

example : ¬(Frame.ofPrefix sampleBuffer 86 7).IsProbe .empty none := by decide

end TwoWay.Frame
