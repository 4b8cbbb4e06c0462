import TwoWay.Socket

/-!
# What a socket promises

What a socket does shows in two rows of datagrams: those that are still to come in and those that
went out. A lawful socket may fail at any time; a reliable one does not while there is something to
do. `Mailbox` consists of just the two rows.
-/

namespace TwoWay

/-- An array laid over the start of a run of octets, as far as it fits. -/
theorem Octets.getElem?_put_ofArray {n i : Nat} (v : Octets n) (a : Array UInt8)
    (hi : i < min a.size n) : (v.put 0 (ofArray a))[i]? = a[i]? := by
  rw [Vector.getElem?_eq_getElem (by omega), Array.getElem?_eq_getElem (by omega), getElem_put,
    dif_pos (by omega)]
  rfl

namespace Socket

variable {τ π : Type} [Socket τ π]

/-- The laws of a socket with `inbox` still to come in and with `outbox` gone out. -/
structure Lawful (inbox outbox : τ → List (Datagram π)) : Prop where
  /-- The next one, laid over the start of the buffer, and counted, as far as it fits. -/
  received : ∀ {n : Nat} {socket : τ} {buffer : Octets n} {length : Fin (n + 1)} {peer : π},
    (receive socket buffer).outcome = .ok (length, peer) →
      ∃ octets, inbox socket = ⟨octets, peer⟩ :: inbox (receive socket buffer).socket ∧
        length.val = min octets.size n ∧
        ∀ i < length.val, (receive socket buffer).buffer[i]? = octets[i]?
  /-- Waiting sends nothing. -/
  outbox_receive : ∀ {n : Nat} (socket : τ) (buffer : Octets n),
    outbox (receive socket buffer).socket = outbox socket
  /-- What was sent has gone out. -/
  sent : ∀ {socket : τ} {octets : Array UInt8} {peer : π} {count : Nat},
    (send socket octets peer).1 = .ok count →
      outbox (send socket octets peer).2 = outbox socket ++ [⟨octets, peer⟩]
  /-- What could not be sent has not. -/
  unsent : ∀ {socket : τ} {octets : Array UInt8} {peer : π} {text : String},
    (send socket octets peer).1 = .error text →
      outbox (send socket octets peer).2 = outbox socket
  /-- Sending takes nothing from what is still to come. -/
  inbox_send : ∀ (socket : τ) (octets : Array UInt8) (peer : π),
    inbox (send socket octets peer).2 = inbox socket

/-- No wait fails while a datagram is still to come, and no sending ever. -/
structure Reliable (inbox outbox : τ → List (Datagram π)) : Prop
    extends Lawful inbox outbox where
  delivers : ∀ {n : Nat} {socket : τ} (buffer : Octets n), inbox socket ≠ [] →
    ∃ length peer, (receive socket buffer).outcome = .ok (length, peer)
  sends : ∀ (socket : τ) (octets : Array UInt8) (peer : π),
    ∃ count, (send socket octets peer).1 = .ok count

end Socket

/-- Datagrams to be delivered, and datagrams that have been sent. -/
structure Mailbox (π : Type) where
  inbox : List (Datagram π)
  outbox : List (Datagram π)

namespace Mailbox

variable {π : Type}

instance : Socket (Mailbox π) π where
  receive {n} m buffer :=
    match m.inbox with
    | [] => ⟨.error "no datagram is left", buffer, m⟩
    | ⟨octets, peer⟩ :: rest =>
      { outcome := .ok (⟨min octets.size n, by omega⟩, peer)
        buffer := buffer.put 0 (Octets.ofArray octets)
        socket := { m with inbox := rest } }
  send m octets peer := (.ok octets.size, { m with outbox := m.outbox ++ [⟨octets, peer⟩] })

theorem reliable : Socket.Reliable (inbox (π := π)) outbox where
  received {n m buffer length peer} h := by
    obtain ⟨inbox, outbox⟩ := m
    cases inbox with
    | nil => cases h
    | cons d rest =>
      cases h
      exact ⟨d.octets, rfl, rfl, fun i hi => Octets.getElem?_put_ofArray buffer d.octets hi⟩
  outbox_receive m buffer := by
    obtain ⟨inbox, outbox⟩ := m
    cases inbox <;> rfl
  sent _ := rfl
  unsent h := nomatch h
  inbox_send _ _ _ := rfl
  delivers {n m} buffer h := by
    obtain ⟨inbox, outbox⟩ := m
    cases inbox with
    | nil => exact absurd rfl h
    | cons d rest => exact ⟨_, _, rfl⟩
  sends _ _ _ := ⟨_, rfl⟩

end Mailbox

end TwoWay
