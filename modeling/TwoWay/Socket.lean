import TwoWay.Octets

/-!
# Sockets

Datagrams come in and go out at a socket. It belongs to the system beneath and is known here by its
two operations alone, either of which can fail.
-/

namespace TwoWay

/-- Octets on their way, and the peer that they come from or go to. -/
structure Datagram (π : Type) where
  octets : Array UInt8
  peer : π
deriving DecidableEq

/-- How a wait for a datagram has ended, over a buffer of `n` octets. -/
structure Received (τ π : Type) (n : Nat) where
  /-- How many octets came in and from whom, or why none did. -/
  outcome : Except String (Fin (n + 1) × π)
  buffer : Octets n
  socket : τ

class Socket (τ : Type) (π : outParam Type) where
  /-- Wait for a datagram, with a buffer to put it into. -/
  receive {n : Nat} (socket : τ) (buffer : Octets n) : Received τ π n
  /-- Send octets to a peer. The result tells how many went out. -/
  send (socket : τ) (octets : Array UInt8) (peer : π) : Except String Nat × τ

end TwoWay
