import TwoWay.Reflector.Basic
import TwoWay.Socket

/-!
# Responders

A responder answers datagrams at a socket, where no frames are to be had. Each is received over the
start of one buffer, becomes its reply there, and is sent back to where it came from.
-/

namespace TwoWay

/-- A reflector with its clock, and a socket with the buffer that datagrams are received into. -/
structure Responder (σ τ : Type) where
  reflector : Reflector
  clock : σ
  socket : τ
  buffer : Octets 2048

namespace Responder

variable {σ τ π : Type} [Clock σ] [Socket τ π]

abbrev bufferSize : Nat := 2048

/-- The hop limit of a datagram is not seen, and this stands for it. -/
abbrev unknownTtl : UInt8 := 255

def ofReflector (reflector : Reflector) (clock : σ) (socket : τ) : Responder σ τ :=
  ⟨reflector, clock, socket, Octets.zeros bufferSize⟩

/-- The reply to what came in, which is as long. Fewer octets than a probe has get none. -/
def answer (r : Responder σ τ) (length : Fin (bufferSize + 1)) :
    Option (Array UInt8) × Responder σ τ :=
  let (received, clock) := r.reflector.timestamp r.clock
  if length.val < Probe.size then
    (none, { r with clock })
  else
    let (sent, clock) := r.reflector.timestamp clock
    let probe := Probe.ofOctets (r.buffer.field 0 Probe.size (by decide))
    let reply := probe.answer received sent r.reflector.settings.errorEstimate unknownTtl
    let buffer := r.buffer.put 0 reply.octets
    (some (buffer.toArray.extract 0 length), { r with clock, buffer })

/-- Wait for a datagram. The outcome is how many octets of it are in the buffer, and its peer. -/
def await (r : Responder σ τ) : Except Failure (Fin (bufferSize + 1) × π) × Responder σ τ :=
  let received := Socket.receive r.socket r.buffer
  (received.outcome.mapError .io, { r with socket := received.socket, buffer := received.buffer })

/-- Send a reply. The outcome is the peer, or nobody if the reply could not be sent. -/
def send (r : Responder σ τ) (reply : Array UInt8) (peer : π) : Option π × Responder σ τ :=
  let (sent, socket) := Socket.send r.socket reply peer
  (sent.toOption.map fun _ => peer, { r with socket })

/-- Wait for a datagram and answer it. A reply that cannot be sent is given up. -/
def respond (r : Responder σ τ) : Except Failure (Option π) × Responder σ τ :=
  match r.await with
  | (.error failure, r) => (.error failure, r)
  | (.ok (length, peer), r) =>
    match r.answer length with
    | (none, r) => (.ok none, r)
    | (some reply, r) =>
      let (answered, r) := r.send reply peer
      (.ok answered, r)

/-- Respond until a wait fails, or `n` times if none does before. -/
def run (r : Responder σ τ) : Nat → Option Failure × Responder σ τ
  | 0 => (none, r)
  | n + 1 =>
    match r.respond with
    | (.error failure, r) => (some failure, r)
    | (.ok _, r) => r.run n

end Responder

end TwoWay
