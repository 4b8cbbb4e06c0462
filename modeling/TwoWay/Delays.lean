import TwoWay.Clamp
import TwoWay.Reply
import TwoWay.Timestamp.Codec

/-!
# Delays

What a sender learns from the three times in a reply and the time at which it comes back.
Differences are clamped to signed words, and the round trip is a difference of two of them.
-/

namespace TwoWay

/-- Delays in nanoseconds, as told by one reply. -/
structure Delays where
  sequence : UInt32
  /-- The whole way less the time in the reflector. -/
  roundTrip : Int64
  /-- From the sender to the reflector. -/
  forward : Int64
  /-- From the reflector to the sender. -/
  backward : Int64
  /-- Inside the reflector. -/
  dwell : Int64
  senderTtl : UInt8
deriving DecidableEq

namespace Delays

def ofReply (codec : Codec) (reply : Reply) (arrival : Timestamp) : Delays :=
  let t1 := codec.decode reply.senderTimestamp
  let t2 := codec.decode reply.receiveTimestamp
  let t3 := codec.decode reply.timestamp
  let t4 := codec.decode arrival
  let dwell := span t3 t2
  { sequence := reply.senderSequence
    roundTrip := nearestInt64 ((span t4 t1).toInt - dwell.toInt)
    forward := span t2 t1
    backward := span t4 t3
    dwell
    senderTtl := reply.senderTtl }

/-- The round trip as a length of time, which is never negative. -/
def roundTripNanos (d : Delays) : Nat := d.roundTrip.toInt.toNat

end Delays

end TwoWay
