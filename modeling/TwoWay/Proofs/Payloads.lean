import TwoWay.Proofs.Responders

/-!
# Frames and their payloads

**Theorem (`respond_payload_of_redirected`).** As a datagram, the payload of a redirected frame is
answered with the payload of the frame as it was rewritten, but for the hop limit. Both ways the
answer is one reply over the probe and the octets behind it (`Reflector.payload_handle`,
`Reflector.echo_payload`).
-/

namespace TwoWay

open Octets

/-! ## Hop limits -/

theorem Octets.put_put {n m : Nat} (v : Octets n) (start : Nat) (w w' : Octets m) :
    (v.put start w).put start w' = v.put start w' := by
  apply Vector.ext
  intro i hi
  rw [getElem_put, getElem_put, getElem_put]
  split <;> rfl

/-- Replies that differ in the hop limit alone differ in one octet. -/
theorem Reply.octets_ttl (r : Reply) (ttl : UInt8) :
    ({ r with senderTtl := ttl } : Reply).octets = r.octets.put 40 #v[ttl] :=
  (put_put _ _ _ _).symm

namespace Frame

/-! ## Payloads -/

/-- What a datagram in a frame carries, by its own length. -/
def payload (f : Frame) : Array UInt8 := f.octets.extract 42 (34 + (f.word 38).toNat)

theorem size_payload {f : Frame} (h : f.Nested) : f.payload.size + 8 = (f.word 38).toNat := by
  obtain ⟨hdatagram, hpacket, hsize⟩ := h
  have hbuffer := f.size_le
  rw [payload, Array.size_extract]
  omega

theorem getElem_payload (f : Frame) {i : Nat} (hi : i < f.payload.size) :
    f.payload[i] = f.octet (42 + i) := by
  have hbuffer : 42 + i < f.octets.size := by
    rw [payload, Array.size_extract] at hi
    omega
  simp only [payload, Array.getElem_extract, octet_eq_getElem f hbuffer]

theorem ofDatagram_payload (f : Frame) (h : 44 ≤ f.payload.size) :
    Probe.ofDatagram f.payload h = .ofOctets (f.block 42 44) := by
  refine congrArg Probe.ofOctets (Vector.ext fun i hi => ?_)
  have hoctet : f.payload[i] = f.octet (42 + i) := getElem_payload f (by omega)
  rw [getElem_field, getElem_block, ← hoctet]
  simp only [Nat.zero_add]
  rfl

/-- The length of a datagram is not written to. -/
theorem word_replied_length {f : Frame} (h : f.Nested) (record : Octets 44) :
    (f.replied record).word 38 = f.word 38 := by
  rw [word, block_replied_length record h.le_size_octets, word]

/-- The payload of a frame that was answered: the record, and the rest as it came. -/
theorem payload_replied {f : Frame} (h : f.Nested) (record : Octets 44) :
    (f.replied record).payload = record.toArray ++ f.payload.extract 44 f.payload.size := by
  have hsize := h.le_size_octets
  have hlength : (f.replied record).payload.size = f.payload.size := by
    rw [payload, payload, Array.size_extract, Array.size_extract, size_octets_replied,
      word_replied_length h]
  have hlong := size_payload h
  have hdatagram := h.datagram
  refine Array.ext ?_ fun i hi₁ hi₂ => ?_
  · rw [hlength, Array.size_append, Vector.size_toArray, Array.size_extract]
    omega
  · rw [getElem_payload, Array.getElem_append]
    by_cases hi : i < 44
    · rw [dif_pos (by simpa using hi), ← getElem_block (f.replied record) 42 i hi,
        Vector.getElem_toArray]
      simp only [block_replied_record record hsize]
    · have hoctet : (f.replied record).octet (86 + (i - 44)) = f.octet (86 + (i - 44)) :=
        octet_eq_octet (block_replied_tail record hsize (i - 44 + 1)) (by omega)
      -- Behind the record the payload is the tail of the frame, which is left untouched.
      have hplace : 42 + i = 86 + (i - 44) := by omega
      have hplace' : 42 + (44 + (i - record.toArray.size)) = 86 + (i - 44) := by
        rw [Vector.size_toArray]
        omega
      rw [dif_neg (by simpa using hi), Array.getElem_extract, getElem_payload, hplace', hplace,
        hoctet]

end Frame

/-! ## Two ways to answer -/

namespace Octets

variable (record : Octets 44) (rest : Array UInt8) (ttl : UInt8)

theorem getElem?_put_append_of_ne {i : Nat} (h : i ≠ 40) :
    ((record.put 40 #v[ttl]).toArray ++ rest)[i]? = (record.toArray ++ rest)[i]? := by
  rw [Array.getElem?_append, Array.getElem?_append, Vector.size_toArray, Vector.size_toArray]
  by_cases hi : i < 44
  · rw [if_pos hi, if_pos hi, Vector.getElem?_toArray, Vector.getElem?_toArray,
      Vector.getElem?_eq_getElem hi, Vector.getElem?_eq_getElem hi, getElem_put,
      dif_neg (by omega)]
  · rw [if_neg hi, if_neg hi]

theorem getElem?_put_append : ((record.put 40 #v[ttl]).toArray ++ rest)[40]? = some ttl := by
  rw [Array.getElem?_append, Vector.size_toArray, if_pos (by omega), Vector.getElem?_toArray,
    Vector.getElem?_eq_getElem (by omega), getElem_put, dif_pos (by omega)]
  rfl

end Octets

section

variable {σ : Type} [Clock σ] (r : Reflector) (clock : σ) {f : Frame}

/-- In its frame the payload of a probe becomes the reply, and the rest as it came. -/
theorem Reflector.payload_handle (h : r.Probes f) :
    (r.handle clock f).frame.payload =
      (r.replyTo clock f).octets.toArray ++ f.payload.extract 44 f.payload.size := by
  rw [Reflector.handle_of_isProbe r clock h]
  exact Frame.payload_replied h.nested _

/-- As a datagram it becomes the same but for the hop limit. -/
theorem Reflector.echo_payload (h : 44 ≤ f.payload.size) (hfits : f.payload.size ≤ 2048) :
    r.echo clock f.payload =
      some (((r.replyTo clock f).octets.put 40 #v[255]).toArray ++
        f.payload.extract 44 f.payload.size) := by
  have hrest : f.payload.extract 44 2048 = f.payload.extract 44 f.payload.size := by
    refine Array.ext ?_ fun i _ _ => by rw [Array.getElem_extract, Array.getElem_extract]
    rw [Array.size_extract, Array.size_extract]
    omega
  rw [Reflector.echo, dif_pos h, Frame.ofDatagram_payload, hrest, ← Reply.octets_ttl]
  rfl

end

namespace Responder

variable {σ τ π : Type} [Clock σ] [Socket τ π]

/-- **Frames and datagrams.** The payload of a redirected frame comes in next at a reliable socket,
at a responder with the same settings and codec and its clock in the same state. What goes back is
the payload of the rewritten frame but for the hop limit, which a responder does not know. -/
theorem respond_payload_of_redirected {inbox outbox : τ → List (Datagram π)}
    (h : Socket.Reliable inbox outbox) (r : Responder σ τ) (f : Frame) (interface : UInt32)
    (peer : π) (hredirect : (r.reflector.handle r.clock f).disposition = .redirect interface) :
    let payload (g : Frame) := g.octets.extract 42 (34 + (f.word 38).toNat)
    let handled := r.reflector.handle r.clock f
    let after := r.respond.2
    (payload f).size + 8 = (f.word 38).toNat ∧
      ((payload f).size ≤ 2048 → (inbox r.socket).head? = some ⟨payload f, peer⟩ →
        r.respond.1 = .ok (some peer) ∧ after.clock = handled.clock ∧
        ∃ reply, outbox after.socket = outbox r.socket ++ [⟨reply, peer⟩] ∧
          reply.size = (payload f).size ∧ reply.size = (payload handled.frame).size ∧
          (∀ i, i ≠ 40 → reply[i]? = (payload handled.frame)[i]?) ∧
          reply[40]? = some 255 ∧ (payload handled.frame)[40]? = some (f.octet 22)) := by
  intro payload handled after
  have hprobe := Reflector.isProbe_of_redirect hredirect
  have hnested := hprobe.nested
  have hsize : f.payload.size + 8 = (f.word 38).toNat := Frame.size_payload hnested
  have hlong : 44 ≤ f.payload.size := by
    have hdatagram := hnested.datagram
    omega
  refine ⟨hsize, fun hfits hhead => ?_⟩
  let record := r.reflector.replyTo r.clock f
  let rest := f.payload.extract 44 f.payload.size
  obtain ⟨_, hinbox⟩ := List.head?_eq_some_iff.1 hhead
  obtain ⟨houtcome, hserves⟩ := respond_of_cons h hinbox
  -- Both payloads are one record before one rest, but for octet 40 of the record.
  have hecho : r.reflector.echo r.clock (payload f) =
      some ((record.octets.put 40 #v[255]).toArray ++ rest) :=
    r.reflector.echo_payload r.clock hlong hfits
  have hlength : handled.frame.word 38 = f.word 38 := by
    show (r.reflector.handle r.clock f).frame.word 38 = _
    rw [Reflector.handle_of_isProbe _ r.clock hprobe, Frame.word_replied_length hnested]
  have hrewritten : payload handled.frame = record.octets.toArray ++ rest := by
    rw [← r.reflector.payload_handle r.clock hprobe, Frame.payload, hlength]
  have hhops : record.octets = record.octets.put 40 #v[f.octet 22] :=
    Reply.octets_ttl record record.senderTtl
  refine ⟨?_, ?_, (record.octets.put 40 #v[255]).toArray ++ rest, ?_, ?_, ?_, fun i hi => ?_, ?_,
    ?_⟩
  · rw [houtcome, hecho]
    rfl
  · show r.respond.2.clock = (r.reflector.handle r.clock f).clock
    have htwo : Datagram.readings [Datagram.mk (payload f) peer] = 2 := by
      rw [Datagram.readings_singleton]
      exact if_neg (Nat.not_lt.2 hlong)
    rw [hserves.clock, htwo, Reflector.handle_of_isProbe _ r.clock hprobe]
    rfl
  · rw [hserves.outbox]
    simp [Reflector.echoes, hecho]
  · rw [Array.size_append, Vector.size_toArray]
    show 44 + rest.size = f.payload.size
    rw [Array.size_extract]
    omega
  · rw [hrewritten, Array.size_append, Array.size_append, Vector.size_toArray,
      Vector.size_toArray]
  · rw [hrewritten, getElem?_put_append_of_ne _ _ _ hi]
  · rw [getElem?_put_append]
  · rw [hrewritten, hhops, getElem?_put_append]

/-- The 45 octets of the sample, whose hop limit was 64, answered both ways. -/
theorem respond_payload_of_redirected_sample :
    let payload (g : Frame) := g.octets.extract 42 (34 + (Frame.sample.word 38).toNat)
    let mailbox : Mailbox Nat := ⟨[⟨payload Frame.sample, 40000⟩], []⟩
    let r := ofReflector (.sample none) (SteppingClock.mk 1700000000000000000 1000) mailbox
    (r.reflector.handle r.clock Frame.sample).disposition = .redirect 7 ∧
      r.respond.1 = .ok (some 40000) ∧
      r.respond.2.clock = (r.reflector.handle r.clock Frame.sample).clock ∧
      ∃ reply, r.respond.2.socket.outbox = [⟨reply, 40000⟩] ∧ reply.size = 45 ∧
        (∀ i, i ≠ 40 →
          reply[i]? = (payload (r.reflector.handle r.clock Frame.sample).frame)[i]?) ∧
        reply[40]? = some 255 ∧
        (payload (r.reflector.handle r.clock Frame.sample).frame)[40]? = some 64 := by
  intro payload mailbox r
  have hredirect : (r.reflector.handle r.clock Frame.sample).disposition = .redirect 7 := by
    rw [Reflector.handle_of_isProbe _ _ (by decide)]
    rfl
  obtain ⟨hsize, hboth⟩ :=
    respond_payload_of_redirected Mailbox.reliable r Frame.sample 7 40000 hredirect
  have hword : (Frame.sample.word 38).toNat = 53 := by decide
  obtain ⟨houtcome, hclock, reply, hout, hlength, -, hoctets, hunknown, hhops⟩ :=
    hboth (by omega) rfl
  exact ⟨hredirect, houtcome, hclock, reply, hout, by omega, hoctets, hunknown,
    hhops.trans (by decide)⟩

end Responder

end TwoWay
