import TwoWay.Proofs.Formats
import TwoWay.Proofs.Readings
import TwoWay.Proofs.Sockets
import TwoWay.Responder

/-!
# Answers to datagrams

**Theorem (`answered_on_their_own`).** At a reliable socket every datagram gets the reply that it
would get alone at that time, and the replies go out in order.

`Pass` is what a single wait can come to at a lawful socket, and `Serves` what is left of a
responder that has served some datagrams.
-/

namespace TwoWay

open Octets

/-! ## Echoes -/

def Probe.ofDatagram (octets : Array UInt8) (h : 44 ≤ octets.size) : Probe :=
  .ofOctets ((Octets.ofArray octets).field 0 44 h)

theorem Probe.toList_ofDatagram {octets : Array UInt8} (h : 44 ≤ octets.size) :
    (octets.extract 0 4).toList = (ofWord32 (ofDatagram octets h).sequence).toList ∧
      (octets.extract 0 14).toList =
        (ofWord32 (ofDatagram octets h).sequence).toList ++
        (ofDatagram octets h).timestamp.octets.toList ++
        (ofWord16 (ofDatagram octets h).errorEstimate.bits).toList := by
  rw [← toList_field_ofArray octets 0 4 (by omega),
    ← toList_field_ofArray octets 0 (4 + (8 + 2)) (by omega), toList_field_add, toList_field_add]
  simp only [ofDatagram, ofOctets, Timestamp.octets_ofOctets, ofWord32_word32, ofWord16_word16,
    List.append_assoc, field_field, Nat.zero_add, and_self]

namespace Reflector

variable {σ π : Type} [Clock σ]

/-- What goes back for a datagram: the reply over its probe, and the rest as far as it came in. -/
def echo (r : Reflector) (clock : σ) (octets : Array UInt8) : Option (Array UInt8) :=
  if h : 44 ≤ octets.size then
    let reply := (Probe.ofDatagram octets h).answer (r.stamp clock) (r.stamp (Clock.next clock))
      r.settings.errorEstimate 255
    some (reply.octets.toArray ++ octets.extract 44 2048)
  else
    none

theorem echo_of_short (r : Reflector) (clock : σ) {octets : Array UInt8} (h : octets.size < 44) :
    r.echo clock octets = none :=
  dif_neg (by omega)

end Reflector

/-- A record with the rest of a datagram is as long as the datagram. -/
theorem Octets.extract_append_rest (record : Octets 44) {octets : Array UInt8}
    (h : 44 ≤ octets.size) :
    let reply := record.toArray ++ octets.extract 44 2048
    reply.size = min octets.size 2048 ∧ reply.extract 0 44 = record.toArray ∧
      reply.extract 44 reply.size = octets.extract 44 (min octets.size 2048) := by
  intro reply
  have hrecord : record.toArray.size = 44 := record.size_toArray
  have hsize : reply.size = min octets.size 2048 := by
    rw [Array.size_append, hrecord, Array.size_extract]
    omega
  refine ⟨hsize, ?_, ?_⟩
  · simp [reply, Array.extract_append]
  · have hright : reply.extract record.toArray.size
        (record.toArray.size + (min octets.size 2048 - 44)) =
          (octets.extract 44 2048).extract 0 (min octets.size 2048 - 44) :=
      Array.extract_append_right
    have hstop : 44 + (min octets.size 2048 - 44) = min octets.size 2048 := by omega
    rw [hrecord, hstop] at hright
    rw [hsize, hright, Array.extract_extract]
    congr 1
    omega

/-! ## Readings -/

namespace Datagram

variable {σ π : Type} [Clock σ]

def dropped (datagrams : List (Datagram π)) : Nat := datagrams.countP (·.octets.size < 44)

def answered (datagrams : List (Datagram π)) : Nat := datagrams.countP (44 ≤ ·.octets.size)

/-- Readings of the clock that datagrams take. -/
def readings (datagrams : List (Datagram π)) : Nat := dropped datagrams + 2 * answered datagrams

theorem readings_append (xs ys : List (Datagram π)) :
    readings (xs ++ ys) = readings xs + readings ys := by
  simp only [readings, dropped, answered, List.countP_append]
  omega

theorem readings_singleton (d : Datagram π) :
    readings [d] = if d.octets.size < 44 then 1 else 2 := by
  by_cases h : d.octets.size < 44
  · simp [readings, dropped, answered, h]
  · simp [readings, dropped, answered, h, Nat.le_of_not_lt h]

end Datagram

namespace Reflector

variable {σ π : Type} [Clock σ]

/-- What goes back for each of a row of datagrams, while the clock moves on. -/
def echoes (r : Reflector) (clock : σ) : List (Datagram π) → List (Option (Datagram π))
  | [] => []
  | d :: rest =>
    (r.echo clock d.octets).map (⟨·, d.peer⟩) ::
      r.echoes (Clock.after clock (Datagram.readings [d])) rest

theorem echoes_append (r : Reflector) (clock : σ) (xs ys : List (Datagram π)) :
    r.echoes clock (xs ++ ys) =
      r.echoes clock xs ++ r.echoes (Clock.after clock (Datagram.readings xs)) ys := by
  induction xs generalizing clock with
  | nil => rfl
  | cons d rest ih =>
    have hreadings : Datagram.readings (d :: rest) =
        Datagram.readings [d] + Datagram.readings rest := Datagram.readings_append [d] rest
    rw [List.cons_append, echoes, ih, hreadings, Clock.after_add]
    rfl

theorem length_echoes (r : Reflector) (clock : σ) (datagrams : List (Datagram π)) :
    (r.echoes clock datagrams).length = datagrams.length := by
  induction datagrams generalizing clock with
  | nil => rfl
  | cons d rest ih => exact congrArg (· + 1) (ih _)

theorem getElem?_echoes (r : Reflector) (clock : σ) {datagrams : List (Datagram π)} {i : Nat}
    {d : Datagram π} (h : datagrams[i]? = some d) :
    (r.echoes clock datagrams)[i]? =
      some ((r.echo (Clock.after clock (Datagram.readings (datagrams.take i))) d.octets).map
        (⟨·, d.peer⟩)) := by
  obtain ⟨hi, rfl⟩ := List.getElem?_eq_some_iff.1 h
  have hcut : datagrams = datagrams.take i ++ datagrams[i] :: datagrams.drop (i + 1) := by
    simp
  have hlength : (r.echoes clock (datagrams.take i)).length = i := by
    rw [length_echoes, List.length_take]
    omega
  conv => lhs; rw [hcut, echoes_append]
  rw [List.getElem?_append_right (by omega), hlength, Nat.sub_self]
  rfl

/-- What comes later has no say in what comes first. -/
theorem take_echoes (r : Reflector) (clock : σ) (datagrams : List (Datagram π)) (n : Nat) :
    (r.echoes clock datagrams).take n = r.echoes clock (datagrams.take n) := by
  induction datagrams generalizing clock n with
  | nil => simp [echoes]
  | cons d rest ih =>
    cases n with
    | zero => rfl
    | succ n => simp only [echoes, List.take_succ_cons, ih]

theorem length_filterMap_echoes (r : Reflector) (clock : σ) (datagrams : List (Datagram π)) :
    ((r.echoes clock datagrams).filterMap id).length = Datagram.answered datagrams := by
  induction datagrams generalizing clock with
  | nil => rfl
  | cons d rest ih =>
    have hrest := ih (Clock.after clock (Datagram.readings [d]))
    rw [echoes, Datagram.answered, List.countP_cons, ← Datagram.answered, ← hrest]
    by_cases h : 44 ≤ d.octets.size
    · simp [echo, h]
    · simp [echo, h]

end Reflector

namespace Responder

variable {σ τ π : Type} [Clock σ]

/-! ## The buffer -/

theorem answer_of_short (r : Responder σ τ) {length : Fin 2049} (h : length.val < 44) :
    r.answer length = (none, { r with clock := Clock.next r.clock }) :=
  if_pos h

section

variable {buffer : Octets 2048} {octets : Array UInt8}
  (hbuffer : ∀ i < min octets.size 2048, buffer[i]? = octets[i]?)
include hbuffer

theorem getElem_buffer {i : Nat} (hi : i < octets.size) (hi' : i < 2048) :
    buffer[i] = octets[i] := by
  have hoctet := hbuffer i (by omega)
  rwa [Vector.getElem?_eq_getElem hi', Array.getElem?_eq_getElem hi, Option.some.injEq] at hoctet

theorem extract_put (record : Octets 44) (h : 44 ≤ octets.size) :
    (buffer.put 0 record).toArray.extract 0 (min octets.size 2048) =
      record.toArray ++ octets.extract 44 2048 := by
  refine Array.ext ?_ fun i hi₁ hi₂ => ?_
  · simp only [Array.size_extract, Array.size_append, Vector.size_toArray]
    omega
  · simp only [Array.size_extract, Vector.size_toArray] at hi₁
    have hoctet : buffer[i] = octets[i] := getElem_buffer hbuffer (by omega) (by omega)
    simp only [Array.getElem_extract, Nat.zero_add, Vector.getElem_toArray, getElem_put,
      Array.getElem_append, Vector.size_toArray, hoctet]
    by_cases hrecord : i < 44
    · rw [dif_pos ⟨Nat.zero_le i, hrecord⟩, dif_pos hrecord]
      rfl
    · rw [dif_neg (by omega), dif_neg hrecord]
      congr 1
      omega

theorem ofOctets_field (h : 44 ≤ octets.size) :
    Probe.ofOctets (buffer.field 0 44 (by decide)) = Probe.ofDatagram octets h := by
  refine congrArg Probe.ofOctets (Vector.ext fun i hi => ?_)
  have hoctet : buffer[i] = octets[i] := getElem_buffer hbuffer (by omega) (by omega)
  simp only [getElem_field, Nat.zero_add, hoctet]
  rfl

end

/-- A datagram at the start of the buffer gets its echo, whatever is behind it. -/
theorem answer_of_long (r : Responder σ τ) {length : Fin 2049} {octets : Array UInt8}
    (h : 44 ≤ octets.size) (hlength : length.val = min octets.size 2048)
    (hbuffer : ∀ i < length.val, r.buffer[i]? = octets[i]?) :
    ∃ reply s, r.reflector.echo r.clock octets = some reply ∧ r.answer length = (some reply, s) ∧
      s.clock = Clock.next (Clock.next r.clock) ∧ s.socket = r.socket := by
  rw [hlength] at hbuffer
  let record := ((Probe.ofDatagram octets h).answer (r.reflector.stamp r.clock)
    (r.reflector.stamp (Clock.next r.clock)) r.reflector.settings.errorEstimate 255).octets
  refine ⟨record.toArray ++ octets.extract 44 2048,
    { r with clock := Clock.next (Clock.next r.clock), buffer := r.buffer.put 0 record },
    dif_pos h, ?_, rfl, rfl⟩
  have hlong : ¬length.val < 44 := by omega
  rw [← extract_put hbuffer record h, ← hlength]
  simp only [answer, Reflector.timestamp_eq]
  rw [if_neg hlong, ofOctets_field hbuffer h]

/-! ## What is served -/

variable {inbox outbox : τ → List (Datagram π)}

/-- What becomes of a responder that has served some datagrams. -/
structure Serves (inbox outbox : τ → List (Datagram π)) (r : Responder σ τ)
    (served : List (Datagram π)) (s : Responder σ τ) : Prop where
  reflector : s.reflector = r.reflector
  clock : s.clock = Clock.after r.clock (Datagram.readings served)
  inbox : inbox r.socket = served ++ inbox s.socket
  outbox : outbox s.socket = outbox r.socket ++ (r.reflector.echoes r.clock served).filterMap id

theorem Serves.refl (r : Responder σ τ) : Serves inbox outbox r [] r :=
  ⟨rfl, rfl, rfl, (List.append_nil _).symm⟩

theorem Serves.trans {r s t : Responder σ τ} {xs ys : List (Datagram π)}
    (h : Serves inbox outbox r xs s) (h' : Serves inbox outbox s ys t) :
    Serves inbox outbox r (xs ++ ys) t where
  reflector := h'.reflector.trans h.reflector
  clock := by rw [h'.clock, h.clock, Datagram.readings_append, Clock.after_add]
  inbox := by rw [h.inbox, h'.inbox, List.append_assoc]
  outbox := by
    rw [h'.outbox, h.outbox, h.reflector, h.clock, Reflector.echoes_append, List.filterMap_append,
      List.append_assoc]

/-! ## One pass -/

variable [Socket τ π]

/-- What a wait and an answer can come to, as the two rows of a socket show it. -/
inductive Pass (inbox outbox : τ → List (Datagram π)) (r s : Responder σ τ) :
    Except Failure (Option π) → Prop
  /-- No datagram came in, and the clock was not read. -/
  | failed {text : String} (hreceive : (Socket.receive r.socket r.buffer).outcome = .error text)
      (hclock : s.clock = r.clock) (hout : outbox s.socket = outbox r.socket) :
      Pass inbox outbox r s (.error (.io text))
  /-- A datagram too short for a probe came in. -/
  | dropped {d : Datagram π} (hin : inbox r.socket = d :: inbox s.socket)
      (hshort : d.octets.size < 44) (hclock : s.clock = Clock.next r.clock)
      (hout : outbox s.socket = outbox r.socket) :
      Pass inbox outbox r s (.ok none)
  /-- There was a reply, and it could not be sent. -/
  | unsent {d : Datagram π} {socket : τ} {reply : Array UInt8} {text : String}
      (hin : inbox r.socket = d :: inbox s.socket) (hlong : 44 ≤ d.octets.size)
      (hclock : s.clock = Clock.next (Clock.next r.clock))
      (hsend : (Socket.send socket reply d.peer).1 = .error text)
      (hout : outbox s.socket = outbox r.socket) :
      Pass inbox outbox r s (.ok none)
  /-- The reply went out. -/
  | answered {d : Datagram π} {reply : Array UInt8} (hin : inbox r.socket = d :: inbox s.socket)
      (hlong : 44 ≤ d.octets.size) (hclock : s.clock = Clock.next (Clock.next r.clock))
      (hreply : r.reflector.echo r.clock d.octets = some reply)
      (hout : outbox s.socket = outbox r.socket ++ [⟨reply, d.peer⟩]) :
      Pass inbox outbox r s (.ok (some d.peer))

theorem respond_of_failed (r : Responder σ τ) {text : String}
    (h : (Socket.receive r.socket r.buffer).outcome = .error text) :
    r.respond = (.error (.io text), r.await.2) := by
  simp only [respond, await, h]
  rfl

theorem respond_of_received (r : Responder σ τ) {length : Fin 2049} {peer : π}
    (h : (Socket.receive r.socket r.buffer).outcome = .ok (length, peer)) :
    r.respond =
      match r.await.2.answer length with
      | (none, s) => (.ok none, s)
      | (some reply, s) => (.ok (s.send reply peer).1, (s.send reply peer).2) := by
  simp only [respond, await, h]
  rfl

omit [Clock σ] in
theorem send_of_ok (r : Responder σ τ) {reply : Array UInt8} {peer : π} {count : Nat}
    (h : (Socket.send r.socket reply peer).1 = .ok count) : (r.send reply peer).1 = some peer := by
  simp only [send, h]
  rfl

omit [Clock σ] in
theorem send_of_error (r : Responder σ τ) {reply : Array UInt8} {peer : π} {text : String}
    (h : (Socket.send r.socket reply peer).1 = .error text) : (r.send reply peer).1 = none := by
  simp only [send, h]
  rfl

theorem pass_respond (h : Socket.Lawful inbox outbox) (r : Responder σ τ) :
    Pass inbox outbox r r.respond.2 r.respond.1 := by
  have hwait : outbox r.await.2.socket = outbox r.socket := h.outbox_receive r.socket r.buffer
  cases hreceive : (Socket.receive r.socket r.buffer).outcome with
  | error text =>
    rw [respond_of_failed r hreceive]
    exact .failed hreceive rfl hwait
  | ok arrival =>
    obtain ⟨length, peer⟩ := arrival
    obtain ⟨octets, hin, hlength, hbuffer⟩ := h.received hreceive
    rw [respond_of_received r hreceive]
    by_cases hshort : octets.size < 44
    · rw [answer_of_short _ (by omega)]
      exact .dropped hin hshort rfl hwait
    · have hlong : 44 ≤ octets.size := Nat.le_of_not_lt hshort
      obtain ⟨reply, s, hreply, hanswer, hclock, hsocket⟩ :=
        answer_of_long r.await.2 hlong hlength hbuffer
      -- An answer leaves the socket alone, and to send takes nothing from what is still to come.
      have hin' : inbox r.socket = ⟨octets, peer⟩ :: inbox (s.send reply peer).2.socket := by
        show _ = ⟨octets, peer⟩ :: inbox (Socket.send s.socket reply peer).2
        rw [h.inbox_send, hsocket]
        exact hin
      rw [hanswer]
      show Pass inbox outbox r (s.send reply peer).2 (.ok (s.send reply peer).1)
      cases hsend : (Socket.send s.socket reply peer).1 with
      | error text =>
        rw [send_of_error s hsend]
        exact .unsent hin' hlong hclock hsend ((h.unsent hsend).trans (hsocket ▸ hwait))
      | ok count =>
        rw [send_of_ok s hsend]
        exact .answered hin' hlong hclock hreply ((h.sent hsend).trans (by rw [hsocket, hwait]))

theorem reflector_answer (r : Responder σ τ) (length : Fin 2049) :
    (r.answer length).2.reflector = r.reflector := by
  unfold answer
  simp only [Reflector.timestamp_eq]
  split <;> rfl

theorem reflector_respond (r : Responder σ τ) : r.respond.2.reflector = r.reflector := by
  cases hreceive : (Socket.receive r.socket r.buffer).outcome with
  | error text =>
    rw [respond_of_failed r hreceive]
    rfl
  | ok arrival =>
    have hanswer := reflector_answer r.await.2 arrival.1
    rw [respond_of_received r hreceive]
    revert hanswer
    rcases r.await.2.answer arrival.1 with ⟨_ | reply, s⟩ <;> exact id

/-! ## Runs -/

/-- The next datagram is served, and its peer is answered if it has a probe. -/
theorem respond_of_cons (h : Socket.Reliable inbox outbox) {r : Responder σ τ} {d : Datagram π}
    {rest : List (Datagram π)} (hinbox : inbox r.socket = d :: rest) :
    r.respond.1 = .ok ((r.reflector.echo r.clock d.octets).map fun _ => d.peer) ∧
      Serves inbox outbox r [d] r.respond.2 := by
  have hreflector := reflector_respond r
  have hpass := pass_respond h.toLawful r
  generalize r.respond.1 = outcome at hpass ⊢
  generalize r.respond.2 = s at hpass hreflector ⊢
  -- Of the four cases a reliable socket rules out two: no failed wait, and no reply unsent.
  cases hpass with
  | failed hreceive =>
    obtain ⟨length, peer, hdelivered⟩ := h.delivers r.buffer (by rw [hinbox]; exact nofun)
    rw [hreceive] at hdelivered
    cases hdelivered
  | unsent hin hlong hclock hsend =>
    obtain ⟨count, hsent⟩ := h.sends _ _ _
    rw [hsend] at hsent
    cases hsent
  | dropped hin hshort hclock hout =>
    rw [hinbox] at hin
    obtain ⟨rfl, rfl⟩ := List.cons.inj hin
    have hnone := r.reflector.echo_of_short r.clock hshort
    refine ⟨by rw [hnone]; rfl, hreflector, ?_, hinbox, ?_⟩
    · rw [hclock, Datagram.readings_singleton, if_pos hshort]
      rfl
    · simp [hout, Reflector.echoes, hnone]
  | answered hin hlong hclock hreply hout =>
    rw [hinbox] at hin
    obtain ⟨rfl, rfl⟩ := List.cons.inj hin
    refine ⟨by rw [hreply]; rfl, hreflector, ?_, hinbox, ?_⟩
    · rw [hclock, Datagram.readings_singleton, if_neg (by omega)]
      rfl
    · simp [hout, Reflector.echoes, hreply]

/-- When no datagram is left, a wait fails. -/
theorem respond_of_nil (h : Socket.Lawful inbox outbox) {r : Responder σ τ}
    (hinbox : inbox r.socket = []) :
    ∃ text, r.respond.1 = .error (.io text) ∧ r.respond.2.clock = r.clock ∧
      outbox r.respond.2.socket = outbox r.socket := by
  have hpass := pass_respond h r
  generalize r.respond.1 = outcome at hpass ⊢
  generalize r.respond.2 = s at hpass ⊢
  cases hpass with
  | failed hreceive hclock hout => exact ⟨_, rfl, hclock, hout⟩
  | dropped hin | unsent hin | answered hin =>
    rw [hinbox] at hin
    cases hin

theorem run_of_error {r : Responder σ τ} {failure : Failure} (h : r.respond.1 = .error failure)
    (n : Nat) : r.run (n + 1) = (some failure, r.respond.2) := by
  rw [run]
  revert h
  rcases r.respond with ⟨_ | _, s⟩
  · rintro ⟨⟩
    rfl
  · nofun

theorem run_of_ok {r : Responder σ τ} {answered : Option π} (h : r.respond.1 = .ok answered)
    (n : Nat) : r.run (n + 1) = r.respond.2.run n := by
  rw [run]
  revert h
  rcases r.respond with ⟨_ | _, s⟩
  · nofun
  · exact fun _ => rfl

/-- As many times as there are datagrams, every wait ends with the next one. -/
theorem run_serves (h : Socket.Reliable inbox outbox) {r : Responder σ τ}
    {served rest : List (Datagram π)} (hinbox : inbox r.socket = served ++ rest) :
    (r.run served.length).1 = none ∧ Serves inbox outbox r served (r.run served.length).2 := by
  induction served generalizing r with
  | nil => exact ⟨rfl, .refl r⟩
  -- The first wait takes the first datagram, so the others are next for the rest of the run.
  | cons d served ih =>
    obtain ⟨hok, hfirst⟩ := respond_of_cons h hinbox
    have hinbox' : inbox r.respond.2.socket = served ++ rest := by
      have hsplit := hfirst.inbox
      rw [hinbox] at hsplit
      exact (List.cons.inj hsplit).2.symm
    obtain ⟨hnone, hserves⟩ := ih hinbox'
    rw [List.length_cons, run_of_ok hok]
    exact ⟨hnone, hfirst.trans hserves⟩

theorem run_add (r : Responder σ τ) {m : Nat} (h : (r.run m).1 = none) (n : Nat) :
    r.run (m + n) = (r.run m).2.run n := by
  induction m generalizing r with
  | zero => rw [Nat.zero_add]; rfl
  | succ m ih =>
    rw [Nat.succ_add]
    cases hrespond : r.respond.1 with
    | error failure =>
      rw [run_of_error hrespond] at h
      cases h
    | ok answered =>
      rw [run_of_ok hrespond] at h
      rw [run_of_ok hrespond, run_of_ok hrespond, ih _ h]

/-- **Answered on their own.** Before a datagram the clock has been read once for each that is too
short for a probe and twice for each other. What goes back is what any responder with these settings
and its clock in that state would send: the record, field by field, and the datagram's own octets
behind it. A run sends these replies in order, and ends with the first failed wait. -/
theorem answered_on_their_own {inbox outbox : τ → List (Datagram π)}
    (h : Socket.Reliable inbox outbox) (r : Responder SteppingClock τ) :
    let datagrams := inbox r.socket
    let answers := r.reflector.echoes r.clock datagrams
    let clockAfter (served : List (Datagram π)) : SteppingClock :=
      ⟨.ofNat (r.clock.now.toNat + r.clock.step.toNat *
        (Datagram.dropped served + 2 * Datagram.answered served)), r.clock.step⟩
    answers.length = datagrams.length ∧
    (∀ i d, datagrams[i]? = some d →
      let arrival := clockAfter (datagrams.take i)
      ∃ answer, answers[i]? = some answer ∧
        (∀ s : Responder SteppingClock τ, s.reflector = r.reflector → s.clock = arrival →
          (inbox s.socket).head? = some d →
            s.respond.1 = .ok (answer.map Datagram.peer) ∧
            s.respond.2.clock = Clock.after arrival (if d.octets.size < 44 then 1 else 2) ∧
            outbox s.respond.2.socket = outbox s.socket ++ answer.toList) ∧
        (d.octets.size < 44 → answer = none) ∧
        (∀ hlong : 44 ≤ d.octets.size,
          let probe := Probe.ofDatagram d.octets hlong
          let record : Reply :=
            { sequence := probe.sequence
              timestamp := r.reflector.codec.encode
                (r.reflector.settings.adjust (arrival.now + arrival.step))
              errorEstimate := r.reflector.settings.errorEstimate
              receiveTimestamp := r.reflector.codec.encode
                (r.reflector.settings.adjust arrival.now)
              senderSequence := probe.sequence
              senderTimestamp := probe.timestamp
              senderErrorEstimate := probe.errorEstimate
              senderTtl := 255 }
          ∃ reply, answer = some ⟨reply, d.peer⟩ ∧ reply.size = min d.octets.size 2048 ∧
            reply.extract 0 44 = record.octets.toArray ∧
            record.octets.toList =
              (d.octets.extract 0 4).toList ++ record.timestamp.octets.toList ++
              (ofWord16 record.errorEstimate.bits).toList ++ [0, 0] ++
              record.receiveTimestamp.octets.toList ++ (d.octets.extract 0 14).toList ++ [0, 0] ++
              [255] ++ [0, 0, 0] ∧
            reply.extract 44 reply.size = d.octets.extract 44 (min d.octets.size 2048))) ∧
    (∀ n ≤ datagrams.length,
      (r.run n).1 = none ∧ (r.run n).2.clock = clockAfter (datagrams.take n) ∧
        outbox (r.run n).2.socket = outbox r.socket ++ (answers.take n).filterMap id) ∧
    (∀ n > datagrams.length,
      ∃ text, (r.run n).1 = some (.io text) ∧ (r.run n).2.clock = clockAfter datagrams ∧
        outbox (r.run n).2.socket = outbox r.socket ++ answers.filterMap id) ∧
    (answers.filterMap id).length = Datagram.answered datagrams := by
  intro datagrams answers clockAfter
  have hclockAfter (served : List (Datagram π)) :
      Clock.after r.clock (Datagram.readings served) = clockAfter served :=
    Clock.after_stepping r.clock _
  refine ⟨Reflector.length_echoes _ _ _, fun i d hi => ?_, fun n hn => ?_, fun n hn => ?_,
    Reflector.length_filterMap_echoes _ _ _⟩
  · intro arrival
    have hanswer := Reflector.getElem?_echoes r.reflector r.clock hi
    rw [hclockAfter] at hanswer
    refine ⟨_, hanswer, fun s hreflector hclock hhead => ?_, fun hshort => ?_, fun hlong => ?_⟩
    · obtain ⟨rest, hin⟩ := List.head?_eq_some_iff.1 hhead
      obtain ⟨houtcome, hserves⟩ := respond_of_cons h hin
      rw [hserves.outbox, hserves.clock, houtcome, hreflector, hclock, Datagram.readings_singleton]
      refine ⟨by rw [Option.map_map]; rfl, rfl, ?_⟩
      cases hreply : r.reflector.echo arrival d.octets <;> simp [Reflector.echoes, hreply]
    · rw [Reflector.echo_of_short _ _ hshort]
      rfl
    · intro probe record
      obtain ⟨hfirst, hfields⟩ := Probe.toList_ofDatagram hlong
      obtain ⟨hsize, hrecord, hrest⟩ := extract_append_rest record.octets hlong
      refine ⟨_, congrArg (Option.map _) (dif_pos hlong), hsize, hrecord, ?_, hrest⟩
      rw [Reply.toList_octets, hfirst, hfields]
      simp only [record, probe, List.append_assoc]
  -- With no more waits than datagrams the run is a run over the first `n` of them.
  · have hcut : datagrams = datagrams.take n ++ datagrams.drop n := (List.take_append_drop n _).symm
    obtain ⟨hnone, hserves⟩ := run_serves h hcut
    rw [List.length_take_of_le hn] at hnone hserves
    refine ⟨hnone, hserves.clock.trans (hclockAfter _), ?_⟩
    rw [hserves.outbox, Reflector.take_echoes]
  -- A longer run gets through all of them, and there is none for the wait that comes next.
  · obtain ⟨k, rfl⟩ : ∃ k, n = datagrams.length + (k + 1) := ⟨n - datagrams.length - 1, by omega⟩
    obtain ⟨hnone, hserves⟩ := run_serves h (List.append_nil datagrams).symm
    have hempty : inbox (r.run datagrams.length).2.socket = [] :=
      List.append_right_eq_self.1 hserves.inbox.symm
    obtain ⟨text, hfailed, hclock, hout⟩ := respond_of_nil h.toLawful hempty
    rw [run_add r hnone, run_of_error hfailed]
    exact ⟨text, rfl, hclock.trans (hserves.clock.trans (hclockAfter _)),
      hout.trans hserves.outbox⟩

/-- A probe with reserved octets and two behind it, no probe, and a bare probe. -/
theorem answered_on_their_own_sample :
    let probe : Array UInt8 :=
      #[0, 0, 0, 0x07, 0xe8, 0xe8, 0xe8, 0xe8, 0x40, 0, 0, 0, 0x80, 0x01] ++ Array.replicate 30 0xaa
    let mailbox : Mailbox Nat :=
      ⟨[⟨probe ++ #[0x77, 0x78], 1⟩, ⟨#[1, 2, 3], 2⟩, ⟨Array.replicate 44 0, 3⟩], []⟩
    let r := ofReflector (.sample none) (SteppingClock.mk 1700000000000000000 1000) mailbox
    ∃ text, (r.run 4).1 = some (.io text) ∧
      (r.run 4).2.clock = ⟨1700000000000005000, 1000⟩ ∧
      (r.run 4).2.socket.outbox = [
        ⟨#[0, 0, 0, 0x07, 0xe8, 0xfe, 0x6f, 0x5b, 0, 0, 0x10, 0xd6, 0x8a, 0x03, 0, 0,
          0xe8, 0xfe, 0x6f, 0x5b, 0, 0, 0, 0, 0, 0, 0, 0x07, 0xe8, 0xe8, 0xe8, 0xe8, 0x40, 0, 0, 0,
          0x80, 0x01, 0, 0, 0xff, 0, 0, 0, 0x77, 0x78], 1⟩,
        ⟨#[0, 0, 0, 0, 0xe8, 0xfe, 0x6f, 0x5b, 0, 0, 0x43, 0x59, 0x8a, 0x03, 0, 0,
          0xe8, 0xfe, 0x6f, 0x5b, 0, 0, 0x32, 0x83, 0, 0, 0, 0, 0, 0, 0, 0, 0, 0, 0, 0,
          0, 0, 0, 0, 0xff, 0, 0, 0], 3⟩] := by
  intro probe mailbox r
  obtain ⟨-, -, -, hend, -⟩ := answered_on_their_own Mailbox.reliable r
  obtain ⟨text, hfailed, hclock, hout⟩ := hend 4 (by decide)
  refine ⟨text, hfailed, hclock.trans (by decide), hout.trans ?_⟩
  decide +kernel

end Responder

end TwoWay
