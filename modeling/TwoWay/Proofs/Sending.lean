import TwoWay.Proofs.Estimates
import TwoWay.Proofs.Measurements
import TwoWay.Proofs.Responders
import TwoWay.Proofs.Sessions

/-!
# What a reflector says of its clock

**Theorem (`sendsValid_of_valid`).** The error estimate of the settings goes into every reply as it
is, so under a valid one no reply is sent that claims PTP timestamps or a perfect clock.
-/

namespace TwoWay

/-! ## Frames -/

/-- In a frame that goes back stands a reply with the estimate of the settings. -/
theorem Reflector.estimate_of_redirect {σ : Type} [Clock σ] {r : Reflector} {clock : σ} {f : Frame}
    {interface : UInt32} (h : (r.handle clock f).disposition = .redirect interface) :
    ∃ reply, Session.replyIn (r.handle clock f).frame.octets = .ok reply ∧
      reply.errorEstimate = r.settings.errorEstimate :=
  ⟨r.replyTo clock f, replyIn_handle r clock (isProbe_of_redirect h), rfl⟩

namespace Session

theorem estimate_of_step {s : Session} {event : Event} {interface : UInt32}
    {buffer : Array UInt8}
    (h : (s.step event).1 = .ok (.handled (.redirect interface) buffer)) :
    ∃ reply, replyIn buffer = .ok reply ∧
      reply.errorEstimate = s.reflector.settings.errorEstimate := by
  cases event with
  | frame fresh size interface' =>
    rw [step_frame] at h
    simp only [reportOf, Except.ok.injEq, Report.handled.injEq] at h
    obtain ⟨hredirect, rfl⟩ := h
    exact Reflector.estimate_of_redirect hredirect
  | reply | delays arrival =>
    simp only [step] at h
    cases hreply : replyIn s.buffer <;> rw [hreply] at h <;> cases h
  | timestamp | setClock now | readClock | settings => cases h

/-- The settings are the same at every event, and so is the estimate in whatever goes back. -/
theorem estimate_of_mem_reports {s : Session} {events : List Event} {interface : UInt32}
    {buffer : Array UInt8}
    (h : .ok (.handled (.redirect interface) buffer) ∈ s.reports events) :
    ∃ reply, replyIn buffer = .ok reply ∧
      reply.errorEstimate = s.reflector.settings.errorEstimate := by
  induction events generalizing s with
  | nil => cases h
  | cons event rest ih =>
    rw [reports_cons, List.mem_cons] at h
    rcases h with hevent | hrest
    · exact estimate_of_step hevent.symm
    · rw [← reflector_step s event]
      exact ih hrest

end Session

/-! ## Datagrams -/

def Reply.ofDatagram (datagram : Array UInt8) (h : 44 ≤ datagram.size) : Reply :=
  .ofOctets ((Octets.ofArray datagram).field 0 44 h)

theorem Reply.ofDatagram_append (record : Reply) (rest : Array UInt8)
    (h : 44 ≤ (record.octets.toArray ++ rest).size) :
    ofDatagram (record.octets.toArray ++ rest) h = record := by
  have hrecord : (Octets.ofArray (record.octets.toArray ++ rest)).field 0 44 h = record.octets := by
    apply Vector.ext
    intro i hi
    rw [Octets.getElem_field]
    show (record.octets.toArray ++ rest)[0 + i] = _
    rw [Array.getElem_append, dif_pos (by simpa using hi)]
    simp
  rw [ofDatagram, hrecord, ofOctets_octets]

theorem Reflector.estimate_of_echo {σ : Type} [Clock σ] {r : Reflector} {clock : σ}
    {octets reply : Array UInt8} (hreply : r.echo clock octets = some reply) :
    ∃ h, (Reply.ofDatagram reply h).errorEstimate = r.settings.errorEstimate := by
  unfold Reflector.echo at hreply
  split at hreply
  · cases hreply
    refine ⟨by simp, ?_⟩
    rw [Reply.ofDatagram_append]
    rfl
  · cases hreply

namespace Responder

variable {σ τ π : Type} [Clock σ] [Socket τ π] {inbox outbox : τ → List (Datagram π)}

/-- What a single answer adds to what has gone out carries the estimate of the settings. -/
theorem estimate_of_mem_respond (h : Socket.Lawful inbox outbox) {r : Responder σ τ}
    {sent : Datagram π} (hsent : sent ∈ outbox r.respond.2.socket) :
    sent ∈ outbox r.socket ∨
      ∃ h, (Reply.ofDatagram sent.octets h).errorEstimate = r.reflector.settings.errorEstimate := by
  have hpass := pass_respond h r
  generalize r.respond.1 = outcome at hpass
  generalize r.respond.2 = s at hpass hsent
  cases hpass with
  | failed hreceive hclock hout => exact .inl (hout ▸ hsent)
  | dropped hin hshort hclock hout => exact .inl (hout ▸ hsent)
  | unsent hin hlong hclock hsend hout => exact .inl (hout ▸ hsent)
  | answered hin hlong hclock hreply hout =>
    rw [hout, List.mem_append, List.mem_singleton] at hsent
    rcases hsent with hearlier | rfl
    · exact .inl hearlier
    · exact .inr (Reflector.estimate_of_echo hreply)

theorem estimate_of_mem_run (h : Socket.Lawful inbox outbox) {r : Responder σ τ} {n : Nat}
    {sent : Datagram π} (hsent : sent ∈ outbox (r.run n).2.socket) :
    sent ∈ outbox r.socket ∨
      ∃ h, (Reply.ofDatagram sent.octets h).errorEstimate = r.reflector.settings.errorEstimate := by
  induction n generalizing r with
  | zero => exact .inl hsent
  | succ n ih =>
    cases hrespond : r.respond.1 with
    | error failure =>
      rw [run_of_error hrespond] at hsent
      exact estimate_of_mem_respond h hsent
    | ok answered =>
      rw [run_of_ok hrespond] at hsent
      rcases ih hsent with hfirst | hlater
      · exact estimate_of_mem_respond h hfirst
      · rw [reflector_respond] at hlater
        exact .inr hlater

end Responder

/-! ## All that is sent -/

namespace Settings

/-- Whatever is sent under the settings carries a valid estimate. -/
structure SendsValid (s : Settings) : Prop where
  /-- In a frame, with any codec and on any clock. -/
  frame : ∀ {σ : Type} [Clock σ] (codec : Codec) (clock : σ) (f : Frame) (interface : UInt32),
    (Reflector.handle ⟨s, codec⟩ clock f).disposition = .redirect interface →
      ∃ reply, Session.replyIn (Reflector.handle ⟨s, codec⟩ clock f).frame.octets = .ok reply ∧
        reply.errorEstimate.Valid
  /-- In a session, whatever else happens in it. -/
  session : ∀ (codec : Codec) (clock : SteppingClock) (start : Array UInt8)
    (events : List Session.Event) (interface : UInt32) (buffer : Array UInt8),
    .ok (.handled (.redirect interface) buffer) ∈
        Session.reports ⟨⟨s, codec⟩, clock, start⟩ events →
      ∃ reply, Session.replyIn buffer = .ok reply ∧ reply.errorEstimate.Valid
  /-- As a datagram, in a run at a socket that may fail at any time. -/
  datagram : ∀ {σ τ π : Type} [Clock σ] [Socket τ π] {inbox outbox : τ → List (Datagram π)},
    Socket.Lawful inbox outbox →
      ∀ (codec : Codec) (clock : σ) (socket : τ) (buffer : Octets 2048) (n : Nat),
        ∀ sent ∈ outbox (Responder.run ⟨⟨s, codec⟩, clock, socket, buffer⟩ n).2.socket,
          sent ∈ outbox socket ∨ ∃ h, (Reply.ofDatagram sent.octets h).errorEstimate.Valid

theorem sendsValid_of_valid {s : Settings} (h : s.errorEstimate.Valid) : s.SendsValid where
  frame codec clock f interface hredirect := by
    obtain ⟨reply, hreply, hestimate⟩ := Reflector.estimate_of_redirect hredirect
    exact ⟨reply, hreply, hestimate ▸ h⟩
  session codec clock start events interface buffer hreport := by
    obtain ⟨reply, hreply, hestimate⟩ := Session.estimate_of_mem_reports hreport
    exact ⟨reply, hreply, hestimate ▸ h⟩
  datagram hlawful codec clock socket buffer n sent hsent :=
    (Responder.estimate_of_mem_run hlawful hsent).imp_right fun ⟨hlong, hestimate⟩ =>
      ⟨hlong, hestimate ▸ h⟩

end Settings

end TwoWay
