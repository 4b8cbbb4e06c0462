import TwoWay.Proofs.Readings
import TwoWay.Reflector.Session

/-!
# What a session keeps

**Theorem (`run_accounts_for_clock`).** A session only ever sets or reads its clock, so where it
stands says how often it has been read. That goes from one event (`clock_step`) to a run
(`clock_after`), which can be cut at any event (`reports_append`).
-/

namespace TwoWay

def Session.Event.ofFrame (f : Frame) : Session.Event :=
  .frame (some f.octets) (some f.size) f.interface

theorem Frame.ofPrefix_octets (f : Frame) : Frame.ofPrefix f.octets f.size f.interface = f := by
  obtain ⟨octets, size, hle, interface⟩ := f
  simp only [Frame.ofPrefix, Nat.min_eq_left hle]

namespace Session

def after (s : Session) (events : List Event) : Session := (s.run events).2

def reports (s : Session) (events : List Event) : List (Except Truncation Report) :=
  (s.run events).1.map Prod.fst

/-- The frame that a frame event is about. -/
def frameOf (s : Session) (buffer : Option (Array UInt8)) (size : Option Nat)
    (interface : UInt32) : Frame :=
  let octets := buffer.getD s.buffer
  .ofPrefix octets (size.getD octets.size) interface

/-- Readings of the clock that an event takes. -/
def readings (s : Session) : Event → Nat
  | .frame buffer size interface => s.reflector.readings (s.frameOf buffer size interface)
  | .timestamp | .readClock => 1
  | .setClock _ | .reply | .delays _ | .settings => 0

def readingsOf (s : Session) : List Event → Nat
  | [] => 0
  | event :: rest => s.readings event + (s.step event).2.readingsOf rest

/-- The report on a frame that was handled. -/
def reportOf {σ : Type} (handled : Handled σ) : Except Truncation Report :=
  .ok (.handled handled.disposition handled.frame.octets)

/-! ## One event -/

@[simp] theorem frameOf_ofFrame (s : Session) (f : Frame) :
    s.frameOf (some f.octets) (some f.size) f.interface = f :=
  f.ofPrefix_octets

@[simp] theorem readings_ofFrame (s : Session) (f : Frame) :
    s.readings (.ofFrame f) = s.reflector.readings f := by
  rw [Event.ofFrame, readings, frameOf_ofFrame]

@[simp] theorem reflector_step (s : Session) (event : Event) :
    (s.step event).2.reflector = s.reflector := by
  cases event <;> rfl

theorem step_frame (s : Session) (buffer : Option (Array UInt8)) (size : Option Nat)
    (interface : UInt32) :
    s.step (.frame buffer size interface) =
      let handled := s.reflector.handle s.clock (s.frameOf buffer size interface)
      (reportOf handled, { s with clock := handled.clock, buffer := handled.frame.octets }) := rfl

theorem clock_step (s : Session) {event : Event} (h : ∀ now, event ≠ .setClock now) :
    (s.step event).2.clock = Clock.after s.clock (s.readings event) := by
  cases event with
  | frame buffer size interface => exact Reflector.clock_handle s.reflector s.clock _
  | setClock now => exact absurd rfl (h now)
  | timestamp | readClock | reply | delays arrival | settings => rfl

/-- To set a clock leaves its step alone, as to read it does. -/
@[simp] theorem step_clock_step (s : Session) (event : Event) :
    (s.step event).2.clock.step = s.clock.step := by
  by_cases h : ∃ now, event = .setClock now
  · obtain ⟨now, rfl⟩ := h
    rfl
  · rw [clock_step s fun now he => h ⟨now, he⟩, Clock.after_stepping]

/-! ## Runs -/

@[simp] theorem reports_cons (s : Session) (event : Event) (rest : List Event) :
    s.reports (event :: rest) = (s.step event).1 :: (s.step event).2.reports rest := rfl

@[simp] theorem after_cons (s : Session) (event : Event) (rest : List Event) :
    s.after (event :: rest) = (s.step event).2.after rest := rfl

theorem after_append (s : Session) (before rest : List Event) :
    s.after (before ++ rest) = (s.after before).after rest := by
  induction before generalizing s with
  | nil => rfl
  | cons event before ih => exact ih (s.step event).2

theorem reports_append (s : Session) (before rest : List Event) :
    s.reports (before ++ rest) = s.reports before ++ (s.after before).reports rest := by
  induction before generalizing s with
  | nil => rfl
  | cons event before ih => exact congrArg ((s.step event).1 :: ·) (ih (s.step event).2)

theorem length_reports (s : Session) (events : List Event) :
    (s.reports events).length = events.length := by
  induction events generalizing s with
  | nil => rfl
  | cons event rest ih => exact congrArg (· + 1) (ih (s.step event).2)

theorem reflector_after (s : Session) (events : List Event) :
    (s.after events).reflector = s.reflector := by
  induction events generalizing s with
  | nil => rfl
  | cons event rest ih => rw [after_cons, ih, reflector_step]

theorem step_clock_after (s : Session) (events : List Event) :
    (s.after events).clock.step = s.clock.step := by
  induction events generalizing s with
  | nil => rfl
  | cons event rest ih => rw [after_cons, ih, step_clock_step]

/-- As long as the clock is not set, it has been read as often as the events say. -/
theorem clock_after (s : Session) {events : List Event} (h : ∀ now, .setClock now ∉ events) :
    (s.after events).clock = Clock.after s.clock (s.readingsOf events) := by
  induction events generalizing s with
  | nil => rfl
  | cons event rest ih =>
    have hevent : ∀ now, event ≠ .setClock now := fun now he =>
      h now (he ▸ List.mem_cons_self)
    have hrest : ∀ now, .setClock now ∉ rest := fun now hmem =>
      h now (List.mem_cons_of_mem _ hmem)
    rw [after_cons, ih _ hrest, clock_step s hevent, readingsOf, Clock.after_add]

theorem report_frame (s : Session) (before rest : List Event) (buffer : Option (Array UInt8))
    (size : Option Nat) (interface : UInt32) :
    (s.reports (before ++ .frame buffer size interface :: rest))[before.length]? =
      some (reportOf (s.reflector.handle (s.after before).clock
        ((s.after before).frameOf buffer size interface))) := by
  rw [reports_append, List.getElem?_append_right (Nat.le_of_eq (length_reports s before)),
    length_reports, Nat.sub_self, reports_cons, step_frame, reflector_after]
  rfl

/-! ## A clock that stands still -/

theorem reports_of_frames (s : Session) (hstep : s.clock.step = 0) (frames : List Frame) :
    s.reports (frames.map .ofFrame) =
      frames.map fun f => reportOf (s.reflector.handle s.clock f) := by
  induction frames generalizing s with
  | nil => rfl
  | cons f rest ih =>
    have hset : ∀ now, Event.ofFrame f ≠ .setClock now := fun _ h => nomatch h
    have hclock : (s.step (.ofFrame f)).2.clock = s.clock := by
      rw [clock_step s hset, Clock.after_of_still hstep]
    rw [List.map_cons, List.map_cons, reports_cons, ih _ (by rw [step_clock_step, hstep]), hclock,
      reflector_step, Event.ofFrame, step_frame, frameOf_ofFrame]

/-! ## Accounts -/

/-- **Accounts of a session.** A frame takes none, one or two readings, as the checks have it. After
a run the clock is one step on, for every reading, from where it began or was last set. A frame is
reported as a fresh reflector would with this clock; if it stands still, order does not matter. -/
theorem run_accounts_for_clock (s : Session) :
    (∀ (σ : Type) [Clock σ] (clock : σ) (f : Frame),
      let handled := s.reflector.handle clock f
      (∀ e, f.screen s.reflector.settings = .error e → handled.clock = Clock.after clock 0) ∧
      (∀ e, f.screen s.reflector.settings = .ok () → f.checkLengths = .error e →
        handled.clock = Clock.after clock 1) ∧
      (∀ interface, handled.disposition = .redirect interface →
        handled.clock = Clock.after clock 2) ∧
      (s.reflector.timestamp clock).2 = Clock.after clock 1) ∧
    (s.step .readClock).2.clock = Clock.after s.clock 1 ∧
    (∀ events, (∀ now, .setClock now ∉ events) →
      (s.after events).clock.now =
        .ofNat (s.clock.now.toNat + s.clock.step.toNat * s.readingsOf events)) ∧
    (∀ before now since, (∀ now', .setClock now' ∉ since) →
      let reset := s.after (before ++ [.setClock now])
      (s.after (before ++ .setClock now :: since)).clock.now =
        .ofNat (now.toNat + s.clock.step.toNat * reset.readingsOf since)) ∧
    (∀ before buffer size interface rest,
      let last := s.after before
      let octets := buffer.getD last.buffer
      let fresh := Reflector.handle ⟨s.reflector.settings, s.reflector.codec⟩
        (SteppingClock.mk last.clock.now s.clock.step)
        (.ofPrefix octets (size.getD octets.size) interface)
      (s.reports (before ++ .frame buffer size interface :: rest))[before.length]? =
        some (.ok (.handled fresh.disposition fresh.frame.octets))) ∧
    (s.clock.step = 0 → ∀ frames frames' : List Frame, frames.Perm frames' →
      s.reports (frames.map .ofFrame) =
        (frames.map fun f =>
          let own := s.reflector.handle s.clock f
          .ok (.handled own.disposition own.frame.octets)) ∧
      (frames.zip (s.reports (frames.map .ofFrame))).Perm
        (frames'.zip (s.reports (frames'.map .ofFrame)))) := by
  refine ⟨fun σ _ clock f => ⟨fun e he => ?_, fun e hscreen he => ?_, fun interface h => ?_, rfl⟩,
    rfl, fun events h => ?_, fun before now since h => ?_,
    fun before buffer size interface rest => ?_, fun hstep frames frames' hperm => ?_⟩
  · rw [Reflector.clock_handle, Reflector.readings_of_refused he]
  · rw [Reflector.clock_handle, Reflector.readings_of_unsound hscreen he]
  · rw [Reflector.clock_handle, Reflector.readings_of_isProbe (Reflector.isProbe_of_redirect h)]
  · rw [clock_after s h, Clock.after_stepping]
  · intro reset
    -- To set the clock forgets where it stood, but not its step, which no event changes.
    have hreset : reset.clock = ⟨now, s.clock.step⟩ := by
      rw [← step_clock_after s before]
      exact congrArg Session.clock (after_append s before [.setClock now])
    rw [List.append_cons, after_append, clock_after _ h, Clock.after_stepping, hreset]
  · intro last octets fresh
    have hlast : last.clock = ⟨last.clock.now, s.clock.step⟩ := by
      rw [← step_clock_after s before]
    rw [report_frame]
    show some (reportOf (s.reflector.handle last.clock _)) = _
    rw [hlast]
    rfl
  · have hreports (frames : List Frame) := reports_of_frames s hstep frames
    refine ⟨hreports frames, ?_⟩
    -- A report depends on its frame alone, so frames and reports are permuted together.
    rw [hreports, hreports, ← List.map_prod_left_eq_zip, ← List.map_prod_left_eq_zip]
    exact hperm.map _

/-- A clock that comes round to zero and is set later, and one that stands still. -/
theorem run_accounts_for_clock_of_sample :
    let moving : Session := ⟨.sample none, ⟨18446744073709551000, 500⟩, #[]⟩
    let still : Session := ⟨.sample none, ⟨1700000000000000000, 0⟩, #[]⟩
    let cut := Frame.ofPrefix Frame.sampleBuffer 86 7
    let empty := Frame.ofPrefix #[] 0 7
    let frames := [Frame.sample, cut, empty]
    let events : List Event :=
      [.ofFrame Frame.sample, .frame (some Frame.sampleBuffer) (some 86) 7, .ofFrame empty,
        .timestamp, .readClock]
    let fresh := Reflector.handle (.sample none) (SteppingClock.mk 384 500) cut
    (moving.reflector.handle moving.clock empty).clock = moving.clock ∧
      (moving.reflector.handle moving.clock cut).clock = Clock.after moving.clock 1 ∧
      (moving.reflector.handle moving.clock Frame.sample).clock = Clock.after moving.clock 2 ∧
      (moving.after events).clock.now = 1884 ∧
      (moving.after (events ++ .setClock 5 :: [.readClock])).clock.now = 505 ∧
      (moving.reports events)[1]? = some (.ok (.handled fresh.disposition fresh.frame.octets)) ∧
      (frames.zip (still.reports (frames.map .ofFrame))).Perm
        (frames.reverse.zip (still.reports (frames.reverse.map .ofFrame))) := by
  intro moving still cut empty frames events fresh
  have hsample : (Reflector.sample none).Probes Frame.sample := by decide
  have hscreen : (Frame.ofPrefix Frame.sampleBuffer 86 7).screen (Reflector.sample none).settings =
      .ok () := rfl
  have hlengths : (Frame.ofPrefix Frame.sampleBuffer 86 7).checkLengths = .error ⟨87, 86⟩ := rfl
  have hempty : empty.screen (Reflector.sample none).settings = .error (.truncated ⟨14, 0⟩) := rfl
  obtain ⟨hframe, -, hrun, hset, hreport, -⟩ := run_accounts_for_clock moving
  obtain ⟨-, -, -, -, -, horder⟩ := run_accounts_for_clock still
  obtain ⟨hrefused, -⟩ := hframe _ moving.clock empty
  obtain ⟨-, hunsound, -⟩ := hframe _ moving.clock cut
  obtain ⟨-, -, hanswered, -⟩ := hframe _ moving.clock Frame.sample
  have hredirect : (moving.reflector.handle moving.clock Frame.sample).disposition =
      .redirect 7 := by
    rw [Reflector.handle_of_isProbe _ _ hsample]
    rfl
  have htwo : moving.readingsOf [.ofFrame Frame.sample] = 2 := by
    simp [readingsOf, moving, Reflector.readings_of_isProbe hsample]
  have hfive : moving.readingsOf events = 5 := by
    simp only [events, readingsOf, readings_ofFrame, reflector_step]
    simp [readings, frameOf, moving, Reflector.readings_of_isProbe hsample,
      Reflector.readings_of_unsound hscreen hlengths, Reflector.readings_of_refused hempty]
  have hnow : (moving.after [.ofFrame Frame.sample]).clock.now = 384 := by
    rw [hrun _ (by simp [Event.ofFrame]), htwo]
    decide
  refine ⟨hrefused _ hempty, hunsound _ hscreen hlengths, hanswered 7 hredirect, ?_, ?_, ?_, ?_⟩
  · rw [hrun events (by simp [events, Event.ofFrame]), hfive]
    decide
  · rw [hset events 5 [.readClock] (by simp)]
    simp [readingsOf, readings, moving]
  · have hsecond := hreport [.ofFrame Frame.sample] (some Frame.sampleBuffer) (some 86) 7
      [.ofFrame empty, .timestamp, .readClock]
    have hfresh : Reflector.handle ⟨moving.reflector.settings, moving.reflector.codec⟩
        (SteppingClock.mk 384 moving.clock.step) (.ofPrefix Frame.sampleBuffer 86 7) = fresh := rfl
    simp only [hnow, Option.getD_some] at hsecond
    rw [hfresh] at hsecond
    exact hsecond
  · exact (horder rfl frames _ frames.reverse_perm.symm).2

end Session

end TwoWay
