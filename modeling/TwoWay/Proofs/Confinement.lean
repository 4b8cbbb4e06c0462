import TwoWay.Frame.Operation
import TwoWay.Proofs.Rewriting

/-!
# Where operations write

**Theorem (`runs_confined`).** Operations in any order keep to the octets of the frame, each to
those that it is there to write to, and one that is refused has changed nothing.

`ChangedOnly` holds of a write (`changedOnly_write`), so of every operation that is not refused
(`Operation.confined`), and by induction of a run (`changedOnly_after`).
-/

namespace TwoWay.Frame

variable {n : Nat}

/-! ## Runs -/

def after (f : Frame) (operations : List Operation) : Frame := (runAll operations f).2

def outcomes (f : Frame) (operations : List Operation) : List (Except Refusal Outcome) :=
  (runAll operations f).1

@[simp] theorem after_operation (f : Frame) (operation : Operation) (rest : List Operation) :
    f.after (operation :: rest) = (operation.run f).2.after rest := rfl

theorem outcomes_operation (f : Frame) (operation : Operation) (rest : List Operation) :
    f.outcomes (operation :: rest) =
      (operation.run f).1 :: (operation.run f).2.outcomes rest := rfl

theorem after_operations (f : Frame) (before rest : List Operation) :
    f.after (before ++ rest) = (f.after before).after rest := by
  induction before generalizing f with
  | nil => rfl
  | cons operation before ih => exact ih (operation.run f).2

theorem getElem?_outcomes (f : Frame) (before rest : List Operation) (operation : Operation) :
    (f.outcomes (before ++ operation :: rest))[before.length]? =
      some (operation.run (f.after before)).1 := by
  induction before generalizing f with
  | nil => rfl
  | cons first before ih => exact ih (first.run f).2

/-! ## Positions -/

namespace Operation

def Looks : Operation → Prop
  | .describe | .require _ | .load _ _ | .load8 _ | .load16 _ | .load32 _ | .route | .screen _
  | .checkLengths => True
  | .store _ _ | .store16 _ _ | .answer _ _ _ | .turnBack | .exchangePorts => False

/-- The positions that an operation is there to write to. -/
def Writes : Operation → Nat → Prop
  | .store start octets, i => start ≤ i ∧ i < start + octets.size
  | .store16 start _, i => start ≤ i ∧ i < start + 2
  | .answer _ _ _, i => 40 ≤ i ∧ i < 86
  | .turnBack, i => i < 12 ∨ 26 ≤ i ∧ i < 34
  | .exchangePorts, i => 34 ≤ i ∧ i < 38
  | .describe, _ | .require _, _ | .load _ _, _ | .load8 _, _ | .load16 _, _ | .load32 _, _
  | .route, _ | .screen _, _ | .checkLengths, _ => False

end Operation

/-! ## What has changed -/

/-- Nothing but octets of the frame in a range of positions was changed. -/
structure ChangedOnly (range : Nat → Prop) (f g : Frame) : Prop where
  size_octets : g.octets.size = f.octets.size
  size : g.size = f.size
  interface : g.interface = f.interface
  getElem? : ∀ i, ¬(range i ∧ i < f.size) → g.octets[i]? = f.octets[i]?

namespace ChangedOnly

variable {range range' : Nat → Prop} {f g h : Frame}

theorem refl (range : Nat → Prop) (f : Frame) : ChangedOnly range f f :=
  ⟨rfl, rfl, rfl, fun _ _ => rfl⟩

theorem trans (hfg : ChangedOnly range f g) (hgh : ChangedOnly range g h) :
    ChangedOnly range f h where
  size_octets := hgh.size_octets.trans hfg.size_octets
  size := hgh.size.trans hfg.size
  interface := hgh.interface.trans hfg.interface
  getElem? i hi := by
    have hi' : ¬(range i ∧ i < g.size) := by rwa [hfg.size]
    exact (hgh.getElem? i hi').trans (hfg.getElem? i hi)

theorem mono (hfg : ChangedOnly range f g) (hrange : ∀ i, range i → range' i) :
    ChangedOnly range' f g :=
  { hfg with getElem? := fun i hi => hfg.getElem? i fun h => hi (h.imp_left (hrange i)) }

end ChangedOnly

theorem changedOnly_write (f : Frame) (start : Nat) (v : Octets n) (h : start + n ≤ f.size) :
    ChangedOnly (fun i => start ≤ i ∧ i < start + n) f (f.write start v) where
  size_octets := size_octets_write f start v
  size := rfl
  interface := rfl
  getElem? i hi := by
    refine getElem?_eq_of_octet_eq (size_octets_write f start v) ?_
    exact octet_write_of_disjoint f v (Nat.le_trans h f.size_le) (by omega)

theorem changedOnly_exchanged (f : Frame) (a b n : Nat) (ha : a + n ≤ f.size)
    (hb : b + n ≤ f.size) :
    ChangedOnly (fun i => a ≤ i ∧ i < a + n ∨ b ≤ i ∧ i < b + n) f (f.exchanged a b n) := by
  have hleft := changedOnly_write f a (f.block b n) ha
  have hright := changedOnly_write (f.write a (f.block b n)) b (f.block a n) hb
  exact (hleft.mono fun i hi => .inl hi).trans (hright.mono fun i hi => .inr hi)

theorem changedOnly_turned (f : Frame) (h : 34 ≤ f.size) :
    ChangedOnly (fun i => i < 12 ∨ 26 ≤ i ∧ i < 34) f f.turned := by
  have hnetwork := changedOnly_exchanged f 26 30 4 (by omega) (by omega)
  have hlink := changedOnly_exchanged (f.exchanged 26 30 4) 6 0 6 (by simp; omega) (by simp; omega)
  exact (hnetwork.mono fun i hi => by omega).trans (hlink.mono fun i hi => by omega)

theorem changedOnly_answered (f : Frame) (record : Octets Reply.size) (h : 86 ≤ f.size) :
    ChangedOnly (fun i => 40 ≤ i ∧ i < 86) f (f.answered record) := by
  have hrecord := changedOnly_write f 42 record h
  have hcheck := changedOnly_write (f.write 42 record) 40
    (Octets.ofWord16 (f.revisedCheck record)) (by simp; omega)
  exact (hrecord.mono fun i hi => ⟨by omega, hi.2⟩).trans (hcheck.mono fun i hi => by omega)

/-! ## Changes -/

/-- Refused, it has left the frame alone; carried out, only octets in the range have changed. -/
def Edit.Confined {α : Type} (edit : Edit α) (range : Nat → Prop) : Prop :=
  ∀ f, (∃ e, edit f = .error e f) ∨ ∃ a g, edit f = .ok a g ∧ ChangedOnly range f g

theorem confined_store (start : Nat) (v : Octets n) :
    (store start v).Confined fun i => start ≤ i ∧ i < start + n := by
  intro f
  by_cases h : start + n ≤ f.size
  · exact .inr ⟨(), _, store_of_le f start v h, changedOnly_write f start v h⟩
  · exact .inl ⟨_, store_of_lt f start v (Nat.lt_of_not_le h)⟩

/-- Both stores of an answer are within what the lengths are checked for. -/
theorem confined_answer (received sent : Timestamp) (estimate : ErrorEstimate) :
    (answer received sent estimate).Confined fun i => 40 ≤ i ∧ i < 86 := by
  intro f
  cases h : f.checkLengths with
  | error e => exact .inl ⟨e, bind_look_error h _⟩
  | ok u =>
    have hsize := ((checkLengths_eq_ok_iff f).1 h).le_size
    exact .inr ⟨(), _, answer_eq f h received sent estimate, changedOnly_answered f _ hsize⟩

theorem confined_exchangePorts : exchangePorts.Confined fun i => 34 ≤ i ∧ i < 38 := by
  intro f
  by_cases h : 42 ≤ f.size
  · have hports := changedOnly_exchanged f 34 36 2 (by omega) (by omega)
    exact .inr ⟨_, _, exchangePorts_eq f h, hports.mono fun i hi => by omega⟩
  · exact .inl ⟨_, exchangePorts_of_lt (Nat.lt_of_not_le h)⟩

/-! ## One operation -/

namespace Operation

/-- The same of an operation, with the positions that it is there to write to. -/
def Confined (operation : Operation) : Prop :=
  ∀ f, (∃ e, operation.run f = (.error e, f)) ∨
    ∃ outcome g, operation.run f = (.ok outcome, g) ∧ ChangedOnly operation.Writes f g

theorem run_of_looks {operation : Operation} (h : operation.Looks) (f : Frame) :
    (operation.run f).2 = f := by
  cases operation with
  | store | store16 | answer | turnBack | exchangePorts => exact absurd h id
  | _ => rfl

theorem Confined.of_looks {operation : Operation} (h : operation.Looks) : operation.Confined := by
  intro f
  have hframe := run_of_looks h f
  cases hresult : (operation.run f).1 with
  | error e => exact .inl ⟨e, Prod.ext hresult hframe⟩
  | ok outcome => exact .inr ⟨outcome, f, Prod.ext hresult hframe, .refl _ f⟩

theorem Confined.of_edit {operation : Operation} {α : Type} {edit : Edit α} {outcome : α → Outcome}
    (h : edit.Confined operation.Writes) (hrun : operation.run = ofEdit edit outcome) :
    operation.Confined := by
  intro f
  rw [hrun, ofEdit]
  rcases h f with ⟨e, hedit⟩ | ⟨a, g, hedit, hg⟩
  · exact .inl ⟨.truncated e, by rw [hedit]⟩
  · exact .inr ⟨outcome a, g, by rw [hedit], hg⟩

theorem confined (operation : Operation) : operation.Confined := by
  cases operation with
  | store start octets => exact .of_edit (confined_store start (Octets.ofArray octets)) rfl
  | store16 start word => exact .of_edit (confined_store start (Octets.ofWord16 word)) rfl
  | answer received sent estimate => exact .of_edit (confined_answer received sent estimate) rfl
  | turnBack =>
    intro f
    by_cases h : 34 ≤ f.size
    · exact .inr ⟨_, f.turned, by rw [run, turnBack_eq f h], changedOnly_turned f h⟩
    · exact .inr ⟨_, f, by rw [run, turnBack_of_lt (Nat.lt_of_not_le h)], .refl _ f⟩
  | exchangePorts => exact .of_edit confined_exchangePorts rfl
  | _ => exact .of_looks trivial

theorem changedOnly_run (operation : Operation) (f : Frame) :
    ChangedOnly operation.Writes f (operation.run f).2 := by
  rcases operation.confined f with ⟨e, h⟩ | ⟨outcome, g, h, hg⟩
  · rw [h]
    exact .refl _ f
  · rwa [h]

theorem run_of_refused {operation : Operation} {f : Frame} {e : Refusal}
    (h : (operation.run f).1 = .error e) : (operation.run f).2 = f := by
  rcases operation.confined f with ⟨e, h'⟩ | ⟨outcome, g, h', hg⟩
  · rw [h']
  · rw [h'] at h
    cases h

/-- A frame that passes is too short to have been turned back. -/
theorem run_of_pass {f : Frame} (h : (turnBack.run f).1 = .ok (.disposition .pass)) :
    (turnBack.run f).2 = f := by
  by_cases hsize : 34 ≤ f.size
  · rw [run, turnBack_eq f hsize] at h
    cases h
  · rw [run, turnBack_of_lt (Nat.lt_of_not_le hsize)]

end Operation

/-! ## Many operations -/

theorem changedOnly_after (f : Frame) (operations : List Operation) :
    ChangedOnly (fun i => ∃ operation ∈ operations, operation.Writes i) f (f.after operations) := by
  induction operations generalizing f with
  | nil => exact .refl _ f
  | cons operation rest ih =>
    have hfirst := operation.changedOnly_run f
    have hrest := ih (operation.run f).2
    rw [after_operation]
    -- Both ranges are part of what some operation of the run is there to write to.
    exact (hfirst.mono fun i hi => ⟨operation, List.mem_cons_self, hi⟩).trans
      (hrest.mono fun i ⟨other, hmem, hi⟩ => ⟨other, List.mem_cons_of_mem _ hmem, hi⟩)

/-- **Operations keep to the frame.** In any run the buffer keeps its length, the frame its size and
interface, and every octet behind the frame stays. An operation that only looks, is refused or lets
the frame pass changes nothing, and any other keeps to its own positions. -/
theorem runs_confined (buffer : Array UInt8) (size : Nat) (interface : UInt32) :
    let f := ofPrefix buffer size interface
    (∀ operations,
      (f.after operations).octets.size = buffer.size ∧
      (f.after operations).size = min size buffer.size ∧
      (f.after operations).size ≤ (f.after operations).octets.size ∧
      (f.after operations).interface = interface ∧
      ∀ i, min size buffer.size ≤ i → (f.after operations).octets[i]? = buffer[i]?) ∧
    ∀ before operation rest, ∃ outcome,
      (f.outcomes (before ++ operation :: rest))[before.length]? = some outcome ∧
      let g := f.after before
      let g' := f.after (before ++ [operation])
      (operation.Looks → g' = g) ∧
      (∀ e, outcome = .error e → g' = g) ∧
      (operation = .turnBack → outcome = .ok (.disposition .pass) → g' = g) ∧
      ∀ i, ¬operation.Writes i → g'.octets[i]? = g.octets[i]? := by
  intro f
  refine ⟨fun operations => ?_, fun before operation rest => ?_⟩
  · have hrun := f.changedOnly_after operations
    exact ⟨hrun.size_octets, hrun.size, (f.after operations).size_le, hrun.interface, fun i hi =>
      hrun.getElem? i fun h => absurd h.2 (Nat.not_lt.2 hi)⟩
  · refine ⟨_, f.getElem?_outcomes before rest operation, ?_⟩
    rw [after_operations]
    refine ⟨fun hlooks => Operation.run_of_looks hlooks _, fun e he =>
      Operation.run_of_refused he, ?_, fun i hi => ?_⟩
    · rintro rfl hpass
      exact Operation.run_of_pass hpass
    · exact (operation.changedOnly_run (f.after before)).getElem? i fun h => hi h.1

/-- The sample cut within its addresses: written to up to its end and across, and turned back. -/
theorem runs_confined_of_sample :
    let f := ofPrefix sampleBuffer 33 7
    let stored : List Operation := [.store 30 #[1, 2, 3]]
    (f.after stored).octets[29]? = sampleBuffer[29]? ∧
      (f.after stored).octets[33]? = sampleBuffer[33]? ∧
      ∀ operation ∈ [.load 20 4, .store16 32 0xFFFF, .turnBack],
        f.after (stored ++ [operation]) = f.after stored := by
  intro f stored
  obtain ⟨hrun, hsteps⟩ := runs_confined sampleBuffer 33 7
  obtain ⟨-, -, -, -, hbehind⟩ := hrun stored
  obtain ⟨-, -, -, -, -, hbefore⟩ := hsteps [] (.store 30 #[1, 2, 3]) []
  obtain ⟨-, -, hload, -⟩ := hsteps stored (.load 20 4) []
  obtain ⟨refusal, hrefusal, -, hstore, -⟩ := hsteps stored (.store16 32 0xFFFF) []
  obtain ⟨pass, hpass, -, -, hturnBack, -⟩ := hsteps stored .turnBack []
  have hrefused : refusal = .error (.truncated ⟨34, 33⟩) := Option.some.inj hrefusal.symm
  have hpasses : pass = .ok (.disposition .pass) := Option.some.inj hpass.symm
  refine ⟨hbefore 29 (by simp [Operation.Writes]), hbehind 33 (by decide), ?_⟩
  simp only [List.forall_mem_cons]
  exact ⟨hload trivial, hstore _ hrefused, hturnBack rfl hpasses, by simp⟩

end TwoWay.Frame
