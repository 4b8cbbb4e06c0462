import TwoWay.Proofs.Checks

/-!
# Which refusal a frame gets

**Theorem (`refused_by_first_fault`).** The screening is a row of checks (`Frame.screen_eq`), and
the first that fails gives the refusal. More octets of a buffer change no acceptance and no
mismatch, and a frame that is too short stays so until it has the octets that were asked for.
-/

namespace TwoWay

/-! ## Checks in a row -/

section InARow

variable {ε α : Type}

/-- Checks in a row fail as the first that fails, and those behind it have no say. -/
theorem forM_eq_error_iff (check : α → Except ε Unit) (cs : List α) (e : ε) :
    forM cs check = .error e ↔
      ∃ before c after, cs = before ++ c :: after ∧ (∀ b ∈ before, check b = .ok ()) ∧
        check c = .error e := by
  constructor
  · intro h
    induction cs with
    | nil => cases h
    | cons c cs ih =>
      rw [List.forM_cons] at h
      cases hc : check c with
      | error e' =>
        rw [hc] at h
        cases h
        exact ⟨[], c, cs, rfl, by simp, hc⟩
      | ok u =>
        rw [hc] at h
        obtain ⟨before, d, after, rfl, hbefore, hd⟩ := ih h
        exact ⟨c :: before, d, after, rfl, List.forall_mem_cons.2 ⟨hc, hbefore⟩, hd⟩
  · rintro ⟨before, c, after, rfl, hbefore, hc⟩
    -- Induction on the checks before the fault: each of them passes and leaves the rest.
    induction before with
    | nil =>
      rw [List.nil_append, List.forM_cons, hc]
      rfl
    | cons b before ih =>
      rw [List.cons_append, List.forM_cons, hbefore b List.mem_cons_self]
      exact ih fun x hx => hbefore x (List.mem_cons_of_mem b hx)

theorem forM_eq_ok_iff (check : α → Except ε Unit) (cs : List α) :
    forM cs check = .ok () ↔ ∀ c ∈ cs, check c = .ok () := by
  induction cs with
  | nil => simp [pure, Except.pure]
  | cons c cs ih => rw [List.forM_cons, Frame.then_eq_ok_iff, ih, List.forall_mem_cons]

end InARow

/-! ## Checks of a frame -/

def Truncation.check (t : Truncation) : Except Truncation Unit :=
  if t.available < t.needed then .error t else .ok ()

theorem Truncation.check_eq_ok_iff (t : Truncation) :
    t.check = .ok () ↔ t.needed ≤ t.available := by
  rw [← Nat.not_lt]
  by_cases h : t.available < t.needed <;> simp [check, h]

theorem Truncation.check_eq_error_iff (t u : Truncation) :
    t.check = .error u ↔ t = u ∧ t.available < t.needed := by
  by_cases h : t.available < t.needed <;> simp [check, h]

inductive Check
  | size (needed : Nat)
  /-- Octets are what they should be, or else the frame does not match. -/
  | octets (sound : Bool) (fault : Mismatch)

/-- What a check says of a frame of `n` octets. -/
def Check.run (n : Nat) : Check → Except Refusal Unit
  | .size needed => Frame.orRefuse (Truncation.check ⟨needed, n⟩)
  | .octets sound fault => if sound then .ok () else .error (.notApplicable fault)

namespace Check

variable {m n : Nat}

theorem run_size_of_lt {needed : Nat} (h : n < needed) :
    (size needed).run n = .error (.truncated ⟨needed, n⟩) := by
  rw [run, Truncation.check, if_pos h]
  rfl

theorem run_size_of_le {needed : Nat} (h : needed ≤ n) : (size needed).run n = .ok () := by
  rw [run, Truncation.check, if_neg (Nat.not_lt.2 h)]
  rfl

/-- Only a check of the size refuses a frame as too short. -/
theorem eq_size_of_truncated {c : Check} {t : Truncation}
    (h : c.run n = .error (.truncated t)) : c = size t.needed ∧ n < t.needed := by
  cases c with
  | size needed =>
    by_cases hn : n < needed
    · rw [run_size_of_lt hn] at h
      cases h
      exact ⟨rfl, hn⟩
    · rw [run_size_of_le (Nat.not_lt.1 hn)] at h
      cases h
  | octets sound fault => cases sound <;> cases h

/-- With more octets a check says the same, unless it was for want of octets. -/
theorem run_of_le {c : Check} {r : Except Refusal Unit} (h : m ≤ n)
    (hr : ∀ t, r ≠ .error (.truncated t)) (hc : c.run m = r) : c.run n = r := by
  cases c with
  | size needed =>
    by_cases hm : m < needed
    · rw [run_size_of_lt hm] at hc
      exact absurd hc.symm (hr _)
    · have hle : needed ≤ m := Nat.not_lt.1 hm
      rw [run_size_of_le (Nat.le_trans hle h), ← hc, run_size_of_le hle]
  | octets sound fault => exact hc

theorem forM_run_of_le {cs : List Check} {r : Except Refusal Unit} (h : m ≤ n)
    (hr : ∀ t, r ≠ .error (.truncated t)) (hcs : forM cs (run m) = r) : forM cs (run n) = r := by
  induction cs with
  | nil => exact hcs
  | cons c cs ih =>
    rw [List.forM_cons] at hcs ⊢
    cases hc : c.run m with
    | error e =>
      rw [hc] at hcs
      subst hcs
      rw [run_of_le h hr hc]
      rfl
    | ok u =>
      rw [hc] at hcs
      rw [run_of_le h (by simp) hc]
      exact ih hcs

/-- Too few octets for a check stay too few up to the number that it asks for. -/
theorem forM_run_of_truncated {cs : List Check} {t : Truncation} (h : m ≤ n)
    (hcs : forM cs (run m) = .error (.truncated t)) (hn : n < t.needed) :
    forM cs (run n) = .error (.truncated ⟨t.needed, n⟩) := by
  obtain ⟨before, c, after, rfl, hbefore, hc⟩ := (forM_eq_error_iff _ cs _).1 hcs
  obtain ⟨rfl, -⟩ := eq_size_of_truncated hc
  exact (forM_eq_error_iff _ _ _).2 ⟨before, _, after, rfl,
    fun b hb => run_of_le h (by simp) (hbefore b hb), run_size_of_lt hn⟩

end Check

/-! ## The screening -/

namespace Frame

/-- The checks of the screening, from the link to the address. -/
def screening (f : Frame) (s : Settings) : List Check :=
  [.size 14,
   .octets (f.word 12 = 0x0800) (.etherType (f.word 12)),
   .size 34,
   .octets (f.octet 14 = 0x45) (.ipv4Shape (f.octet 14)),
   .octets (f.word 20 &&& 0x3FFF = 0) .fragment,
   .octets (f.octet 23 = 17) (.protocol (f.octet 23)),
   .size 42,
   .octets (∃ p ∈ [f.word 34, f.word 36], p = 862 ∨ p ∈ s.ports.extra)
     (.port (f.word 34) (f.word 36)),
   .octets (s.localAddress.all fun a => f.block 30 4 = a) .destination]

/-- What is checked is the buffer, and not how much of it is the frame. -/
theorem screening_of_octets_eq {f g : Frame} (h : f.octets = g.octets) (s : Settings) :
    f.screening s = g.screening s := by
  cases f
  cases g
  cases h
  rfl

/-- A case in a list of cases is a check before the rest. -/
theorem ite_size {n needed : Nat} (x : Except Refusal Unit) :
    (if n < needed then .error (.truncated ⟨needed, n⟩) else x) =
      (do (Check.size needed).run n; x) := by
  split
  · next h =>
    rw [Check.run_size_of_lt h]
    rfl
  · next h =>
    rw [Check.run_size_of_le (Nat.not_lt.1 h)]
    rfl

theorem ite_octets (n : Nat) {sound : Prop} [Decidable sound] (fault : Mismatch)
    (x : Except Refusal Unit) :
    (if ¬sound then .error (.notApplicable fault) else x) =
      (do (Check.octets sound fault).run n; x) := by
  by_cases h : sound
  · rw [if_neg (not_not_intro h), Check.run, decide_eq_true h]
    rfl
  · rw [if_pos h, Check.run, decide_eq_false h]
    rfl

theorem then_ok (x : Except Refusal Unit) : (do x; .ok ()) = x := by
  cases x <;> rfl

theorem error_then (e : Refusal) (x : Except Refusal Unit) :
    (do Except.error e; x) = .error e := rfl

theorem screenLink_eq_checks (f : Frame) :
    f.screenLink = (do
      (Check.size 14).run f.size
      (Check.octets (f.word 12 = 0x0800) (.etherType (f.word 12))).run f.size) := by
  simp only [screenLink_eq, ne_eq, ite_size, ite_octets f.size, then_ok]

theorem screenNetwork_eq_checks (f : Frame) :
    f.screenNetwork = (do
      (Check.size 34).run f.size
      (Check.octets (f.octet 14 = 0x45) (.ipv4Shape (f.octet 14))).run f.size
      (Check.octets (f.word 20 &&& 0x3FFF = 0) .fragment).run f.size
      (Check.octets (f.octet 23 = 17) (.protocol (f.octet 23))).run f.size) := by
  simp only [screenNetwork_eq, ne_eq, ite_size, ite_octets f.size, then_ok]

theorem screenPorts_eq_checks (f : Frame) (ports : PortTable) :
    f.screenPorts ports = (do
      (Check.size 42).run f.size
      (Check.octets (∃ p ∈ [f.word 34, f.word 36], p = 862 ∨ p ∈ ports.extra)
        (.port (f.word 34) (f.word 36))).run f.size) := by
  simp only [screenPorts_eq, Bool.not_eq_true', ← Bool.not_eq_true, accepts_iff, ite_size,
    ite_octets f.size, then_ok]

theorem screenAddress_eq_check (f : Frame) (address : Option Ipv4Address) (h : 34 ≤ f.size) :
    f.screenAddress address =
      (Check.octets (address.all fun a => f.block 30 4 = a) .destination).run f.size := by
  cases address with
  | none => rfl
  | some a =>
    simp only [screenAddress_some f a h, ne_eq, ite_octets f.size, then_ok, Option.all_some]

theorem screen_eq (f : Frame) (s : Settings) :
    f.screen s = forM (f.screening s) (Check.run f.size) := by
  -- the address is read with no check of the size of its own: the one for the headers is before it
  by_cases h : 34 ≤ f.size
  · simp only [screen, screenLink_eq_checks, screenNetwork_eq_checks, screenPorts_eq_checks,
      screenAddress_eq_check f _ h, screening, List.forM_cons, List.forM_nil, bind_assoc,
      bind_pure_unit]
  · simp only [screen, screenLink_eq_checks, screenNetwork_eq_checks, screening, List.forM_cons,
      Check.run_size_of_lt (Nat.not_le.1 h), bind_assoc, error_then]

/-- **The first fault.** A frame is refused by the first check that it does not pass, and accepted
if there is none. With more of the buffer than in `f`, `g` is accepted or mismatched if `f` is, and
too short by the same check until it has the octets that this one asks for. -/
theorem refused_by_first_fault (f : Frame) (s : Settings) :
    (f.screen s = .ok () ↔ ∀ c ∈ f.screening s, c.run f.size = .ok ()) ∧
    (∀ e, f.screen s = .error e ↔
      ∃ before c after, f.screening s = before ++ c :: after ∧
        (∀ b ∈ before, b.run f.size = .ok ()) ∧ c.run f.size = .error e) ∧
    ∀ g : Frame, g.octets = f.octets → f.size ≤ g.size →
      (f.screen s = .ok () → g.screen s = .ok ()) ∧
      (∀ m, f.screen s = .error (.notApplicable m) → g.screen s = .error (.notApplicable m)) ∧
      ∀ t, f.screen s = .error (.truncated t) → g.size < t.needed →
        g.screen s = .error (.truncated ⟨t.needed, g.size⟩) := by
  rw [screen_eq]
  refine ⟨forM_eq_ok_iff _ _, fun e => forM_eq_error_iff _ _ e, fun g hg hsize => ?_⟩
  rw [screen_eq g, screening_of_octets_eq hg]
  exact ⟨Check.forM_run_of_le hsize (by simp), fun m => Check.forM_run_of_le hsize (by simp),
    fun t => Check.forM_run_of_truncated hsize⟩

/-- The headers of the sample are enough to accept it, or to tell that it is for somebody else. -/
theorem refused_by_first_fault_samples :
    let elsewhere : Settings := { (default : Settings) with localAddress := some #v[10, 0, 0, 9] }
    (ofPrefix sampleBuffer 33 7).screen default = .error (.truncated ⟨34, 33⟩) ∧
      sample.screen default = .ok () ∧
      sample.screen elsewhere = .error (.notApplicable .destination) := by
  intro elsewhere
  obtain ⟨-, -, hshort⟩ := refused_by_first_fault (ofPrefix sampleBuffer 20 7) default
  obtain ⟨-, -, hheaders⟩ := refused_by_first_fault (ofPrefix sampleBuffer 42 7) default
  obtain ⟨-, -, helsewhere⟩ := refused_by_first_fault (ofPrefix sampleBuffer 42 7) elsewhere
  obtain ⟨-, -, htruncated⟩ := hshort (ofPrefix sampleBuffer 33 7) rfl (by decide)
  obtain ⟨haccepted, -⟩ := hheaders sample rfl (by decide)
  obtain ⟨-, hmismatch, -⟩ := helsewhere sample rfl (by decide)
  exact ⟨htruncated ⟨34, 20⟩ rfl (by decide), haccepted rfl, hmismatch .destination rfl⟩

end Frame

end TwoWay
