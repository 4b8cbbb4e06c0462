import TwoWay.Frame.Screening

/-!
# Which ports a table holds

**Theorem (`ofList_holds_extras`).** A list makes a table if there is no zero in it and no more than
eight ports besides the well-known one; else its first port at fault gives the error. What a table
holds is kept up to there by every port that is put in (`foldlM_insert_cases`).
-/

namespace TwoWay.PortTable

/-! ## Ports that take a slot -/

/-- The ports of a list besides the well-known one, each where it comes first. -/
def extras (ports : List UInt16) : List UInt16 := (ports.filter (· != wellKnownPort)).eraseDups

/-- There is a slot for each, and each is a port. -/
def Fits (ports : List UInt16) : Prop := 0 ∉ ports ∧ (extras ports).length ≤ 8

instance (ports : List UInt16) : Decidable (Fits ports) := inferInstanceAs (Decidable (_ ∧ _))

/-- The port cannot be put into a table that holds those before it. -/
inductive Fault (before : List UInt16) : UInt16 → SettingsError → Prop
  | zero : Fault before 0 .zeroPort
  | ninth {port : UInt16} (nonzero : port ≠ 0) (new : ¬(port = 862 ∨ port ∈ before))
    (full : (extras before).length = 8) : Fault before port (.tooManyPorts 9 8)

theorem mem_extras {ports : List UInt16} {port : UInt16} :
    port ∈ extras ports ↔ port ≠ wellKnownPort ∧ port ∈ ports := by
  simp [extras, and_comm]

theorem extras_append (xs ys : List UInt16) :
    extras (xs ++ ys) = extras xs ++
      ((ys.filter (· != wellKnownPort)).removeAll (xs.filter (· != wellKnownPort))).eraseDups := by
  rw [extras, List.filter_append, List.eraseDups_append, extras]

theorem extras_append_of_known {before : List UInt16} {port : UInt16}
    (h : port = wellKnownPort ∨ port ∈ before) : extras (before ++ [port]) = extras before := by
  rw [extras_append]
  by_cases hport : port = wellKnownPort
  · simp [hport]
  · simp [hport, List.cons_removeAll, h.resolve_left hport]

theorem extras_append_of_new {before : List UInt16} {port : UInt16}
    (h : ¬(port = wellKnownPort ∨ port ∈ before)) :
    extras (before ++ [port]) = extras before ++ [port] := by
  obtain ⟨hport, hbefore⟩ := not_or.1 h
  rw [extras_append]
  simp [hport, List.cons_removeAll, hbefore, List.eraseDups_cons]

theorem Fits.of_append {xs ys : List UInt16} (h : Fits (xs ++ ys)) : Fits xs := by
  obtain ⟨hzero, hlength⟩ := h
  rw [extras_append, List.length_append] at hlength
  exact ⟨fun hmem => hzero (List.mem_append_left ys hmem), by omega⟩

theorem Fault.not_fits {before : List UInt16} {port : UInt16} {e : SettingsError}
    (h : Fault before port e) (after : List UInt16) : ¬Fits (before ++ port :: after) := by
  intro hfits
  rw [List.append_cons] at hfits
  obtain ⟨hzero, hlength⟩ := hfits.of_append
  cases h with
  | zero => simp at hzero
  | ninth _ hnew hfull =>
    rw [extras_append_of_new hnew, List.length_append, hfull] at hlength
    simp at hlength

theorem Fault.unique {before : List UInt16} {port : UInt16} {e e' : SettingsError}
    (h : Fault before port e) (h' : Fault before port e') : e = e' := by
  cases h <;> cases h' <;> simp_all

/-! ## Tables -/

/-- The table holds the ports of a list and nothing besides. -/
structure Holds (t : PortTable) (ports : List UInt16) : Prop where
  nonzero : 0 ∉ ports
  extra : t.extra = extras ports
  free : ∀ i (h : i < 8), t.count ≤ i → t.slots[i] = 0

theorem length_extra (t : PortTable) : t.extra.length = t.count := by
  rw [extra, List.length_take, Vector.length_toList]
  exact Nat.min_eq_left t.count_le

theorem holds_empty : empty.Holds [] where
  nonzero := List.not_mem_nil
  extra := rfl
  free := by simp [empty]

section Holds

variable {t u : PortTable} {before ports : List UInt16}

theorem Holds.fits (h : t.Holds ports) : Fits ports := by
  refine ⟨h.nonzero, ?_⟩
  rw [← h.extra, length_extra]
  exact t.count_le

theorem Holds.contains_iff (h : t.Holds ports) (port : UInt16) :
    t.contains port = true ↔ port = wellKnownPort ∨ port ∈ ports := by
  rw [PortTable.contains_iff, h.extra, mem_extras]
  by_cases hport : port = wellKnownPort <;> simp [hport]

theorem insert_cases (h : t.Holds before) (port : UInt16) :
    (∃ u, t.insert port = .ok u ∧ u.Holds (before ++ [port])) ∨
      ∃ e, t.insert port = .error e ∧ Fault before port e := by
  have hnonzero (hport : port ≠ 0) : 0 ∉ before ++ [port] := by
    simp [h.nonzero, Ne.symm hport]
  by_cases hzero : port = 0
  · subst hzero
    exact .inr ⟨_, if_pos rfl, .zero⟩
  by_cases hknown : t.contains port = true
  -- nothing is put in, and a port that is known adds nothing to the list either
  · refine .inl ⟨t, by rw [insert, if_neg hzero, if_pos hknown], hnonzero hzero, ?_, h.free⟩
    rw [extras_append_of_known ((h.contains_iff port).1 hknown), h.extra]
  have hnew := mt (h.contains_iff port).2 hknown
  by_cases hslot : t.count < capacity
  · refine .inl ⟨_, by rw [insert, if_neg hzero, if_neg hknown, dif_pos hslot], hnonzero hzero,
      ?_, fun i hi hcount => ?_⟩
    · rw [extra_set, h.extra, extras_append_of_new hnew]
    · have hlt : t.count < i := hcount
      simp only [Vector.getElem_set_ne hslot hi (Nat.ne_of_lt hlt)]
      exact h.free i hi (Nat.le_of_lt hlt)
  · have hcount : t.count = 8 := Nat.le_antisymm t.count_le (Nat.not_lt.1 hslot)
    refine .inr ⟨.tooManyPorts 9 8, ?_, .ninth hzero hnew ?_⟩
    · rw [insert, if_neg hzero, if_neg hknown, dif_neg hslot, hcount]
    · rw [← h.extra, length_extra, hcount]

theorem foldlM_insert_cases (h : t.Holds before) (ports : List UInt16) :
    (∃ u, ports.foldlM insert t = .ok u ∧ u.Holds (before ++ ports)) ∨
      ∃ e more port after, ports = more ++ port :: after ∧ ports.foldlM insert t = .error e ∧
        Fits (before ++ more) ∧ Fault (before ++ more) port e := by
  induction ports generalizing t before with
  | nil => exact .inl ⟨t, rfl, by simpa using h⟩
  | cons port ports ih =>
    rw [List.foldlM_cons]
    rcases insert_cases h port with ⟨u, hinsert, hu⟩ | ⟨e, hinsert, hfault⟩
    · rw [hinsert]
      rcases ih hu with ⟨v, hv, hholds⟩ | ⟨e, more, port', after, rfl, hv, hfits, hfault⟩
      · exact .inl ⟨v, hv, by simpa using hholds⟩
      · exact .inr ⟨e, port :: more, port', after, rfl, hv, by simpa using hfits,
          by simpa using hfault⟩
    · rw [hinsert]
      exact .inr ⟨e, [], port, ports, rfl, rfl, by simpa using h.fits, by simpa using hfault⟩

theorem holds_of_ofList (h : ofList ports = .ok t) : t.Holds ports := by
  rcases foldlM_insert_cases holds_empty ports with ⟨u, hu, hholds⟩ | ⟨e, _, _, _, _, he, _⟩
  · rw [← ofList, h] at hu
    cases hu
    exact hholds
  · rw [← ofList, h] at he
    cases he

theorem ofList_of_fits (h : Fits ports) : ∃ t, ofList ports = .ok t := by
  rcases foldlM_insert_cases holds_empty ports with
    ⟨u, hu, -⟩ | ⟨e, more, port, after, rfl, -, -, hfault⟩
  · exact ⟨u, hu⟩
  · exact absurd h (hfault.not_fits after)

/-- The first port that cannot be put in gives the error, and those behind it have no say. -/
theorem ofList_eq_error_iff (ports : List UInt16) (e : SettingsError) :
    ofList ports = .error e ↔
      ∃ before port after, ports = before ++ port :: after ∧ Fits before ∧
        Fault before port e := by
  constructor
  · intro h
    rcases foldlM_insert_cases holds_empty ports with
      ⟨u, hu, -⟩ | ⟨e', before, port, after, hports, he, hfits, hfault⟩
    · rw [← ofList, h] at hu
      cases hu
    · rw [← ofList, h] at he
      cases he
      exact ⟨before, port, after, hports, hfits, hfault⟩
  · rintro ⟨before, port, after, rfl, hfits, hfault⟩
    -- the ports before the fault make a table, and the one at fault stops there
    obtain ⟨t, ht⟩ := ofList_of_fits hfits
    have hinsert : t.insert port = .error e := by
      rcases insert_cases (holds_of_ofList ht) port with ⟨u, -, hu⟩ | ⟨e', he, hfault'⟩
      · exact absurd hu.fits (hfault.not_fits [])
      · rw [he, hfault.unique hfault']
    rw [ofList, List.foldlM_append, ← ofList, ht]
    show List.foldlM insert t (port :: after) = _
    rw [List.foldlM_cons, hinsert]
    rfl

theorem Holds.getElem_slots (h : t.Holds ports) (i : Nat) (hi : i < 8) :
    t.slots[i] = t.extra.getD i 0 := by
  rw [List.getD_eq_getElem?_getD]
  by_cases hcount : i < t.count
  · rw [PortTable.extra, List.getElem?_take_of_lt hcount,
      List.getElem?_eq_getElem (by simpa using hi)]
    simp
  · have hnone : t.extra[i]? = none := by
      rw [List.getElem?_eq_none_iff, length_extra]
      exact Nat.not_lt.1 hcount
    rw [hnone, h.free i hi (Nat.not_lt.1 hcount)]
    rfl

theorem Holds.eq_iff {ports' : List UInt16} (h : t.Holds ports) (h' : u.Holds ports') :
    t = u ↔ t.extra = u.extra := by
  refine ⟨congrArg PortTable.extra, fun hextra => ?_⟩
  have hcount : t.count = u.count := by rw [← length_extra, hextra, length_extra]
  have hslots : t.slots = u.slots := by
    apply Vector.ext
    intro i hi
    rw [h.getElem_slots i hi, h'.getElem_slots i hi, hextra]
  cases t
  cases u
  cases hcount
  cases hslots
  rfl

end Holds

/-- Of a table the screening asks only what it contains. -/
theorem screen_of_contains_eq {t u : PortTable} (h : ∀ p, t.contains p = u.contains p)
    (f : Frame) (s : Settings) :
    f.screen { s with ports := t } = f.screen { s with ports := u } := by
  have haccepts (a b : UInt16) : t.accepts a b = u.accepts a b := by
    rw [accepts, accepts, h, h]
  simp only [Frame.screen, Frame.screenPorts, haccepts]

/-- **Tables of ports.** A list makes a table exactly if it `Fits`. The table accepts just these
ports and the well-known one, is known by them, and screens every frame as that of any list of the
same ports. Any other list has the error of its first port at fault, whatever comes behind. -/
theorem ofList_holds_extras (ports : List UInt16) :
    ((∃ t, ofList ports = .ok t) ↔ 0 ∉ ports ∧ (extras ports).length ≤ 8) ∧
    (∀ t, ofList ports = .ok t →
      t.extra = extras ports ∧
      (∀ p, t.contains p = true ↔ p = 862 ∨ p ∈ ports) ∧ t.contains 0 = false ∧
      (∀ a b, t.accepts a b = t.accepts b a) ∧
      (∀ i (h : i < 8), t.count ≤ i → t.slots[i] = 0) ∧
      ∀ ports' u, ofList ports' = .ok u →
        (t = u ↔ t.extra = u.extra) ∧
        ((∀ p, p ∈ ports ↔ p ∈ ports') → ∀ (f : Frame) (s : Settings),
          f.screen { s with ports := t } = f.screen { s with ports := u })) ∧
    ∀ e, ofList ports = .error e ↔
      ∃ before port after, ports = before ++ port :: after ∧ Fits before ∧ Fault before port e := by
  refine ⟨⟨fun ⟨t, ht⟩ => (holds_of_ofList ht).fits, ofList_of_fits⟩, fun t ht => ?_,
    ofList_eq_error_iff ports⟩
  have hholds := holds_of_ofList ht
  refine ⟨hholds.extra, hholds.contains_iff, ?_, accepts_comm t, hholds.free,
    fun ports' u hu => ⟨hholds.eq_iff (holds_of_ofList hu), fun hsame => ?_⟩⟩
  · exact Bool.eq_false_iff.2 (mt (hholds.contains_iff 0).1
      (not_or.2 ⟨by decide, hholds.nonzero⟩))
  · refine screen_of_contains_eq fun p => ?_
    rw [Bool.eq_iff_iff, hholds.contains_iff, (holds_of_ofList hu).contains_iff, hsame]

/-- Two ports in either order, and a ninth port before and behind a zero. -/
theorem ofList_holds_extras_samples :
    (∃ t u, ofList [4000, 4001, 4000, 862] = .ok t ∧ ofList [862, 4001, 4000] = .ok u ∧
      t.extra = [4000, 4001] ∧ t ≠ u ∧ ∀ (f : Frame) (s : Settings),
        f.screen { s with ports := t } = f.screen { s with ports := u }) ∧
      ofList [1, 2, 3, 4, 5, 6, 7, 8, 8, 9, 0] = .error (.tooManyPorts 9 8) ∧
      ofList [1, 2, 0, 3, 4, 5, 6, 7, 8, 9] = .error .zeroPort := by
  obtain ⟨hmakes, hholds, -⟩ := ofList_holds_extras [4000, 4001, 4000, 862]
  obtain ⟨hmakes', hholds', -⟩ := ofList_holds_extras [862, 4001, 4000]
  obtain ⟨t, ht⟩ := hmakes.2 (by decide)
  obtain ⟨u, hu⟩ := hmakes'.2 (by decide)
  obtain ⟨hextra, -, -, -, -, hother⟩ := hholds t ht
  obtain ⟨hextra', -⟩ := hholds' u hu
  obtain ⟨heq, hscreen⟩ := hother _ u hu
  refine ⟨⟨t, u, ht, hu, hextra, fun htu => ?_, hscreen fun p => ?_⟩, ?_, ?_⟩
  · have hsame := heq.1 htu
    rw [hextra, hextra'] at hsame
    exact absurd hsame (by decide)
  · simp only [List.mem_cons, List.not_mem_nil, or_false]
    grind
  · exact ((ofList_holds_extras _).2.2 _).2 ⟨[1, 2, 3, 4, 5, 6, 7, 8, 8], 9, [0], rfl, by decide,
      .ninth (by decide) (by decide) (by decide)⟩
  · exact ((ofList_holds_extras _).2.2 _).2 ⟨[1, 2], 0, [3, 4, 5, 6, 7, 8, 9], rfl, by decide,
      .zero⟩

end TwoWay.PortTable
