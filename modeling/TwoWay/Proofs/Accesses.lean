import TwoWay.Proofs.Answers
import TwoWay.Proofs.Codecs
import TwoWay.Proofs.Confinement

/-!
# Accesses to a frame

**Theorem (`accesses_bounded`).** A frame is a memory of octets with a bound. Where the end of an
access is computed in words of 64 bits, a sum that is not a word is refused and never taken for a
small one (`load_eq_permit`).
-/

namespace TwoWay

def Truncation.Lacks (t : Truncation) : Prop := t.available < t.needed

namespace Frame

variable {n : Nat}

/-! ## Ends of accesses -/

/-- An access checked in words: its end is a sum of two words, which has to be a word. -/
def permit (f : Frame) (start count : UInt64) : Except Truncation Unit :=
  match addWord start count with
  | some stop => f.require stop.toNat
  | none => .error ⟨maxPosition, f.size⟩

theorem permit_of_word (f : Frame) {start count : UInt64}
    (h : start.toNat + count.toNat ≤ maxUInt64) :
    f.permit start count = f.require (start.toNat + count.toNat) := by
  have hstop : (start + count).toNat = start.toNat + count.toNat := by
    simp only [UInt64.toNat_add, maxUInt64] at h ⊢
    omega
  rw [permit, addWord_of_le h, ← hstop]

theorem permit_of_le {f : Frame} (hf : f.octets.size ≤ 9223372036854775807) {start count : UInt64}
    (h : start.toNat + count.toNat ≤ f.size) : f.permit start count = .ok () := by
  have hs := f.size_le
  have hword : start.toNat + count.toNat ≤ maxUInt64 := by
    simp only [maxUInt64]
    omega
  rw [permit_of_word f hword]
  exact (require_eq_ok_iff f _).2 h

/-- Whether the end is a word or not, the refusal names the least of it and the last position. -/
theorem permit_of_lt {f : Frame} {start count : UInt64} (h : f.size < start.toNat + count.toNat) :
    f.permit start count =
      .error ⟨min (start.toNat + count.toNat) maxPosition, f.size⟩ := by
  by_cases hword : start.toNat + count.toNat ≤ maxUInt64
  · rw [permit_of_word f hword, require_of_lt f _ h, Nat.min_eq_left hword]
  · have hnone : addWord start count = none := if_neg hword
    rw [permit, hnone, Nat.min_eq_right (Nat.le_of_not_le hword)]

/-- No frame is so large that it matters in which numbers the end of an access is computed. -/
theorem load_eq_permit {f : Frame} (hf : f.octets.size ≤ 9223372036854775807)
    (start count : UInt64) :
    (f.load start.toNat count.toNat).map (fun _ => ()) = f.permit start count := by
  by_cases hsize : start.toNat + count.toNat ≤ f.size
  · rw [load_of_le f hsize, permit_of_le hf hsize]
    rfl
  · rw [load_of_lt f (Nat.lt_of_not_le hsize), permit_of_lt (Nat.lt_of_not_le hsize)]
    rfl

theorem store_eq_permit {f : Frame} (hf : f.octets.size ≤ 9223372036854775807)
    (start count : UInt64) (v : Octets count.toNat) :
    store start.toNat v f =
      match f.permit start count with
      | .ok () => .ok () (f.write start.toNat v)
      | .error t => .error t f := by
  by_cases hsize : start.toNat + count.toNat ≤ f.size
  · rw [store_of_le f _ v hsize, permit_of_le hf hsize]
  · rw [store_of_lt f _ v (Nat.lt_of_not_le hsize), permit_of_lt (Nat.lt_of_not_le hsize)]

theorem load_eq_ok_iff (f : Frame) (start n : Nat) :
    (∃ v, f.load start n = .ok v) ↔ start + n ≤ f.size := by
  by_cases h : start + n ≤ f.size
  · simp [load_of_le f h, h]
  · simp [load_of_lt f (Nat.lt_of_not_le h), h]

theorem store_eq_ok_iff (f : Frame) (start : Nat) (v : Octets n) (g : Frame) :
    store start v f = .ok () g ↔ start + n ≤ f.size ∧ g = f.write start v := by
  by_cases h : start + n ≤ f.size
  · simp [store_of_le f start v h, h, eq_comm]
  · simp [store_of_lt f start v (Nat.lt_of_not_le h), h]

theorem getElem?_of_load {f : Frame} {start : Nat} {v : Octets n} (h : f.load start n = .ok v)
    (i : Nat) (hi : i < n) : f.octets[start + i]? = some v[i] := by
  have hs := f.size_le
  have hsize := (load_eq_ok_iff f start n).1 ⟨v, h⟩
  rw [load_of_le f hsize] at h
  cases h
  rw [getElem_cut, Array.getElem?_eq_getElem (by omega)]

theorem load16_of_store16 {f g : Frame} {start : Nat} {word : UInt16}
    (h : store16 start word f = .ok () g) : g.load16 start = .ok word := by
  obtain ⟨hsize, rfl⟩ := (store_eq_ok_iff f start (Octets.ofWord16 word) g).1 h
  rw [load16, load_write_self f start _ hsize]
  exact congrArg Except.ok (Octets.word16_ofWord16 word)

/-! ## What is refused -/

theorem lacks_of_require {f : Frame} {stop : Nat} {t : Truncation}
    (h : f.require stop = .error t) : t.Lacks := by
  rw [require_eq_check, Truncation.check_eq_error_iff] at h
  obtain ⟨rfl, hlacks⟩ := h
  exact hlacks

/-- The bound on positions is beyond any frame, so it lacks too if the end does. -/
theorem lacks_min {f : Frame} (hf : f.octets.size ≤ 9223372036854775807) {stop : Nat}
    (h : f.size < stop) : (⟨min stop maxPosition, f.size⟩ : Truncation).Lacks := by
  have hs := f.size_le
  simp only [Truncation.Lacks, maxPosition]
  omega

theorem lacks_of_load {f : Frame} (hf : f.octets.size ≤ 9223372036854775807) {start n : Nat}
    {t : Truncation} (h : f.load start n = .error t) : t.Lacks := by
  by_cases hsize : start + n ≤ f.size
  · rw [load_of_le f hsize] at h
    cases h
  · have hlt := Nat.lt_of_not_le hsize
    rw [load_of_lt f hlt] at h
    cases h
    exact lacks_min hf hlt

theorem lacks_of_store {f g : Frame} (hf : f.octets.size ≤ 9223372036854775807) {start : Nat}
    {v : Octets n} {t : Truncation} (h : store start v f = .error t g) : t.Lacks := by
  by_cases hsize : start + n ≤ f.size
  · rw [store_of_le f start v hsize] at h
    cases h
  · have hlt := Nat.lt_of_not_le hsize
    rw [store_of_lt f start v hlt] at h
    cases h
    exact lacks_min hf hlt

theorem lacks_of_map {α β : Type} {r : Except Truncation α} {k : α → β} {t : Truncation}
    (hr : r = .error t → t.Lacks) (h : r.map k = .error t) : t.Lacks := by
  cases r with
  | error e =>
    cases h
    exact hr rfl
  | ok a => cases h

theorem lacks_of_route {f : Frame} {t : Truncation} (h : f.route = .error t) : t.Lacks := by
  by_cases hsize : 34 ≤ f.size
  · rw [route_eq f hsize] at h
    cases h
  · have hlt := Nat.lt_of_not_le hsize
    rw [route_of_lt f hlt] at h
    cases h
    exact hlt

theorem lacks_of_checkLengths {f : Frame} {t : Truncation} (h : f.checkLengths = .error t) :
    t.Lacks := by
  obtain ⟨before, after, -, -, hlacks⟩ := (checkLengths_eq_error_iff f t).1 h
  exact hlacks

theorem lacks_of_screen {f : Frame} {s : Settings} {t : Truncation}
    (h : f.screen s = .error (.truncated t)) : t.Lacks := by
  rw [screen_eq, forM_eq_error_iff] at h
  obtain ⟨before, c, after, -, -, hc⟩ := h
  obtain ⟨hsize, hlt⟩ := Check.eq_size_of_truncated hc
  rw [hsize, Check.run_size_of_lt hlt] at hc
  have ht : (⟨t.needed, f.size⟩ : Truncation) = t := by
    simpa only [Except.error.injEq, Refusal.truncated.injEq] using hc
  exact ht ▸ hlt

theorem lacks_of_answer {f g : Frame} {received sent : Timestamp} {estimate : ErrorEstimate}
    {t : Truncation} (h : answer received sent estimate f = .error t g) : t.Lacks := by
  cases hlengths : f.checkLengths with
  | error e =>
    rw [answer_of_error hlengths] at h
    cases h
    exact lacks_of_checkLengths hlengths
  | ok u =>
    rw [answer_eq f hlengths] at h
    cases h

theorem lacks_of_exchangePorts {f g : Frame} {t : Truncation}
    (h : exchangePorts f = .error t g) : t.Lacks := by
  by_cases hsize : 42 ≤ f.size
  · rw [exchangePorts_eq f hsize] at h
    cases h
  · have hlt := Nat.lt_of_not_le hsize
    rw [exchangePorts_of_lt hlt] at h
    cases h
    exact hlt

/-! ## Operations -/

namespace Operation

theorem lacks_of_view {α : Type} {view : Except Truncation α} {outcome : α → Outcome} {f : Frame}
    {t : Truncation} (hview : view = .error t → t.Lacks)
    (h : (ofView view outcome f).1 = .error (.truncated t)) : t.Lacks := by
  cases view with
  | error e =>
    cases h
    exact hview rfl
  | ok a => cases h

theorem lacks_of_edit {α : Type} {edit : Edit α} {outcome : α → Outcome} {f : Frame}
    {t : Truncation} (hedit : ∀ g, edit f = .error t g → t.Lacks)
    (h : (ofEdit edit outcome f).1 = .error (.truncated t)) : t.Lacks := by
  rw [ofEdit] at h
  cases hresult : edit f with
  | ok a g =>
    rw [hresult] at h
    cases h
  | error e g =>
    rw [hresult] at h
    cases h
    exact hedit g hresult

theorem lacks_of_truncated {operation : Operation} {f : Frame}
    (hf : f.octets.size ≤ 9223372036854775807) {t : Truncation}
    (h : (operation.run f).1 = .error (.truncated t)) : t.Lacks := by
  -- A look or a change has its one way to be refused; only the screening also finds mismatches.
  cases operation with
  | describe => cases h
  | require stop => exact lacks_of_view lacks_of_require h
  | load start count => exact lacks_of_view (lacks_of_load hf) h
  | load8 start => exact lacks_of_view (lacks_of_map (lacks_of_load hf)) h
  | load16 start => exact lacks_of_view (lacks_of_map (lacks_of_load hf)) h
  | load32 start => exact lacks_of_view (lacks_of_map (lacks_of_load hf)) h
  | store start octets => exact lacks_of_edit (fun _ => lacks_of_store hf) h
  | store16 start word => exact lacks_of_edit (fun _ => lacks_of_store hf) h
  | route => exact lacks_of_view lacks_of_route h
  | screen settings =>
    cases hscreen : f.screen settings with
    | error e =>
      rw [run, hscreen] at h
      cases h
      exact lacks_of_screen hscreen
    | ok u =>
      rw [run, hscreen] at h
      cases h
  | checkLengths => exact lacks_of_view lacks_of_checkLengths h
  | answer received sent estimate => exact lacks_of_edit (fun _ => lacks_of_answer) h
  | turnBack => cases h
  | exchangePorts => exact lacks_of_edit (fun _ => lacks_of_exchangePorts) h

end Operation

theorem lacks_of_mem_outcomes {f : Frame} (hf : f.octets.size ≤ 9223372036854775807)
    {operations : List Operation} {t : Truncation}
    (h : .error (.truncated t) ∈ f.outcomes operations) : t.Lacks := by
  induction operations generalizing f with
  | nil => cases h
  | cons operation rest ih =>
    rw [outcomes_operation, List.mem_cons] at h
    rcases h with hfirst | hrest
    · exact Operation.lacks_of_truncated hf hfirst.symm
    -- No operation changes the length of the buffer, so its bound carries over to the rest.
    · refine ih ?_ hrest
      rw [(operation.changedOnly_run f).size_octets]
      exact hf

/-- **Accesses.** Octets are loaded and stored exactly if they end within the frame, and a refusal
names that end or the last position. What is stored can be loaded, and ranges apart from it are as
they were. In any run, what is refused as too short needs more than there is. -/
theorem accesses_bounded (f : Frame) (hf : f.octets.size ≤ 9223372036854775807) :
    (∀ (start : UInt64) (n : Nat),
      ((∃ v, f.load start.toNat n = .ok v) ↔ start.toNat + n ≤ f.size) ∧
      (∀ v, f.load start.toNat n = .ok v →
        ∀ i (hi : i < n), f.octets[start.toNat + i]? = some v[i]) ∧
      (f.size < start.toNat + n →
        f.load start.toNat n =
          .error ⟨min (start.toNat + n) 18446744073709551615, f.size⟩)) ∧
    (∀ (start : UInt64) (n : Nat) (v : Octets n),
      ((∃ g, store start.toNat v f = .ok () g) ↔ start.toNat + n ≤ f.size) ∧
      (f.size < start.toNat + n →
        store start.toNat v f =
          .error ⟨min (start.toNat + n) 18446744073709551615, f.size⟩ f) ∧
      ∀ g, store start.toNat v f = .ok () g →
        g.load start.toNat n = .ok v ∧
        ∀ first count, Apart start.toNat n first count →
          g.load first count = f.load first count) ∧
    (∀ start count : UInt64,
      (f.load start.toNat count.toNat).map (fun _ => ()) = f.permit start count ∧
      ∀ v : Octets count.toNat, store start.toNat v f =
        match f.permit start count with
        | .ok () => .ok () (f.write start.toNat v)
        | .error t => .error t f) ∧
    (∀ start word g, store16 start word f = .ok () g → g.load16 start = .ok word) ∧
    ∀ operations t, .error (.truncated t) ∈ f.outcomes operations → t.Lacks := by
  refine ⟨fun start n => ⟨load_eq_ok_iff f _ n, fun v => getElem?_of_load, load_of_lt f⟩,
    fun start n v => ⟨?_, store_of_lt f _ v, ?_⟩,
    fun start count => ⟨load_eq_permit hf start count, store_eq_permit hf start count⟩,
    fun start word g => load16_of_store16, fun operations t => lacks_of_mem_outcomes hf⟩
  · simp only [store_eq_ok_iff]
    exact ⟨fun ⟨_, hsize, _⟩ => hsize, fun hsize => ⟨_, hsize, rfl⟩⟩
  · intro g hg
    obtain ⟨hsize, rfl⟩ := (store_eq_ok_iff f _ v g).1 hg
    exact ⟨load_write_self f _ v hsize, fun first count => load_write_of_apart f _ v⟩

/-- A word in the last two octets of the sample, an access at the last position there is, and a word
across the end, which needs one octet more than there is. -/
theorem accesses_bounded_of_sample :
    sample.octets.size ≤ 9223372036854775807 ∧
      sample.load 18446744073709551615 1 = .error ⟨18446744073709551615, 87⟩ ∧
      (∃ v, sample.load 87 0 = .ok v) ∧
      (∃ g, store 85 (Octets.ofWord16 0xABCD) sample = .ok () g ∧ g.load16 85 = .ok 0xABCD ∧
        g.load 0 85 = sample.load 0 85) ∧
      .error (.truncated ⟨88, 87⟩) ∈ sample.outcomes [.load 80 4, .store16 86 1] ∧
      (⟨88, 87⟩ : Truncation).Lacks := by
  have hf : sample.octets.size ≤ 9223372036854775807 := by decide
  obtain ⟨hload, hstore, -, hword, hruns⟩ := accesses_bounded sample hf
  have hacross : .error (.truncated ⟨88, 87⟩) ∈ sample.outcomes [.load 80 4, .store16 86 1] :=
    .tail _ (.head _)
  refine ⟨hf, (hload 18446744073709551615 1).2.2 (by decide), (hload 87 0).1.2 (by decide), ?_,
    hacross, hruns _ _ hacross⟩
  obtain ⟨hfits, -, hstored⟩ := hstore 85 2 (Octets.ofWord16 0xABCD)
  obtain ⟨g, hg⟩ := hfits.2 (by decide)
  have hapart : Apart 85 2 0 85 := fun i hi hfirst => by omega
  exact ⟨g, hg, hword 85 0xABCD g hg, (hstored g hg).2 0 85 hapart⟩

end Frame

end TwoWay
