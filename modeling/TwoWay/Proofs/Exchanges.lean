import TwoWay.Proofs.Answers
import TwoWay.Proofs.Confinement

/-!
# Exchanges undo themselves

After an exchange the octet at a position is the one that was at its counterpart, so an exchange
made twice changes nothing, and two that share no position commute.

**Theorem (`exchanges_undone`).** Turning a frame back and exchanging its ports undo themselves and
commute, on frames of every size.
-/

namespace TwoWay.Frame

variable {n m : Nat}

/-! ## Positions -/

def InRuns (a b n i : Nat) : Prop := (a ≤ i ∧ i < a + n) ∨ b ≤ i ∧ i < b + n

/-- Where an octet comes from when two runs of `n` octets are exchanged. -/
def counterpart (a b n i : Nat) : Nat :=
  if b ≤ i ∧ i < b + n then a + (i - b)
  else if a ≤ i ∧ i < a + n then b + (i - a)
  else i

theorem counterpart_right {a b i : Nat} (h : b ≤ i ∧ i < b + n) :
    counterpart a b n i = a + (i - b) :=
  if_pos h

theorem counterpart_left {a b i : Nat} (hd : a + n ≤ b ∨ b + n ≤ a) (h : a ≤ i ∧ i < a + n) :
    counterpart a b n i = b + (i - a) := by
  rw [counterpart, if_neg (by omega), if_pos h]

theorem counterpart_of_not_inRuns {a b i : Nat} (h : ¬InRuns a b n i) :
    counterpart a b n i = i := by
  rw [InRuns, not_or] at h
  rw [counterpart, if_neg h.2, if_neg h.1]

theorem counterpart_counterpart {a b : Nat} (hd : a + n ≤ b ∨ b + n ≤ a) (i : Nat) :
    counterpart a b n (counterpart a b n i) = i := by
  by_cases h : InRuns a b n i
  · rcases h with hleft | hright
    · rw [counterpart_left hd hleft, counterpart_right (by omega)]
      omega
    · rw [counterpart_right hright, counterpart_left hd (by omega)]
      omega
  · rw [counterpart_of_not_inRuns h, counterpart_of_not_inRuns h]

theorem inRuns_counterpart {a b i : Nat} (hd : a + n ≤ b ∨ b + n ≤ a) (h : InRuns a b n i) :
    InRuns a b n (counterpart a b n i) := by
  rcases h with hleft | hright
  · rw [counterpart_left hd hleft, InRuns]
    omega
  · rw [counterpart_right hright, InRuns]
    omega

/-- An exchange stays in its runs, so it does not meet one that has other runs. -/
theorem counterpart_comm {a b c d : Nat} (hab : a + n ≤ b ∨ b + n ≤ a)
    (hcd : c + m ≤ d ∨ d + m ≤ c) (h : ∀ i, InRuns a b n i → ¬InRuns c d m i) (i : Nat) :
    counterpart a b n (counterpart c d m i) = counterpart c d m (counterpart a b n i) := by
  by_cases hi : InRuns a b n i
  · rw [counterpart_of_not_inRuns (h i hi),
      counterpart_of_not_inRuns (h _ (inRuns_counterpart hab hi))]
  · have hstays : ¬InRuns a b n (counterpart c d m i) := by
      by_cases hi' : InRuns c d m i
      · exact fun hmeets => h _ hmeets (inRuns_counterpart hcd hi')
      · rwa [counterpart_of_not_inRuns hi']
    rw [counterpart_of_not_inRuns hstays, counterpart_of_not_inRuns hi]

/-! ## Octets -/

theorem octet_exchanged {f : Frame} {a b : Nat} (ha : a + n ≤ f.octets.size)
    (hb : b + n ≤ f.octets.size) (i : Nat) :
    (f.exchanged a b n).octet i = f.octet (counterpart a b n i) := by
  rw [exchanged, octet_write _ _ (by simpa using hb), octet_write _ _ ha, counterpart]
  split
  · rw [getElem_block]
  · split
    · rw [getElem_block]
    · rfl

theorem exchanged_exchanged {f : Frame} {a b : Nat} (ha : a + n ≤ f.octets.size)
    (hb : b + n ≤ f.octets.size) (hd : a + n ≤ b ∨ b + n ≤ a) :
    (f.exchanged a b n).exchanged a b n = f := by
  refine eq_of_octet_eq rfl rfl (by simp) fun i => ?_
  rw [octet_exchanged (by simpa using ha) (by simpa using hb), octet_exchanged ha hb,
    counterpart_counterpart hd]

theorem exchanged_comm {f : Frame} {a b c d : Nat} (ha : a + n ≤ f.octets.size)
    (hb : b + n ≤ f.octets.size) (hc : c + m ≤ f.octets.size) (hd : d + m ≤ f.octets.size)
    (hab : a + n ≤ b ∨ b + n ≤ a) (hcd : c + m ≤ d ∨ d + m ≤ c)
    (h : ∀ i, InRuns a b n i → ¬InRuns c d m i) :
    (f.exchanged a b n).exchanged c d m = (f.exchanged c d m).exchanged a b n := by
  refine eq_of_octet_eq rfl rfl (by simp) fun i => ?_
  rw [octet_exchanged (by simpa using hc) (by simpa using hd), octet_exchanged ha hb,
    octet_exchanged (by simpa using ha) (by simpa using hb), octet_exchanged hc hd,
    counterpart_comm hab hcd h]

/-! ## The way back -/

/-- The two exchanges of the way back, the other way about. -/
theorem turned_eq {f : Frame} (h : 34 ≤ f.octets.size) :
    f.turned = (f.exchanged 6 0 6).exchanged 26 30 4 :=
  exchanged_comm (by omega) (by omega) (by omega) (by omega) (by omega) (by omega)
    fun i => by simp only [InRuns]; omega

theorem turned_turned {f : Frame} (h : 34 ≤ f.octets.size) : f.turned.turned = f := by
  have hnetwork : ((f.exchanged 6 0 6).exchanged 26 30 4).exchanged 26 30 4 = f.exchanged 6 0 6 :=
    exchanged_exchanged (by simp; omega) (by simp; omega) (by omega)
  rw [turned, turned_eq h, hnetwork, exchanged_exchanged (by omega) (by omega) (by omega)]

theorem turned_exchanged_ports {f : Frame} (h : 38 ≤ f.octets.size) :
    f.turned.exchanged 34 36 2 = (f.exchanged 34 36 2).turned := by
  have hnetwork : (f.exchanged 26 30 4).exchanged 34 36 2 =
      (f.exchanged 34 36 2).exchanged 26 30 4 :=
    exchanged_comm (by omega) (by omega) (by omega) (by omega) (by omega) (by omega)
      fun i => by simp only [InRuns]; omega
  have hlink : ((f.exchanged 26 30 4).exchanged 6 0 6).exchanged 34 36 2 =
      ((f.exchanged 26 30 4).exchanged 34 36 2).exchanged 6 0 6 :=
    exchanged_comm (by simp; omega) (by simp; omega) (by simp; omega) (by simp; omega)
      (by omega) (by omega) fun i => by simp only [InRuns]; omega
  rw [turned, turned, hlink, hnetwork]

/-- Ports are exchanged with an effect exactly if they differ. -/
theorem exchanged_ports_ne_iff {f : Frame} (h : 38 ≤ f.octets.size) :
    (f.exchanged 34 36 2).octets ≠ f.octets ↔ f.word 34 ≠ f.word 36 := by
  refine not_congr ⟨fun heq => ?_, fun heq => ?_⟩
  · have hblock := block_eq_of_octets_eq heq 34 2
    rw [block_exchanged_left (by omega) (by omega) (by omega)] at hblock
    exact congrArg Octets.word16 hblock.symm
  · rw [exchanged_of_eq (by omega) (by omega) ((word_eq_word_iff f f 34 36).1 heq)]

/-! ## As operations -/

theorem run_turnBack_of_le {f : Frame} (h : 34 ≤ f.size) :
    Operation.turnBack.run f = (.ok (.disposition (.redirect f.interface)), f.turned) := by
  rw [Operation.run, turnBack_eq f h]

theorem run_turnBack_of_lt {f : Frame} (h : f.size < 34) :
    Operation.turnBack.run f = (.ok (.disposition .pass), f) := by
  rw [Operation.run, turnBack_of_lt h]

theorem run_exchangePorts_of_le {f : Frame} (h : 42 ≤ f.size) :
    Operation.exchangePorts.run f =
      (.ok (.exchanged (f.word 34 ≠ f.word 36)), f.exchanged 34 36 2) := by
  rw [Operation.run, Operation.ofEdit, exchangePorts_eq f h]

theorem run_exchangePorts_of_lt {f : Frame} (h : f.size < 42) :
    Operation.exchangePorts.run f = (.error (.truncated ⟨42, f.size⟩), f) := by
  rw [Operation.run, Operation.ofEdit, exchangePorts_of_lt h]

theorem after_pair (f : Frame) (first second : Operation) :
    f.after [first, second] = (second.run (first.run f).2).2 := rfl

theorem outcomes_pair (f : Frame) (first second : Operation) :
    f.outcomes [first, second] = [(first.run f).1, (second.run (first.run f).2).1] := rfl

theorem after_turnBack_twice (f : Frame) : f.after [.turnBack, .turnBack] = f := by
  rw [after_pair]
  by_cases h : 34 ≤ f.size
  · rw [run_turnBack_of_le h, run_turnBack_of_le (by simpa using h)]
    exact turned_turned (Nat.le_trans h f.size_le)
  · have hlt := Nat.lt_of_not_le h
    rw [run_turnBack_of_lt hlt, run_turnBack_of_lt hlt]

theorem after_exchangePorts_twice (f : Frame) :
    f.after [.exchangePorts, .exchangePorts] = f := by
  have hs := f.size_le
  rw [after_pair]
  by_cases h : 42 ≤ f.size
  · rw [run_exchangePorts_of_le h, run_exchangePorts_of_le (by simpa using h)]
    exact exchanged_exchanged (by omega) (by omega) (by omega)
  · have hlt := Nat.lt_of_not_le h
    rw [run_exchangePorts_of_lt hlt, run_exchangePorts_of_lt hlt]

theorem turnBack_exchangePorts_comm (f : Frame) :
    f.after [.turnBack, .exchangePorts] = f.after [.exchangePorts, .turnBack] ∧
      f.outcomes [.turnBack, .exchangePorts] =
        (f.outcomes [.exchangePorts, .turnBack]).reverse := by
  have hs := f.size_le
  simp only [after_pair, outcomes_pair]
  by_cases hports : 42 ≤ f.size
  · have hroute : 34 ≤ f.size := by omega
    have hword {i : Nat} (hi : 34 ≤ i) : f.turned.word i = f.word i :=
      congrArg Octets.word16 (block_turned_of_disjoint (by omega) (.inr hi))
    rw [run_turnBack_of_le hroute, run_exchangePorts_of_le hports,
      run_exchangePorts_of_le (by simpa using hports), run_turnBack_of_le (by simpa using hroute),
      hword (by decide), hword (by decide)]
    exact ⟨turned_exchanged_ports (by omega), rfl⟩
  -- Too short for its ports, a frame may still have addresses and be turned back.
  · have hlt := Nat.lt_of_not_le hports
    rw [run_exchangePorts_of_lt hlt]
    by_cases hroute : 34 ≤ f.size
    · rw [run_turnBack_of_le hroute, run_exchangePorts_of_lt (by simpa using hlt)]
      exact ⟨rfl, rfl⟩
    · rw [run_turnBack_of_lt (Nat.lt_of_not_le hroute), run_exchangePorts_of_lt hlt]
      exact ⟨rfl, rfl⟩

/-! ## Lengths and acceptance -/

theorem checkLengths_turned {f : Frame} (h : 34 ≤ f.octets.size) :
    f.turned.checkLengths = f.checkLengths := by
  have hdatagram : f.turned.word 38 = f.word 38 :=
    congrArg Octets.word16 (block_turned_of_disjoint h (by omega))
  have hpacket : f.turned.word 16 = f.word 16 :=
    congrArg Octets.word16 (block_turned_of_disjoint h (by omega))
  refine checkLengths_of_lengths_eq ?_
  rw [lengths, lengths, hdatagram, hpacket, size_turned]

theorem checkLengths_exchanged_ports {f : Frame} (h : 38 ≤ f.octets.size) :
    (f.exchanged 34 36 2).checkLengths = f.checkLengths := by
  have hword {i : Nat} (hi : i + 2 ≤ 34 ∨ 38 ≤ i) : (f.exchanged 34 36 2).word i = f.word i :=
    congrArg Octets.word16
      (block_exchanged_of_disjoint (by omega) (by omega) (by omega) (by omega))
  refine checkLengths_of_lengths_eq ?_
  rw [lengths, lengths, hword (by decide), hword (by decide), size_exchanged]

theorem checkLengths_after (f : Frame) {operation : Operation}
    (h : operation ∈ [.turnBack, .exchangePorts]) :
    (f.after [operation]).checkLengths = f.checkLengths := by
  have hs := f.size_le
  show (operation.run f).2.checkLengths = f.checkLengths
  simp only [List.mem_cons, List.not_mem_nil, or_false] at h
  rcases h with rfl | rfl
  · by_cases hsize : 34 ≤ f.size
    · rw [run_turnBack_of_le hsize, checkLengths_turned (by omega)]
    · rw [run_turnBack_of_lt (Nat.lt_of_not_le hsize)]
  · by_cases hsize : 42 ≤ f.size
    · rw [run_exchangePorts_of_le hsize, checkLengths_exchanged_ports (by omega)]
    · rw [run_exchangePorts_of_lt (Nat.lt_of_not_le hsize)]

/-- A frame is accepted for its headers, its ports in whichever order, and its address. -/
theorem screen_eq_ok_iff_of_head_eq {f g : Frame} {s : Settings} (hsize : g.size = f.size)
    (hhead : g.block 12 14 = f.block 12 14)
    (hports : (g.word 34 = f.word 34 ∧ g.word 36 = f.word 36) ∨
      g.word 34 = f.word 36 ∧ g.word 36 = f.word 34)
    (haddress : s.localAddress = none ∨ g.block 30 4 = f.block 30 4) :
    g.screen s = .ok () ↔ f.screen s = .ok () := by
  have htype : g.word 12 = f.word 12 := congrArg Octets.word16 (block_part hhead 0 (by decide))
  have hshape : g.octet 14 = f.octet 14 := octet_eq_octet hhead (i := 2) (by decide)
  have hfragment : g.word 20 = f.word 20 :=
    congrArg Octets.word16 (block_part hhead 8 (by decide))
  have hprotocol : g.octet 23 = f.octet 23 := octet_eq_octet hhead (i := 11) (by decide)
  have hport : (∃ p ∈ [g.word 34, g.word 36], p = 862 ∨ p ∈ s.ports.extra) ↔
      ∃ p ∈ [f.word 34, f.word 36], p = 862 ∨ p ∈ s.ports.extra := by
    simp only [← accepts_iff]
    rcases hports with ⟨hsource, hdestination⟩ | ⟨hsource, hdestination⟩
    · rw [hsource, hdestination]
    · rw [hsource, hdestination, PortTable.accepts_comm]
  have hlocal : (∀ a ∈ s.localAddress, g.block 30 4 = a) ↔
      ∀ a ∈ s.localAddress, f.block 30 4 = a := by
    rcases haddress with hnone | heq
    · simp [hnone]
    · rw [heq]
  rw [screen_eq_ok_iff, screen_eq_ok_iff, hsize, htype, hshape, hfragment, hprotocol, hport, hlocal]

theorem screen_after_exchangePorts (f : Frame) (s : Settings) :
    (f.after [.exchangePorts]).screen s = .ok () ↔ f.screen s = .ok () := by
  have hs := f.size_le
  show (Operation.exchangePorts.run f).2.screen s = .ok () ↔ f.screen s = .ok ()
  by_cases hsize : 42 ≤ f.size
  · have hblock {first count : Nat} (hd : first + count ≤ 34) :
        (f.exchanged 34 36 2).block first count = f.block first count :=
      block_exchanged_of_disjoint (by omega) (by omega) (by omega) (by omega)
    have hsource : (f.exchanged 34 36 2).word 34 = f.word 36 :=
      congrArg Octets.word16 (block_exchanged_left (by omega) (by omega) (by omega))
    have hdestination : (f.exchanged 34 36 2).word 36 = f.word 34 :=
      congrArg Octets.word16 (block_exchanged_right (by omega))
    rw [run_exchangePorts_of_le hsize]
    exact screen_eq_ok_iff_of_head_eq rfl (hblock (by decide)) (.inr ⟨hsource, hdestination⟩)
      (.inr (hblock (by decide)))
  · rw [run_exchangePorts_of_lt (Nat.lt_of_not_le hsize)]

/-- Without a local address nothing asks for the address that the way back changes. -/
theorem screen_after_turnBack (f : Frame) {s : Settings} (hs : s.localAddress = none) :
    (f.after [.turnBack]).screen s = .ok () ↔ f.screen s = .ok () := by
  show (Operation.turnBack.run f).2.screen s = .ok () ↔ f.screen s = .ok ()
  by_cases hsize : 34 ≤ f.size
  · have hblock {first count : Nat} (hd : 12 ≤ first ∧ first + count ≤ 26 ∨ 34 ≤ first) :
        f.turned.block first count = f.block first count :=
      block_turned_of_disjoint (Nat.le_trans hsize f.size_le) hd
    rw [run_turnBack_of_le hsize]
    exact screen_eq_ok_iff_of_head_eq rfl (hblock (by decide))
      (.inl ⟨congrArg Octets.word16 (hblock (by decide)),
        congrArg Octets.word16 (hblock (by decide))⟩) (.inl hs)
  · rw [run_turnBack_of_lt (Nat.lt_of_not_le hsize)]

/-! ## The theorem -/

/-- A frame is turned back if it has its addresses, and then it goes where it came from. -/
theorem turnBack_eq_redirect_iff (f : Frame) (interface : UInt32) :
    f.turnBack.1 = .redirect interface ↔ 34 ≤ f.size ∧ interface = f.interface := by
  by_cases h : 34 ≤ f.size
  · rw [turnBack_eq f h]
    simp [h, eq_comm]
  · rw [turnBack_of_lt (Nat.lt_of_not_le h)]
    simp [h]

theorem exchangePorts_eq_ok_iff (f : Frame) (differed : Bool) (g : Frame) :
    exchangePorts f = .ok differed g ↔
      42 ≤ f.size ∧ differed = decide (f.word 34 ≠ f.word 36) ∧ g = f.exchanged 34 36 2 := by
  by_cases h : 42 ≤ f.size
  · rw [exchangePorts_eq f h]
    simp [h, eq_comm]
  · rw [exchangePorts_of_lt (Nat.lt_of_not_le h)]
    simp [h]

/-- **Exchanges undo themselves.** A frame that has its addresses is turned back, and one that has
the headers has its ports exchanged, which shows exactly if they differ. Either, done twice,
restores the frame, and both commute. The check of the lengths stays what it was, and so does
acceptance, unless the way back meets a local address. -/
theorem exchanges_undone (f : Frame) :
    (∀ interface, f.turnBack.1 = .redirect interface ↔ 34 ≤ f.size ∧ interface = f.interface) ∧
    (34 ≤ f.size → ∃ route, f.route = .ok route ∧ f.turnBack.2.route = .ok route.reverse) ∧
    (f.size < 34 → f.turnBack = (.pass, f)) ∧
    ((∃ differed g, exchangePorts f = .ok differed g) ↔ 42 ≤ f.size) ∧
    (∀ differed g, exchangePorts f = .ok differed g →
      (differed = true ↔ f.word 34 ≠ f.word 36) ∧ (differed = true ↔ g.octets ≠ f.octets)) ∧
    (f.size < 42 → exchangePorts f = .error ⟨42, f.size⟩ f) ∧
    f.after [.turnBack, .turnBack] = f ∧
    f.after [.exchangePorts, .exchangePorts] = f ∧
    f.after [.turnBack, .exchangePorts] = f.after [.exchangePorts, .turnBack] ∧
    f.outcomes [.turnBack, .exchangePorts] = (f.outcomes [.exchangePorts, .turnBack]).reverse ∧
    (∀ operation ∈ [.turnBack, .exchangePorts],
      (f.after [operation]).checkLengths = f.checkLengths) ∧
    (∀ s, (f.after [.exchangePorts]).screen s = .ok () ↔ f.screen s = .ok ()) ∧
    ∀ s, s.localAddress = none →
      ((f.after [.turnBack]).screen s = .ok () ↔ f.screen s = .ok ()) := by
  have hs := f.size_le
  obtain ⟨hframes, houtcomes⟩ := turnBack_exchangePorts_comm f
  refine ⟨turnBack_eq_redirect_iff f, fun h => ?_, turnBack_of_lt, ?_, fun differed g hg => ?_,
    exchangePorts_of_lt, after_turnBack_twice f, after_exchangePorts_twice f, hframes, houtcomes,
    fun operation => checkLengths_after f, screen_after_exchangePorts f,
    fun s => screen_after_turnBack f⟩
  · refine ⟨f.ends.route, route_eq f h, ?_⟩
    rw [turnBack_eq f h, route_eq f.turned h, ends_turned (by omega)]
  · simp only [exchangePorts_eq_ok_iff]
    exact ⟨fun ⟨_, _, h, _⟩ => h, fun h => ⟨_, _, h, rfl, rfl⟩⟩
  · obtain ⟨h, rfl, rfl⟩ := (exchangePorts_eq_ok_iff f differed g).1 hg
    rw [exchanged_ports_ne_iff (by omega), decide_eq_true_eq]
    exact ⟨Iff.rfl, Iff.rfl⟩

/-- The sample, turned back and with its ports exchanged, and cut within its ports. -/
theorem exchanges_undone_of_sample :
    let cut := ofPrefix sampleBuffer 36 7
    (∃ route, sample.turnBack.2.route = .ok route ∧ route.destinationIp = #v[10, 0, 0, 1]) ∧
      sample.after [.turnBack, .turnBack] = sample ∧
      (sample.after [.exchangePorts]).screen default = .ok () ∧
      (sample.after [.turnBack]).screen default = .ok () ∧
      cut.turnBack.1 = .redirect 7 ∧ exchangePorts cut = .error ⟨42, 36⟩ cut := by
  intro cut
  obtain ⟨-, hroute, -, -, -, -, htwice, -, -, -, -, hports, hback⟩ := exchanges_undone sample
  obtain ⟨hredirect, -, -, -, -, hshort, -⟩ := exchanges_undone cut
  have haccepted : sample.screen default = .ok () := rfl
  obtain ⟨route, hthere, hreverse⟩ := hroute (by decide)
  refine ⟨⟨route.reverse, hreverse, ?_⟩, htwice, (hports default).2 haccepted,
    (hback default rfl).2 haccepted, (hredirect 7).2 (by decide), hshort (by decide)⟩
  rw [route_eq sample (by decide)] at hthere
  cases hthere
  decide

end TwoWay.Frame
