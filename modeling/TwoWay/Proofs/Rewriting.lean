import TwoWay.Proofs.Checks
import TwoWay.Reflector.Basic

/-!
# What a reply does to a frame

**Theorem (`reflect_eq`).** On a frame with sound lengths the whole rewriting succeeds, and what it
leaves is described block by block in `replied`. Each change is a pure function of the frame, which
is its effect under the bounds that the checks establish (`answer_eq`, `turnBack_eq`).
-/

namespace TwoWay.Frame

variable {n : Nat}

/-! ## Running edits -/

theorem bind_of_ok {α β : Type} {x : Edit α} {f g : Frame} {a : α} (h : x f = .ok a g)
    (k : α → Edit β) : (x >>= k) f = k a g := by
  simp [bind, EStateM.bind, h]

theorem bind_look {α β : Type} {view : Frame → Except Truncation α} {f : Frame} {a : α}
    (h : view f = .ok a) (k : α → Edit β) : (look view >>= k) f = k a f :=
  bind_of_ok (by simp [look, h]) k

/-- A change that begins with a look goes no further if the look is refused. -/
theorem bind_look_error {α β : Type} {view : Frame → Except Truncation α} {f : Frame}
    {e : Truncation} (h : view f = .error e) (k : α → Edit β) :
    (look view >>= k) f = .error e f := by
  simp [bind, EStateM.bind, look, h]

theorem bind_store {β : Type} (f : Frame) (start : Nat) (v : Octets n)
    (h : start + n ≤ f.size) (k : Unit → Edit β) :
    (store start v >>= k) f = k () (f.write start v) :=
  bind_of_ok (store_of_le f start v h) k

theorem modifyGet_eq {α : Type} (step : Frame → α × Frame) (f : Frame) :
    (modifyGet step : Edit α) f = .ok (step f).1 (step f).2 := rfl

/-! ## Exchanges -/

/-- The frame with two blocks of `n` octets exchanged. -/
def exchanged (f : Frame) (a b n : Nat) : Frame :=
  (f.write a (f.block b n)).write b (f.block a n)

@[simp] theorem size_exchanged (f : Frame) (a b n : Nat) : (f.exchanged a b n).size = f.size := rfl

@[simp] theorem interface_exchanged (f : Frame) (a b n : Nat) :
    (f.exchanged a b n).interface = f.interface := rfl

@[simp] theorem size_octets_exchanged (f : Frame) (a b n : Nat) :
    (f.exchanged a b n).octets.size = f.octets.size := by
  simp [exchanged]

theorem exchange_eq (f : Frame) (a b n : Nat) (ha : a + n ≤ f.size) (hb : b + n ≤ f.size) :
    exchange a b n f = .ok () (f.exchanged a b n) := by
  rw [exchange, bind_look (load_eq_block f a n ha), bind_look (load_eq_block f b n hb),
    bind_store f a _ ha]
  exact store_of_le (f.write a (f.block b n)) b (f.block a n) hb

theorem block_exchanged_left {f : Frame} {a b : Nat} (ha : a + n ≤ f.octets.size)
    (hb : b + n ≤ f.octets.size) (hd : a + n ≤ b ∨ b + n ≤ a) :
    (f.exchanged a b n).block a n = f.block b n := by
  rw [exchanged, block_write_of_disjoint _ _ (by simpa using hb) hd, block_write_self _ _ ha]

theorem block_exchanged_right {f : Frame} {a b : Nat} (hb : b + n ≤ f.octets.size) :
    (f.exchanged a b n).block b n = f.block a n := by
  rw [exchanged, block_write_self _ _ (by simpa using hb)]

theorem block_exchanged_of_disjoint {f : Frame} {a b : Nat} (ha : a + n ≤ f.octets.size)
    (hb : b + n ≤ f.octets.size) {first count : Nat}
    (hda : first + count ≤ a ∨ a + n ≤ first) (hdb : first + count ≤ b ∨ b + n ≤ first) :
    (f.exchanged a b n).block first count = f.block first count := by
  rw [exchanged, block_write_of_disjoint _ _ (by simpa using hb) hdb,
    block_write_of_disjoint _ _ ha hda]

theorem exchanged_of_eq {f : Frame} {a b : Nat} (ha : a + n ≤ f.octets.size)
    (hb : b + n ≤ f.octets.size) (h : f.block a n = f.block b n) : f.exchanged a b n = f := by
  rw [exchanged, ← h, write_block_self f ha, h, write_block_self f hb]

/-! ## The way back -/

def turned (f : Frame) : Frame := (f.exchanged 26 30 4).exchanged 6 0 6

@[simp] theorem size_turned (f : Frame) : f.turned.size = f.size := rfl

@[simp] theorem interface_turned (f : Frame) : f.turned.interface = f.interface := rfl

@[simp] theorem size_octets_turned (f : Frame) : f.turned.octets.size = f.octets.size := by
  simp [turned]

/-- Between the ends on the link and those in the network, and behind them, nothing is touched. -/
theorem block_turned_of_disjoint {f : Frame} (h : 34 ≤ f.octets.size) {first count : Nat}
    (hd : 12 ≤ first ∧ first + count ≤ 26 ∨ 34 ≤ first) :
    f.turned.block first count = f.block first count := by
  rw [turned, block_exchanged_of_disjoint (by simp; omega) (by simp; omega) (by omega) (by omega),
    block_exchanged_of_disjoint (by omega) (by omega) (by omega) (by omega)]

theorem turnBack_eq (f : Frame) (h : 34 ≤ f.size) :
    f.turnBack = (.redirect f.interface, f.turned) := by
  have hroute : exchangeAddresses f = .ok () f.turned := by
    rw [exchangeAddresses, bind_look (require_of_le f (Ipv4.headerAt + Ipv4.headerSize) h),
      bind_of_ok (exchange_eq f Ipv4.sourceAt Ipv4.destinationAt Ipv4.addressSize
        (Nat.le_trans (by decide) h) (Nat.le_trans (by decide) h)),
      bind_look (require_of_le _ Ethernet.headerSize (Nat.le_trans (by decide) h))]
    exact exchange_eq (f.exchanged 26 30 4) 6 0 6 (by simp; omega) (by simp; omega)
  rw [turnBack, hroute]
  rfl

theorem turnBack_of_lt {f : Frame} (h : f.size < 34) : f.turnBack = (.pass, f) := by
  have hroute : exchangeAddresses f = .error ⟨34, f.size⟩ f :=
    bind_look_error (require_of_lt f 34 h) _
  rw [turnBack, hroute]

theorem word_eq_word_iff (f g : Frame) (i j : Nat) :
    f.word i = g.word j ↔ f.block i 2 = g.block j 2 := by
  refine ⟨fun h => ?_, fun h => congrArg Octets.word16 h⟩
  rw [← Octets.ofWord16_word16 (f.block i 2), ← Octets.ofWord16_word16 (g.block j 2)]
  exact congrArg Octets.ofWord16 h

theorem ofWord16_word (f : Frame) (i : Nat) : Octets.ofWord16 (f.word i) = f.block i 2 := by
  rw [word, Octets.ofWord16_word16]

/-- The ports are exchanged, whether or not they differ: equal ones stay as they are. -/
theorem exchangePorts_eq (f : Frame) (h : 42 ≤ f.size) :
    exchangePorts f = .ok (decide (f.word 34 ≠ f.word 36)) (f.exchanged 34 36 2) := by
  have hs := f.size_le
  rw [exchangePorts, bind_look (require_of_le f (Udp.headerAt + Udp.headerSize) h),
    bind_look (load16_eq_word f Udp.sourceAt (Nat.le_trans (by decide) h)),
    bind_look (load16_eq_word f Udp.destinationAt (Nat.le_trans (by decide) h))]
  by_cases heq : f.word Udp.sourceAt = f.word Udp.destinationAt
  · have hblock := (word_eq_word_iff f f 34 36).1 heq
    have hports : decide (f.word 34 ≠ f.word 36) = false := decide_eq_false (not_not_intro heq)
    rw [if_pos heq, hports, exchanged_of_eq (by omega) (by omega) hblock]
    rfl
  · have hports : decide (f.word 34 ≠ f.word 36) = true := decide_eq_true heq
    rw [if_neg heq, hports, store16, store16, ofWord16_word, ofWord16_word,
      bind_store f Udp.sourceAt _ (Nat.le_trans (by decide) h)]
    exact bind_store (f.write 34 (f.block 36 2)) 36 (f.block 34 2) (by simp; omega) _

theorem exchangePorts_of_lt {f : Frame} (h : f.size < 42) :
    exchangePorts f = .error ⟨42, f.size⟩ f :=
  bind_look_error (require_of_lt f 42 h) _

/-! ## The answer in place -/

def replyTo (f : Frame) (received sent : Timestamp) (estimate : ErrorEstimate) : Reply :=
  (Probe.ofOctets (f.block 42 44)).answer received sent estimate (f.octet 22)

/-- The checksum field once the record has been overwritten: corrected, or zero if it was. -/
def revisedCheck (f : Frame) (record : Octets Reply.size) : UInt16 :=
  if f.word 40 = 0 then 0
  else Checksum.replace (f.word 40) (Octets.words (f.block 42 44).toList)
    (Octets.words record.toList)

/-- The frame with the record overwritten and the checksum corrected for it. -/
def answered (f : Frame) (record : Octets Reply.size) : Frame :=
  (f.write 42 record).write 40 (Octets.ofWord16 (f.revisedCheck record))

@[simp] theorem size_answered (f : Frame) (record : Octets Reply.size) :
    (f.answered record).size = f.size := rfl

@[simp] theorem interface_answered (f : Frame) (record : Octets Reply.size) :
    (f.answered record).interface = f.interface := rfl

@[simp] theorem size_octets_answered (f : Frame) (record : Octets Reply.size) :
    (f.answered record).octets.size = f.octets.size := by
  simp [answered]

/-- A checksum field of zero is left alone, which is to write what stands there. -/
theorem answered_of_zero {f : Frame} (record : Octets Reply.size) (h : 86 ≤ f.octets.size)
    (hzero : f.word 40 = 0) : f.answered record = f.write 42 record := by
  have hfield : Octets.ofWord16 (f.revisedCheck record) = (f.write 42 record).block 40 2 := by
    rw [revisedCheck, if_pos hzero, ← hzero, ofWord16_word,
      block_write_of_disjoint f record h (by omega)]
  rw [answered, hfield, write_block_self _ (by simp; omega)]

theorem answer_eq (f : Frame) (h : f.checkLengths = .ok ()) (received sent : Timestamp)
    (estimate : ErrorEstimate) :
    answer received sent estimate f =
      .ok () (f.answered (f.replyTo received sent estimate).octets) := by
  have hsize := ((checkLengths_eq_ok_iff f).1 h).le_size
  have hs := f.size_le
  rw [answer, bind_look h, bind_look (load_eq_block f (recordAt 0) Probe.size hsize),
    bind_look (load8_eq_octet f Ipv4.ttlAt (Nat.le_trans (by decide) hsize)),
    bind_look (load16_eq_word f Udp.checksumAt (Nat.le_trans (by decide) hsize)),
    bind_store f (recordAt 0) _ hsize]
  by_cases hzero : f.word Udp.checksumAt = 0
  · rw [if_neg (not_not_intro hzero), answered_of_zero _ (by omega) hzero]
    rfl
  · have hcheck : ¬f.word 40 = 0 := hzero
    rw [if_pos hzero, answered, revisedCheck, if_neg hcheck]
    exact store_of_le _ Udp.checksumAt _ (Nat.le_trans (by decide) hsize)

/-! ## The whole rewriting -/

def replied (f : Frame) (record : Octets Reply.size) : Frame :=
  (f.answered record).turned.exchanged 34 36 2

@[simp] theorem size_replied (f : Frame) (record : Octets Reply.size) :
    (f.replied record).size = f.size := by
  simp [replied]

@[simp] theorem interface_replied (f : Frame) (record : Octets Reply.size) :
    (f.replied record).interface = f.interface := by
  simp [replied]

@[simp] theorem size_octets_replied (f : Frame) (record : Octets Reply.size) :
    (f.replied record).octets.size = f.octets.size := by
  simp [replied]

theorem reflect_eq (f : Frame) (h : f.checkLengths = .ok ()) (received sent : Timestamp)
    (estimate : ErrorEstimate) :
    reflect received sent estimate f =
      .ok (.redirect f.interface) (f.replied (f.replyTo received sent estimate).octets) := by
  have hsize := ((checkLengths_eq_ok_iff f).1 h).le_size
  have hanswer := answer_eq f h received sent estimate
  generalize (f.replyTo received sent estimate).octets = record at hanswer ⊢
  have hback : (modifyGet turnBack : Edit Disposition) (f.answered record) =
      .ok (.redirect f.interface) (f.answered record).turned := by
    rw [modifyGet_eq, turnBack_eq _ (by simp; omega)]
    rfl
  rw [reflect, bind_of_ok hanswer, bind_of_ok hback]
  exact bind_of_ok (exchangePorts_eq (f.answered record).turned (by simp; omega)) _

/-! ## The reply, block by block -/

section Blocks

variable {f : Frame} (record : Octets Reply.size) (h : 86 ≤ f.octets.size)
include h

theorem block_answered_of_disjoint {first count : Nat}
    (hd : first + count ≤ 40 ∨ 86 ≤ first) :
    (f.answered record).block first count = f.block first count := by
  rw [answered, block_write_of_disjoint _ _ (by simp; omega) (by omega),
    block_write_of_disjoint f record h (hd.imp_left fun _ => by omega)]

theorem word_answered_check : (f.answered record).word 40 = f.revisedCheck record := by
  rw [word, answered, block_write_self _ _ (by simp; omega), Octets.word16_ofWord16]

theorem block_answered_record : (f.answered record).block 42 44 = record := by
  rw [answered, block_write_of_disjoint _ _ (by simp; omega) (by omega), block_write_self _ _ h]

theorem block_replied_of_disjoint {first count : Nat}
    (hd : 12 ≤ first ∧ first + count ≤ 26 ∨ 38 ≤ first) :
    (f.replied record).block first count = (f.answered record).block first count := by
  rw [replied, block_exchanged_of_disjoint (by simp; omega) (by simp; omega) (by omega) (by omega),
    block_turned_of_disjoint (by simp; omega) (by omega)]

/-- The type, and the header of the packet up to its addresses. -/
theorem block_replied_head : (f.replied record).block 12 14 = f.block 12 14 := by
  rw [block_replied_of_disjoint record h (by omega), block_answered_of_disjoint record h (by omega)]

theorem block_replied_length : (f.replied record).block 38 2 = f.block 38 2 := by
  rw [block_replied_of_disjoint record h (by omega), block_answered_of_disjoint record h (by omega)]

theorem word_replied_check : (f.replied record).word 40 = f.revisedCheck record := by
  rw [word, block_replied_of_disjoint record h (by omega)]
  exact word_answered_check record h

theorem block_replied_record : (f.replied record).block 42 44 = record := by
  rw [block_replied_of_disjoint record h (by omega), block_answered_record record h]

theorem block_replied_tail (n : Nat) : (f.replied record).block 86 n = f.block 86 n := by
  rw [block_replied_of_disjoint record h (by omega), block_answered_of_disjoint record h (by omega)]

end Blocks

/-! ## Ends -/

/-- Where a frame comes from and where it goes to, down to the ports. -/
structure Ends where
  route : Route
  sourcePort : UInt16
  destinationPort : UInt16
deriving DecidableEq

def Ends.reverse (e : Ends) : Ends := ⟨e.route.reverse, e.destinationPort, e.sourcePort⟩

@[simp] theorem Ends.reverse_reverse (e : Ends) : e.reverse.reverse = e := rfl

def ends (f : Frame) : Ends where
  route := ⟨f.block 6 6, f.block 0 6, f.block 26 4, f.block 30 4⟩
  sourcePort := f.word 34
  destinationPort := f.word 36

theorem ends_eq_iff {f g : Frame} :
    g.ends = f.ends ↔
      g.block 6 6 = f.block 6 6 ∧ g.block 0 6 = f.block 0 6 ∧ g.block 26 4 = f.block 26 4 ∧
        g.block 30 4 = f.block 30 4 ∧ g.word 34 = f.word 34 ∧ g.word 36 = f.word 36 := by
  simp only [ends, Ends.mk.injEq, Route.mk.injEq, and_assoc]

/-- Ends the other way about, each field in its counterpart's place. -/
theorem ends_eq_reverse_iff {f g : Frame} :
    g.ends = f.ends.reverse ↔
      g.block 6 6 = f.block 0 6 ∧ g.block 0 6 = f.block 6 6 ∧ g.block 26 4 = f.block 30 4 ∧
        g.block 30 4 = f.block 26 4 ∧ g.word 34 = f.word 36 ∧ g.word 36 = f.word 34 := by
  simp only [ends, Ends.reverse, Route.reverse, Ends.mk.injEq, Route.mk.injEq, and_assoc]

/-- A frame with both headers up to its addresses states its route. -/
theorem route_eq (f : Frame) (h : 34 ≤ f.size) : f.route = .ok f.ends.route := by
  rw [route, require_of_le f Udp.headerAt h,
    load_eq_block f Ethernet.sourceAt Ethernet.addressSize (Nat.le_trans (by decide) h),
    load_eq_block f Ethernet.destinationAt Ethernet.addressSize (Nat.le_trans (by decide) h),
    load_eq_block f Ipv4.sourceAt Ipv4.addressSize (Nat.le_trans (by decide) h),
    load_eq_block f Ipv4.destinationAt Ipv4.addressSize h]
  rfl

theorem route_of_lt (f : Frame) (h : f.size < 34) : f.route = .error ⟨34, f.size⟩ := by
  rw [route, require_of_lt f Udp.headerAt h]
  rfl

theorem ends_turned {f : Frame} (h : 34 ≤ f.octets.size) :
    f.turned.ends = ⟨f.ends.route.reverse, f.ends.sourcePort, f.ends.destinationPort⟩ := by
  have hsize : (f.exchanged 26 30 4).octets.size = f.octets.size := size_octets_exchanged f 26 30 4
  -- Each end is moved by one of the two exchanges and not touched by the other.
  have hsourceMac : f.turned.block 6 6 = f.block 0 6 :=
    (block_exchanged_left (by omega) (by omega) (by omega)).trans
      (block_exchanged_of_disjoint (by omega) (by omega) (by omega) (by omega))
  have hdestinationMac : f.turned.block 0 6 = f.block 6 6 :=
    (block_exchanged_right (by omega)).trans
      (block_exchanged_of_disjoint (by omega) (by omega) (by omega) (by omega))
  have hsourceIp : f.turned.block 26 4 = f.block 30 4 :=
    (block_exchanged_of_disjoint (by omega) (by omega) (by omega) (by omega)).trans
      (block_exchanged_left (by omega) (by omega) (by omega))
  have hdestinationIp : f.turned.block 30 4 = f.block 26 4 :=
    (block_exchanged_of_disjoint (by omega) (by omega) (by omega) (by omega)).trans
      (block_exchanged_right (by omega))
  have hsourcePort : f.turned.word 34 = f.word 34 :=
    congrArg Octets.word16 (block_turned_of_disjoint h (by omega))
  have hdestinationPort : f.turned.word 36 = f.word 36 :=
    congrArg Octets.word16 (block_turned_of_disjoint h (by omega))
  simp only [ends, Route.reverse, hsourceMac, hdestinationMac, hsourceIp, hdestinationIp,
    hsourcePort, hdestinationPort]

theorem ends_exchanged_ports {f : Frame} (h : 38 ≤ f.octets.size) :
    (f.exchanged 34 36 2).ends = ⟨f.ends.route, f.ends.destinationPort, f.ends.sourcePort⟩ := by
  have hroute {first count : Nat} (hd : first + count ≤ 34) :
      (f.exchanged 34 36 2).block first count = f.block first count :=
    block_exchanged_of_disjoint (by omega) (by omega) (by omega) (by omega)
  have hsource : (f.exchanged 34 36 2).word 34 = f.word 36 :=
    congrArg Octets.word16 (block_exchanged_left (by omega) (by omega) (by omega))
  have hdestination : (f.exchanged 34 36 2).word 36 = f.word 34 :=
    congrArg Octets.word16 (block_exchanged_right (by omega))
  simp only [ends, hroute (show 6 + 6 ≤ 34 by decide), hroute (show 0 + 6 ≤ 34 by decide),
    hroute (show 26 + 4 ≤ 34 by decide), hroute (show 30 + 4 ≤ 34 by decide), hsource,
    hdestination]

/-- The ends are stated in the first 38 octets. -/
theorem ends_eq_of_block_eq {f g : Frame}
    (hblock : ∀ {first count : Nat}, first + count ≤ 38 →
      g.block first count = f.block first count) : g.ends = f.ends :=
  ends_eq_iff.2 ⟨hblock (by omega), hblock (by omega), hblock (by omega), hblock (by omega),
    congrArg Octets.word16 (hblock (by omega)), congrArg Octets.word16 (hblock (by omega))⟩

theorem ends_answered {f : Frame} (h : 86 ≤ f.octets.size) (record : Octets Reply.size) :
    (f.answered record).ends = f.ends :=
  ends_eq_of_block_eq fun hd => block_answered_of_disjoint record h (.inl (by omega))

/-- The reply goes back where the probe came from. -/
theorem ends_replied {f : Frame} (h : 86 ≤ f.octets.size) (record : Octets Reply.size) :
    (f.replied record).ends = f.ends.reverse := by
  rw [replied, ends_exchanged_ports (by simp; omega), ends_turned (by simp; omega),
    ends_answered h]
  rfl

end TwoWay.Frame
