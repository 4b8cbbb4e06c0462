import TwoWay.Frame.Header

/-!
# Blocks of a frame

A total view of the buffer under a frame, where whatever lies behind its end reads as zero, so facts
about a frame need not carry bounds along. Within the size of a frame it is what a load gives
(`load_eq_block`), and a write shows in no block apart from it (`block_write_of_disjoint`).
-/

namespace TwoWay.Frame

variable {m n : Nat}

def octet (f : Frame) (i : Nat) : UInt8 := f.octets.getD i 0

/-- The `n` octets of the buffer from `start` on. -/
def block (f : Frame) (start n : Nat) : Octets n :=
  Vector.ofFn fun i => f.octet (start + i.val)

def word (f : Frame) (i : Nat) : UInt16 := (f.block i 2).word16

@[simp] theorem octets_ofPrefix (octets : Array UInt8) (size : Nat) (interface : UInt32) :
    (ofPrefix octets size interface).octets = octets := rfl

@[simp] theorem size_ofPrefix (octets : Array UInt8) (size : Nat) (interface : UInt32) :
    (ofPrefix octets size interface).size = min size octets.size := rfl

/-! ## Octets -/

theorem octet_eq_getElem (f : Frame) {i : Nat} (h : i < f.octets.size) :
    f.octet i = f.octets[i] := by
  simp [octet, Array.getD, h]

@[simp] theorem getElem_block (f : Frame) (start i : Nat) (hi : i < n) :
    (f.block start n)[i] = f.octet (start + i) := by
  simp [block]

theorem block_eq_block {f g : Frame} {a b : Nat}
    (h : ∀ i < n, f.octet (a + i) = g.octet (b + i)) : f.block a n = g.block b n := by
  apply Vector.ext
  intro i hi
  simpa using h i hi

theorem octet_eq_octet {f g : Frame} {a b : Nat} (h : f.block a n = g.block b n) {i : Nat}
    (hi : i < n) : f.octet (a + i) = g.octet (b + i) := by
  have h' := congrArg (fun v : Octets n => v[i]) h
  simpa using h'

theorem block_eq_of_octets_eq {f g : Frame} (h : f.octets = g.octets) (start n : Nat) :
    f.block start n = g.block start n :=
  block_eq_block fun i _ => by rw [octet, octet, h]

theorem block_part {f g : Frame} {a b : Nat} (h : f.block a n = g.block b n) (d : Nat)
    (hd : d + m ≤ n) : f.block (a + d) m = g.block (b + d) m := by
  refine block_eq_block fun i hi => ?_
  have h' := octet_eq_octet h (i := d + i) (by omega)
  simpa only [Nat.add_assoc] using h'

theorem eq_of_octet_eq {f g : Frame} (hs : f.size = g.size) (hi : f.interface = g.interface)
    (ho : f.octets.size = g.octets.size) (h : ∀ i, f.octet i = g.octet i) : f = g := by
  have hf : f.octets = g.octets := by
    refine Array.ext ho fun i hi₁ hi₂ => ?_
    rw [← octet_eq_getElem f hi₁, ← octet_eq_getElem g hi₂, h]
  cases f
  cases g
  simp_all

theorem getElem?_eq_of_octet_eq {f g : Frame} (hsize : f.octets.size = g.octets.size) {i : Nat}
    (h : f.octet i = g.octet i) : f.octets[i]? = g.octets[i]? := by
  by_cases hi : i < f.octets.size
  · rw [octet_eq_getElem f hi, octet_eq_getElem g (by omega)] at h
    rw [Array.getElem?_eq_getElem hi, Array.getElem?_eq_getElem (by omega), h]
  · rw [Array.getElem?_eq_none (by omega), Array.getElem?_eq_none (by omega)]

/-! ## Loads -/

theorem cut_eq_block (f : Frame) (start : Nat) (h : start + n ≤ f.octets.size) :
    f.cut start n h = f.block start n := by
  apply Vector.ext
  intro i hi
  rw [getElem_cut, getElem_block, octet_eq_getElem]

theorem load_eq_block (f : Frame) (start n : Nat) (h : start + n ≤ f.size) :
    f.load start n = .ok (f.block start n) := by
  rw [load_of_le f h, cut_eq_block]

theorem load8_eq_octet (f : Frame) (start : Nat) (h : start + 1 ≤ f.size) :
    f.load8 start = .ok (f.octet start) := by
  simp [load8, load_eq_block f _ _ h, Except.map]

theorem load16_eq_word (f : Frame) (start : Nat) (h : start + 2 ≤ f.size) :
    f.load16 start = .ok (f.word start) := by
  rw [load16, load_eq_block f _ _ h]
  rfl

theorem load16_of_lt (f : Frame) (start : Nat) (h : f.size < start + 2) :
    f.load16 start = .error ⟨min (start + 2) maxPosition, f.size⟩ := by
  rw [load16, load_of_lt f h]
  rfl

theorem require_of_le (f : Frame) (stop : Nat) (h : stop ≤ f.size) : f.require stop = .ok () :=
  if_pos h

theorem require_of_lt (f : Frame) (stop : Nat) (h : f.size < stop) :
    f.require stop = .error ⟨stop, f.size⟩ :=
  if_neg (Nat.not_le.2 h)

/-! ## Writes -/

theorem octet_write (f : Frame) {start : Nat} (v : Octets n) (h : start + n ≤ f.octets.size)
    (i : Nat) :
    (f.write start v).octet i =
      if h : start ≤ i ∧ i < start + n then v[i - start] else f.octet i := by
  by_cases hi : i < f.octets.size
  · rw [octet_eq_getElem _ (by simpa using hi), getElem_octets_write f start v i hi,
      octet_eq_getElem f hi]
  · rw [dif_neg (by omega)]
    simp [octet, Array.getD, hi]

theorem octet_write_of_disjoint (f : Frame) {start : Nat} (v : Octets n)
    (h : start + n ≤ f.octets.size) {i : Nat} (hd : i < start ∨ start + n ≤ i) :
    (f.write start v).octet i = f.octet i := by
  rw [octet_write f v h, dif_neg (by omega)]

theorem block_write_self (f : Frame) {start : Nat} (v : Octets n)
    (h : start + n ≤ f.octets.size) : (f.write start v).block start n = v := by
  apply Vector.ext
  intro i hi
  rw [getElem_block, octet_write f v h, dif_pos (by omega)]
  simp

theorem block_write_of_disjoint (f : Frame) {start : Nat} (v : Octets n)
    (h : start + n ≤ f.octets.size) {first count : Nat}
    (hd : first + count ≤ start ∨ start + n ≤ first) :
    (f.write start v).block first count = f.block first count :=
  block_eq_block fun i hi => octet_write_of_disjoint f v h (by omega)

/-- Writing what is there already changes nothing. -/
theorem write_block_self (f : Frame) {start : Nat} (h : start + n ≤ f.octets.size) :
    f.write start (f.block start n) = f := by
  refine eq_of_octet_eq rfl rfl (by simp) fun i => ?_
  rw [octet_write f _ h]
  split
  · next hi =>
    rw [getElem_block]
    congr 1
    omega
  · rfl

/-! ## Blocks in a row -/

theorem toList_block_add (f : Frame) (start m n : Nat) :
    (f.block start (m + n)).toList =
      (f.block start m).toList ++ (f.block (start + m) n).toList := by
  refine List.ext_getElem (by simp) fun i hi₁ hi₂ => ?_
  rw [List.getElem_append]
  split
  · simp
  · next h =>
    simp only [Vector.length_toList] at h
    simp only [Vector.getElem_toList, getElem_block, Vector.length_toList]
    congr 1
    omega

theorem toList_octets (f : Frame) : f.octets.toList = (f.block 0 f.octets.size).toList := by
  refine List.ext_getElem (by simp) fun i hi₁ hi₂ => ?_
  simp only [Array.getElem_toList, Vector.getElem_toList, getElem_block, Nat.zero_add]
  rw [octet_eq_getElem]

end TwoWay.Frame
