import TwoWay.Failure
import TwoWay.Octets

/-!
# Frames

A frame is the first `size` octets of a buffer, and an access past them is refused with the length
it would have taken. Main statements: what is written can be loaded (`load_write_self`), and a load
from elsewhere is not disturbed (`load_write_of_apart`).
-/

namespace TwoWay

/-- A received frame in its buffer, and the interface it came in on. -/
structure Frame where
  octets : Array UInt8
  /-- Number of octets that belong to the frame. -/
  size : Nat
  size_le : size ≤ octets.size
  interface : UInt32
deriving DecidableEq

namespace Frame

variable {n : Nat}

def ofArray (octets : Array UInt8) (interface : UInt32) : Frame :=
  ⟨octets, octets.size, Nat.le_refl _, interface⟩

/-- A frame of at most `size` octets at the start of a buffer. -/
def ofPrefix (octets : Array UInt8) (size : Nat) (interface : UInt32) : Frame :=
  ⟨octets, min size octets.size, Nat.min_le_right _ _, interface⟩

def isEmpty (f : Frame) : Bool := f.size == 0

/-! ## Reading -/

/-- The largest position that an access can ask for. -/
abbrev maxPosition : Nat := 18446744073709551615

def require (f : Frame) (stop : Nat) : Except Truncation Unit :=
  if stop ≤ f.size then .ok () else .error ⟨stop, f.size⟩

/-- The `n` octets of the buffer from `start` on. -/
def cut (f : Frame) (start n : Nat) (h : start + n ≤ f.octets.size) : Octets n :=
  Vector.ofFn fun i => f.octets[start + i.val]

/-- The `n` octets of the frame from `start` on. -/
def load (f : Frame) (start n : Nat) : Except Truncation (Octets n) :=
  if h : start + n ≤ f.size then
    .ok (f.cut start n (Nat.le_trans h f.size_le))
  else
    .error ⟨min (start + n) maxPosition, f.size⟩

def load8 (f : Frame) (start : Nat) : Except Truncation UInt8 :=
  (f.load start 1).map fun v => v[0]

def load16 (f : Frame) (start : Nat) : Except Truncation UInt16 :=
  (f.load start 2).map Octets.word16

def load32 (f : Frame) (start : Nat) : Except Truncation UInt32 :=
  (f.load start 4).map Octets.word32

/-! ## Writing -/

/-- Overwrite the buffer from `start` on. Octets that would fall behind its end are dropped. -/
def write (f : Frame) (start : Nat) (v : Octets n) : Frame where
  octets := f.octets.mapIdx fun i b =>
    if h : start ≤ i ∧ i < start + n then v[i - start] else b
  size := f.size
  size_le := by simpa using f.size_le
  interface := f.interface

/-- A change of a frame. One that stops at an error keeps what it has changed so far. -/
abbrev Edit (α : Type) := EStateM Truncation Frame α

/-- Look at the frame in the middle of a change. -/
def look {α : Type} (view : Frame → Except Truncation α) : Edit α := fun f =>
  match view f with
  | .ok a => .ok a f
  | .error e => .error e f

def store (start : Nat) (v : Octets n) : Edit Unit := fun f =>
  if start + n ≤ f.size then
    .ok () (f.write start v)
  else
    .error ⟨min (start + n) maxPosition, f.size⟩ f

def store16 (start : Nat) (w : UInt16) : Edit Unit := store start (Octets.ofWord16 w)

/-! ## Laws -/

@[simp] theorem size_write (f : Frame) (start : Nat) (v : Octets n) :
    (f.write start v).size = f.size := rfl

@[simp] theorem interface_write (f : Frame) (start : Nat) (v : Octets n) :
    (f.write start v).interface = f.interface := rfl

@[simp] theorem size_octets_write (f : Frame) (start : Nat) (v : Octets n) :
    (f.write start v).octets.size = f.octets.size := by
  simp [write]

@[simp] theorem getElem_cut (f : Frame) (start : Nat) (h : start + n ≤ f.octets.size) (i : Nat)
    (hi : i < n) : (f.cut start n h)[i] = f.octets[start + i] := by
  simp [cut]

theorem getElem_octets_write (f : Frame) (start : Nat) (v : Octets n) (i : Nat)
    (hi : i < f.octets.size) (hw : i < (f.write start v).octets.size) :
    (f.write start v).octets[i] =
      if h : start ≤ i ∧ i < start + n then v[i - start] else f.octets[i] := by
  simp [write]

theorem require_eq_ok_iff (f : Frame) (stop : Nat) : f.require stop = .ok () ↔ stop ≤ f.size := by
  unfold require
  split <;> simp_all

theorem load_of_le (f : Frame) {start n : Nat} (h : start + n ≤ f.size) :
    f.load start n = .ok (f.cut start n (Nat.le_trans h f.size_le)) :=
  dif_pos h

theorem load_of_lt (f : Frame) {start n : Nat} (h : f.size < start + n) :
    f.load start n = .error ⟨min (start + n) maxPosition, f.size⟩ :=
  dif_neg (Nat.not_le.2 h)

theorem store_of_le (f : Frame) (start : Nat) (v : Octets n) (h : start + n ≤ f.size) :
    store start v f = .ok () (f.write start v) :=
  if_pos h

theorem store_of_lt (f : Frame) (start : Nat) (v : Octets n) (h : f.size < start + n) :
    store start v f = .error ⟨min (start + n) maxPosition, f.size⟩ f :=
  if_neg (Nat.not_le.2 h)

theorem load_write_self (f : Frame) (start : Nat) (v : Octets n) (h : start + n ≤ f.size) :
    (f.write start v).load start n = .ok v := by
  have hs := f.size_le
  rw [load, dif_pos (by simpa using h)]
  congr 1
  apply Vector.ext
  intro i hi
  rw [getElem_cut, getElem_octets_write _ _ _ _ (by omega), dif_pos (by omega)]
  simp

def Apart (start n first count : Nat) : Prop :=
  ∀ i, start ≤ i ∧ i < start + n → ¬(first ≤ i ∧ i < first + count)

theorem load_write_of_apart (f : Frame) (start : Nat) (v : Octets n) {first count : Nat}
    (hapart : Apart start n first count) :
    (f.write start v).load first count = f.load first count := by
  have hs := f.size_le
  by_cases h : first + count ≤ f.size
  · rw [load_of_le _ (by simpa using h), load_of_le f h]
    refine congrArg Except.ok (Vector.ext fun i hi => ?_)
    have hoctet : ¬(start ≤ first + i ∧ first + i < start + n) :=
      fun hwritten => hapart (first + i) hwritten ⟨by omega, by omega⟩
    rw [getElem_cut, getElem_cut, getElem_octets_write _ _ _ _ (by omega), dif_neg hoctet]
  · rw [load_of_lt _ (by simpa using h), load_of_lt f (Nat.lt_of_not_le h), size_write]

end Frame

end TwoWay
