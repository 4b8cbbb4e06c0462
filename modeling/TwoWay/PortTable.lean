import TwoWay.Failure

/-!
# Accepted ports

The well-known port of the protocol is always accepted. Up to eight more are kept in a fixed
table, in the order in which they were given; a port that is accepted already takes no slot.
-/

namespace TwoWay

abbrev wellKnownPort : UInt16 := 862

/-- The well-known port and those in the first `count` slots. -/
structure PortTable where
  slots : Vector UInt16 8
  count : Nat
  count_le : count ≤ 8
deriving DecidableEq

namespace PortTable

abbrev capacity : Nat := 8

def empty : PortTable := ⟨Vector.replicate capacity 0, 0, by decide⟩

instance : Inhabited PortTable := ⟨empty⟩

/-- The ports besides the well-known one. -/
def extra (t : PortTable) : List UInt16 := t.slots.toList.take t.count

def contains (t : PortTable) (port : UInt16) : Bool :=
  port == wellKnownPort || t.extra.contains port

/-- One accepted port is enough, on either side. -/
def accepts (t : PortTable) (source destination : UInt16) : Bool :=
  t.contains source || t.contains destination

/-- Accept one more port, if it is one and a slot is left for it. -/
def insert (t : PortTable) (port : UInt16) : Except SettingsError PortTable :=
  if port = 0 then
    .error .zeroPort
  else if t.contains port then
    .ok t
  else if h : t.count < capacity then
    .ok ⟨t.slots.set t.count port h, t.count + 1, h⟩
  else
    .error (.tooManyPorts (t.count + 1) capacity)

/-- Insert ports one by one; the first that cannot be inserted decides the error. -/
def ofList (ports : List UInt16) : Except SettingsError PortTable :=
  ports.foldlM insert empty

/-! ## Laws -/

@[simp] theorem extra_empty : empty.extra = [] := rfl

theorem contains_iff (t : PortTable) (port : UInt16) :
    t.contains port = true ↔ port = wellKnownPort ∨ port ∈ t.extra := by
  simp [contains]

theorem accepts_comm (t : PortTable) (a b : UInt16) : t.accepts a b = t.accepts b a :=
  Bool.or_comm _ _

/-- A port that takes a slot goes behind the others. -/
theorem extra_set (t : PortTable) (port : UInt16) (h : t.count < capacity) :
    extra ⟨t.slots.set t.count port h, t.count + 1, h⟩ = t.extra ++ [port] := by
  have hc : t.count < t.slots.toList.length := by simpa using h
  rw [extra, extra, Vector.toList_set, List.take_add_one, List.getElem?_set_self hc,
    List.take_set, List.set_eq_of_length_le (by rw [List.length_take]; omega)]
  rfl

end PortTable

end TwoWay
