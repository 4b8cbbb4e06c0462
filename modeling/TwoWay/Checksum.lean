import TwoWay.Octets

/-!
# One's-complement checksums

Sums of words whose carries come back in at the low end. Zero and 65535 stand for the same sum, and
a datagram keeps zero for "no checksum". A word that changes corrects the checksum by itself.
-/

namespace TwoWay.Checksum

/-- Bring the carries of a sum back in at its low end. -/
def fold (sum : UInt32) : UInt32 := sum % 65536 + sum / 65536

def replaceWord (check old new : UInt16) : UInt16 :=
  let sum : UInt32 := (~~~check).toUInt32 + (~~~old).toUInt32 + new.toUInt32
  ~~~(fold (fold sum)).toUInt16

/-- The value that says the same as `check` and is not zero. -/
def nonzero (check : UInt16) : UInt16 := if check = 0 then 65535 else check

/-- The checksum after the words `old` of the data have become `new`, one by one. -/
def replace (check : UInt16) (old new : List UInt16) : UInt16 :=
  nonzero ((old.zip new).foldl (fun c w => replaceWord c w.1 w.2) check)

/-! ## From scratch -/

def total : List UInt16 → Nat
  | [] => 0
  | word :: rest => word.toNat + total rest

/-- A sum with all carries brought back in: zero only for zero, else between 1 and 65535. -/
def folded (sum : Nat) : UInt16 :=
  if sum = 0 then 0 else UInt16.ofNat ((sum - 1) % 65535 + 1)

/-- The checksum of data whose checksum field holds zero. -/
def ofWords (words : List UInt16) : UInt16 := nonzero (~~~folded (total words))

/-- Data with its checksum in place adds up to all ones. -/
def Holds (words : List UInt16) : Prop := folded (total words) = 65535

instance (words : List UInt16) : Decidable (Holds words) :=
  inferInstanceAs (Decidable (_ = _))

end TwoWay.Checksum
