import CellPurse.Number.Bits

/-!
# CellPurse.Epoch.Basic — epochs with a fraction

An epoch number and a place in the epoch: block `index` of `length`.

* `Epoch.ofFullValue`, `Epoch.fullValue`: the packed form: 24 bits of number, 16 of index and 16 of length;
* `Epoch.toRat`: the epoch as a rational number; without a length the fraction is nothing.
-/

namespace CellPurse

/-- A place in an epoch. -/
structure Epoch where
  number : Int
  index : Int
  length : Int
  deriving DecidableEq, Repr

namespace Epoch

/-- Takes the packed form apart. -/
def ofFullValue (v : Int) : Epoch := ⟨Bits.field 0 24 v, Bits.field 24 16 v, Bits.field 40 16 v⟩

/-- The packed form. -/
def fullValue (e : Epoch) : Int := Bits.or (Bits.or (e.length * 2 ^ 40) (e.index * 2 ^ 24)) e.number

/-- The epoch as a number. -/
def toRat (e : Epoch) : Rat := if e.length = 0 then e.number else e.number + (e.index : Rat) / e.length

/-- The epoch in a message. -/
def text (e : Epoch) : String :=
  toString e.number ++ "(" ++ toString e.index ++ "/" ++ toString e.length ++ ")"

end Epoch

end CellPurse
