/-!
# CellPurse.Text.Ranges — sets of characters

* `Ranges.has`: a character is in a set that is given by the first and last codes of its ranges.
-/

namespace CellPurse.Text.Ranges

/-- The character is in one of the ranges. -/
def has (ranges : Array (Nat × Nat)) (c : Char) : Bool := ranges.any fun r => r.1 ≤ c.toNat && c.toNat ≤ r.2

end CellPurse.Text.Ranges
