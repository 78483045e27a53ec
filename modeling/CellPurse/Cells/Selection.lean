import CellPurse.Cells.LiveCell
import CellPurse.Cells.Scan
import CellPurse.Epoch.Maturity

/-!
# CellPurse.Cells.Selection — cells that pay for something

The first plain and mature cells, in the order of the walk, that together reach a target.  The selection goes from one
walk to the next; it tries neither for few cells nor for little change.

* `Selection.visit`: the policy: stop when the target is reached, collect what can pay, pass by the rest.
-/

namespace CellPurse

/-- The cell can be spent at a cutoff. -/
def LiveCell.isMature (c : LiveCell) (cutoff : Int) : Bool := Maturity.isMature c.number c.txIndex cutoff

/-- The cells selected so far. -/
structure Selection where
  target : Int
  cutoff : Int
  capacity : Nat := 0
  cells : List LiveCell := []
  deriving DecidableEq, Repr

namespace Selection

/-- The target is reached. -/
def isSatisfied (s : Selection) : Bool := s.target ≤ s.capacity

/-- The cell can pay: it is plain and mature. -/
def canPay (s : Selection) (c : LiveCell) : Bool := c.isPlain && c.isMature s.cutoff

/-- Adds a cell. -/
def add (s : Selection) (c : LiveCell) : Selection :=
  { s with capacity := s.capacity + c.capacity, cells := s.cells ++ [c] }

/-- The policy of the selection. -/
def visit : Policy Selection LiveCell := fun s _ c =>
  if s.isSatisfied then (s, ⟨true, false⟩)
  else if s.canPay c then (s.add c, ⟨(s.add c).isSatisfied, true⟩)
  else (s, .pass)

end Selection

end CellPurse
