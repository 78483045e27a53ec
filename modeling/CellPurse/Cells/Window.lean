import CellPurse.Cells.LiveCell
import CellPurse.Cells.Scan

/-!
# CellPurse.Cells.Window — a page of cells

At most `limit` cells up to a block.

* `Window.visit`: the policy.  It collects the cells of the page and counts all cells of the walk beside them; in fast
  mode it stops at the end of the page, so that both counts are those of the page.
-/

namespace CellPurse

/-- The bounds of a page, and what was counted so far. -/
structure Window where
  limit : Int
  last : Int
  fast : Bool := false
  totalCount : Nat := 0
  totalCapacity : Nat := 0
  count : Nat := 0
  capacity : Nat := 0
  deriving DecidableEq, Repr

namespace Window

/-- The record lies behind the page. -/
def isPast (w : Window) (ordinal : Nat) (c : LiveCell) : Bool := w.limit ≤ ordinal || w.last < c.number

/-- Counts a cell of the walk. -/
def countAll (w : Window) (c : LiveCell) : Window :=
  { w with totalCount := w.totalCount + 1, totalCapacity := w.totalCapacity + c.capacity }

/-- Counts a cell of the page. -/
def countPage (w : Window) (c : LiveCell) : Window :=
  { w with count := w.count + 1, capacity := w.capacity + c.capacity }

/-- The policy of the page. -/
def visit : Policy Window LiveCell := fun w ordinal c =>
  if w.isPast ordinal c then
    if w.fast then (w, ⟨true, false⟩) else (w.countAll c, .pass)
  else ((w.countAll c).countPage c, ⟨false, true⟩)

end Window

end CellPurse
