import CellPurse.Cells.Selection

/-!
# CellPurse.Cells.Totals — what cells are worth

* `Totals.visit`: the policy that sums every cell: all capacities, those of cells that are not mature, and those of
  deposits.  It never stops.
-/

namespace CellPurse

/-- The type of the cell is a deposit. -/
def LiveCell.isDeposit (c : LiveCell) : Bool :=
  match c.type with
  | some t => t.code = System.daoCode
  | none => false

/-- Sums of capacities. -/
structure Totals where
  total : Nat := 0
  immature : Nat := 0
  dao : Nat := 0
  deriving DecidableEq, Repr

namespace Totals

/-- Adds a cell. -/
def add (cutoff : Int) (t : Totals) (c : LiveCell) : Totals where
  total := t.total + c.capacity
  immature := t.immature + if c.isMature cutoff then 0 else c.capacity
  dao := t.dao + if c.isDeposit then c.capacity else 0

/-- The policy that sums every cell. -/
def visit (cutoff : Int) : Policy Totals LiveCell := fun t _ c => (t.add cutoff c, .pass)

end Totals

end CellPurse
