import CellPurse.Ledger.Amount

/-!
# CellPurse.Transfer.Limits — what a transfer may cost

* `Limits`: the highest fee, the least capacity of a cell, and how many keys for change are searched.
-/

namespace CellPurse

/-- Bounds on a transfer. -/
structure Limits where
  /-- The highest fee. -/
  fee : Nat := Amount.coin
  /-- The least capacity of a cell: that of one guarded by the lock of one key, without data. -/
  cell : Nat := 61 * Amount.coin
  /-- How many keys for change are searched. -/
  depth : Nat := 10000
  depth_pos : 0 < depth := by decide
  deriving Repr

/-- The bounds if nothing is said. -/
def Limits.usual : Limits := {}

end CellPurse
