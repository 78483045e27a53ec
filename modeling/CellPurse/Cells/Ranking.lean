import CellPurse.Address.Basic
import CellPurse.Cells.Index

/-!
# CellPurse.Cells.Ranking — the locks that own the most

* `Ranking.holders`: the first `n`, with their addresses where the index knows the script.
-/

namespace CellPurse

/-- A lock in the ranking. -/
structure Holder where
  lockHash : Bytes
  address : Option String
  capacity : Nat
  deriving DecidableEq, Repr

/-- The holder as a document. -/
def Holder.toJson (h : Holder) : Json :=
  .obj [("lock_hash", .ofBytes h.lockHash),
    ("address", match h.address with
      | some a => .str a
      | none => .null),
    ("capacity", .int h.capacity)]

/-- The locks that own the most. -/
def Ranking.holders (network : Network) (i : Index) (n : Int) : List Holder :=
  (i.top n).map fun h => ⟨h.lockHash, h.lock.map fun s => Address.encode ⟨network, s⟩, h.capacity⟩

end CellPurse
