import CellPurse.Ledger.Transaction

/-!
# CellPurse.Ledger.Genesis — where the system scripts live

The second transaction of the first block made the cells that list the code of the system locks: its first output for
the lock of one key, its second for multisig locks.

* `Genesis.ofBlock`: reads both places, and the hash of the block, from the block as a document.
-/

namespace CellPurse

/-- The hash of the first block, and the cells of the system locks. -/
structure Genesis where
  hash : Bytes
  sighashDep : CellDep
  multisigDep : CellDep
  deriving DecidableEq, Repr

namespace Genesis

/-- Reads the first block. -/
def ofBlock (block : Json) : Except DocumentFault Genesis := do
  let transactions := (← block.optional "transactions").getD (.arr [])
  if (← transactions.size) < 2 then .error .fewTransactions
  else
    let second ← (← (← transactions.item 1).field "hash").bytes
    let hash ← (← (← block.field "header").field "hash").bytes
    pure ⟨hash, ⟨⟨second, 0⟩, .depGroup⟩, ⟨⟨second, 1⟩, .depGroup⟩⟩

end Genesis

end CellPurse
