import CellPurse.Ledger.Cell

/-!
# CellPurse.Cells.LiveCell — records of live cells

What an index knows about a cell that nobody has spent: where it is, whose it is and what it is worth.

* `LiveCell.make`: a record; a capacity below zero is refused;
* `LiveCell.isPlain`: a cell with neither data nor type can pay for something;
* `LiveCell.place`: block, transaction and output, in the order of which records are listed;
* `LiveCell.toJson`, `LiveCell.ofJson`: the record as a document.
-/

namespace CellPurse

/-- The hashes of the type script of a cell: that of its code, and that of the whole script. -/
structure TypeHashes where
  code : Bytes
  script : Bytes
  deriving DecidableEq, Repr

/-- A cell that nobody has spent. -/
structure LiveCell where
  txHash : Bytes
  outputIndex : Int
  txIndex : Int
  number : Int
  lockHash : Bytes
  capacity : Nat
  dataSize : Int := 0
  type : Option TypeHashes := none
  deriving DecidableEq, Repr

namespace LiveCell

/-- The record of a cell with a capacity that is not below zero. -/
def make (txHash : Bytes) (outputIndex txIndex number : Int) (lockHash : Bytes) (capacity dataSize : Int)
    (type : Option TypeHashes) : Except DocumentFault LiveCell :=
  if capacity < 0 then .error (.negativeCapacity capacity)
  else .ok ⟨txHash, outputIndex, txIndex, number, lockHash, capacity.toNat, dataSize, type⟩

/-- Where the cell was made. -/
def outPoint (c : LiveCell) : OutPoint := ⟨c.txHash, c.outputIndex⟩

/-- Neither data nor type. -/
def isPlain (c : LiveCell) : Bool := c.dataSize = 0 && c.type.isNone

/-- Block, transaction and output. -/
def place (c : LiveCell) : Int × Int × Int := (c.number, c.txIndex, c.outputIndex)

/-- The first cell is not listed after the second. -/
def le (c d : LiveCell) : Bool :=
  c.number < d.number || (c.number = d.number &&
    (c.txIndex < d.txIndex || (c.txIndex = d.txIndex && c.outputIndex ≤ d.outputIndex)))

/-! ## Documents -/

/-- The hashes of a type as a document. -/
def typeJson : Option TypeHashes → Json
  | some t => .arr [.ofBytes t.code, .ofBytes t.script]
  | none => .null

/-- The fields of the record. -/
def fields (c : LiveCell) : List (JsonText × Json) :=
  [("tx_hash", .ofBytes c.txHash), ("output_index", .int c.outputIndex), ("tx_index", .int c.txIndex),
    ("number", .int c.number), ("lock_hash", .ofBytes c.lockHash), ("capacity", .int c.capacity),
    ("data_bytes", .int c.dataSize), ("type_hashes", typeJson c.type)]

/-- The record as a document. -/
def toJson (c : LiveCell) : Json := .obj c.fields

/-- Reads the hashes of a type; a value that is false or empty is no type. -/
def readType (v : Json) : Except DocumentFault (Option TypeHashes) :=
  if v.truthy then do
    let code ← (← v.item 0).bytes
    let script ← (← v.item 1).bytes
    pure (some ⟨code, script⟩)
  else pure none

/-- Reads a record. -/
def ofJson (v : Json) : Except DocumentFault LiveCell := do
  let type := (← v.optional "type_hashes").getD .null
  let txHash ← (← v.field "tx_hash").bytes
  let outputIndex ← (← v.field "output_index").integer
  let txIndex ← (← v.field "tx_index").integer
  let number ← (← v.field "number").integer
  let lockHash ← (← v.field "lock_hash").bytes
  let capacity ← (← v.field "capacity").integer
  let dataSize ← ((← v.optional "data_bytes").getD (.int 0)).integer
  make txHash outputIndex txIndex number lockHash capacity dataSize (← readType type)

end LiveCell

end CellPurse
