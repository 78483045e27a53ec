import CellPurse.Ledger.Script

/-!
# CellPurse.Ledger.Cell — cells

* `OutPoint`: where a cell was made: a transaction and the place among its outputs;
* `CellOutput`: what a cell is: a capacity, the lock that guards it and the type that rules it.

Places and capacities are integers of any size; serialization refuses those outside their words.
-/

namespace CellPurse

/-- Where a cell was made. -/
structure OutPoint where
  txHash : Bytes
  index : Int
  deriving DecidableEq, Repr

namespace OutPoint

/-- The out point in binary form. -/
def serialize (p : OutPoint) : Except MoleculeFault Bytes := do
  let i ← Molecule.u32 p.index
  pure (p.txHash ++ i)

/-- The out point in a message. -/
def text (p : OutPoint) : String := p.txHash.hexText ++ ":" ++ toString p.index

/-- The out point as a document. -/
def toJson (p : OutPoint) : Json := .obj [("tx_hash", .ofBytes p.txHash), ("index", .ofQuantity p.index)]

/-- Reads an out point. -/
def ofJson (v : Json) : Except DocumentFault OutPoint := do
  let txHash ← (← v.field "tx_hash").bytes
  let index ← (← v.field "index").quantity
  pure ⟨txHash, index⟩

/-- The message text of the out point that a document spells.  A place that is a truth value keeps its word, and a place
of too many digits has no text. -/
def words (v : Json) : Except DocumentFault String := do
  let p ← ofJson v
  match ← v.field "index" with
  | .bool b => pure (p.txHash.hexText ++ ":" ++ (Json.bool b).shown)
  | _ => do pure (p.txHash.hexText ++ ":" ++ (← (Literal.decimal p.index).mapError .literal))

end OutPoint

/-- What a cell is. -/
structure CellOutput where
  capacity : Int
  lock : Script
  type : Option Script := none
  deriving DecidableEq, Repr

namespace CellOutput

/-- The output in binary form. -/
def serialize (o : CellOutput) : Except MoleculeFault Bytes := do
  let type ← o.type.mapM Script.serialize
  let capacity ← Molecule.u64 o.capacity
  let lock ← o.lock.serialize
  Molecule.table [capacity, lock, Molecule.option type]

/-- The output as a document. -/
def toJson (o : CellOutput) : Json :=
  .obj [("capacity", .ofQuantity o.capacity), ("lock", o.lock.toJson),
    ("type", match o.type with
      | some t => t.toJson
      | none => .null)]

/-- Reads an output.  A type that is absent, or a value that is false or empty, is no type. -/
def ofJson (v : Json) : Except DocumentFault CellOutput := do
  let type := ((← v.optional "type").getD .null)
  let capacity ← (← v.field "capacity").quantity
  let lock ← Script.ofJson (← v.field "lock")
  let type ← if type.truthy then some <$> Script.ofJson type else pure none
  pure ⟨capacity, lock, type⟩

end CellOutput

end CellPurse
