import CellPurse.Ledger.Cell

/-!
# CellPurse.Ledger.Transaction — transactions

* `CellInput`: a cell that is spent, and the time lock that the spender claims;
* `CellDep`: a cell whose code is used;
* `Transaction`: `serializeRaw` leaves the witnesses out, `serialize` has them; `hash` is that of the raw form;
* `toJson`, `ofJson`: as documents.
-/

namespace CellPurse

/-- A cell that is spent. -/
structure CellInput where
  previous : OutPoint
  since : Int := 0
  deriving DecidableEq, Repr

namespace CellInput

/-- The input in binary form. -/
def serialize (i : CellInput) : Except MoleculeFault Bytes := do
  let since ← Molecule.u64 i.since
  let previous ← i.previous.serialize
  pure (since ++ previous)

/-- The input as a document. -/
def toJson (i : CellInput) : Json :=
  .obj [("previous_output", i.previous.toJson), ("since", .ofQuantity i.since)]

/-- Reads an input. -/
def ofJson (v : Json) : Except DocumentFault CellInput := do
  let previous ← OutPoint.ofJson (← v.field "previous_output")
  let since ← (← v.field "since").quantity
  pure ⟨previous, since⟩

end CellInput

/-- What the cell of a dependency holds: code, or a list of further cells. -/
inductive DepType where
  | code
  | depGroup
  deriving DecidableEq, Repr

namespace DepType

/-- The number of a dependency type. -/
def toNat : DepType → Nat
  | code => 0
  | depGroup => 1

/-- The dependency type with a number. -/
def ofNat? : Nat → Option DepType
  | 0 => some code
  | 1 => some depGroup
  | _ => none

/-- The word of a dependency type. -/
def name : DepType → String
  | code => "code"
  | depGroup => "dep_group"

/-- Reads a dependency type; any other word is the usual one. -/
def ofJson : Json → DepType
  | .str s => if s = "code" then code else depGroup
  | _ => depGroup

end DepType

/-- A cell whose code is used. -/
structure CellDep where
  outPoint : OutPoint
  depType : DepType := .depGroup
  deriving DecidableEq, Repr

namespace CellDep

/-- The dependency in binary form. -/
def serialize (d : CellDep) : Except MoleculeFault Bytes := do
  let p ← d.outPoint.serialize
  pure (p ++ [UInt8.ofNat d.depType.toNat])

/-- The dependency as a document. -/
def toJson (d : CellDep) : Json := .obj [("out_point", d.outPoint.toJson), ("dep_type", .str d.depType.name)]

/-- Reads a dependency. -/
def ofJson (v : Json) : Except DocumentFault CellDep := do
  let outPoint ← OutPoint.ofJson (← v.field "out_point")
  let depType ← v.field "dep_type"
  pure ⟨outPoint, .ofJson depType⟩

end CellDep

/-- A transaction. -/
structure Transaction where
  version : Int := 0
  cellDeps : List CellDep := []
  headerDeps : List Bytes := []
  inputs : List CellInput := []
  outputs : List CellOutput := []
  outputsData : List Bytes := []
  witnesses : List Bytes := []
  deriving DecidableEq, Repr

namespace Transaction

/-- All but the witnesses, in binary form. -/
def serializeRaw (t : Transaction) : Except MoleculeFault Bytes := do
  let version ← Molecule.u32 t.version
  let cellDeps ← Molecule.fixvec (← t.cellDeps.mapM CellDep.serialize)
  let headerDeps ← Molecule.fixvec t.headerDeps
  let inputs ← Molecule.fixvec (← t.inputs.mapM CellInput.serialize)
  let outputs ← Molecule.dynvec (← t.outputs.mapM CellOutput.serialize)
  let outputsData ← Molecule.dynvec (← t.outputsData.mapM Molecule.bytes)
  Molecule.table [version, cellDeps, headerDeps, inputs, outputs, outputsData]

/-- The transaction in binary form. -/
def serialize (t : Transaction) : Except MoleculeFault Bytes := do
  let raw ← t.serializeRaw
  let witnesses ← Molecule.dynvec (← t.witnesses.mapM Molecule.bytes)
  Molecule.table [raw, witnesses]

/-- The hash of a transaction. -/
def hash (t : Transaction) : Except MoleculeFault Bytes := do
  let raw ← t.serializeRaw
  pure (Hash.chain raw)

/-- The transaction as a document. -/
def toJson (t : Transaction) : Json :=
  .obj [("version", .ofQuantity t.version),
    ("cell_deps", .arr (t.cellDeps.map CellDep.toJson)),
    ("header_deps", .arr (t.headerDeps.map Json.ofBytes)),
    ("inputs", .arr (t.inputs.map CellInput.toJson)),
    ("outputs", .arr (t.outputs.map CellOutput.toJson)),
    ("outputs_data", .arr (t.outputsData.map Json.ofBytes)),
    ("witnesses", .arr (t.witnesses.map Json.ofBytes))]

/-- Reads the parts in a field. -/
def parts {α : Type} (v : Json) (key : String) (read : Json → Except DocumentFault α) :
    Except DocumentFault (List α) := do
  (← (← v.field key).elements).mapM read

/-- Reads a transaction. -/
def ofJson (v : Json) : Except DocumentFault Transaction := do
  let version ← (← v.field "version").quantity
  let cellDeps ← parts v "cell_deps" CellDep.ofJson
  let headerDeps ← parts v "header_deps" Json.bytes
  let inputs ← parts v "inputs" CellInput.ofJson
  let outputs ← parts v "outputs" CellOutput.ofJson
  let outputsData ← parts v "outputs_data" Json.bytes
  let witnesses ← parts v "witnesses" Json.bytes
  pure ⟨version, cellDeps, headerDeps, inputs, outputs, outputsData, witnesses⟩

end Transaction

end CellPurse
