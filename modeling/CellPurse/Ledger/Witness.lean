import CellPurse.Molecule.Basic

/-!
# CellPurse.Ledger.Witness — witnesses

A witness is a table of three parts that may be absent: one for the lock, two for the types of input and output.

* `Witness.serialize`, `Witness.deserialize`: its binary form.  An absent part has no bytes, so that an empty part,
  written with its length, stays apart.
-/

namespace CellPurse

/-- The parts of a witness. -/
structure Witness where
  lock : Option Bytes := none
  inputType : Option Bytes := none
  outputType : Option Bytes := none
  deriving DecidableEq, Repr

namespace Witness

/-- A part in binary form. -/
def writePart (part : Option Bytes) : Except MoleculeFault Bytes := do
  let b ← part.mapM Molecule.bytes
  pure (Molecule.option b)

/-- The witness in binary form. -/
def serialize (w : Witness) : Except MoleculeFault Bytes := do
  let lock ← writePart w.lock
  let inputType ← writePart w.inputType
  let outputType ← writePart w.outputType
  Molecule.table [lock, inputType, outputType]

/-- Reads a part: as many bytes as its length says, as far as there are any. -/
def readPart (raw : Bytes) : Except MoleculeFault (Option Bytes) :=
  if raw.isEmpty then .ok none
  else do
    let size ← Molecule.wordAt raw 0
    pure (some (Molecule.slice raw 4 (4 + size)))

/-- Reads a witness. -/
def deserialize (data : Bytes) : Except MoleculeFault Witness := do
  match ← Molecule.fields data with
  | [a, b, c] =>
    let lock ← readPart a
    let inputType ← readPart b
    let outputType ← readPart c
    pure ⟨lock, inputType, outputType⟩
  | parts => .error (.witnessFields parts.length)

end Witness

end CellPurse
