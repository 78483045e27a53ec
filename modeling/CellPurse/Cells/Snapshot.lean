import CellPurse.Cells.Index
import CellPurse.Json.Parser

/-!
# CellPurse.Cells.Snapshot — an index from a document

A snapshot is an object with records of cells, and scripts that give names to locks; both lists may be absent.

* `Snapshot.records`, `Snapshot.index`, `Snapshot.read`: the parts of a text, the index of parts, and both;
* `SnapshotFault.reason?`: what is wrong in words, for the faults that count as bad input.  A place outside a list, an
  infinite number and a text nested too deeply do not.
-/

namespace CellPurse

/-- Why a text is no snapshot. -/
inductive SnapshotFault where
  | text (f : JsonFault)
  | document (f : DocumentFault)
  | script (f : MoleculeFault)
  deriving DecidableEq, Repr

namespace SnapshotFault

/-- What is said of a text that is no document, or of a value of the wrong shape. -/
def malformed : String := "<malformed>"

/-- The fault in words, where it counts as bad input. -/
def reason? : SnapshotFault → Option String
  | text .malformed => some malformed
  | text (.number f) => some f.message
  | text (.tooDeep _) => none
  | document .notObject | document .notText | document .wrongKind => some malformed
  | document .outOfRange | document .infinite => none
  | document f => some (f.message?.getD malformed)
  | script _ => none

/-- The words of the part that is wrong. -/
def message? : SnapshotFault → Option String
  | text f => f.message?
  | document f => f.message?
  | script f => f.message?

/-- What the fault is about. -/
def kind : SnapshotFault → FaultKind
  | text (.tooDeep _) => .depth
  | document .outOfRange => .place
  | document .infinite => .unbounded
  | script f => f.kind
  | _ => .input

end SnapshotFault

namespace Snapshot

/-- Reads a list of parts that may be absent. -/
def parts {α : Type} (read : Json → Except DocumentFault α) (v : Json) (key : String) :
    Except DocumentFault (List α) := do
  let items ← ((← v.optional key).getD (.arr [])).elements
  items.mapM read

/-- Reads the records and the scripts. -/
def ofJson (v : Json) : Except DocumentFault (List LiveCell × List Script) := do
  let cells ← parts LiveCell.ofJson v "cells"
  let scripts ← parts Script.ofJson v "lock_scripts"
  pure (cells, scripts)

/-- The records and the scripts of a text. -/
def records (text : String) : Except SnapshotFault (List LiveCell × List Script) := do
  let v ← (Json.parse text).mapError .text
  (ofJson v).mapError .document

/-- The index of records and scripts. -/
def index (r : List LiveCell × List Script) : Except SnapshotFault Index := (Index.ofCells r.1 r.2).mapError .script

/-- The index of a snapshot. -/
def read (text : String) : Except SnapshotFault Index := records text >>= index

end Snapshot

end CellPurse
