import CellPurse.Assoc
import CellPurse.Cells.LiveCell
import CellPurse.Cells.Scan

/-!
# CellPurse.Cells.Index — the live cells of a chain

An index holds records of live cells in ascending place, and scripts by their hashes.

* `Index.ofCells`: sorts the records; cells of one place keep their order;
* `SearchKey`: cells by the hash of their lock, of their type, or of the code of their type;
* `Index.matching`, `Index.scan`: the cells of a key from a block on, and a walk over them;
* `Index.top`: the locks that own the most; `Index.metrics`: counts over all cells.
-/

namespace CellPurse

/-- What a key is compared with. -/
inductive KeyKind where
  | lock
  | type
  | code
  deriving DecidableEq, Repr

/-- The word of a kind. -/
def KeyKind.name : KeyKind → String
  | lock => "lock"
  | type => "type"
  | code => "code"

/-- The kind with a word. -/
def KeyKind.ofName? (s : String) : Option KeyKind :=
  if s = "lock" then some lock else if s = "type" then some type else if s = "code" then some code else none

/-- What cells are searched by. -/
structure SearchKey where
  kind : KeyKind
  hash : Bytes
  deriving DecidableEq, Repr

namespace SearchKey

/-- The cells of a lock. -/
def lock (lockHash : Bytes) : SearchKey := ⟨.lock, lockHash⟩

/-- The key in a message. -/
def text (k : SearchKey) : String := k.kind.name ++ ":" ++ k.hash.hexText

/-- The cell has the key. -/
def holds (k : SearchKey) (c : LiveCell) : Bool :=
  match k.kind, c.type with
  | .lock, _ => c.lockHash = k.hash
  | .type, some t => t.script = k.hash
  | .code, some t => t.code = k.hash
  | _, none => false

end SearchKey

/-- The live cells of a chain. -/
structure Index where
  /-- The cells in ascending place. -/
  cells : List LiveCell
  /-- Lock scripts by their hashes. -/
  locks : Assoc Bytes Script
  deriving Repr

/-- What a lock owns. -/
structure Holding where
  lockHash : Bytes
  lock : Option Script
  capacity : Nat
  deriving DecidableEq, Repr

/-- Counts over an index. -/
structure Metrics where
  cells : Nat
  locks : Nat
  types : Nat
  capacity : Nat
  /-- The highest block with a cell, `0` without cells. -/
  tip : Int
  deriving DecidableEq, Repr

namespace Index

/-- Scripts by their hashes, the last of one hash. -/
def byHash (scripts : List Script) : Except MoleculeFault (Assoc Bytes Script) :=
  scripts.foldlM (fun m s => do
    let h ← s.hash
    pure (m.set h s)) []

/-- The index of some cells. -/
def ofCells (cells : List LiveCell) (scripts : List Script) : Except MoleculeFault Index := do
  let locks ← byHash scripts
  pure ⟨cells.mergeSort LiveCell.le, locks⟩

/-- The cells of a key from a block on, or from block `0`. -/
def matching (i : Index) (key : SearchKey) (start : Option Int) : List LiveCell :=
  i.cells.filter fun c => start.getD 0 ≤ c.number && key.holds c

/-- A walk over the cells of a key. -/
def scan {σ : Type} (i : Index) (key : SearchKey) (policy : Policy σ LiveCell) (s : σ) (start : Option Int := none) :
    Scan σ LiveCell :=
  Scan.run policy s 0 (i.matching key start)

/-! ## Holdings -/

/-- Adds the capacity of a cell to that of its lock. -/
def credit (totals : Assoc Bytes Nat) (c : LiveCell) : Assoc Bytes Nat :=
  totals.set c.lockHash ((totals.get? c.lockHash).getD 0 + c.capacity)

/-- What each lock owns, in the order in which the locks first come. -/
def totals (i : Index) : Assoc Bytes Nat := i.cells.foldl credit []

/-- The first `n` items, or all but the last `-n`. -/
def firsts {α : Type} (n : Int) (items : List α) : List α :=
  items.take (if 0 ≤ n then n.toNat else (items.length + n).toNat)

/-- The locks that own the most; of equal ones the first comes first. -/
def top (i : Index) (n : Int) : List Holding :=
  (firsts n (i.totals.mergeSort fun a b => b.2 ≤ a.2)).map fun e => ⟨e.1, i.locks.get? e.1, e.2⟩

/-! ## Counts -/

/-- The greatest of some numbers, `0` without any. -/
def greatest : List Int → Int
  | [] => 0
  | n :: r => r.foldl max n

/-- Counts over all cells. -/
def metrics (i : Index) : Metrics where
  cells := i.cells.length
  locks := (i.cells.map LiveCell.lockHash).eraseDups.length
  types := (i.cells.filterMap LiveCell.type).eraseDups.length
  capacity := (i.cells.map LiveCell.capacity).foldl (· + ·) 0
  tip := greatest (i.cells.map LiveCell.number)

end Index

/-- The counts as a document. -/
def Metrics.toJson (m : Metrics) : Json :=
  .obj [("live_cells", .int m.cells), ("locks", .int m.locks), ("types", .int m.types),
    ("total_capacity", .int m.capacity), ("tip_number", .int m.tip)]

end CellPurse
