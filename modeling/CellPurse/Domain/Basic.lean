import CellPurse.Domain.Label
import CellPurse.Text.Split

/-!
# CellPurse.Domain.Basic — domain names

A domain name is a row of labels with dots between them, and perhaps a dot at its end.

* `Domain.labels`: the labels of a name;
* `Domain.encode?`: the name in ASCII.
-/

namespace CellPurse.Domain

open Text

/-- The signs that stand for a dot. -/
def isDot (c : Char) : Bool := c = '.' || c = '\u3002' || c = '\uff0e' || c = '\uff61'

/-- The labels of a name, and whether a dot follows the last one. -/
def labels (name : List Char) : List (List Char) × Bool :=
  let pieces := Split.pieces '.' (name.map fun c => if isDot c then '.' else c)
  if pieces.getLast? = some [] then (pieces.dropLast, true) else (pieces, false)

/-- How long a name in ASCII may be, without a dot at its end. -/
def longest : Nat := 253

/-- The name in ASCII. -/
def encode? (name : List Char) : Option (List Char) := do
  let (ls, dotted) := labels name
  let written := List.intercalate ['.'] (← ls.mapM Label.encode?)
  if written.isEmpty || longest < written.length then none
  else pure (if dotted then written ++ ['.'] else written)

end CellPurse.Domain
