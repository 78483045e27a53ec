import CellPurse.Text.Split

/-!
# CellPurse.Settings.Location — where a file is

* `Location.normal`: the text of a place in its plain form: single slashes, no parts that stay where they are, and a
  point for the place itself.  Two slashes in front are kept, as they may mean another root.
-/

namespace CellPurse.Location

/-- The slashes in front: none, one or two. -/
def root : List Char → List Char
  | '/' :: '/' :: '/' :: _ => ['/']
  | '/' :: '/' :: _ => ['/', '/']
  | '/' :: _ => ['/']
  | _ => []

/-- The parts of a place between its slashes. -/
abbrev Parts := List (List Char)

/-- The parts that lead somewhere. -/
def parts (cs : List Char) : Parts :=
  (Text.Split.pieces '/' cs).filter fun p => !p.isEmpty && p ≠ ['.']

/-- The plain form of a place. -/
def normal (s : String) : String :=
  let text := root s.toList ++ ['/'].intercalate (parts s.toList)
  if text.isEmpty then "." else String.ofList text

end CellPurse.Location
