import CellPurse.Json.Text

/-!
# CellPurse.Json.Basic — JSON documents

* `Json`: the values, with integers and floating numbers apart and the fields of an object in order;
* `Json.field?`: a field of an object;
* `Json.truthy`: everything but null, false, zero and the empty text, list and object.
-/

namespace CellPurse

/-- A JSON value. -/
inductive Json where
  | null
  | bool (b : Bool)
  | int (n : Int)
  | float (x : Float)
  | str (s : JsonText)
  | arr (items : List Json)
  | obj (fields : List (JsonText × Json))
  deriving Inhabited

namespace Json

/-- The value of a key among the fields of an object. -/
def lookup (key : JsonText) : List (JsonText × Json) → Option Json
  | [] => none
  | (k, v) :: r => if k = key then some v else lookup key r

/-- The value of a field, for an object that has it. -/
def field? (key : JsonText) : Json → Option Json
  | obj fields => lookup key fields
  | _ => none

/-- Sets a key: a key that is present keeps its place and takes the new value. -/
def insert (key : JsonText) (v : Json) : List (JsonText × Json) → List (JsonText × Json)
  | [] => [(key, v)]
  | (k, w) :: r => if k = key then (key, v) :: r else (k, w) :: insert key v r

/-- Not null, false, zero or empty. -/
def truthy : Json → Bool
  | null => false
  | bool b => b
  | int n => n != 0
  | float x => x != 0.0
  | str s => s ≠ ""
  | arr items => !items.isEmpty
  | obj fields => !fields.isEmpty

end Json

end CellPurse
