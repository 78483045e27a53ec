import CellPurse.Json.Basic
import CellPurse.Number.Literal
import CellPurse.Number.Shortest
import CellPurse.Text.Quoted

/-!
# CellPurse.Json.Printer — writing values

* `Json.compact`: one line;
* `Json.pretty`: an item or field a line, indented by two;
* `Json.hasOverlong`: a number in the value has too many digits to be written;
* `Json.shown`: the form in which a message shows a value: `None`, `True`, `False`, and texts in quotes as in
  `Quoted`.
-/

namespace CellPurse.Json

open Text

/-! ## Texts -/

/-- `\u` and four digits. -/
def unit (n : Nat) : List Char := '\\' :: 'u' :: Quoted.code 4 n

/-- One character between double quotes; what is not plain ASCII is written in units of sixteen bits. -/
def escapeChar (c : Char) : List Char :=
  match c with
  | '"' => ['\\', '"']
  | '\\' => ['\\', '\\']
  | '\n' => ['\\', 'n']
  | '\r' => ['\\', 'r']
  | '\t' => ['\\', 't']
  | '\x08' => ['\\', 'b']
  | '\x0c' => ['\\', 'f']
  | _ =>
    let n := c.toNat
    if 0x20 ≤ n ∧ n < 0x7F then [c]
    else if n < 0x10000 then unit n
    else unit (0xD800 + (n - 0x10000) / 0x400) ++ unit (0xDC00 + (n - 0x10000) % 0x400)

/-- A text between double quotes. -/
def stringText (t : JsonText) : String :=
  let plain (s : String) := s.toList.flatMap escapeChar
  String.ofList ('"' :: (plain t.first ++ t.rest.flatMap fun h => unit h.1 ++ plain h.2) ++ ['"'])

/-- Doubles in JSON. -/
def floatStyle : Shortest.Style := { Shortest.plain with nan := "NaN", infinity := "Infinity" }

/-! ## One line -/

mutual

/-- The value on one line. -/
def compact : Json → String
  | null => "null"
  | bool b => if b then "true" else "false"
  | int n => toString n
  | float x => Shortest.text floatStyle x
  | str s => stringText s
  | arr items => "[" ++ ", ".intercalate (compactItems items) ++ "]"
  | obj fields => "\x7b" ++ ", ".intercalate (compactFields fields) ++ "\x7d"

/-- The items, each on one line. -/
def compactItems : List Json → List String
  | [] => []
  | v :: r => compact v :: compactItems r

/-- The fields, each on one line. -/
def compactFields : List (JsonText × Json) → List String
  | [] => []
  | (k, v) :: r => (stringText k ++ ": " ++ compact v) :: compactFields r

end

/-! ## Indented -/

/-- A new line indented by `depth` levels. -/
def newline (depth : Nat) : String := String.ofList ('\n' :: List.replicate (2 * depth) ' ')

/-- Parts between brackets, each on a line of its own one level deeper than `depth`. -/
def block (depth : Nat) (opening closing : String) (parts : List String) : String :=
  if parts.isEmpty then opening ++ closing
  else opening ++ newline (depth + 1) ++ ("," ++ newline (depth + 1)).intercalate parts ++ newline depth ++ closing

mutual

/-- The value with its items indented below level `depth`. -/
def prettyAt (depth : Nat) : Json → String
  | null => "null"
  | bool b => if b then "true" else "false"
  | int n => toString n
  | float x => Shortest.text floatStyle x
  | str s => stringText s
  | arr items => block depth "[" "]" (prettyItems depth items)
  | obj fields => block depth "\x7b" "\x7d" (prettyFields depth fields)

/-- The items of a list at level `depth`. -/
def prettyItems (depth : Nat) : List Json → List String
  | [] => []
  | v :: r => prettyAt (depth + 1) v :: prettyItems depth r

/-- The fields of an object at level `depth`. -/
def prettyFields (depth : Nat) : List (JsonText × Json) → List String
  | [] => []
  | (k, v) :: r => (stringText k ++ ": " ++ prettyAt (depth + 1) v) :: prettyFields depth r

end

/-- The value with an item or field a line, indented by two. -/
def pretty (v : Json) : String := prettyAt 0 v

/-! ## Numbers that are not written -/

mutual

/-- A number in the value has more decimal digits than are written. -/
def hasOverlong : Json → Bool
  | int n => Literal.isOverlong n
  | arr items => anyOverlong items
  | obj fields => anyFieldOverlong fields
  | _ => false

/-- A number in one of the items has. -/
def anyOverlong : List Json → Bool
  | [] => false
  | v :: r => hasOverlong v || anyOverlong r

/-- A number in one of the fields has. -/
def anyFieldOverlong : List (JsonText × Json) → Bool
  | [] => false
  | (_, v) :: r => hasOverlong v || anyFieldOverlong r

end

/-! ## In messages -/

mutual

/-- A value inside a message, texts in quotes. -/
def shown : Json → String
  | null => "None"
  | bool b => if b then "True" else "False"
  | int n => toString n
  | float x => Shortest.text Shortest.plain x
  | str s => s.quoted
  | arr items => "[" ++ ", ".intercalate (shownItems items) ++ "]"
  | obj fields => "\x7b" ++ ", ".intercalate (shownFields fields) ++ "\x7d"

/-- The items inside a message. -/
def shownItems : List Json → List String
  | [] => []
  | v :: r => shown v :: shownItems r

/-- The fields inside a message. -/
def shownFields : List (JsonText × Json) → List String
  | [] => []
  | (k, v) :: r => (k.quoted ++ ": " ++ shown v) :: shownFields r

end

/-- A value as the whole of a message part: a text stands without quotes. -/
def plainText : Json → String
  | str s => s.chars
  | v => shown v

end CellPurse.Json
