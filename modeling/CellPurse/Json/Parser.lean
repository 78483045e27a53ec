import CellPurse.Fault
import CellPurse.Json.Basic
import CellPurse.Number.Binary64
import CellPurse.Number.Literal

/-!
# CellPurse.Json.Parser — reading JSON texts

The grammar is that of JSON, and `NaN`, `Infinity` and `-Infinity` are numbers.  A number without point and exponent
is an integer of any size up to the digit limit of `Literal`.  Of a repeated key the last value counts.

* `Json.parse`: the document of a text, or the fault;
* `JsonFault`: malformed, nested deeper than `Parser.depthLimit`, or an integer of too many digits.
-/

namespace CellPurse

open Text

/-- Why a text is no JSON document. -/
inductive JsonFault where
  | malformed
  /-- Nested too deeply; true when the value too deep is an object. -/
  | tooDeep (object : Bool)
  | number (f : LiteralFault)
  deriving DecidableEq, Repr

/-- The fault in words; a malformed text has none. -/
def JsonFault.message? : JsonFault → Option String
  | malformed => none
  | tooDeep object =>
    some ("maximum recursion depth exceeded while decoding a JSON " ++ (if object then "object" else "array") ++
      " from a unicode string")
  | number f => some f.message

/-- What the fault is about. -/
def JsonFault.kind : JsonFault → FaultKind
  | .malformed => .grammar
  | .tooDeep _ => .depth
  | .number _ => .value

instance : Fault JsonFault := ⟨JsonFault.kind, fun f => f.message?⟩

namespace Json.Parser

/-- How deep arrays and objects may nest. -/
def depthLimit : Nat := 980

/-- A reader of one value: the value and the rest of the text. -/
abbrev Reader (α : Type) := List Char → Except JsonFault (α × List Char)

/-- The white space of JSON. -/
def isSpace (c : Char) : Bool := c = ' ' || c = '\t' || c = '\n' || c = '\r'

/-- Drops white space. -/
def skip (cs : List Char) : List Char := cs.dropWhile isSpace

/-! ## Texts -/

/-- Four hexadecimal digits. -/
def hex4 : List Char → Option (Nat × List Char)
  | a :: b :: c :: d :: r => do
    let a ← Digit.hex? a
    let b ← Digit.hex? b
    let c ← Digit.hex? c
    let d ← Digit.hex? d
    pure (((a * 16 + b) * 16 + c) * 16 + d, r)
  | _ => none

/-- What stands after `\u`: the first half of a pair joins the second one if that follows, and a half alone stays. -/
def unicode (cs : List Char) : Option (JsonText.Mark × List Char) := do
  let (u, r) ← hex4 cs
  if 0xD800 ≤ u ∧ u < 0xDC00 then
    match r with
    | '\\' :: 'u' :: r' =>
      match hex4 r' with
      | some (v, r'') =>
        if 0xDC00 ≤ v ∧ v < 0xE000 then
          pure (.char (Char.ofNat (0x10000 + (u - 0xD800) * 0x400 + (v - 0xDC00))), r'')
        else pure (.half u, r)
      | none => pure (.half u, r)
    | _ => pure (.half u, r)
  else if 0xDC00 ≤ u ∧ u < 0xE000 then pure (.half u, r)
  else pure (.char (Char.ofNat u), r)

/-- The character that a letter after a backslash stands for. -/
def letter? : Char → Option Char
  | '"' => some '"'
  | '\\' => some '\\'
  | '/' => some '/'
  | 'b' => some '\x08'
  | 'f' => some '\x0c'
  | 'n' => some '\n'
  | 'r' => some '\r'
  | 't' => some '\t'
  | _ => none

/-- The text up to the closing quote, collected in reverse in `acc`; each step drops a character of what is read, which
is at most `fuel` long. -/
def chars : Nat → List JsonText.Mark → Reader JsonText
  | 0, _, _ => .error .malformed
  | fuel + 1, acc, cs =>
    match cs with
    | [] => .error .malformed
    | '"' :: r => .ok (.ofMarks acc, r)
    | '\\' :: 'u' :: r =>
      match unicode r with
      | some (m, r') => chars fuel (m :: acc) r'
      | none => .error .malformed
    | '\\' :: x :: r =>
      match letter? x with
      | some c => chars fuel (.char c :: acc) r
      | none => .error .malformed
    | c :: r => if c.toNat < 0x20 ∨ c = '\\' then .error .malformed else chars fuel (.char c :: acc) r

/-! ## Numbers -/

/-- The digits after a point, if a point and a digit come next. -/
def fraction : List Char → Option (List Char × List Char)
  | '.' :: r =>
    let ds := r.takeWhile Digit.isAscii
    if ds.isEmpty then none else some (ds, r.dropWhile Digit.isAscii)
  | _ => none

/-- The exponent, if one with a digit comes next. -/
def exponent : List Char → Option (Int × List Char)
  | e :: r =>
    if e = 'e' ∨ e = 'E' then
      let (negative, r) := Literal.sign r
      let ds := r.takeWhile Digit.isAscii
      if ds.isEmpty then none
      else some ((if negative then -(Digit.natOf ds : Int) else Digit.natOf ds), r.dropWhile Digit.isAscii)
    else none
  | [] => none

/-- A number after its sign. -/
def unsigned (negative : Bool) (cs : List Char) : Except JsonFault (Json × List Char) :=
  let whole := match cs with
    | '0' :: _ => ['0']
    | _ => cs.takeWhile Digit.isAscii
  if whole.isEmpty then .error .malformed
  else
    let r := cs.drop whole.length
    let (frac, r) := (fraction r).getD ([], r)
    let power := exponent r
    if frac.isEmpty ∧ power.isNone then
      if Literal.digitLimit < whole.length then .error (.number (.tooLong whole.length))
      else .ok (.int (if negative then -(Digit.natOf whole : Int) else Digit.natOf whole), r)
    else
      let (e, r) := power.getD (0, r)
      .ok (.float (Binary64.nearest negative (Digit.natOf (whole ++ frac)) (e - frac.length)), r)

/-! ## Values -/

/-- The rest after a given word. -/
def word? : List Char → List Char → Option (List Char)
  | [], cs => some cs
  | w :: ws, c :: cs => if w = c then word? ws cs else none
  | _ :: _, [] => none

/-- The first word that matches. -/
def words (cs : List Char) : List (String × Json) → Option (Json × List Char)
  | [] => none
  | (w, v) :: r =>
    match word? w.toList cs with
    | some rest => some (v, rest)
    | none => words cs r

/-- The values that are spelled as words. -/
def constants : List (String × Json) :=
  [("null", .null), ("true", .bool true), ("false", .bool false), ("NaN", .float (0.0 / 0.0)),
   ("Infinity", .float (1.0 / 0.0)), ("-Infinity", .float (-1.0 / 0.0))]

/-- A value that holds no other. -/
def scalar (size : Nat) (cs : List Char) : Except JsonFault (Json × List Char) :=
  match cs with
  | '"' :: r => do
    let (s, r) ← chars size [] r
    pure (.str s, r)
  | _ =>
    match words cs constants with
    | some found => .ok found
    | none =>
      match cs with
      | '-' :: r => unsigned true r
      | _ => unsigned false cs

/-- The items up to the closing bracket. -/
def items (value : Reader Json) : Nat → Reader (List Json)
  | 0, _ => .error .malformed
  | fuel + 1, cs => do
    let (v, r) ← value cs
    match skip r with
    | ',' :: r' =>
      let (vs, rest) ← items value fuel (skip r')
      pure (v :: vs, rest)
    | ']' :: r' => pure ([v], r')
    | _ => .error .malformed

/-- The fields up to the closing brace, added to those before. -/
def fields (size : Nat) (value : Reader Json) : Nat → List (JsonText × Json) → Reader (List (JsonText × Json))
  | 0, _, _ => .error .malformed
  | fuel + 1, before, cs =>
    match cs with
    | '"' :: r => do
      let (key, r) ← chars size [] r
      match skip r with
      | ':' :: r =>
        let (v, r) ← value (skip r)
        let now := insert key v before
        match skip r with
        | ',' :: r' => fields size value fuel now (skip r')
        | '\x7d' :: r' => pure (now, r')
        | _ => .error .malformed
      | _ => .error .malformed
    | _ => .error .malformed

/-- A value of a text at most `size` long, with arrays and objects nested at most `depth` deep. -/
def value (size : Nat) : Nat → Reader Json
  | depth, cs =>
    match cs with
    | '[' :: r =>
      match depth with
      | 0 => .error (.tooDeep false)
      | depth + 1 =>
        match skip r with
        | ']' :: r' => .ok (.arr [], r')
        | r' => do
          let (vs, rest) ← items (value size depth) size r'
          pure (.arr vs, rest)
    | '\x7b' :: r =>
      match depth with
      | 0 => .error (.tooDeep true)
      | depth + 1 =>
        match skip r with
        | '\x7d' :: r' => .ok (.obj [], r')
        | r' => do
          let (fs, rest) ← fields size (value size depth) size [] r'
          pure (.obj fs, rest)
    | _ => scalar size cs

end Json.Parser

/-- The document that characters spell. -/
def Json.ofChars (cs : List Char) : Except JsonFault Json := do
  let (v, r) ← Json.Parser.value cs.length Json.Parser.depthLimit (Json.Parser.skip cs)
  if (Json.Parser.skip r).isEmpty then pure v else .error .malformed

/-- The document that a text spells. -/
def Json.parse (s : String) : Except JsonFault Json := Json.ofChars s.toList

end CellPurse
