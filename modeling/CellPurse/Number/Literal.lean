import CellPurse.Fault
import CellPurse.Text.Blank
import CellPurse.Text.Digit
import CellPurse.Text.Quoted

/-!
# CellPurse.Number.Literal — integers as texts

An integer literal is a sign, then digits of the base with single underscores between them; base sixteen may start
with `0x`.  Digits of every script count, and blanks around the literal are dropped.

* `Literal.parse base s`: the integer, or the fault; `Literal.decimal`: the decimal text of an integer, which has none
  when it has more digits than are read;
* `LiteralFault.message`: the fault in words, which shows at most `shownLimit` characters of the quoted text;
* `hexText`: the signed hexadecimal text of an integer.
-/

namespace CellPurse

open Text

/-- Why a text is no integer. -/
inductive LiteralFault where
  /-- The text, here in quotes, is no literal of the base. -/
  | malformed (base : Nat) (quoted : String)
  /-- More decimal digits than are read. -/
  | tooLong (digits : Nat)
  /-- An integer has more decimal digits than are written. -/
  | unwritten
  deriving DecidableEq, Repr

namespace Literal

/-- How much of a quoted text a message shows. -/
def shownLimit : Nat := 200

/-- The greatest number of digits read or written in a base that is no power of two. -/
def digitLimit : Nat := 4300

end Literal

/-- The words for more digits than the limit; in between it may be said how many. -/
def Literal.limitText (count : String) : String :=
  "Exceeds the limit (" ++ toString digitLimit ++ " digits) for integer string conversion" ++ count ++
    "; use sys.set_int_max_str_digits() to increase the limit"

/-- The fault in words. -/
def LiteralFault.message : LiteralFault → String
  | malformed base quoted =>
    "invalid literal for int() with base " ++ toString base ++ ": " ++
      String.ofList (quoted.toList.take Literal.shownLimit)
  | tooLong digits => Literal.limitText (": value has " ++ toString digits ++ " digits")
  | unwritten => Literal.limitText ""

instance : Fault LiteralFault := ⟨fun _ => .value, fun f => f.message⟩

namespace Literal

/-- The blanks around a literal: those of plain ASCII text and those outside ASCII. -/
def isBlank (c : Char) : Bool := Blank.isAscii c || Blank.isWide c

/-- The value of a digit of the base. -/
def digit? (base : Nat) (c : Char) : Option Nat :=
  match Digit.hex? c with
  | some d => if d < base then some d else none
  | none => none

/-- Reads digits and the underscores between them: the value, the count of digits and the rest.  `afterDigit` tells
whether an underscore or the end may come next. -/
def digits (base : Nat) : Bool → Nat → Nat → List Char → Option (Nat × Nat × List Char)
  | afterDigit, v, n, [] => if afterDigit then some (v, n, []) else none
  | afterDigit, v, n, c :: r =>
    if c = '_' then if afterDigit then digits base false v n r else none
    else match digit? base c with
      | some d => digits base true (base * v + d) (n + 1) r
      | none => if afterDigit then some (v, n, c :: r) else none

/-- The sign, true when negative, and the rest. -/
def sign : List Char → Bool × List Char
  | '-' :: r => (true, r)
  | '+' :: r => (false, r)
  | cs => (false, cs)

/-- Drops the mark of base sixteen and one underscore after it. -/
def unmark (base : Nat) : List Char → List Char
  | '0' :: x :: r =>
    if base = 16 ∧ (x = 'x' ∨ x = 'X') then
      match r with
      | '_' :: r' => r'
      | _ => r
    else '0' :: x :: r
  | cs => cs

/-- The integer that the text denotes in the base. -/
def parse (base : Nat) (s : String) : Except LiteralFault Int :=
  let (negative, cs) := sign ((s.toList.map Digit.plain).dropWhile isBlank)
  match digits base false 0 0 (unmark base cs) with
  | none => .error (.malformed base (Quoted.quote s))
  | some (v, n, rest) =>
    if base = 10 ∧ digitLimit < n then .error (.tooLong n)
    else if rest.all isBlank then .ok (if negative then -(v : Int) else v)
    else .error (.malformed base (Quoted.quote s))

/-- The integer has more decimal digits than are written. -/
def isOverlong (n : Int) : Bool := 10 ^ digitLimit ≤ n.natAbs

/-- The integer in decimal. -/
def decimal (n : Int) : Except LiteralFault String := if isOverlong n then .error .unwritten else .ok (toString n)

/-- The hexadecimal digits of a number. -/
def hexDigits (n : Nat) : List Char := Nat.toDigits 16 n

/-- The integer in hexadecimal after `0x`, a minus sign in front when it is negative. -/
def hexText (n : Int) : String :=
  String.ofList ((if n < 0 then ['-'] else []) ++ '0' :: 'x' :: hexDigits n.natAbs)

/-- The hexadecimal text filled with zeros after `0x` up to `width` characters in all. -/
def hexTextPadded (width : Nat) (n : Int) : String :=
  let front := (if n < 0 then ['-'] else []) ++ ['0', 'x']
  let body := hexDigits n.natAbs
  String.ofList (front ++ List.replicate (width - front.length - body.length) '0' ++ body)

end Literal

end CellPurse
