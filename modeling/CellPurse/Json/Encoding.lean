import CellPurse.Bytes.Hex
import CellPurse.Text.Quoted

/-!
# CellPurse.Json.Encoding — documents as bytes

A document comes in units of one, two or four bytes.  Its first character is ASCII, so that the zeros among the first
four bytes tell how wide the units are and which byte of a unit comes first.  A mark in front of the document tells the
same, and is no part of it.

* `Encoding.detect`: the encoding of a document and the length of its mark;
* `Encoding.decode`: the characters of a document, or an `EncodingFault`;
* `Encoding.ofUnits`: the characters of units of sixteen bits.  A half of a pair without the other one is given by its
  escape, for the characters of a document are where it may stand.
-/

namespace CellPurse

open Text

/-- How a document is written in bytes; true when the high byte of a unit comes first. -/
inductive Encoding where
  | utf8
  | utf16 (highFirst : Bool)
  | utf32 (highFirst : Bool)
  deriving DecidableEq, Repr

/-- Why bytes are no text. -/
inductive EncodingFault where
  | malformed
  /-- The last bytes, from a position on, make no unit. -/
  | truncated (encoding : Encoding) (position : Nat) (rest : Bytes)
  /-- The unit at a position is no code of a character. -/
  | outOfRange (encoding : Encoding) (position : Nat)
  deriving DecidableEq, Repr

namespace Encoding

/-- The name of an encoding. -/
def name : Encoding → String
  | utf8 => "utf-8"
  | utf16 highFirst => if highFirst then "utf-16-be" else "utf-16-le"
  | utf32 highFirst => if highFirst then "utf-32-be" else "utf-32-le"

/-! ## Telling encodings apart -/

/-- The marks; of two that both stand in front of a document the first one counts. -/
def marks : List (Bytes × Encoding) :=
  [([0, 0, 0xFE, 0xFF], utf32 true), ([0xFF, 0xFE, 0, 0], utf32 false), ([0xFE, 0xFF], utf16 true),
   ([0xFF, 0xFE], utf16 false), ([0xEF, 0xBB, 0xBF], utf8)]

/-- The encoding of a document without a mark. -/
def ofZeros : Bytes → Encoding
  | a :: b :: c :: d :: _ =>
    if a = 0 then if b = 0 then utf32 true else utf16 true
    else if b = 0 then if c = 0 ∧ d = 0 then utf32 false else utf16 false
    else utf8
  | [a, b] => if a = 0 then utf16 true else if b = 0 then utf16 false else utf8
  | _ => utf8

/-- The encoding of a document, and the length of its mark. -/
def detect (b : Bytes) : Encoding × Nat :=
  match marks.find? fun m => m.1.isPrefixOf b with
  | some (mark, e) => (e, mark.length)
  | none => (ofZeros b, 0)

/-! ## Units -/

/-- The number of the bytes of a unit. -/
def unit (highFirst : Bool) (b : Bytes) : Nat := if highFirst then Bytes.toNatBE b else Bytes.toNatLE b

/-- Units of two bytes, and what is left. -/
def units16 (highFirst : Bool) : Bytes → List Nat × Bytes
  | a :: b :: r =>
    let (us, rest) := units16 highFirst r
    (unit highFirst [a, b] :: us, rest)
  | rest => ([], rest)

/-- Units of four bytes, and what is left. -/
def units32 (highFirst : Bool) : Bytes → List Nat × Bytes
  | a :: b :: c :: d :: r =>
    let (us, rest) := units32 highFirst r
    (unit highFirst [a, b, c, d] :: us, rest)
  | rest => ([], rest)

/-- The character of a code; a half of a pair is given by its escape. -/
def single (n : Nat) : List Char :=
  if 0xD800 ≤ n ∧ n < 0xE000 then '\\' :: 'u' :: Quoted.code 4 n else [Char.ofNat n]

/-- The characters of units of sixteen bits. -/
def ofUnits : List Nat → List Char
  | [] => []
  | [u] => single u
  | u :: v :: r =>
    if 0xD800 ≤ u ∧ u < 0xDC00 ∧ 0xDC00 ≤ v ∧ v < 0xE000 then
      Char.ofNat (0x10000 + (u - 0xD800) * 0x400 + (v - 0xDC00)) :: ofUnits r
    else single u ++ ofUnits (v :: r)

/-! ## Reading -/

/-- Nothing may be left behind the units, which reach up to a position. -/
def complete (e : Encoding) (position : Nat) (rest : Bytes) (cs : List Char) : Except EncodingFault (List Char) :=
  if rest.isEmpty then .ok cs else .error (.truncated e position rest)

/-- The characters of a document. -/
def decode (b : Bytes) : Except EncodingFault (List Char) :=
  let (e, start) := detect b
  let content := b.drop start
  match e with
  | utf8 =>
    match String.fromUTF8? (ByteArray.mk content.toArray) with
    | some s => .ok s.toList
    | none => .error .malformed
  | utf16 highFirst =>
    let (us, rest) := units16 highFirst content
    complete e (start + 2 * us.length) rest (ofUnits us)
  | utf32 highFirst =>
    let (us, rest) := units32 highFirst content
    let good := us.takeWhile (· < 0x110000)
    if good.length < us.length then .error (.outOfRange e (start + 4 * good.length))
    else complete e (start + 4 * us.length) rest (us.flatMap single)

end Encoding

/-- The bytes from a position on, and what is wrong with them. -/
def EncodingFault.text (e : Encoding) (position count : Nat) (bytes reason : String) : String :=
  "'" ++ e.name ++ "' codec can't decode " ++
    (if count = 1 then "byte 0x" ++ bytes ++ " in position " ++ toString position
     else "bytes in position " ++ toString position ++ "-" ++ toString (position + count - 1)) ++ ": " ++ reason

/-- The fault in words; bytes that are no text at all have none. -/
def EncodingFault.message? : EncodingFault → Option String
  | malformed => none
  | truncated e position rest => some (text e position rest.length rest.hex "truncated data")
  | outOfRange e position => some (text e position 4 "" "code point not in range(0x110000)")

end CellPurse
