import CellPurse.Bytes.Hex
import CellPurse.Fault
import CellPurse.Json.Printer
import CellPurse.Number.Literal

/-!
# CellPurse.Json.Document — taking documents apart

What a reader of documents asks of a value, and what can be wrong with it.

* `DocumentFault`: the causes;
* `Json.field`, `Json.optional`: a required and an optional field;
* `Json.item`, `Json.elements`, `Json.size`: parts by place;
* `Json.bytes`, `Json.quantity`, `Json.integer`: byte strings, hexadecimal quantities and plain integers.
-/

namespace CellPurse

/-- What is wrong with a document. -/
inductive DocumentFault where
  /-- A required field is absent. -/
  | missing (key : String)
  /-- A place was asked of an object that has no such key. -/
  | missingItem (place : Nat)
  /-- Optional fields were asked of a value that is no object. -/
  | notObject
  /-- A text was wanted. -/
  | notText
  /-- The value has no parts, or is no number. -/
  | wrongKind
  /-- The list or text is too short. -/
  | outOfRange
  /-- An infinite number was to become an integer. -/
  | infinite
  /-- Not a number was to become an integer. -/
  | notNumber
  | hex (f : HexFault)
  | literal (f : LiteralFault)
  /-- The text names no kind of script hash. -/
  | hashType (text : String)
  /-- A cell has a capacity below zero. -/
  | negativeCapacity (n : Int)
  /-- The block has no transaction with the system cells. -/
  | fewTransactions
  deriving DecidableEq, Repr

/-- The fault in words; a value of the wrong shape has none. -/
def DocumentFault.message? : DocumentFault → Option String
  | missing key => some (Text.Quoted.quote key)
  | missingItem place => some (toString place)
  | notObject | notText | wrongKind | outOfRange | infinite => none
  | notNumber => some "cannot convert float NaN to integer"
  | hex f => some f.message
  | literal f => some f.message
  | hashType text => some ("Unknown script hash type: " ++ text)
  | negativeCapacity n => some ("Negative capacity: " ++ toString n)
  | fewTransactions => some "Genesis block must contain at least 2 transactions"

/-- What the fault is about. -/
def DocumentFault.kind : DocumentFault → FaultKind
  | .missing _ | .missingItem _ => .missing
  | .notObject | .notText => .shape
  | .wrongKind => .sort
  | .outOfRange => .place
  | .infinite => .unbounded
  | _ => .value

instance : Fault DocumentFault := ⟨DocumentFault.kind, fun f => f.message?⟩

namespace Json

/-! ## Parts -/

/-- A required field. -/
def field (v : Json) (key : String) : Except DocumentFault Json :=
  match v with
  | obj fields =>
    match lookup key fields with
    | some w => .ok w
    | none => .error (.missing key)
  | _ => .error .wrongKind

/-- An optional field. -/
def optional (v : Json) (key : String) : Except DocumentFault (Option Json) :=
  match v with
  | obj fields => .ok (lookup key fields)
  | _ => .error .notObject

/-- The part at a place of a list or text. -/
def item (v : Json) (place : Nat) : Except DocumentFault Json :=
  match v with
  | arr items =>
    match items[place]? with
    | some w => .ok w
    | none => .error .outOfRange
  | str s =>
    match s.chars.toList[place]? with
    | some c => .ok (str (String.ofList [c]))
    | none => .error .outOfRange
  | obj _ => .error (.missingItem place)
  | _ => .error .wrongKind

/-- The parts in order: items, characters, or the keys of an object. -/
def elements : Json → Except DocumentFault (List Json)
  | arr items => .ok items
  | str s => .ok (s.chars.toList.map fun c => str (String.ofList [c]))
  | obj fields => .ok (fields.map fun f => str f.1)
  | _ => .error .wrongKind

/-- How many parts there are. -/
def size (v : Json) : Except DocumentFault Nat :=
  match v with
  | arr items => .ok items.length
  | str s => .ok s.chars.length
  | obj fields => .ok fields.length
  | _ => .error .wrongKind

/-- A field is present, the text has it as a part, or the list as an item. -/
def has (v : Json) (key : String) : Except DocumentFault Bool :=
  match v with
  | obj fields => .ok (lookup key fields).isSome
  | arr items => .ok (items.any fun w => match w with
    | str s => s = key
    | _ => false)
  | str s => .ok ((s.chars.splitOn key).length != 1)
  | _ => .error .wrongKind

/-! ## Numbers and byte strings -/

/-- A hexadecimal text. -/
def bytes : Json → Except DocumentFault Bytes
  | str s => (Hex.decode s.chars).mapError .hex
  | _ => .error .notText

/-- The integer that a text denotes in a base; the fault shows the text with its halves. -/
def literal (base : Nat) (t : JsonText) : Except DocumentFault Int :=
  match Literal.parse base t.chars with
  | .ok n => .ok n
  | .error (.malformed base _) => .error (.literal (.malformed base t.quoted))
  | .error f => .error (.literal f)

/-- A quantity: a hexadecimal text, or a number as it is. -/
def quantity : Json → Except DocumentFault Int
  | int n => .ok n
  | bool b => .ok (if b then 1 else 0)
  | str s => literal 16 s
  | _ => .error .wrongKind

/-- An integer: a number without its fraction, or a decimal text. -/
def integer : Json → Except DocumentFault Int
  | int n => .ok n
  | bool b => .ok (if b then 1 else 0)
  | float x =>
    match Binary64.view x with
    | .nan => .error .notNumber
    | .infinite _ => .error .infinite
    | .finite negative m e =>
      let n : Int := Binary64.magnitude m e
      .ok (if negative then -n else n)
  | str s => literal 10 s
  | _ => .error .wrongKind

/-- A byte string as a document. -/
def ofBytes (b : Bytes) : Json := str b.hexText

/-- A quantity as a document. -/
def ofQuantity (n : Int) : Json := str (Literal.hexText n)

end Json

end CellPurse
