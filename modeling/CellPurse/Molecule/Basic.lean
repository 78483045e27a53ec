import CellPurse.Bytes.Basic
import CellPurse.Fault

/-!
# CellPurse.Molecule.Basic — the binary format of the chain

Words are written low byte first.  A vector of fixed items starts with their number; a table, and a vector of items of
any size, starts with its whole size and the offset of every item.

* `Molecule.u32`, `Molecule.u64`: words; a number outside the width is refused;
* `Molecule.bytes`, `Molecule.fixvec`, `Molecule.dynvec`, `Molecule.table`, `Molecule.option`: values from their
  written parts;
* `Molecule.readU32`, `Molecule.fields`: a word at an offset, and the fields of a table.

A reader of tables trusts the offsets: it checks the whole size, and takes each field from its offset to the next.
-/

namespace CellPurse

/-- What is wrong with a binary value. -/
inductive MoleculeFault where
  /-- A number does not fit its word. -/
  | tooWide
  /-- Bytes are missing. -/
  | tooShort
  /-- An offset that no byte string has. -/
  | noSuchOffset
  /-- The size in the header is not that of the bytes. -/
  | tableSize (header actual : Nat)
  /-- A witness has this many fields instead of three. -/
  | witnessFields (count : Nat)
  deriving DecidableEq, Repr

/-- The fault in words; missing bytes and wide numbers have none. -/
def MoleculeFault.message? : MoleculeFault → Option String
  | tooWide | tooShort | noSuchOffset => none
  | tableSize header actual =>
    some ("Table size mismatch: header " ++ toString header ++ ", actual " ++ toString actual)
  | witnessFields count => some ("WitnessArgs expects 3 fields, got " ++ toString count)

/-- What the fault is about. -/
def MoleculeFault.kind : MoleculeFault → FaultKind
  | .tooWide | .tooShort => .width
  | .noSuchOffset => .unbounded
  | _ => .value

instance : Fault MoleculeFault := ⟨MoleculeFault.kind, fun f => f.message?⟩

namespace Molecule

/-! ## Writing -/

/-- A number as a word of `w` bytes. -/
def wordOf (w : Nat) (n : Int) : Except MoleculeFault Bytes :=
  if 0 ≤ n ∧ n < 256 ^ w then .ok (Bytes.ofNatLE w n.toNat) else .error .tooWide

/-- A number in four bytes. -/
def u32 (n : Int) : Except MoleculeFault Bytes := wordOf 4 n

/-- A number in eight bytes. -/
def u64 (n : Int) : Except MoleculeFault Bytes := wordOf 8 n

/-- A byte string after its length. -/
def bytes (b : Bytes) : Except MoleculeFault Bytes := do
  let n ← u32 b.length
  pure (n ++ b)

/-- Items of one size after their number. -/
def fixvec (items : List Bytes) : Except MoleculeFault Bytes := do
  let n ← u32 items.length
  pure (n ++ items.flatten)

/-- The offsets of items, the first of which starts at `start`. -/
def offsets : Nat → List Bytes → Except MoleculeFault Bytes
  | _, [] => .ok []
  | start, item :: r => do
    let here ← u32 start
    let next ← offsets (start + item.length) r
    pure (here ++ next)

/-- Items after their whole size and their offsets. -/
def table (items : List Bytes) : Except MoleculeFault Bytes := do
  let header := 4 + 4 * items.length
  let size ← u32 (header + items.flatten.length : Nat)
  let places ← offsets header items
  pure (size ++ places ++ items.flatten)

/-- Items of any size. -/
def dynvec (items : List Bytes) : Except MoleculeFault Bytes :=
  if items.isEmpty then u32 4 else table items

/-- A value that may be absent: nothing, or its bytes. -/
def option : Option Bytes → Bytes
  | none => []
  | some b => b

/-! ## Reading -/

/-- The word of four bytes at an offset. -/
def wordAt (data : Bytes) (offset : Nat) : Except MoleculeFault Nat :=
  if offset + 4 ≤ data.length then .ok (Bytes.toNatLE ((data.drop offset).take 4)) else .error .tooShort

/-- The word of four bytes at an offset, which counts from the end when it is negative. -/
def readU32 (data : Bytes) (offset : Int) : Except MoleculeFault Nat :=
  if offset < -(2 ^ 63) ∨ 2 ^ 63 ≤ offset then .error .noSuchOffset
  else if 0 ≤ offset then wordAt data offset.toNat
  else if 0 < offset + 4 ∨ offset + data.length < 0 then .error .tooShort
  else wordAt data (offset + data.length).toNat

/-- The part of a byte string from one offset up to another, empty when the second is not after the first. -/
def slice (data : Bytes) (start stop : Nat) : Bytes := (data.take stop).drop start

/-- The parts between each offset and the next. -/
def cut (data : Bytes) : List Nat → List Bytes
  | start :: stop :: r => slice data start stop :: cut data (stop :: r)
  | _ => []

/-- `n` words, the first at an offset. -/
def wordsAt (data : Bytes) : Nat → Nat → Except MoleculeFault (List Nat)
  | 0, _ => .ok []
  | n + 1, offset => do
    let w ← wordAt data offset
    let r ← wordsAt data n (offset + 4)
    pure (w :: r)

/-- The fields of a table. -/
def fields (data : Bytes) : Except MoleculeFault (List Bytes) := do
  let size ← wordAt data 0
  if size ≠ data.length then .error (.tableSize size data.length)
  else if size = 4 then pure []
  else
    let first ← wordAt data 4
    let count := first / 4 - 1
    let places ← wordsAt data count 4
    pure (cut data (places ++ [size]))

end Molecule

end CellPurse
