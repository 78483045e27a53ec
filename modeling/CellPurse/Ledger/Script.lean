import CellPurse.Hash.Blake2b
import CellPurse.Json.Document
import CellPurse.Molecule.Basic
import CellPurse.Text.Case

/-!
# CellPurse.Ledger.Script — scripts

A script names the code that guards a cell and gives it arguments.

* `HashType`: how the code is named; its number and its word;
* `Script`: code hash, hash type and arguments; `serialize`, `hash`, `toJson` and `ofJson`;
* `Script.isSighash`, `Script.isMultisig`: locks of one key and of a multisig policy;
* the code hashes of the system scripts.
-/

namespace CellPurse

/-- How a script names its code. -/
inductive HashType where
  | data
  | type
  | data1
  deriving DecidableEq, Repr

namespace HashType

/-- The number of a hash type. -/
def toNat : HashType → Nat
  | data => 0
  | type => 1
  | data1 => 2

/-- The hash type with a number. -/
def ofNat? : Nat → Option HashType
  | 0 => some data
  | 1 => some type
  | 2 => some data1
  | _ => none

/-- The word of a hash type. -/
def name : HashType → String
  | data => "data"
  | type => "type"
  | data1 => "data1"

/-- The hash type that a word names, in letters of either case. -/
def ofName (text : String) : Except DocumentFault HashType :=
  let upper := Text.Case.upperAscii text
  if upper = "DATA" then .ok data
  else if upper = "TYPE" then .ok type
  else if upper = "DATA1" then .ok data1
  else .error (.hashType text)

/-- The hash type that a document names. -/
def ofJson : Json → Except DocumentFault HashType
  | .str s => ofName s.chars
  | _ => .error .notText

@[simp] theorem ofNat?_toNat (t : HashType) : ofNat? t.toNat = some t := by cases t <;> rfl

theorem toNat_lt (t : HashType) : t.toNat < 3 := by cases t <;> decide

end HashType

/-- A script. -/
structure Script where
  codeHash : Bytes
  hashType : HashType
  args : Bytes
  deriving DecidableEq, Repr

namespace Script

/-- The script in binary form. -/
def serialize (s : Script) : Except MoleculeFault Bytes := do
  let args ← Molecule.bytes s.args
  Molecule.table [s.codeHash, [UInt8.ofNat s.hashType.toNat], args]

/-- The hash of a script: the identity of the cells that it guards. -/
def hash (s : Script) : Except MoleculeFault Bytes := do
  let b ← s.serialize
  pure (Hash.chain b)

/-- The script as a document. -/
def toJson (s : Script) : Json :=
  .obj [("code_hash", .ofBytes s.codeHash), ("hash_type", .str s.hashType.name), ("args", .ofBytes s.args)]

/-- Reads a script. -/
def ofJson (v : Json) : Except DocumentFault Script := do
  let codeHash ← (← v.field "code_hash").bytes
  let hashType ← HashType.ofJson (← v.field "hash_type")
  let args ← (← v.field "args").bytes
  pure ⟨codeHash, hashType, args⟩

end Script

/-! ## System scripts -/

namespace System

/-- The size of a hash. -/
def hashSize : Nat := 32

/-- The size of the hash of one public key. -/
def keyHashSize : Nat := 20

/-- The size of the arguments of a locked multisig cell: a policy hash and a time lock. -/
def lockedArgsSize : Nat := 28

/-- The size of a signature. -/
def signatureSize : Nat := 65

/-- The code hash of the single key lock. -/
def sighashCode : Bytes :=
  [0x9b, 0xd7, 0xe0, 0x6f, 0x3e, 0xcf, 0x4b, 0xe0, 0xf2, 0xfc, 0xd2, 0x18, 0x8b, 0x23, 0xf1, 0xb9,
   0xfc, 0xc8, 0x8e, 0x5d, 0x4b, 0x65, 0xa8, 0x63, 0x7b, 0x17, 0x72, 0x3b, 0xbd, 0xa3, 0xcc, 0xe8]

/-- The code hash of the multisig lock. -/
def multisigCode : Bytes :=
  [0x5c, 0x50, 0x69, 0xeb, 0x08, 0x57, 0xef, 0xc6, 0x5e, 0x1b, 0xca, 0x0c, 0x07, 0xdf, 0x34, 0xc3,
   0x16, 0x63, 0xb3, 0x62, 0x2f, 0xd3, 0x87, 0x6c, 0x87, 0x63, 0x20, 0xfc, 0x96, 0x34, 0xe2, 0xa8]

/-- The code hash of the deposit script. -/
def daoCode : Bytes :=
  [0x82, 0xd7, 0x6d, 0x1b, 0x75, 0xfe, 0x2f, 0xd9, 0xa2, 0x7d, 0xfb, 0xaa, 0x65, 0xa0, 0x39, 0x22,
   0x1a, 0x38, 0x0d, 0x76, 0xc9, 0x26, 0xf3, 0x78, 0xd3, 0xf8, 0x1c, 0xf3, 0xe7, 0xe1, 0x3f, 0x2e]

/-- The lock of one key. -/
def sighashLock (keyHash : Bytes) : Script := ⟨sighashCode, .type, keyHash⟩

end System

namespace Script

/-- The code is that of the multisig lock. -/
def hasMultisigCode (s : Script) : Bool := s.hashType = .type && s.codeHash = System.multisigCode

/-- A lock of one key. -/
def isSighash (s : Script) : Bool :=
  s.hashType = .type && s.codeHash = System.sighashCode && s.args.length = System.keyHashSize

/-- A lock of a multisig policy, with or without a time lock. -/
def isMultisig (s : Script) : Bool :=
  s.hasMultisigCode && (s.args.length = System.keyHashSize || s.args.length = System.lockedArgsSize)

end Script

end CellPurse
