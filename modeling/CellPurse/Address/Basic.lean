import CellPurse.Address.Bech32
import CellPurse.Address.Regroup
import CellPurse.Fault
import CellPurse.Ledger.Script
import CellPurse.Number.Literal

/-!
# CellPurse.Address.Basic — addresses

An address is a network and the script that guards what is sent there.  Its text is a checked text of a payload:

* format `0`, newer code: code hash, hash type and arguments — the form that is written;
* format `1`, older code: the number of a system lock, and twenty bytes of arguments;
* formats `2` and `4`, older code: code hash and arguments, named by data and by type.

`Address.encode` writes, `Address.parse` reads; `Address.ofKeyHash` is the address of one key.
-/

namespace CellPurse

/-- A network. -/
inductive Network where
  | mainnet
  | testnet
  deriving DecidableEq, Repr

namespace Network

/-- The word of a network. -/
def name : Network → String
  | mainnet => "mainnet"
  | testnet => "testnet"

/-- The network with a word. -/
def ofName? (s : String) : Option Network :=
  if s = "mainnet" then some mainnet else if s = "testnet" then some testnet else none

/-- What the addresses of a network start with. -/
def hrp : Network → List Char
  | mainnet => ['c', 'k', 'b']
  | testnet => ['c', 'k', 't']

/-- The network whose addresses start so. -/
def ofHrp? (hrp : List Char) : Option Network :=
  if hrp = mainnet.hrp then some mainnet else if hrp = testnet.hrp then some testnet else none

@[simp] theorem ofHrp?_hrp (n : Network) : ofHrp? n.hrp = some n := by cases n <;> decide

end Network

/-- Why a text is no address. -/
inductive AddressFault where
  | text (f : Bech32Fault)
  /-- Bits are left over that are no padding. -/
  | leftOver
  | unknownPrefix (hrp : String)
  | network (expected got : Network)
  | emptyPayload
  /-- A full payload in the older code. -/
  | fullNeedsNewer
  | fullTooShort (n : Nat)
  | hashType (n : Nat)
  /-- Another payload in the newer code. -/
  | othersNeedOlder
  | shortLength (n : Nat)
  | shortIndex (n : Nat)
  | unknownFormat (n : Nat)
  /-- The hash of a key has not twenty bytes. -/
  | keyHashLength (n : Nat)
  deriving DecidableEq, Repr

/-- The fault in words. -/
def AddressFault.message : AddressFault → String
  | text .mixedCase => "Mixed case address"
  | text .separator => "Invalid address separator position"
  | text .character => "Invalid character in address"
  | text .symbol => "Invalid bech32 character in address"
  | text .checksum => "Invalid address checksum"
  | leftOver => "Invalid bits"
  | unknownPrefix hrp => "Unknown address prefix: " ++ hrp
  | network expected got => "Address network mismatch: expected " ++ expected.name ++ ", got " ++ got.name
  | emptyPayload => "Empty address payload"
  | fullNeedsNewer => "Full format address must use bech32m"
  | fullTooShort n => "Full format payload too short: " ++ toString n
  | hashType n => "Invalid script hash type: " ++ toString n
  | othersNeedOlder => "Short and deprecated address formats must use bech32"
  | shortLength n => "Short format payload length invalid: " ++ toString n
  | shortIndex n => "Unsupported short format code hash index: " ++ toString n
  | unknownFormat n => "Unknown address format type: " ++ Literal.hexTextPadded 4 n
  | keyHashLength n => "Invalid lock arg length: " ++ toString n

instance : Fault AddressFault := ⟨fun _ => .address, fun f => f.message⟩

/-- A network and a script. -/
structure Address where
  network : Network
  script : Script
  deriving DecidableEq, Repr

namespace Address

/-- The address of a key. -/
def ofKeyHash (network : Network) (keyHash : Bytes) : Except AddressFault Address :=
  if keyHash.length = System.keyHashSize then .ok ⟨network, System.sighashLock keyHash⟩
  else .error (.keyHashLength keyHash.length)

/-- The arguments of the script. -/
def args (a : Address) : Bytes := a.script.args

/-- The hash of the script. -/
def lockHash (a : Address) : Except MoleculeFault Bytes := a.script.hash

/-! ## Payloads -/

/-- The number of the full format. -/
def fullFormat : UInt8 := 0

/-- The number of the short format. -/
def shortFormat : UInt8 := 1

/-- The code hash with a number in the short format. -/
def shortCode? (n : UInt8) : Option Bytes :=
  if n = 0 then some System.sighashCode else if n = 1 then some System.multisigCode else none

/-- The full payload of a script. -/
def payload (s : Script) : Bytes := fullFormat :: (s.codeHash ++ UInt8.ofNat s.hashType.toNat :: s.args)

/-- Reads the full format, after its number. -/
def readFull (rest : Bytes) : Except AddressFault Script :=
  if rest.length < 33 then .error (.fullTooShort (rest.length + 1))
  else match rest.drop 32 with
    | [] => .error (.fullTooShort (rest.length + 1))
    | t :: args =>
      match HashType.ofNat? t.toNat with
      | some hashType => .ok ⟨rest.take 32, hashType, args⟩
      | none => .error (.hashType t.toNat)

/-- Reads the short format, after its number. -/
def readShort (rest : Bytes) : Except AddressFault Script :=
  match rest with
  | index :: args =>
    if args.length = System.keyHashSize then
      match shortCode? index with
      | some code => .ok ⟨code, .type, args⟩
      | none => .error (.shortIndex index.toNat)
    else .error (.shortLength (rest.length + 1))
  | [] => .error (.shortLength 1)

/-- Reads a deprecated full format, after its number. -/
def readOld (hashType : HashType) (rest : Bytes) : Except AddressFault Script :=
  if rest.length < 32 then .error (.fullTooShort (rest.length + 1))
  else .ok ⟨rest.take 32, hashType, rest.drop 32⟩

/-- Reads a payload that came in the code with the given constant. -/
def readPayload (payload : Bytes) (const : BitVec 30) : Except AddressFault Script :=
  match payload with
  | [] => .error .emptyPayload
  | format :: rest =>
    if format = fullFormat then
      if const = Bech32.modifiedConst then readFull rest else .error .fullNeedsNewer
    else if const ≠ Bech32.plainConst then .error .othersNeedOlder
    else if format = shortFormat then readShort rest
    else if format = 2 then readOld .data rest
    else if format = 4 then readOld .type rest
    else .error (.unknownFormat format.toNat)

/-! ## Texts -/

/-- Groups of five bits as bytes. -/
def toBytes (data : List Nat) : Except AddressFault Bytes :=
  match Regroup.convert 5 8 false data with
  | some gs => .ok (gs.map UInt8.ofNat)
  | none => .error .leftOver

/-- Bytes as groups of five bits, the last one padded. -/
def ofBytes (b : Bytes) : List Nat := (Regroup.convert 8 5 true (b.map UInt8.toNat)).getD []

/-- The text of an address, as characters. -/
def encodeChars (a : Address) : List Char :=
  Bech32.encode a.network.hrp (ofBytes (payload a.script)) Bech32.modifiedConst

/-- The text of an address. -/
def encode (a : Address) : String := String.ofList a.encodeChars

/-- Reads an address of a given network, or of any. -/
def parseChars (text : List Char) (expected : Option Network) : Except AddressFault Address := do
  let (hrp, data, const) ← (Bech32.decode text).mapError .text
  match Network.ofHrp? hrp with
  | none => .error (.unknownPrefix (String.ofList hrp))
  | some network =>
    match expected with
    | some e => if e = network then pure () else .error (.network e network)
    | none => pure ()
    let script ← readPayload (← toBytes data) const
    pure ⟨network, script⟩

/-- Reads an address. -/
def parse (text : String) (expected : Option Network := none) : Except AddressFault Address :=
  parseChars text.toList expected

end Address

end CellPurse
