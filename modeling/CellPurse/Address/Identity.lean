import CellPurse.Address.Basic
import CellPurse.Fault
import CellPurse.Keys.Extended

/-!
# CellPurse.Address.Identity — naming a lock

A lock is named by its hash, by an address, by a public key or by the hash of one; exactly one of these texts is given.

* `Identity.resolve`: the hash of the lock that is named;
* `ScriptHash.parse`: the hash of a script as a text.
-/

namespace CellPurse

/-- The texts that may name a lock. -/
structure Identity where
  lockHash : Option String := none
  address : Option String := none
  publicKey : Option String := none
  keyHash : Option String := none
  deriving DecidableEq, Repr

/-- Why no lock is named. -/
inductive IdentityFault where
  /-- No text is given, or several. -/
  | notOne
  /-- The hash of a lock has this many bytes. -/
  | hashLength (n : Nat)
  | hex (f : HexFault)
  | key (f : KeyFault)
  | address (f : AddressFault)
  | molecule (f : MoleculeFault)
  deriving DecidableEq, Repr

/-- The fault in words. -/
def IdentityFault.message? : IdentityFault → Option String
  | notOne => some "Exactly one of --lock-hash, --address, --pubkey or --lock-arg is required"
  | hashLength n => some ("Invalid lock hash length: " ++ toString n)
  | hex f => some ("Invalid identity: " ++ f.message)
  | key f => some ("Invalid identity: " ++ f.message)
  | address f => some ("Invalid identity: " ++ f.message)
  | molecule f => f.message?

/-- What the fault is about. -/
def IdentityFault.kind : IdentityFault → FaultKind
  | .molecule f => f.kind
  | _ => .input

instance : Fault IdentityFault := ⟨IdentityFault.kind, fun f => f.message?⟩

namespace Identity

/-- Reads hexadecimal text. -/
def bytes (text : String) : Except IdentityFault Bytes := (Hex.decode text).mapError .hex

/-- The lock of an address. -/
def ofAddress (a : Address) : Except IdentityFault Bytes := a.lockHash.mapError .molecule

/-- The lock of a key hash. -/
def ofKeyHash (network : Network) (keyHash : Bytes) : Except IdentityFault Bytes := do
  ofAddress (← (Address.ofKeyHash network keyHash).mapError .address)

/-- The hash of the lock that is named. -/
def resolve (network : Network) (i : Identity) : Except IdentityFault Bytes :=
  match i with
  | ⟨some text, none, none, none⟩ => do
    let hash ← bytes text
    if hash.length = System.hashSize then pure hash else throw (.hashLength hash.length)
  | ⟨none, some text, none, none⟩ => do
    ofAddress (← (Address.parse text (some network)).mapError .address)
  | ⟨none, none, some text, none⟩ => do
    let key ← (PublicKey.ofBytes (← bytes text)).mapError .key
    ofKeyHash network key.keyHash
  | ⟨none, none, none, some text⟩ => do
    ofKeyHash network (← bytes text)
  | _ => .error .notOne

end Identity

/-- Why a text is no hash of a script; `what` names the hash in messages. -/
inductive ScriptHashFault where
  | hex (what text : String) (f : HexFault)
  | length (what : String) (n : Nat)
  deriving DecidableEq, Repr

/-- The fault in words. -/
def ScriptHashFault.message : ScriptHashFault → String
  | hex what text f => "Invalid " ++ what ++ " " ++ Text.Quoted.quote text ++ ": " ++ f.message
  | length what n => "Invalid " ++ what ++ " length: " ++ toString n

instance : Fault ScriptHashFault := ⟨fun _ => .input, fun f => f.message⟩

/-- Reads the hash of a script. -/
def ScriptHash.parse (what text : String) : Except ScriptHashFault Bytes :=
  match Hex.decode text with
  | .error f => .error (.hex what text f)
  | .ok hash => if hash.length = System.hashSize then .ok hash else .error (.length what hash.length)

end CellPurse
