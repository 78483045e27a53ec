import CellPurse.Fault
import CellPurse.Hash.Blake2b
import CellPurse.Ledger.Script

/-!
# CellPurse.Ledger.Multisig — signing policies

A policy names some keys by their hashes; `threshold` of them must sign, and the first `requireFirst` are among them.

* `Multisig.make`: the policy of some keys, or what is wrong with it;
* `Multisig.witnessData`: the policy in bytes; its numbers must fit a byte each;
* `Multisig.hash`: the name of the policy in the arguments of a lock;
* `Multisig.placeholder`: the policy followed by empty signatures, which is what is signed.
-/

namespace CellPurse

/-- What is wrong with a policy. -/
inductive MultisigFault where
  | keyCount (n : Nat)
  | duplicate
  | keyLength (n : Nat)
  | threshold (t : Int) (keys : Nat)
  | requireFirst (first threshold : Int)
  /-- A number of the policy does not fit a byte. -/
  | byteRange
  deriving DecidableEq, Repr

/-- The fault in words. -/
def MultisigFault.message : MultisigFault → String
  | keyCount n => "Invalid key count: " ++ toString n
  | duplicate => "Duplicated public key hash in multisig config"
  | keyLength n => "Invalid public key hash length: " ++ toString n
  | threshold t keys => "Invalid threshold " ++ toString t ++ " for " ++ toString keys ++ " keys"
  | requireFirst first t => "require_first_n (" ++ toString first ++ ") exceeds threshold (" ++ toString t ++ ")"
  | byteRange => "bytes must be in range(0, 256)"

/-- What the fault is about. -/
def MultisigFault.kind : MultisigFault → FaultKind
  | .byteRange => .value
  | _ => .policy

instance : Fault MultisigFault := ⟨MultisigFault.kind, fun f => f.message⟩

/-- A policy. -/
structure Multisig where
  keys : List Bytes
  requireFirst : Int
  threshold : Int
  deriving DecidableEq, Repr

namespace Multisig

/-- No key is named twice. -/
def distinct : List Bytes → Bool
  | [] => true
  | k :: r => !r.contains k && distinct r

/-- The policy of some keys. -/
def make (keys : List Bytes) (requireFirst threshold : Int) : Except MultisigFault Multisig :=
  if keys.isEmpty ∨ 255 < keys.length then .error (.keyCount keys.length)
  else if !distinct keys then .error .duplicate
  else match keys.find? fun k => k.length ≠ System.keyHashSize with
    | some k => .error (.keyLength k.length)
    | none =>
      if ¬ (0 < threshold ∧ threshold ≤ keys.length) then .error (.threshold threshold keys.length)
      else if threshold < requireFirst then .error (.requireFirst requireFirst threshold)
      else .ok ⟨keys, requireFirst, threshold⟩

/-- A number as a byte. -/
def byte (n : Int) : Except MultisigFault UInt8 :=
  if 0 ≤ n ∧ n < 256 then .ok (UInt8.ofNat n.toNat) else .error .byteRange

/-- The policy in bytes. -/
def witnessData (m : Multisig) : Except MultisigFault Bytes := do
  let first ← byte m.requireFirst
  let threshold ← byte m.threshold
  let count ← byte m.keys.length
  pure (0 :: first :: threshold :: count :: m.keys.flatten)

/-- The name of the policy. -/
def hash (m : Multisig) : Except MultisigFault Bytes := do
  let b ← m.witnessData
  pure (Hash.short b)

/-- The policy followed by signatures of zero bytes. -/
def placeholder (m : Multisig) : Except MultisigFault Bytes := do
  let b ← m.witnessData
  pure (b ++ Bytes.zeros (System.signatureSize * m.threshold.toNat))

end Multisig

end CellPurse
