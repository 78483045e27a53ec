import CellPurse.Fault
import CellPurse.Keys.Keyring
import CellPurse.Ledger.Script

/-!
# CellPurse.Keys.Signer — who signs

A request for a signature names candidates, key hashes any of which may sign.  A signer has one primary key and may have
derived keys; the keys themselves are behind a capability, which takes a path and a digest.

* `Authority.resolve`: the primary key if it is a candidate, else the least candidate with a path, else nobody;
* `Signer.sign`: the signature of the resolved key, nothing where nobody can sign.  A digest of zeros, which is what
  placeholders are for, gets a signature of zeros without any call;
* `Capability.ofSecret`, `Capability.ofAccount`: one secret without derived keys, and an account of a keyring.
-/

namespace CellPurse

/-- Why there is no signature. -/
inductive SignFault where
  | keyring (f : KeyringFault)
  | key (f : KeyFault)
  /-- A single secret has no key at a path. -/
  | noDerived (path : String)
  /-- A signature has this many bytes. -/
  | length (n : Nat)
  deriving DecidableEq, Repr

/-- The fault in words. -/
def SignFault.message? : SignFault → Option String
  | keyring f => f.message?
  | key f => some f.message
  | noDerived path => some ("Raw private key can not sign for path " ++ path)
  | length n => some ("Unexpected signature length: " ++ toString n)

/-- What the fault is about. -/
def SignFault.kind : SignFault → FaultKind
  | .keyring f => f.kind
  | .noDerived _ => .mismatch
  | .key _ | .length _ => .value

instance : Fault SignFault := ⟨SignFault.kind, fun f => f.message?⟩

/-- The key that signs. -/
inductive Authority where
  | primary
  | derived (path : String)
  | unavailable
  deriving DecidableEq, Repr

namespace Authority

/-- The least of some byte strings. -/
def least? : List Bytes → Option Bytes
  | [] => none
  | b :: r => some (r.foldl (fun x y => if Bytes.ble x y then x else y) b)

/-- The key that can sign for one of the candidates. -/
def resolve (candidates : List Bytes) (primary : Bytes) (entries : List KeyEntry) : Authority :=
  if candidates.contains primary then .primary
  else match (least? (candidates.filter fun c => (KeyEntry.pathOf? entries c).isSome)).bind
      (KeyEntry.pathOf? entries) with
    | some path => .derived path
    | none => .unavailable

end Authority

/-- What signs a digest with the key at a path. -/
abbrev Capability (m : Type → Type) := String → Bytes → ExceptT SignFault m Bytes

namespace Capability

/-- A single secret. -/
def ofSecret (secret : Secret) : Capability Id := fun path digest =>
  if path ≠ "" then .error (.noDerived path) else (secret.sign digest).mapError .key

/-- An account of a keyring. -/
def ofAccount (keyring : Keyring) (account : Bytes) (password : String) : Capability Id := fun path digest =>
  (keyring.sign account path digest password).mapError .keyring

end Capability

/-- A primary key, derived keys, and what signs with them. -/
structure Signer (m : Type → Type) where
  capability : Capability m
  primary : Bytes
  entries : List KeyEntry := []

namespace Signer

variable {m : Type → Type} [Monad m]

/-- The key that can sign for one of the candidates. -/
def resolve (s : Signer m) (candidates : List Bytes) : Authority := .resolve candidates s.primary s.entries

/-- A signature by the key at a path, which must have the size of one. -/
def signAt (s : Signer m) (path : String) (digest : Bytes) : ExceptT SignFault m (Option Bytes) := do
  let signature ← s.capability path digest
  if signature.length = System.signatureSize then pure (some signature) else throw (.length signature.length)

/-- A signature for one of the candidates. -/
def sign (s : Signer m) (candidates : List Bytes) (digest : Bytes) : ExceptT SignFault m (Option Bytes) :=
  if digest = Bytes.zeros System.hashSize then pure (some (Bytes.zeros System.signatureSize))
  else match s.resolve candidates with
    | .unavailable => pure none
    | .primary => s.signAt "" digest
    | .derived path => s.signAt path digest

end Signer

end CellPurse
