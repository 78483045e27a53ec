import CellPurse.Assoc
import CellPurse.Bytes.Hex
import CellPurse.Fault
import CellPurse.Hash.Hmac256
import CellPurse.Keys.Extended
import CellPurse.Keys.Range

/-!
# CellPurse.Keys.Keyring — accounts behind passwords

An account is a tree of keys under a password; it is named by the hash of its root key.  Its derived keys have two
branches: one to receive, one for change.

* `Keyring.add`: adds the account of a list of words; a later account of the same name takes its place;
* `Keyring.unlock`: the account, for the password it was added with;
* `Account.derive`: the keys at some places of both branches, each with its path;
* `Keyring.derive`, `Keyring.sign`: the same and signatures, for a password;
* `DerivedKeys.pathOf?`: the path of a key hash.
-/

namespace CellPurse

/-- What a keyring refuses. -/
inductive KeyringFault where
  /-- There is no such account. -/
  | notFound (account : Bytes)
  | wrongPassword (account : Bytes)
  /-- Keys can not be derived. -/
  | derivation (f : PathFault)
  /-- The key to sign with can not be derived. -/
  | signingPath (path : String) (f : PathFault)
  /-- A key for change is not among the first ones. -/
  | changeNotFound (last : Bytes) (depth : Int)
  | key (f : KeyFault)
  deriving DecidableEq, Repr

/-- The fault in words; a negative place in a path has none. -/
def KeyringFault.message? : KeyringFault → Option String
  | notFound account => some ("Account not found: " ++ account.hexText)
  | wrongPassword account => some ("Wrong password for account " ++ account.hexText)
  | derivation f => f.message?.map ("Key derivation failed: " ++ ·)
  | signingPath path f => f.message?.map fun m => "Key derivation failed for " ++ path ++ ": " ++ m
  | changeNotFound last depth =>
    some ("Change address " ++ last.hexText ++ " not found in the first " ++ toString depth ++ " derived change keys")
  | key f => some f.message

/-- What the fault is about. -/
def KeyringFault.kind : KeyringFault → FaultKind
  | .notFound _ => .account
  | .wrongPassword _ => .password
  | .derivation .negative | .signingPath _ .negative => .unbounded
  | .derivation _ | .signingPath _ _ => .derivation
  | .changeNotFound _ _ => .mismatch
  | .key _ => .value

instance : Fault KeyringFault := ⟨KeyringFault.kind, fun f => f.message?⟩

/-! ## Derived keys -/

/-- A path and the hash of its key. -/
structure KeyEntry where
  path : String
  keyHash : Bytes
  deriving DecidableEq, Repr

/-- Keys of both branches. -/
structure DerivedKeys where
  external : List KeyEntry := []
  change : List KeyEntry := []
  deriving DecidableEq, Repr

namespace DerivedKeys

/-- The keys to receive, then those for change. -/
def entries (k : DerivedKeys) : List KeyEntry := k.external ++ k.change

/-- The hashes of all keys. -/
def keyHashes (k : DerivedKeys) : List Bytes := k.entries.map KeyEntry.keyHash

end DerivedKeys

/-- The path of a key hash: that of its last entry. -/
def KeyEntry.pathOf? (entries : List KeyEntry) (keyHash : Bytes) : Option String :=
  (entries.reverse.find? fun e => e.keyHash = keyHash).map KeyEntry.path

/-! ## Accounts -/

/-- The branch of keys to receive. -/
def Account.receiving : Nat := 0

/-- The branch of keys for change. -/
def Account.changing : Nat := 1

/-- The path of a branch. -/
def Account.branchPath (branch : Nat) : String := "m/44'/309'/0'/" ++ toString branch

/-- An account. -/
structure Account where
  master : ExtendedKey
  salt : Bytes
  verifier : Bytes
  deriving DecidableEq, Repr

namespace Account

/-- How often a password is stretched. -/
def rounds : Nat := 10000

/-- What is kept of a password. -/
def verifierOf (password : String) (salt : Bytes) : Bytes := Hash.Hmac256.stretch (Seed.utf8 password) salt rounds

/-- The keys at some places of a branch. -/
def deriveBranch (master : ExtendedKey) (branch : Nat) (places : ChildRange) :
    Except PathFault (List KeyEntry) :=
  if places.size = 0 then .ok []
  else do
    let root ← master.derive (branchPath branch)
    places.collect fun i => do
      let place ← (Literal.decimal i).mapError .literal
      let key ← root.derive ("m/" ++ place)
      pure ⟨branchPath branch ++ "/" ++ place, key.keyHash⟩

/-- The keys at some places of both branches. -/
def derive (a : Account) (external change : ChildRange) : Except KeyringFault DerivedKeys :=
  let keys : Except PathFault DerivedKeys := do
    let external ← deriveBranch a.master receiving external
    let change ← deriveBranch a.master changing change
    pure ⟨external, change⟩
  keys.mapError .derivation

/-- The key to sign with: the root for an empty path or `m`, else the key at the path. -/
def signingKey (a : Account) (path : String) : Except KeyringFault ExtendedKey :=
  if path = "" ∨ path = "m" then .ok a.master else (a.master.derive path).mapError (.signingPath path)

/-- A signature by the key at a path. -/
def sign (a : Account) (path : String) (digest : Bytes) : Except KeyringFault Bytes := do
  let key ← a.signingKey path
  (key.secret.sign digest).mapError .key

end Account

/-! ## Keyrings -/

/-- Accounts by their names. -/
structure Keyring where
  accounts : Assoc Bytes Account := []
  deriving DecidableEq, Repr

namespace Keyring

/-- Adds the account of a list of words under a password. -/
def add (k : Keyring) (words password : String) (salt : Bytes) : Except KeyFault (Bytes × Keyring) := do
  let master ← ExtendedKey.ofMnemonic words
  let name := master.keyHash
  pure (name, ⟨k.accounts.set name ⟨master, salt, Account.verifierOf password salt⟩⟩)

/-- The account, for its password. -/
def unlock (k : Keyring) (account : Bytes) (password : String) : Except KeyringFault Account :=
  match k.accounts.get? account with
  | none => .error (.notFound account)
  | some a =>
    if a.verifier = Account.verifierOf password a.salt then .ok a else .error (.wrongPassword account)

/-- The keys at some places of both branches of an account. -/
def derive (k : Keyring) (account : Bytes) (password : String) (external change : ChildRange) :
    Except KeyringFault DerivedKeys := do
  (← k.unlock account password).derive external change

/-- A signature by the key at a path of an account. -/
def sign (k : Keyring) (account : Bytes) (path : String) (digest : Bytes) (password : String) :
    Except KeyringFault Bytes := do
  (← k.unlock account password).sign path digest

end Keyring

end CellPurse
