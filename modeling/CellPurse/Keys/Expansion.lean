import CellPurse.Keys.Keyring

/-!
# CellPurse.Keys.Expansion — the keys of an account up to a given one

An account is expanded by asking for its keys.  Where the last key for change is known by its hash, keys for change are
asked for in batches until it is found.

* `Expansion.through`: entries up to and including the first one with a given hash;
* `Expansion.search`, `Expansion.toChange`: the keys through a given key for change, if it is among the first `depth`;
* `Keyring.expand`, `Keyring.expandToChange`: the same for an account.
-/

namespace CellPurse

namespace Expansion

/-- Entries up to and including the first one with a given hash. -/
def through (last : Bytes) : List KeyEntry → Option (List KeyEntry)
  | [] => none
  | e :: r => if e.keyHash = last then some [e] else (through last r).map (e :: ·)

/-- How many keys are asked for at once. -/
def batchSize : Nat := 100

/-- How many batches there are below a depth. -/
def batches (batch : Nat) (depth : Int) : Nat := ((depth + batch - 1) / batch).toNat

variable {m : Type → Type} [Monad m]

/-- Searches `n` batches from `start` on, after the entries `before`. -/
def search (derive : ChildRange → ChildRange → m DerivedKeys) (last : Bytes) (batch : Nat) (depth : Int) :
    Nat → Int → List KeyEntry → m (Option (List KeyEntry))
  | 0, _, _ => pure none
  | n + 1, start, before => do
    let stop := min (start + batch) depth
    let keys ← derive .none (.between start stop)
    match through last keys.change with
    | some found => pure (some (before ++ found))
    | none => search derive last batch depth n stop (before ++ keys.change)

/-- Keys to receive, and keys for change through the one with a given hash, if it is among the first `depth`. -/
def toChange (derive : ChildRange → ChildRange → m DerivedKeys) (batch : Nat) (receiving : Int) (last : Bytes)
    (depth : Int) : m (Option DerivedKeys) := do
  let keys ← derive (.below receiving) .none
  let change ← search derive last batch depth (batches batch depth) 0 keys.change
  pure (change.map fun c => ⟨keys.external, c⟩)

end Expansion

namespace Keyring

/-- The first keys of both branches of an account. -/
def expand (k : Keyring) (account : Bytes) (password : String) (receiving change : Int) :
    Except KeyringFault DerivedKeys :=
  k.derive account password (.below receiving) (.below change)

/-- The first keys to receive of an account, and its keys for change through a given one. -/
def expandToChange (k : Keyring) (account : Bytes) (password : String) (receiving : Int) (last : Bytes)
    (depth : Int) : Except KeyringFault DerivedKeys := do
  let a ← k.unlock account password
  match ← Expansion.toChange a.derive Expansion.batchSize receiving last depth with
  | some keys => pure keys
  | none => .error (.changeNotFound last depth)

end Keyring

end CellPurse
