import CellPurse.Curve.Key
import CellPurse.Hash.Blake2b
import CellPurse.Hash.Hmac512
import CellPurse.Keys.Path

/-!
# CellPurse.Keys.Extended — keys that have children

A secret with a chain code, from which the secrets of its children are derived.

* `Seed.ofMnemonic`: the seed of a list of words and a passphrase;
* `ExtendedKey.ofSeed`: the root of a tree of keys;
* `ExtendedKey.child`: a child by its number.  A hardened child is made from the secret, any other from the public key;
* `ExtendedKey.derive`: the key at the end of a path;
* `PublicKey.keyHash`: the name of a key in the arguments of a lock.
-/

namespace CellPurse

/-- The hash of a public key. -/
def PublicKey.keyHash (k : PublicKey) : Bytes := Hash.short k.compressed

/-- The hash of the public key of a secret. -/
def Secret.keyHash (k : Secret) : Bytes := k.publicKey.keyHash

namespace Seed

/-- The bytes of a text. -/
def utf8 (s : String) : Bytes := s.toUTF8.toList

/-- How often the words are stretched. -/
def rounds : Nat := 2048

/-- The seed of a list of words and a passphrase. -/
def ofMnemonic (words : String) (passphrase : String := "") : Bytes :=
  Hash.Hmac512.stretch (utf8 words) (utf8 ("mnemonic" ++ passphrase)) rounds

end Seed

/-- A secret with its public key and a chain code. -/
structure ExtendedKey where
  secret : Secret
  publicKey : PublicKey
  chainCode : Bytes
  depth : Nat
  publicKey_eq : publicKey = secret.publicKey
  deriving DecidableEq, Repr

namespace ExtendedKey

/-- The key of a secret and a chain code. -/
def ofSecret (secret : Secret) (chainCode : Bytes) (depth : Nat) : ExtendedKey :=
  ⟨secret, secret.publicKey, chainCode, depth, rfl⟩

/-- What keys the digest of a seed. -/
def seedKey : Bytes := [0x42, 0x69, 0x74, 0x63, 0x6f, 0x69, 0x6e, 0x20, 0x73, 0x65, 0x65, 0x64]

/-- The root of the keys of a seed. -/
def ofSeed (seed : Bytes) : Except KeyFault ExtendedKey := do
  let tag := Hash.Hmac512.tag seedKey seed
  let secret ← Secret.ofBytes (tag.take 32)
  pure (ofSecret secret (tag.drop 32) 0)

/-- The root of the keys of a list of words. -/
def ofMnemonic (words : String) : Except KeyFault ExtendedKey := ofSeed (Seed.ofMnemonic words)

/-- What a child is made from: the secret or the public key, and its number. -/
def childData (k : ExtendedKey) (n : Nat) : Bytes :=
  (if Path.hardenedOffset ≤ n then 0 :: k.secret.toBytes else k.publicKey.compressed) ++ Bytes.ofNatBE 4 n

/-- The child with a given number. -/
def child (k : ExtendedKey) (n : Int) : Except PathFault ExtendedKey :=
  if n < 0 then .error .negative
  else
    let tag := Hash.Hmac512.tag k.chainCode (k.childData n.toNat)
    let offset := Bytes.toNatBE (tag.take 32)
    if Curve.order ≤ offset then .error .invalidChild
    else match Secret.ofNat ((k.secret.scalar + offset) % Curve.order) with
      | .ok secret => .ok (ofSecret secret (tag.drop 32) (k.depth + 1))
      | .error _ => .error .invalidChild

/-- The child that a component of a path takes. -/
def step (k : ExtendedKey) (component : List Char) : Except PathFault ExtendedKey := do
  k.child (← Path.child component)

/-- The key at the end of a path. -/
def derive (k : ExtendedKey) (path : String) : Except PathFault ExtendedKey := do
  (← Path.components path.toList).foldlM step k

/-- The hash of the public key. -/
def keyHash (k : ExtendedKey) : Bytes := k.publicKey.keyHash

end ExtendedKey

end CellPurse
