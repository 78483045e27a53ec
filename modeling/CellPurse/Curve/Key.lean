import CellPurse.Bytes.Basic
import CellPurse.Curve.Point
import CellPurse.Fault
import CellPurse.Hash.Hmac256

/-!
# CellPurse.Curve.Key — secrets, public keys and signatures

* `Secret`: a scalar from one to below the order; `Secret.ofBytes` judges a byte string by its number, and
  `Secret.written` is what it keeps of the byte string;
* `PublicKey`: a point with coordinates; written in 33 or 65 bytes, read from 33 or 65;
* `Secret.sign`: a recoverable signature of 32 bytes of digest: `r`, `s` and the recovery digit.  The nonce is drawn
  from the secret and the digest, and `s` is taken in the lower half.
-/

namespace CellPurse

open Curve

/-- What is wrong with key material. -/
inductive KeyFault where
  /-- The scalar of a secret is out of range. -/
  | secretRange
  /-- The first bytes of a long secret, which are its scalar, are zero. -/
  | secretZero
  /-- A digest to sign has not 32 bytes. -/
  | digestLength
  /-- No nonce gave a signature. -/
  | noNonce
  /-- The bytes are no public key. -/
  | publicKey
  deriving DecidableEq, Repr

/-- The fault in words. -/
def KeyFault.message : KeyFault → String
  | secretRange => "Secret scalar must be greater than 0 and less than " ++ toString order ++ "."
  | secretZero => "Invalid secret."
  | digestLength => "Message hash must be 32 bytes long."
  | noNonce => "The nonce generation function failed, or the private key was invalid."
  | publicKey => "The public key could not be parsed or is invalid."

instance : Fault KeyFault := ⟨fun _ => .value, fun f => f.message⟩

/-- A private scalar. -/
structure Secret where
  scalar : Nat
  pos : 0 < scalar
  lt_order : scalar < order
  /-- What stood behind the scalar in the bytes that it was read from; nothing else depends on it. -/
  tail : Bytes := []
  deriving DecidableEq, Repr

/-- A point other than the neutral one. -/
structure PublicKey where
  x : Nat
  y : Nat
  deriving DecidableEq, Repr

namespace PublicKey

/-- The compressed form: the parity of `y`, and `x`. -/
def compressed (k : PublicKey) : Bytes := UInt8.ofNat (2 + k.y % 2) :: Bytes.ofNatBE 32 k.x

/-- The uncompressed form: both coordinates. -/
def uncompressed (k : PublicKey) : Bytes := 4 :: (Bytes.ofNatBE 32 k.x ++ Bytes.ofNatBE 32 k.y)

@[simp] theorem length_compressed (k : PublicKey) : k.compressed.length = 33 := by simp [compressed]

/-- The key with a given `x`, and `y` of the given parity. -/
def lift (x parity : Nat) : Except KeyFault PublicKey :=
  if prime ≤ x then .error .publicKey
  else match Field.sqrt? prime (x * x % prime * x + 7) with
    | some y => .ok ⟨x, if y % 2 = parity then y else (prime - y) % prime⟩
    | none => .error .publicKey

/-- Reads a public key: compressed, uncompressed, or uncompressed with the parity of `y` in the tag. -/
def ofBytes (b : Bytes) : Except KeyFault PublicKey :=
  match b with
  | [] => .error .publicKey
  | tag :: r =>
    if r.length = 32 ∧ (tag = 2 ∨ tag = 3) then lift (Bytes.toNatBE r) (tag.toNat - 2)
    else if r.length = 64 ∧ (tag = 4 ∨ tag = 6 ∨ tag = 7) then
      let x := Bytes.toNatBE (r.take 32)
      let y := Bytes.toNatBE (r.drop 32)
      if x < prime ∧ y < prime ∧ onCurve x y ∧ (tag = 4 ∨ y % 2 = tag.toNat % 2) then .ok ⟨x, y⟩
      else .error .publicKey
    else .error .publicKey

end PublicKey

namespace Secret

/-- The secret with a given scalar. -/
def ofNat (n : Nat) : Except KeyFault Secret :=
  if h : 0 < n ∧ n < order then .ok { scalar := n, pos := h.1, lt_order := h.2 } else .error .secretRange

/-- Reads a secret.  The number of the whole byte string must be in range; a short string is filled with zeros in
front, and of a long one the first 32 bytes are the scalar, which must not be zero either. -/
def ofBytes (b : Bytes) : Except KeyFault Secret :=
  let n := Bytes.toNatBE b
  if 0 < n ∧ n < order then
    let filled := Bytes.zeros (32 - b.length) ++ b
    match ofNat (Bytes.toNatBE (filled.take 32)) with
    | .ok k => .ok { k with tail := filled.drop 32 }
    | .error _ => .error .secretZero
  else .error .secretRange

/-- The scalar in 32 bytes. -/
def toBytes (k : Secret) : Bytes := Bytes.ofNatBE 32 k.scalar

/-- The bytes that the secret was read from, filled up to 32 at least. -/
def written (k : Secret) : Bytes := k.toBytes ++ k.tail

/-- The public key of a secret. -/
def publicKey (k : Secret) : PublicKey :=
  match Point.mulBase k.scalar with
  | .affine x y => ⟨x, y⟩
  | .infinity => ⟨0, 0⟩

end Secret

/-! ## Signatures -/

/-- A signature: `r`, `s` and the recovery digit. -/
structure Signature where
  r : Nat
  s : Nat
  recovery : Nat
  deriving DecidableEq, Repr

namespace Signature

/-- The 65 bytes of a signature. -/
def toBytes (g : Signature) : Bytes := Bytes.ofNatBE 32 g.r ++ (Bytes.ofNatBE 32 g.s ++ [UInt8.ofNat g.recovery])

@[simp] theorem length_toBytes (g : Signature) : g.toBytes.length = 65 := by simp [toBytes]

/-- The signature with the lower of the two `s`, whose choice turns the recovery digit. -/
def normal (g : Signature) : Signature :=
  if order / 2 < g.s then ⟨g.r, order - g.s, g.recovery ^^^ 1⟩ else g

/-- The signature of the number `z` with scalar `d`, from the nonce `k` and its multiple of the generator. -/
def ofPoint (d z k : Nat) : Point → Option Signature
  | .infinity => none
  | .affine x y =>
    let r := x % order
    let s := Field.inverse order k * ((z + r * d) % order) % order
    if r = 0 ∨ s = 0 then none
    else some (normal ⟨r, s, (if order ≤ x then 2 else 0) + y % 2⟩)

/-- The signature with nonce `k`, unless the nonce is unfit. -/
def ofNonce (d z k : Nat) : Option Signature :=
  if k = 0 ∨ order ≤ k then none else ofPoint d z k (Point.mulBase k)

end Signature

/-- The generator of nonces: a key and a value, each of 32 bytes. -/
structure NonceSource where
  key : Bytes
  value : Bytes

namespace NonceSource

/-- Mixes the value, a separator and some data into the key, and steps the value. -/
def feed (g : NonceSource) (separator : UInt8) (data : Bytes) : NonceSource :=
  let key := Hash.Hmac256.tag g.key (g.value ++ separator :: data)
  ⟨key, Hash.Hmac256.tag key g.value⟩

/-- Seeded with the secret and the digest. -/
def seed (data : Bytes) : NonceSource :=
  ((⟨Bytes.zeros 32, List.replicate 32 1⟩ : NonceSource).feed 0 data).feed 1 data

/-- The candidate after one more step. -/
def draw (g : NonceSource) : NonceSource := ⟨g.key, Hash.Hmac256.tag g.key g.value⟩

/-- The first of at most `fuel` candidates that fits. -/
def search {α : Type} (fit : Nat → Option α) : Nat → NonceSource → Option α
  | 0, _ => none
  | fuel + 1, g =>
    match fit (Bytes.toNatBE g.draw.value) with
    | some a => some a
    | none => search fit fuel (g.draw.feed 0 [])

/-- How many candidates are tried. -/
def attempts : Nat := 128

end NonceSource

namespace Secret

/-- The signature of a digest of 32 bytes, unless no nonce fits. -/
def signature? (k : Secret) (digest : Bytes) : Option Signature :=
  let z := Bytes.toNatBE digest % order
  NonceSource.search (Signature.ofNonce k.scalar z) NonceSource.attempts
    (NonceSource.seed (k.toBytes ++ Bytes.ofNatBE 32 z))

/-- A recoverable signature of a digest. -/
def sign (k : Secret) (digest : Bytes) : Except KeyFault Bytes :=
  if digest.length = 32 then
    match k.signature? digest with
    | some g => .ok g.toBytes
    | none => .error .noNonce
  else .error .digestLength

/-- A signature has 65 bytes. -/
theorem length_of_sign {k : Secret} {digest s : Bytes} (h : k.sign digest = .ok s) : s.length = 65 := by
  unfold sign at h
  by_cases hd : digest.length = 32
  · rw [if_pos hd] at h
    generalize k.signature? digest = g at h
    cases g with
    | none => simp at h
    | some g =>
      injection h with h
      rw [← h, Signature.length_toBytes]
  · simp [hd] at h

end Secret

end CellPurse
