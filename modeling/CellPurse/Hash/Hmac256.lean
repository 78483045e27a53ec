import CellPurse.Hash.Sha256

/-!
# CellPurse.Hash.Hmac256 — keyed digests and stretched passwords over SHA-256

* `Hmac256.keyBlock`: the block made of a key — a key longer than a block is hashed first, and zeros fill the rest, so
  keys that differ only in zeros at the end make the same block;
* `Hmac256.tag`: the keyed digest of a message;
* `Hmac256.stretch`: the first block of the password-based derivation: the exclusive or of a chain of keyed digests.
-/

namespace CellPurse.Hash.Hmac256

/-- The block made of a key. -/
def keyBlock (key : Bytes) : Bytes :=
  let k := if 64 < key.length then Sha256.digest key else key
  k ++ Bytes.zeros (64 - k.length)

/-- What is left of a key: the words after the inner and after the outer block. -/
structure Pads where
  inner : Sha256.State
  outer : Sha256.State
  deriving DecidableEq, Repr

/-- Compresses the inner and the outer block of a key. -/
def pads (block : Bytes) : Pads :=
  ⟨Sha256.compress Sha256.start (Sha256.window (block.map (· ^^^ 0x36))),
   Sha256.compress Sha256.start (Sha256.window (block.map (· ^^^ 0x5c)))⟩

/-- The keyed digest as words. -/
def Pads.tag (p : Pads) (data : Bytes) : Sha256.State :=
  Sha256.resume p.outer 64 (Sha256.resume p.inner 64 data).toBytes

/-- The keyed digest of a message. -/
def tag (key data : Bytes) : Bytes := ((pads (keyBlock key)).tag data).toBytes

@[simp] theorem length_tag (key data : Bytes) : (tag key data).length = 32 := by simp [tag]

/-! ## Stretching -/

/-- The last block of a message of one block and a digest. -/
def closing (s : Sha256.State) : Sha256.Window :=
  ⟨s.a, s.b, s.c, s.d, s.e, s.f, s.g, s.h, 0x80000000, 0, 0, 0, 0, 0, 0, 768⟩

/-- The keyed digest of a digest. -/
def Pads.again (p : Pads) (s : Sha256.State) : Sha256.State :=
  Sha256.compress p.outer (closing (Sha256.compress p.inner (closing s)))

/-- Word by word exclusive or. -/
def xor (s t : Sha256.State) : Sha256.State :=
  ⟨s.a ^^^ t.a, s.b ^^^ t.b, s.c ^^^ t.c, s.d ^^^ t.d, s.e ^^^ t.e, s.f ^^^ t.f, s.g ^^^ t.g, s.h ^^^ t.h⟩

/-- `n` more digests of the chain, joined into `sum`. -/
def Pads.chain (p : Pads) : Nat → Sha256.State → Sha256.State → Sha256.State
  | 0, _, sum => sum
  | n + 1, s, sum =>
    let t := p.again s
    p.chain n t (xor sum t)

/-- The stretched password: `rounds` keyed digests, the first of the salt and the block number one. -/
def stretch (password salt : Bytes) (rounds : Nat) : Bytes :=
  let p := pads (keyBlock password)
  let first := p.tag (salt ++ [0, 0, 0, 1])
  (p.chain (rounds - 1) first first).toBytes

end CellPurse.Hash.Hmac256
