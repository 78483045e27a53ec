import CellPurse.Bytes.Basic

/-!
# CellPurse.Hash.Sha512 — SHA-512

Words of 64 bits, blocks of 128 bytes, 80 rounds, a digest of 64 bytes.

* `Sha512.compress`: one block, with the message schedule as a window of sixteen words that slides one word a round;
* `Sha512.pad`: the bit `1`, zeros, and the length in bits;
* `Sha512.digest`: the digest of a byte string;
* `Sha512.resume`: the digest of a block already compressed and the bytes after it.
-/

namespace CellPurse.Hash.Sha512

/-- The round constants. -/
def constants : List UInt64 :=
  [0x428a2f98d728ae22, 0x7137449123ef65cd, 0xb5c0fbcfec4d3b2f, 0xe9b5dba58189dbbc, 0x3956c25bf348b538,
   0x59f111f1b605d019, 0x923f82a4af194f9b, 0xab1c5ed5da6d8118, 0xd807aa98a3030242, 0x12835b0145706fbe,
   0x243185be4ee4b28c, 0x550c7dc3d5ffb4e2, 0x72be5d74f27b896f, 0x80deb1fe3b1696b1, 0x9bdc06a725c71235,
   0xc19bf174cf692694, 0xe49b69c19ef14ad2, 0xefbe4786384f25e3, 0x0fc19dc68b8cd5b5, 0x240ca1cc77ac9c65,
   0x2de92c6f592b0275, 0x4a7484aa6ea6e483, 0x5cb0a9dcbd41fbd4, 0x76f988da831153b5, 0x983e5152ee66dfab,
   0xa831c66d2db43210, 0xb00327c898fb213f, 0xbf597fc7beef0ee4, 0xc6e00bf33da88fc2, 0xd5a79147930aa725,
   0x06ca6351e003826f, 0x142929670a0e6e70, 0x27b70a8546d22ffc, 0x2e1b21385c26c926, 0x4d2c6dfc5ac42aed,
   0x53380d139d95b3df, 0x650a73548baf63de, 0x766a0abb3c77b2a8, 0x81c2c92e47edaee6, 0x92722c851482353b,
   0xa2bfe8a14cf10364, 0xa81a664bbc423001, 0xc24b8b70d0f89791, 0xc76c51a30654be30, 0xd192e819d6ef5218,
   0xd69906245565a910, 0xf40e35855771202a, 0x106aa07032bbd1b8, 0x19a4c116b8d2d0c8, 0x1e376c085141ab53,
   0x2748774cdf8eeb99, 0x34b0bcb5e19b48a8, 0x391c0cb3c5c95a63, 0x4ed8aa4ae3418acb, 0x5b9cca4f7763e373,
   0x682e6ff3d6b2b8a3, 0x748f82ee5defb2fc, 0x78a5636f43172f60, 0x84c87814a1f0ab72, 0x8cc702081a6439ec,
   0x90befffa23631e28, 0xa4506cebde82bde9, 0xbef9a3f7b2c67915, 0xc67178f2e372532b, 0xca273eceea26619c,
   0xd186b8c721c0c207, 0xeada7dd6cde0eb1e, 0xf57d4f7fee6ed178, 0x06f067aa72176fba, 0x0a637dc5a2c898a6,
   0x113f9804bef90dae, 0x1b710b35131c471b, 0x28db77f523047d84, 0x32caab7b40c72493, 0x3c9ebe0a15c9bebc,
   0x431d67c49c100d4c, 0x4cc5d4becb3e42b6, 0x597f299cfc657e2a, 0x5fcb6fab3ad6faec, 0x6c44198c4a475817]

/-- The eight words between blocks. -/
structure State where
  a : UInt64
  b : UInt64
  c : UInt64
  d : UInt64
  e : UInt64
  f : UInt64
  g : UInt64
  h : UInt64
  deriving DecidableEq, Repr

/-- The words before the first block. -/
def start : State :=
  ⟨0x6a09e667f3bcc908, 0xbb67ae8584caa73b, 0x3c6ef372fe94f82b, 0xa54ff53a5f1d36f1, 0x510e527fade682d1,
   0x9b05688c2b3e6c1f, 0x1f83d9abfb41bd6b, 0x5be0cd19137e2179⟩

/-- The sixteen words of a block, or of the schedule from some round on. -/
structure Window where
  w0 : UInt64
  w1 : UInt64
  w2 : UInt64
  w3 : UInt64
  w4 : UInt64
  w5 : UInt64
  w6 : UInt64
  w7 : UInt64
  w8 : UInt64
  w9 : UInt64
  w10 : UInt64
  w11 : UInt64
  w12 : UInt64
  w13 : UInt64
  w14 : UInt64
  w15 : UInt64

/-- Rotates to the right by `n` bits, `0 < n < 64`. -/
@[inline] def rotr (x n : UInt64) : UInt64 := (x >>> n) ||| (x <<< (64 - n))

/-- The rounds with the given constants, on the words of the schedule. -/
def rounds : List UInt64 → State → Window → State
  | [], s, _ => s
  | k :: ks, s, w =>
    let t1 := s.h + (rotr s.e 14 ^^^ rotr s.e 18 ^^^ rotr s.e 41) +
      ((s.e &&& s.f) ^^^ (~~~ s.e &&& s.g)) + k + w.w0
    let t2 := (rotr s.a 28 ^^^ rotr s.a 34 ^^^ rotr s.a 39) +
      ((s.a &&& s.b) ^^^ (s.a &&& s.c) ^^^ (s.b &&& s.c))
    let next := (rotr w.w14 19 ^^^ rotr w.w14 61 ^^^ (w.w14 >>> 6)) + w.w9 +
      (rotr w.w1 1 ^^^ rotr w.w1 8 ^^^ (w.w1 >>> 7)) + w.w0
    rounds ks ⟨t1 + t2, s.a, s.b, s.c, s.d + t1, s.e, s.f, s.g⟩
      ⟨w.w1, w.w2, w.w3, w.w4, w.w5, w.w6, w.w7, w.w8, w.w9, w.w10, w.w11, w.w12, w.w13, w.w14, w.w15, next⟩

/-- Compresses one block. -/
def compress (s : State) (w : Window) : State :=
  let r := rounds constants s w
  ⟨s.a + r.a, s.b + r.b, s.c + r.c, s.d + r.d, s.e + r.e, s.f + r.f, s.g + r.g, s.h + r.h⟩

/-! ## Bytes -/

/-- Some bytes as a word, high byte first. -/
def word (b : Bytes) : UInt64 := b.foldl (fun n d => (n <<< 8) ||| d.toUInt64) 0

/-- The words of a block, `n` of them. -/
def words : Nat → Bytes → List UInt64
  | 0, _ => []
  | n + 1, b => word (b.take 8) :: words n (b.drop 8)

/-- A block of 128 bytes as a window. -/
def window (block : Bytes) : Window :=
  match words 16 block with
  | [w0, w1, w2, w3, w4, w5, w6, w7, w8, w9, w10, w11, w12, w13, w14, w15] =>
    ⟨w0, w1, w2, w3, w4, w5, w6, w7, w8, w9, w10, w11, w12, w13, w14, w15⟩
  | _ => ⟨0, 0, 0, 0, 0, 0, 0, 0, 0, 0, 0, 0, 0, 0, 0, 0⟩

/-- Compresses the whole blocks of a padded message. -/
def absorb (s : State) (data : Bytes) : State :=
  if _h : 128 ≤ data.length then absorb (compress s (window (data.take 128))) (data.drop 128) else s
termination_by data.length
decreasing_by simp only [List.length_drop]; omega

/-- A message of which `before` bytes were compressed already, filled up to whole blocks. -/
def pad (before : Nat) (data : Bytes) : Bytes :=
  let filled := (data.length + 1 + 16) % 128
  data ++ 0x80 :: Bytes.zeros ((128 - filled) % 128) ++ Bytes.ofNatBE 16 (8 * (before + data.length))

/-- The eight words as bytes. -/
def State.toBytes (s : State) : Bytes :=
  [s.a, s.b, s.c, s.d, s.e, s.f, s.g, s.h].flatMap fun w => Bytes.ofNatBE 8 w.toNat

/-- The words after `before` bytes, already compressed to `s`, and then `data`. -/
def resume (s : State) (before : Nat) (data : Bytes) : State := absorb s (pad before data)

/-- The digest of a byte string. -/
def digest (data : Bytes) : Bytes := (resume start 0 data).toBytes

@[simp] theorem length_toBytes (s : State) : s.toBytes.length = 64 := by simp [State.toBytes]

@[simp] theorem length_digest (data : Bytes) : (digest data).length = 64 := by simp [digest]

end CellPurse.Hash.Sha512
