import CellPurse.Bytes.Basic

/-!
# CellPurse.Hash.Sha256 — SHA-256

Words of 32 bits, blocks of 64 bytes, 64 rounds, a digest of 32 bytes.

* `Sha256.compress`: one block, with the message schedule as a window of sixteen words that slides one word a round;
* `Sha256.pad`: the bit `1`, zeros, and the length in bits;
* `Sha256.digest`: the digest of a byte string;
* `Sha256.resume`: the digest of a block already compressed and the bytes after it.
-/

namespace CellPurse.Hash.Sha256

/-- The round constants. -/
def constants : List UInt32 :=
  [0x428a2f98, 0x71374491, 0xb5c0fbcf, 0xe9b5dba5, 0x3956c25b, 0x59f111f1, 0x923f82a4, 0xab1c5ed5, 0xd807aa98,
   0x12835b01, 0x243185be, 0x550c7dc3, 0x72be5d74, 0x80deb1fe, 0x9bdc06a7, 0xc19bf174, 0xe49b69c1, 0xefbe4786,
   0x0fc19dc6, 0x240ca1cc, 0x2de92c6f, 0x4a7484aa, 0x5cb0a9dc, 0x76f988da, 0x983e5152, 0xa831c66d, 0xb00327c8,
   0xbf597fc7, 0xc6e00bf3, 0xd5a79147, 0x06ca6351, 0x14292967, 0x27b70a85, 0x2e1b2138, 0x4d2c6dfc, 0x53380d13,
   0x650a7354, 0x766a0abb, 0x81c2c92e, 0x92722c85, 0xa2bfe8a1, 0xa81a664b, 0xc24b8b70, 0xc76c51a3, 0xd192e819,
   0xd6990624, 0xf40e3585, 0x106aa070, 0x19a4c116, 0x1e376c08, 0x2748774c, 0x34b0bcb5, 0x391c0cb3, 0x4ed8aa4a,
   0x5b9cca4f, 0x682e6ff3, 0x748f82ee, 0x78a5636f, 0x84c87814, 0x8cc70208, 0x90befffa, 0xa4506ceb, 0xbef9a3f7,
   0xc67178f2]

/-- The eight words between blocks. -/
structure State where
  a : UInt32
  b : UInt32
  c : UInt32
  d : UInt32
  e : UInt32
  f : UInt32
  g : UInt32
  h : UInt32
  deriving DecidableEq, Repr

/-- The words before the first block. -/
def start : State :=
  ⟨0x6a09e667, 0xbb67ae85, 0x3c6ef372, 0xa54ff53a, 0x510e527f, 0x9b05688c, 0x1f83d9ab, 0x5be0cd19⟩

/-- The sixteen words of a block, or of the schedule from some round on. -/
structure Window where
  w0 : UInt32
  w1 : UInt32
  w2 : UInt32
  w3 : UInt32
  w4 : UInt32
  w5 : UInt32
  w6 : UInt32
  w7 : UInt32
  w8 : UInt32
  w9 : UInt32
  w10 : UInt32
  w11 : UInt32
  w12 : UInt32
  w13 : UInt32
  w14 : UInt32
  w15 : UInt32

/-- Rotates to the right by `n` bits, `0 < n < 32`. -/
@[inline] def rotr (x n : UInt32) : UInt32 := (x >>> n) ||| (x <<< (32 - n))

/-- The rounds with the given constants, on the words of the schedule. -/
def rounds : List UInt32 → State → Window → State
  | [], s, _ => s
  | k :: ks, s, w =>
    let t1 := s.h + (rotr s.e 6 ^^^ rotr s.e 11 ^^^ rotr s.e 25) +
      ((s.e &&& s.f) ^^^ (~~~ s.e &&& s.g)) + k + w.w0
    let t2 := (rotr s.a 2 ^^^ rotr s.a 13 ^^^ rotr s.a 22) +
      ((s.a &&& s.b) ^^^ (s.a &&& s.c) ^^^ (s.b &&& s.c))
    let next := (rotr w.w14 17 ^^^ rotr w.w14 19 ^^^ (w.w14 >>> 10)) + w.w9 +
      (rotr w.w1 7 ^^^ rotr w.w1 18 ^^^ (w.w1 >>> 3)) + w.w0
    rounds ks ⟨t1 + t2, s.a, s.b, s.c, s.d + t1, s.e, s.f, s.g⟩
      ⟨w.w1, w.w2, w.w3, w.w4, w.w5, w.w6, w.w7, w.w8, w.w9, w.w10, w.w11, w.w12, w.w13, w.w14, w.w15, next⟩

/-- Compresses one block. -/
def compress (s : State) (w : Window) : State :=
  let r := rounds constants s w
  ⟨s.a + r.a, s.b + r.b, s.c + r.c, s.d + r.d, s.e + r.e, s.f + r.f, s.g + r.g, s.h + r.h⟩

/-! ## Bytes -/

/-- Some bytes as a word, high byte first. -/
def word (b : Bytes) : UInt32 := b.foldl (fun n d => (n <<< 8) ||| d.toUInt32) 0

/-- The words of a block, `n` of them. -/
def words : Nat → Bytes → List UInt32
  | 0, _ => []
  | n + 1, b => word (b.take 4) :: words n (b.drop 4)

/-- A block of 64 bytes as a window. -/
def window (block : Bytes) : Window :=
  match words 16 block with
  | [w0, w1, w2, w3, w4, w5, w6, w7, w8, w9, w10, w11, w12, w13, w14, w15] =>
    ⟨w0, w1, w2, w3, w4, w5, w6, w7, w8, w9, w10, w11, w12, w13, w14, w15⟩
  | _ => ⟨0, 0, 0, 0, 0, 0, 0, 0, 0, 0, 0, 0, 0, 0, 0, 0⟩

/-- Compresses the whole blocks of a padded message. -/
def absorb (s : State) (data : Bytes) : State :=
  if _h : 64 ≤ data.length then absorb (compress s (window (data.take 64))) (data.drop 64) else s
termination_by data.length
decreasing_by simp only [List.length_drop]; omega

/-- A message of which `before` bytes were compressed already, filled up to whole blocks. -/
def pad (before : Nat) (data : Bytes) : Bytes :=
  let filled := (data.length + 1 + 8) % 64
  data ++ 0x80 :: Bytes.zeros ((64 - filled) % 64) ++ Bytes.ofNatBE 8 (8 * (before + data.length))

/-- The eight words as bytes. -/
def State.toBytes (s : State) : Bytes :=
  [s.a, s.b, s.c, s.d, s.e, s.f, s.g, s.h].flatMap fun w => Bytes.ofNatBE 4 w.toNat

/-- The words after `before` bytes, already compressed to `s`, and then `data`. -/
def resume (s : State) (before : Nat) (data : Bytes) : State := absorb s (pad before data)

/-- The digest of a byte string. -/
def digest (data : Bytes) : Bytes := (resume start 0 data).toBytes

@[simp] theorem length_toBytes (s : State) : s.toBytes.length = 32 := by simp [State.toBytes]

@[simp] theorem length_digest (data : Bytes) : (digest data).length = 32 := by simp [digest]

end CellPurse.Hash.Sha256
