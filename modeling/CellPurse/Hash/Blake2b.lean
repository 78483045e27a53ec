import CellPurse.Bytes.Basic

/-!
# CellPurse.Hash.Blake2b — BLAKE2b-256 as the chain uses it

BLAKE2b with a digest of 32 bytes, no key, and the personalization `ckb-default-hash`.

* `Blake2b.Stream`: a hash in progress; `start`, `update` and `finish`;
* `Hash.chain`: the digest of a byte string;
* `Hash.short`: its first twenty bytes, the name of a public key.

A block is compressed only when a byte after it is known, so the last one can be marked.
-/

namespace CellPurse.Hash

namespace Blake2b

/-! ## Words -/

/-- The order in which each round takes the words of a block. -/
def schedule : List (List Nat) :=
  [[0, 1, 2, 3, 4, 5, 6, 7, 8, 9, 10, 11, 12, 13, 14, 15],
   [14, 10, 4, 8, 9, 15, 13, 6, 1, 12, 0, 2, 11, 7, 5, 3],
   [11, 8, 12, 0, 5, 2, 15, 13, 10, 14, 3, 6, 7, 1, 9, 4],
   [7, 9, 3, 1, 13, 12, 11, 14, 2, 6, 5, 10, 4, 0, 15, 8],
   [9, 0, 5, 7, 2, 4, 10, 15, 14, 1, 11, 12, 6, 8, 3, 13],
   [2, 12, 6, 10, 0, 11, 8, 3, 4, 13, 7, 5, 15, 14, 1, 9],
   [12, 5, 1, 15, 14, 13, 4, 10, 0, 7, 6, 3, 9, 2, 8, 11],
   [13, 11, 7, 14, 12, 1, 3, 9, 5, 0, 15, 4, 8, 6, 2, 10],
   [6, 15, 14, 9, 11, 3, 0, 8, 12, 2, 13, 7, 1, 4, 10, 5],
   [10, 2, 8, 4, 7, 6, 1, 5, 15, 11, 9, 14, 3, 12, 13, 0],
   [0, 1, 2, 3, 4, 5, 6, 7, 8, 9, 10, 11, 12, 13, 14, 15],
   [14, 10, 4, 8, 9, 15, 13, 6, 1, 12, 0, 2, 11, 7, 5, 3]]

/-- Four words of the working state. -/
structure Quad where
  a : UInt64
  b : UInt64
  c : UInt64
  d : UInt64

/-- Rotates to the right by `n` bits, `0 < n < 64`. -/
@[inline] def rotr (x n : UInt64) : UInt64 := (x >>> n) ||| (x <<< (64 - n))

/-- Mixes two words of the block into four of the state. -/
@[inline] def mix (q : Quad) (x y : UInt64) : Quad :=
  let a := q.a + q.b + x
  let d := rotr (q.d ^^^ a) 32
  let c := q.c + d
  let b := rotr (q.b ^^^ c) 24
  let a := a + b + y
  let d := rotr (d ^^^ a) 16
  let c := c + d
  let b := rotr (b ^^^ c) 63
  ⟨a, b, c, d⟩

/-- The working state as four columns. -/
structure Columns where
  q0 : Quad
  q1 : Quad
  q2 : Quad
  q3 : Quad

/-- One round: the columns, then the diagonals. -/
def round (v : Columns) : List UInt64 → Columns
  | [m0, m1, m2, m3, m4, m5, m6, m7, m8, m9, m10, m11, m12, m13, m14, m15] =>
    let c0 := mix v.q0 m0 m1
    let c1 := mix v.q1 m2 m3
    let c2 := mix v.q2 m4 m5
    let c3 := mix v.q3 m6 m7
    let d0 := mix ⟨c0.a, c1.b, c2.c, c3.d⟩ m8 m9
    let d1 := mix ⟨c1.a, c2.b, c3.c, c0.d⟩ m10 m11
    let d2 := mix ⟨c2.a, c3.b, c0.c, c1.d⟩ m12 m13
    let d3 := mix ⟨c3.a, c0.b, c1.c, c2.d⟩ m14 m15
    ⟨⟨d0.a, d3.b, d2.c, d1.d⟩, ⟨d1.a, d0.b, d3.c, d2.d⟩, ⟨d2.a, d1.b, d0.c, d3.d⟩, ⟨d3.a, d2.b, d1.c, d0.d⟩⟩
  | _ => v

/-- The eight words between blocks. -/
structure Chain where
  h0 : UInt64
  h1 : UInt64
  h2 : UInt64
  h3 : UInt64
  h4 : UInt64
  h5 : UInt64
  h6 : UInt64
  h7 : UInt64
  deriving DecidableEq, Repr

/-- Eight bytes as a word, low byte first; missing bytes are zero. -/
def word : List UInt8 → UInt64
  | [] => 0
  | b :: r => b.toUInt64 ||| (word r <<< 8)

/-- The words of a block, `n` of them. -/
def words : Nat → Bytes → List UInt64
  | 0, _ => []
  | n + 1, b => word (b.take 8) :: words n (b.drop 8)

/-- Compresses a block of 128 bytes; `count` bytes were read with it. -/
def compress (h : Chain) (block : Bytes) (count : Nat) (last : Bool) : Chain :=
  let m := (words 16 block).toArray
  let v : Columns :=
    ⟨⟨h.h0, h.h4, 0x6a09e667f3bcc908, 0x510e527fade682d1 ^^^ UInt64.ofNat count⟩,
     ⟨h.h1, h.h5, 0xbb67ae8584caa73b, 0x9b05688c2b3e6c1f ^^^ UInt64.ofNat (count / 2 ^ 64)⟩,
     ⟨h.h2, h.h6, 0x3c6ef372fe94f82b, if last then ~~~ (0x1f83d9abfb41bd6b : UInt64) else 0x1f83d9abfb41bd6b⟩,
     ⟨h.h3, h.h7, 0xa54ff53a5f1d36f1, 0x5be0cd19137e2179⟩⟩
  let w := schedule.foldl (fun v order => round v (order.map fun i => m.getD i 0)) v
  ⟨h.h0 ^^^ w.q0.a ^^^ w.q0.c, h.h1 ^^^ w.q1.a ^^^ w.q1.c, h.h2 ^^^ w.q2.a ^^^ w.q2.c, h.h3 ^^^ w.q3.a ^^^ w.q3.c,
   h.h4 ^^^ w.q0.b ^^^ w.q0.d, h.h5 ^^^ w.q1.b ^^^ w.q1.d, h.h6 ^^^ w.q2.b ^^^ w.q2.d, h.h7 ^^^ w.q3.b ^^^ w.q3.d⟩

/-! ## Streams -/

/-- A hash in progress: the words so far, how many bytes they hold, and the bytes not yet compressed. -/
structure Stream where
  chain : Chain
  count : Nat
  rest : Bytes
  deriving DecidableEq, Repr

/-- The personalization: `ckb-default-hash`. -/
def person : Bytes :=
  [0x63, 0x6b, 0x62, 0x2d, 0x64, 0x65, 0x66, 0x61, 0x75, 0x6c, 0x74, 0x2d, 0x68, 0x61, 0x73, 0x68]

/-- Nothing hashed yet. -/
def start : Stream :=
  ⟨⟨0x6a09e667f3bcc908 ^^^ 0x01010020, 0xbb67ae8584caa73b, 0x3c6ef372fe94f82b, 0xa54ff53a5f1d36f1,
    0x510e527fade682d1, 0x9b05688c2b3e6c1f, 0x1f83d9abfb41bd6b ^^^ word (person.take 8),
    0x5be0cd19137e2179 ^^^ word (person.drop 8)⟩, 0, []⟩

/-- Compresses whole blocks while a byte follows them. -/
def absorb (chain : Chain) (count : Nat) (data : Bytes) : Stream :=
  if _h : 128 < data.length then
    absorb (compress chain (data.take 128) (count + 128) false) (count + 128) (data.drop 128)
  else ⟨chain, count, data⟩
termination_by data.length
decreasing_by simp only [List.length_drop]; omega

/-- Adds bytes. -/
def update (s : Stream) (data : Bytes) : Stream := absorb s.chain s.count (s.rest ++ data)

/-- The digest of all bytes added. -/
def finish (s : Stream) : Bytes :=
  let h := compress s.chain (s.rest ++ Bytes.zeros (128 - s.rest.length)) (s.count + s.rest.length) true
  [h.h0, h.h1, h.h2, h.h3].flatMap fun w => Bytes.ofNatLE 8 w.toNat

@[simp] theorem length_finish (s : Stream) : (finish s).length = 32 := by simp [finish]

end Blake2b

/-- The digest of a byte string. -/
def chain (data : Bytes) : Bytes := Blake2b.finish (Blake2b.update Blake2b.start data)

/-- The first twenty bytes of the digest. -/
def short (data : Bytes) : Bytes := (chain data).take 20

@[simp] theorem length_chain (data : Bytes) : (chain data).length = 32 := by simp [chain]

@[simp] theorem length_short (data : Bytes) : (short data).length = 20 := by simp [short]

end CellPurse.Hash
