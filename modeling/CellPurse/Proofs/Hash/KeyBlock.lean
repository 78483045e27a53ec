import CellPurse.Hash.Hmac256
import Mathlib.Data.List.Basic

/-!
# CellPurse.Proofs.Hash.KeyBlock — which keys a keyed digest tells apart

A keyed digest knows its key by the block made of it, and the same holds of a stretched password.

* `shortened`: what of a key stands in its block in front of the zeros;
* `keyBlock_eq_iff`: two keys make one block if they differ, when shortened, in zeros at the end only;
* `Twins k l`: so it is without any collision, since one of the two fits into a block as it is;
* `keyBlock_eq_iff_twins`: otherwise both keys are longer than a block, and have one digest;
* `CollisionFree k l salt rounds`: nothing that the two keys are hashed to hides a difference between them;
* `stretch_eq_iff`: then two stretched passwords are the same only for one password, or for twins.
-/

namespace CellPurse.Hash.Hmac256

/-- A key as it stands in its block: one longer than a block is replaced by its digest. -/
def shortened (key : Bytes) : Bytes := if 64 < key.length then Sha256.digest key else key

variable {k l : Bytes}

theorem shortened_of_le (h : k.length ≤ 64) : shortened k = k := if_neg (Nat.not_lt.mpr h)

theorem shortened_of_lt (h : 64 < k.length) : shortened k = Sha256.digest k := if_pos h

theorem length_shortened_le (key : Bytes) : (shortened key).length ≤ 64 := by
  unfold shortened
  split
  · rw [Sha256.length_digest]
    omega
  · omega

theorem keyBlock_eq (key : Bytes) : keyBlock key = shortened key ++ Bytes.zeros (64 - (shortened key).length) := rfl

/-! ## Zeros at the end -/

/-- Zeros behind a byte string do not count when it is filled up with them. -/
theorem filled_append {s r : Bytes} {size : Nat} (hsize : (s ++ r).length ≤ size) (hr : ∀ b ∈ r, b = 0) :
    s ++ r ++ Bytes.zeros (size - (s ++ r).length) = s ++ Bytes.zeros (size - s.length) := by
  have hsum : size - s.length = r.length + (size - (s ++ r).length) := by
    rw [List.length_append] at hsize ⊢
    omega
  have hzeros : Bytes.zeros (r.length + (size - (s ++ r).length)) = r ++ Bytes.zeros (size - (s ++ r).length) := by
    unfold Bytes.zeros
    rw [← List.replicate_append_replicate, ← List.eq_replicate_of_mem hr]
  rw [hsum, hzeros, List.append_assoc]

/-- Byte strings that differ in zeros at the end are the same when filled up to one length. -/
theorem filled_eq {s t : Bytes} {size m n : Nat} (hs : s.length ≤ size) (ht : t.length ≤ size)
    (h : s ++ Bytes.zeros m = t ++ Bytes.zeros n) :
    s ++ Bytes.zeros (size - s.length) = t ++ Bytes.zeros (size - t.length) := by
  rcases List.append_eq_append_iff.mp h with ⟨r, rfl, hr⟩ | ⟨r, rfl, hr⟩
  · have hzero : ∀ b ∈ r, b = 0 := fun b hb => List.eq_of_mem_replicate (hr ▸ List.mem_append_left _ hb)
    exact (filled_append ht hzero).symm
  · have hzero : ∀ b ∈ r, b = 0 := fun b hb => List.eq_of_mem_replicate (hr ▸ List.mem_append_left _ hb)
    exact filled_append hs hzero

/-- **Two keys make one block** if they differ, when shortened, in zeros at the end only. -/
theorem keyBlock_eq_iff :
    keyBlock k = keyBlock l ↔ ∃ m n, shortened k ++ Bytes.zeros m = shortened l ++ Bytes.zeros n :=
  ⟨fun h => ⟨_, _, h⟩, fun ⟨_, _, h⟩ => filled_eq (length_shortened_le k) (length_shortened_le l) h⟩

/-! ## Twins -/

/-- Two keys make one block without any collision: they differ in zeros at the end only, where a key longer than a block
counts as its digest, and one of them is not longer than a block. -/
def Twins (k l : Bytes) : Prop :=
  (k.length ≤ 64 ∨ l.length ≤ 64) ∧ ∃ m n, shortened k ++ Bytes.zeros m = shortened l ++ Bytes.zeros n

theorem keyBlock_eq_iff_twins : keyBlock k = keyBlock l ↔
    Twins k l ∨ (64 < k.length ∧ 64 < l.length) ∧ Sha256.digest k = Sha256.digest l := by
  by_cases hlong : 64 < k.length ∧ 64 < l.length
  · have hnot : ¬ Twins k l := by
      rintro ⟨h | h, -⟩
      · exact absurd hlong.1 (Nat.not_lt.mpr h)
      · exact absurd hlong.2 (Nat.not_lt.mpr h)
    have hdigest : keyBlock k = keyBlock l ↔ Sha256.digest k = Sha256.digest l := by
      rw [keyBlock_eq, keyBlock_eq, shortened_of_lt hlong.1, shortened_of_lt hlong.2, Sha256.length_digest,
        Sha256.length_digest]
      exact List.append_left_inj _
    rw [hdigest]
    exact ⟨fun h => .inr ⟨hlong, h⟩, fun h => h.elim (fun h => (hnot h).elim) And.right⟩
  · rw [keyBlock_eq_iff]
    constructor
    · intro h
      exact .inl ⟨by omega, h⟩
    · rintro (h | h)
      · exact h.2
      · exact (hlong h.1).elim

/-- Zeros at the end of a key that fits into a block do not count. -/
theorem twins_append_zeros {n : Nat} (h : (k ++ Bytes.zeros n).length ≤ 64) : Twins (k ++ Bytes.zeros n) k := by
  have hk : k.length ≤ 64 := by
    rw [List.length_append] at h
    omega
  refine ⟨.inr hk, 0, n, ?_⟩
  rw [shortened_of_le h, shortened_of_le hk]
  exact List.append_nil _

/-! ## Stretched passwords -/

/-- The stretched block of a password. -/
def stretchBlock (block salt : Bytes) (rounds : Nat) : Bytes :=
  let first := (pads block).tag (salt ++ [0, 0, 0, 1])
  ((pads block).chain (rounds - 1) first first).toBytes

/-- A password is stretched by its block. -/
theorem stretch_eq (password salt : Bytes) (rounds : Nat) :
    stretch password salt rounds = stretchBlock (keyBlock password) salt rounds := rfl

/-- Two keys have no collision: their digests are not the same, unless the keys are, nor are their stretched blocks,
unless the blocks are. -/
structure CollisionFree (k l salt : Bytes) (rounds : Nat) : Prop where
  digest : Sha256.digest k = Sha256.digest l → k = l
  stretched : stretchBlock (keyBlock k) salt rounds = stretchBlock (keyBlock l) salt rounds → keyBlock k = keyBlock l

variable {salt : Bytes} {rounds : Nat}

theorem stretch_eq_of_twins (h : Twins k l) : stretch k salt rounds = stretch l salt rounds := by
  rw [stretch_eq, stretch_eq, keyBlock_eq_iff_twins.mpr (.inl h)]

/-- **Without collisions a stretched password is that of one password and its twins.** -/
theorem stretch_eq_iff (hfree : CollisionFree k l salt rounds) :
    stretch k salt rounds = stretch l salt rounds ↔ k = l ∨ Twins k l := by
  constructor
  · intro h
    rcases keyBlock_eq_iff_twins.mp (hfree.stretched h) with h | ⟨-, h⟩
    · exact .inr h
    · exact .inl (hfree.digest h)
  · rintro (rfl | h)
    · rfl
    · exact stretch_eq_of_twins h

end CellPurse.Hash.Hmac256
