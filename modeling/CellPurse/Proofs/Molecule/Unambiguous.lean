import CellPurse.Proofs.Molecule.Table

/-!
# CellPurse.Proofs.Molecule.Unambiguous — what is written determines what was meant

`Unambiguous write` says that no two values are written alike.  Words and byte strings are unambiguous, a table and a
vector of items of any size determine their items, and a vector of fixed items does so as long as the items are of one
size: their number stands in front, and nothing else marks where an item ends (`fixvec_inj`).
-/

namespace CellPurse.Molecule

open Outcome

variable {α β : Type}

/-- No two values are written alike. -/
def Unambiguous (write : α → Except MoleculeFault β) : Prop :=
  ∀ ⦃a a' : α⦄ ⦃b : β⦄, write a = .ok b → write a' = .ok b → a = a'

theorem unambiguous_wordOf (w : Nat) : Unambiguous (wordOf w) := by
  intro m n b hm hn
  obtain ⟨hm0, hmw, hbm⟩ := wordOf_eq_ok_iff.mp hm
  obtain ⟨hn0, hnw, hbn⟩ := wordOf_eq_ok_iff.mp hn
  have hnat : m.toNat % 256 ^ w = n.toNat % 256 ^ w := by
    rw [← Bytes.toNatLE_ofNatLE, ← Bytes.toNatLE_ofNatLE, ← hbm, ← hbn]
  have hpow : ((256 ^ w : Nat) : Int) = 256 ^ w := by simp
  rw [Nat.mod_eq_of_lt (by omega), Nat.mod_eq_of_lt (by omega)] at hnat
  omega

theorem length_of_wordOf {w : Nat} {n : Int} {b : Bytes} (h : wordOf w n = .ok b) : b.length = w := by
  obtain ⟨-, -, rfl⟩ := wordOf_eq_ok_iff.mp h
  exact Bytes.length_ofNatLE w _

theorem bytes_eq_ok_iff {b data : Bytes} : bytes b = .ok data ↔ ∃ n, u32 b.length = .ok n ∧ n ++ b = data := by
  unfold bytes
  rw [bind_eq_ok_iff]
  simp only [pure_eq_ok_iff]

theorem unambiguous_bytes : Unambiguous bytes := by
  intro a c data ha hc
  obtain ⟨n, hn, hna⟩ := bytes_eq_ok_iff.mp ha
  obtain ⟨m, hm, hmc⟩ := bytes_eq_ok_iff.mp hc
  have hlen : n.length = m.length := (length_of_wordOf hn).trans (length_of_wordOf hm).symm
  exact (List.append_inj (hna.trans hmc.symm) hlen).2

theorem unambiguous_table : Unambiguous table := by
  intro items items' data h h'
  have heq : (.ok items : Except MoleculeFault _) = .ok items' := (fields_table h).symm.trans (fields_table h')
  exact Except.ok.inj heq

/-- The vector without items is the table without fields. -/
theorem dynvec_eq_table (items : List Bytes) : dynvec items = table items := by
  cases items with
  | nil => rfl
  | cons item r => rfl

theorem unambiguous_dynvec : Unambiguous dynvec := by
  intro items items' data h h'
  rw [dynvec_eq_table] at h h'
  exact unambiguous_table h h'

theorem Unambiguous.mapM {write : α → Except MoleculeFault β} (hw : Unambiguous write) :
    Unambiguous (fun l : List α => l.mapM write) := by
  intro l l' r h h'
  have hunique : Relator.LeftUnique (fun a b => write a = .ok b) := fun a b c => @hw a b c
  exact List.left_unique_forall₂' hunique (mapM_eq_ok_iff.mp h) (mapM_eq_ok_iff.mp h')

/-! ## Items of one size -/

theorem fixvec_inj {n : Nat} {items items' : List Bytes} {data : Bytes} (hn : ∀ item ∈ items, item.length = n)
    (hn' : ∀ item ∈ items', item.length = n) (h : fixvec items = .ok data) (h' : fixvec items' = .ok data) :
    items = items' := by
  unfold fixvec at h h'
  obtain ⟨size, hsize, h⟩ := bind_eq_ok_iff.mp h
  obtain ⟨size', hsize', h'⟩ := bind_eq_ok_iff.mp h'
  have heq : size ++ items.flatten = size' ++ items'.flatten :=
    (pure_eq_ok_iff.mp h).trans (pure_eq_ok_iff.mp h').symm
  have hlen : size.length = size'.length := (length_of_wordOf hsize).trans (length_of_wordOf hsize').symm
  obtain ⟨hwords, hflat⟩ := List.append_inj heq hlen
  have hcount : items.length = items'.length := by
    rw [← hwords] at hsize'
    have := unambiguous_wordOf 4 hsize hsize'
    omega
  refine List.eq_iff_flatten_eq.mpr ⟨hflat, ?_⟩
  have hmap : items.map List.length = List.replicate items.length n := List.map_eq_replicate_iff.mpr hn
  have hmap' : items'.map List.length = List.replicate items'.length n := List.map_eq_replicate_iff.mpr hn'
  rw [hmap, hmap', hcount]

/-- Items of different sizes may be cut in two ways. -/
example : fixvec [[1, 2], [3]] = fixvec [[1], [2, 3]] := by decide

/-- Values that are written in one size, after their number. -/
theorem fixvec_mapM_inj {write : α → Except MoleculeFault Bytes} (hw : Unambiguous write) {n : Nat} {l l' : List α}
    (hn : ∀ a ∈ l, ∀ b, write a = .ok b → b.length = n) (hn' : ∀ a ∈ l', ∀ b, write a = .ok b → b.length = n)
    {items items' : List Bytes} (hl : l.mapM write = .ok items) (hl' : l'.mapM write = .ok items') {data : Bytes}
    (h : fixvec items = .ok data) (h' : fixvec items' = .ok data) : l = l' := by
  have hsize : ∀ {l : List α} {items : List Bytes}, (∀ a ∈ l, ∀ b, write a = .ok b → b.length = n) →
      l.mapM write = .ok items → ∀ item ∈ items, item.length = n := by
    intro l items hn hl item hitem
    have hall := (List.forall₂_and_left l items).mpr ⟨hn, mapM_eq_ok_iff.mp hl⟩
    obtain ⟨a, ha, hwritten⟩ := exists_of_forall₂ hall.flip hitem
    exact ha item hwritten
  have hitems := fixvec_inj (hsize hn hl) (hsize hn' hl') h h'
  rw [← hitems] at hl'
  exact hw.mapM hl hl'

end CellPurse.Molecule
