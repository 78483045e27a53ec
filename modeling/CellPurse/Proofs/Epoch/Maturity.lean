import CellPurse.Proofs.Transfer.Conversation
import Mathlib.Data.Rat.Floor
import Mathlib.Order.Bounds.Basic
import Mathlib.Order.Monotone.Basic
import Mathlib.Tactic.Linarith

/-!
# CellPurse.Proofs.Epoch.Maturity — the cutoff of new coins against the epochs of a chain

The cutoff is told by the tip and by the start and length of one epoch.  Here the epochs of a whole chain are given, so
that each block has its own place in time, and new coins can be spent four epochs after it.

* `Epoch.Proper`: the index lies in the length; `toRat_le_iff`: such places in time are compared in whole numbers;
* `EpochTable`: the epochs of a chain; `EpochTable.epochOf`: the place of a block in time;
* `EpochTable.Ripe t tip b`: the new coins of block `b` can be spent at a tip;
* `EpochTable.last t tip`: the last such block; `ripe_iff`, `isGreatest_last`;
* `EpochTable.cutoff t tip`: the cutoff, which is the last such block or the one before;
* `EpochTable.cutoff_ripens`: the cutoff that a purse gets from a node of this chain.
-/

namespace CellPurse

open Told

/-! ## Places in time -/

namespace Epoch

/-- The index lies in the length. -/
structure Proper (e : Epoch) : Prop where
  nonneg : 0 ≤ e.index
  lt_length : e.index < e.length

/-- The same place in a later epoch. -/
def later (e : Epoch) (k : Int) : Epoch := { e with number := e.number + k }

variable {a b e : Epoch}

theorem Proper.length_pos (h : e.Proper) : 0 < e.length := lt_of_le_of_lt h.nonneg h.lt_length

theorem Proper.later (h : e.Proper) (k : Int) : (e.later k).Proper := ⟨h.nonneg, h.lt_length⟩

theorem Proper.toRat_eq (h : e.Proper) : e.toRat = e.number + (e.index : ℚ) / e.length := by
  unfold toRat
  rw [if_neg h.length_pos.ne']

theorem Proper.toRat_later (h : e.Proper) (k : Int) : (e.later k).toRat = e.toRat + k := by
  rw [(h.later k).toRat_eq, h.toRat_eq]
  simp only [Epoch.later, Int.cast_add]
  ring

theorem Proper.fraction (h : e.Proper) : 0 ≤ (e.index : ℚ) / e.length ∧ (e.index : ℚ) / e.length < 1 := by
  have hpos : (0 : ℚ) < e.length := by exact_mod_cast h.length_pos
  have hindex : (0 : ℚ) ≤ e.index := by exact_mod_cast h.nonneg
  have hlt : (e.index : ℚ) < e.length := by exact_mod_cast h.lt_length
  exact ⟨div_nonneg hindex hpos.le, (div_lt_one hpos).mpr hlt⟩

/-- Places in time are compared by their epochs, and in one epoch by their shares of its length. -/
theorem toRat_le_iff (ha : a.Proper) (hb : b.Proper) : a.toRat ≤ b.toRat ↔
    a.number < b.number ∨ a.number = b.number ∧ a.index * b.length ≤ b.index * a.length := by
  obtain ⟨ha0, ha1⟩ := ha.fraction
  obtain ⟨hb0, hb1⟩ := hb.fraction
  rw [ha.toRat_eq, hb.toRat_eq]
  rcases lt_trichotomy a.number b.number with hlt | heq | hgt
  · have hnext : (a.number : ℚ) + 1 ≤ b.number := by exact_mod_cast hlt
    exact iff_of_true (by linarith) (.inl hlt)
  · have hapos : (0 : ℚ) < a.length := by exact_mod_cast ha.length_pos
    have hbpos : (0 : ℚ) < b.length := by exact_mod_cast hb.length_pos
    rw [heq, add_le_add_iff_left, div_le_div_iff₀ hapos hbpos]
    simp only [lt_irrefl, true_and, false_or]
    exact_mod_cast Iff.rfl
  · have hnext : (b.number : ℚ) + 1 ≤ a.number := by exact_mod_cast hgt
    refine iff_of_false (by linarith) ?_
    rintro (h | ⟨h, -⟩) <;> omega

end Epoch

/-! ## The epochs of a chain -/

/-- The epochs of a chain: each starts where the one before ends, and has a block. -/
structure EpochTable where
  start : Nat → Nat
  length : Nat → Nat
  length_pos : ∀ e, 0 < length e
  start_zero : start 0 = 0
  start_succ : ∀ e, start (e + 1) = start e + length e

namespace EpochTable

variable (t : EpochTable)

/-- The number of the epoch of a block. -/
def number : Nat → Nat
  | 0 => 0
  | b + 1 => if b + 1 < t.start (number b + 1) then number b else number b + 1

/-- The epoch of a block, with the place of the block in it. -/
def epochOf (b : Nat) : Epoch := ⟨t.number b, (b : Int) - t.start (t.number b), t.length (t.number b)⟩

theorem start_strictMono : StrictMono t.start := by
  apply strictMono_nat_of_lt_succ
  intro e
  have := t.length_pos e
  rw [t.start_succ]
  omega

/-- A block lies in its epoch. -/
theorem start_number (b : Nat) : t.start (t.number b) ≤ b ∧ b < t.start (t.number b + 1) := by
  induction b with
  | zero =>
    have := t.length_pos 0
    simp only [number, t.start_succ, t.start_zero]
    omega
  | succ b ih =>
    rw [number]
    by_cases hin : b + 1 < t.start (t.number b + 1)
    · rw [if_pos hin]
      omega
    · have := t.length_pos (t.number b + 1)
      rw [if_neg hin, t.start_succ (t.number b + 1)]
      omega

theorem number_eq_of_start {b e : Nat} (hlow : t.start e ≤ b) (hhigh : b < t.start (e + 1)) : t.number b = e := by
  obtain ⟨hlow', hhigh'⟩ := t.start_number b
  have hle := t.start_strictMono.lt_iff_lt.mp (lt_of_le_of_lt hlow' hhigh)
  have hge := t.start_strictMono.lt_iff_lt.mp (lt_of_le_of_lt hlow hhigh')
  omega

theorem number_lt_iff {b e : Nat} : t.number b < e ↔ b < t.start e := by
  obtain ⟨hlow, hhigh⟩ := t.start_number b
  constructor
  · intro h
    exact lt_of_lt_of_le hhigh (t.start_strictMono.monotone h)
  · intro h
    exact t.start_strictMono.lt_iff_lt.mp (lt_of_le_of_lt hlow h)

theorem proper_epochOf (b : Nat) : (t.epochOf b).Proper := by
  obtain ⟨hlow, hhigh⟩ := t.start_number b
  rw [t.start_succ] at hhigh
  constructor <;> simp only [epochOf] <;> omega

/-! ## Ripe blocks -/

/-- The new coins of a block can be spent at a tip: the tip is four epochs later, or more. -/
def Ripe (tip : Epoch) (b : Nat) : Prop := (t.epochOf b).toRat + Maturity.epochs ≤ tip.toRat

/-- The epoch whose blocks ripen while the tip goes through its own. -/
def ripening (tip : Epoch) : Nat := (tip.number - Maturity.epochs).toNat

/-- How far the tip has come in its own epoch, in blocks of the epoch that ripens. -/
def share (tip : Epoch) : Nat := (tip.index * t.length (ripening tip) / tip.length).toNat

/-- The last ripe block. -/
def last (tip : Epoch) : Nat := t.start (ripening tip) + t.share tip

/-- The cutoff: one block is held back, but not below the start of the epoch. -/
def cutoff (tip : Epoch) : Nat :=
  if tip.number < Maturity.epochs then 0 else t.start (ripening tip) + (t.share tip - 1)

variable {t} {tip : Epoch}

theorem natCast_share (htip : tip.Proper) :
    (t.share tip : Int) = tip.index * t.length (ripening tip) / tip.length := by
  have hnonneg : 0 ≤ tip.index * t.length (ripening tip) / tip.length :=
    Int.ediv_nonneg (Int.mul_nonneg htip.nonneg (Int.natCast_nonneg _)) htip.length_pos.le
  unfold share
  omega

theorem le_share_iff (htip : tip.Proper) (k : Nat) :
    k ≤ t.share tip ↔ (k : Int) * tip.length ≤ tip.index * t.length (ripening tip) := by
  rw [← Int.le_ediv_iff_mul_le htip.length_pos, ← natCast_share htip]
  omega

/-- The tip does not come to the end of the epoch that ripens. -/
theorem share_lt (htip : tip.Proper) : t.share tip < t.length (ripening tip) := by
  have hlength : (0 : Int) < t.length (ripening tip) := by exact_mod_cast t.length_pos _
  have hlt : tip.index * t.length (ripening tip) < tip.length * t.length (ripening tip) :=
    Int.mul_lt_mul_of_pos_right htip.lt_length hlength
  by_contra hge
  have hle := (le_share_iff htip (t.length (ripening tip))).mp (Nat.not_lt.mp hge)
  rw [Int.mul_comm] at hle
  omega

theorem natCast_ripening (hold : Maturity.epochs ≤ tip.number) :
    (ripening tip : Int) = tip.number - Maturity.epochs := by
  unfold ripening
  omega

/-- Every block up to the last ripe one is ripe, and no other. -/
theorem ripe_iff (htip : tip.Proper) (hold : Maturity.epochs ≤ tip.number) (b : Nat) :
    t.Ripe tip b ↔ b ≤ t.last tip := by
  have hshare := share_lt (t := t) htip
  have hripening := natCast_ripening hold
  obtain ⟨hlow, hhigh⟩ := t.start_number b
  have hlater := (t.proper_epochOf b).toRat_later Maturity.epochs
  unfold Ripe last
  rw [← hlater, Epoch.toRat_le_iff ((t.proper_epochOf b).later _) htip]
  simp only [Epoch.later, epochOf]
  rcases lt_trichotomy (t.number b) (ripening tip) with hlt | heq | hgt
  · -- an earlier epoch is over
    have hstart := t.number_lt_iff.mp hlt
    exact iff_of_true (.inl (by omega)) (by omega)
  · -- in the epoch that ripens the places are compared
    rw [heq] at hlow ⊢
    obtain ⟨k, rfl⟩ := Nat.exists_eq_add_of_le hlow
    have hplace : ((t.start (ripening tip) + k : Nat) : Int) - t.start (ripening tip) = k := by omega
    rw [hplace, Nat.add_le_add_iff_left, le_share_iff htip]
    constructor
    · rintro (h | ⟨-, h⟩)
      · omega
      · exact h
    · intro h
      exact .inr ⟨by omega, h⟩
  · have hstart : t.start (ripening tip + 1) ≤ b := Nat.not_lt.mp fun h => by
      have := t.number_lt_iff.mpr h
      omega
    rw [t.start_succ] at hstart
    refine iff_of_false ?_ (by omega)
    rintro (h | ⟨h, -⟩) <;> omega

theorem isGreatest_last (htip : tip.Proper) (hold : Maturity.epochs ≤ tip.number) :
    IsGreatest {b | t.Ripe tip b} (t.last tip) :=
  ⟨(ripe_iff htip hold _).mpr le_rfl, fun b hb => (ripe_iff htip hold b).mp hb⟩

/-! ## The cutoff -/

theorem cutoff_of_young (hyoung : tip.number < Maturity.epochs) : t.cutoff tip = 0 := if_pos hyoung

theorem cutoff_of_old (hold : Maturity.epochs ≤ tip.number) :
    t.cutoff tip = t.start (ripening tip) + (t.share tip - 1) := if_neg (Int.not_lt.mpr hold)

/-- Nothing is held back at the start of an epoch, and one block at any other place. -/
theorem last_eq (hold : Maturity.epochs ≤ tip.number) :
    t.last tip = t.cutoff tip ∨ t.last tip = t.cutoff tip + 1 := by
  rw [cutoff_of_old hold]
  unfold last
  omega

/-- The cutoff is never taken back. -/
theorem cutoff_mono {tip' : Epoch} (htip : tip.Proper) (htip' : tip'.Proper) (hle : tip.toRat ≤ tip'.toRat) :
    t.cutoff tip ≤ t.cutoff tip' := by
  by_cases hold : Maturity.epochs ≤ tip.number
  swap
  · rw [cutoff_of_young (Int.not_le.mp hold)]
    exact Nat.zero_le _
  have hcases := (Epoch.toRat_le_iff htip htip').mp hle
  have hold' : Maturity.epochs ≤ tip'.number := by omega
  have hripening := natCast_ripening hold
  have hripening' := natCast_ripening hold'
  rw [cutoff_of_old hold, cutoff_of_old hold']
  rcases hcases with hlt | ⟨heq, hshares⟩
  · -- the whole epoch that ripens lies before the next one
    have hshare := share_lt (t := t) htip
    have hnext : t.start (ripening tip + 1) ≤ t.start (ripening tip') :=
      t.start_strictMono.monotone (by omega)
    rw [t.start_succ] at hnext
    omega
  · have hsame : ripening tip = ripening tip' := by
      unfold ripening
      rw [heq]
    have hshare : t.share tip ≤ t.share tip' := by
      rw [le_share_iff htip', ← hsame]
      have hmine := (le_share_iff htip (t.share tip)).mp le_rfl
      have hlength : (0 : Int) ≤ t.length (ripening tip) := Int.natCast_nonneg _
      refine le_of_mul_le_mul_right ?_ htip.length_pos
      calc (t.share tip : Int) * tip'.length * tip.length
          = t.share tip * tip.length * tip'.length := by ring
        _ ≤ tip.index * t.length (ripening tip) * tip'.length :=
          Int.mul_le_mul_of_nonneg_right hmine htip'.length_pos.le
        _ = tip.index * tip'.length * t.length (ripening tip) := by ring
        _ ≤ tip'.index * tip.length * t.length (ripening tip) := Int.mul_le_mul_of_nonneg_right hshares hlength
        _ = tip'.index * t.length (ripening tip) * tip.length := by ring
    rw [hsame]
    omega

/-! ## A node of the chain -/

variable (t) in
/-- What a node says of an epoch. -/
def span (e : Nat) : EpochSpan := ⟨e, t.start e, t.length e⟩

/-- The share of the tip in its epoch, taken of the epoch that ripens, is rounded down. -/
theorem floor_share (htip : tip.Proper) :
    ((tip.index : ℚ) / tip.length * t.length (ripening tip)).floor = t.share tip := by
  obtain ⟨d, hd⟩ := Int.eq_ofNat_of_zero_le htip.length_pos.le
  rw [natCast_share htip, hd, div_mul_eq_mul_div]
  have hdiv := Rat.floor_intCast_div_natCast (tip.index * t.length (ripening tip)) d
  push_cast at hdiv ⊢
  exact hdiv

/-- The cutoff that is computed from the tip and the epoch that ripens. -/
theorem cutoff_eq (htip : tip.Proper) (hold : Maturity.epochs ≤ tip.number) :
    Maturity.cutoff tip (some ((t.span (ripening tip)).start, (t.span (ripening tip)).length)) Maturity.epochs =
      t.cutoff tip := by
  obtain ⟨hnonneg, hlt⟩ := htip.fraction
  have hnumber : (Maturity.epochs : ℚ) ≤ tip.number := by exact_mod_cast hold
  have hfloor : (tip.toRat - Maturity.epochs).floor = tip.number - Maturity.epochs := by
    show ⌊tip.toRat - Maturity.epochs⌋ = _
    rw [Int.floor_eq_iff, htip.toRat_eq]
    push_cast
    constructor <;> linarith
  have hfraction : tip.toRat - Maturity.epochs - ((tip.number - Maturity.epochs : Int) : ℚ) =
      (tip.index : ℚ) / tip.length := by
    rw [htip.toRat_eq]
    push_cast
    ring
  unfold Maturity.cutoff
  rw [if_neg (by rw [htip.toRat_eq]; linarith), cutoff_of_old hold]
  dsimp only [span]
  rw [hfloor, hfraction, Int.cast_natCast, floor_share htip]
  omega

variable (t) in
/-- The node knows the epochs of the chain up to that of a tip, whatever was said before. -/
def KnownTo (r : Replies) (tip : Epoch) : Prop :=
  ∀ past (e : Nat), (e : Int) ≤ tip.number → r.epoch past e = .ok (some (t.span e))

/-- A node of the chain is asked for its tip, and for the epoch that ripens when there is one. -/
theorem ends_cutoff {r : Replies} {past : List Event} (hknown : t.KnownTo r tip) (htip : tip.Proper)
    (hsaid : r.tip past = .ok tip) : ∃ new, Ends r.node.cutoff past (.ok (t.cutoff tip : Int)) new := by
  have hask : Ends r.node.tip past (.ok tip) [.tip (.ok tip)] := ends_ask_iff.mpr ⟨hsaid.symm, by rw [hsaid]⟩
  refine hask.exists_bind ?_
  by_cases hyoung : tip.number < Maturity.epochs
  · rw [if_pos hyoung, cutoff_of_young hyoung]
    exact ⟨[], ends_pure_iff.mpr ⟨rfl, rfl⟩⟩
  · have hold := Int.not_lt.mp hyoung
    rw [if_neg hyoung, ← natCast_ripening hold, ← cutoff_eq htip hold]
    have hbegun : (ripening tip : Int) ≤ tip.number := by
      rw [natCast_ripening hold]
      exact Int.sub_le_self _ (by decide)
    have hepoch := hknown (past ++ [.tip (.ok tip)]) (ripening tip) hbegun
    have hspan : Ends (r.node.epoch (ripening tip)) (past ++ [.tip (.ok tip)]) (.ok (some (t.span (ripening tip))))
        [.epoch (ripening tip) (.ok (some (t.span (ripening tip))))] :=
      ends_ask_iff.mpr ⟨hepoch.symm, by rw [hepoch]⟩
    exact hspan.exists_bind ⟨[], ends_pure_iff.mpr ⟨rfl, rfl⟩⟩

/-- **The cutoff admits no unripe block, is at most one block short, and is never taken back.**  A purse that asks a
node of the chain for the cutoff gets one.  All blocks up to it are ripe; the last ripe block is the cutoff or the one
after it, once the chain has four epochs, before which the cutoff is zero.  A later tip, told by this node or by another
one of the chain, has no lower cutoff. -/
theorem cutoff_ripens (t : EpochTable) (r r' : Replies) (past past' : List Event) (tip tip' : Epoch)
    (hknown : t.KnownTo r tip) (hknown' : t.KnownTo r' tip') (htip : tip.Proper) (htip' : tip'.Proper)
    (hsaid : r.tip past = .ok tip) (hsaid' : r'.tip past' = .ok tip') :
    ∃ m m' : Nat, (∃ new, Ends r.node.cutoff past (.ok (m : Int)) new) ∧
      (∃ new, Ends r'.node.cutoff past' (.ok (m' : Int)) new) ∧
      (∀ b, 0 < b → b ≤ m → (t.epochOf b).toRat + Maturity.epochs ≤ tip.toRat) ∧
      (Maturity.epochs ≤ tip.number → ∃ b, (b = m ∨ b = m + 1) ∧
        IsGreatest {b | (t.epochOf b).toRat + Maturity.epochs ≤ tip.toRat} b) ∧
      (tip.number < Maturity.epochs → m = 0) ∧
      (tip.toRat ≤ tip'.toRat → m ≤ m') := by
  refine ⟨t.cutoff tip, t.cutoff tip', ends_cutoff hknown htip hsaid, ends_cutoff hknown' htip' hsaid',
    fun b hb hle => ?_, fun hold => ⟨t.last tip, last_eq hold, isGreatest_last htip hold⟩, cutoff_of_young,
    cutoff_mono htip htip'⟩
  have hold : Maturity.epochs ≤ tip.number := by
    by_contra hyoung
    rw [cutoff_of_young (Int.not_le.mp hyoung)] at hle
    omega
  refine (ripe_iff htip hold b).mpr ?_
  rcases last_eq (t := t) hold with h | h <;> omega

namespace Sample

/-- Epochs of five and of two blocks in turn. -/
def table : EpochTable where
  start e := 7 * (e / 2) + 5 * (e % 2)
  length e := if e % 2 = 0 then 5 else 2
  length_pos e := by split <;> omega
  start_zero := rfl
  start_succ e := by split <;> omega

/-- In the middle of epoch 6. -/
def firstTip : Epoch := ⟨6, 1, 2⟩

/-- At the start of epoch 7. -/
def nextTip : Epoch := ⟨7, 0, 3⟩

/-- A node of this chain, whose tip has moved on when it is asked again. -/
def node : Replies where
  block _ _ := .ok .null
  cell _ _ _ := .ok none
  send _ _ := .error (.transport "busy")
  tip past := .ok (if past.isEmpty then firstTip else nextTip)
  epoch _ e := .ok (some (table.span e.toNat))
  network _ := .ok .testnet

end Sample

open EpochTable.Sample

/-- In the middle of epoch 6 the cutoff is block 8, the second one of epoch 2, and the last ripe block is that one or
the next. -/
theorem cutoff_ripens_sample : table.KnownTo node firstTip ∧ firstTip.Proper ∧ nextTip.Proper ∧
    firstTip.toRat ≤ nextTip.toRat ∧ (∃ new, Ends node.node.cutoff [] (.ok 8) new) ∧
    (∃ b, (b = 8 ∨ b = 9) ∧ IsGreatest {b | (table.epochOf b).toRat + Maturity.epochs ≤ firstTip.toRat} b) ∧
    ∃ m' : Nat, (∃ new, Ends node.node.cutoff [.tip (.ok firstTip)] (.ok (m' : Int)) new) ∧ 8 ≤ m' := by
  have hknown : ∀ tip, table.KnownTo node tip := fun _ _ _ _ => rfl
  have htip : firstTip.Proper := ⟨by decide, by decide⟩
  have hlater : nextTip.Proper := ⟨by decide, by decide⟩
  have hle : firstTip.toRat ≤ nextTip.toRat := (Epoch.toRat_le_iff htip hlater).mpr (.inl (by decide))
  obtain ⟨m, m', ⟨new, hm⟩, hm', -, htight, -, hmono⟩ :=
    cutoff_ripens table node node [] [.tip (.ok firstTip)] firstTip nextTip (hknown _) (hknown _) htip hlater rfl rfl
  obtain ⟨new', height⟩ : ∃ new, Ends node.node.cutoff [] (.ok 8) new := ends_cutoff (hknown _) htip rfl
  have hnumber : (.ok (m : Int) : Except NodeFault Int) = .ok 8 := (Prod.mk.inj (hm.symm.trans height)).1
  obtain rfl : m = 8 := Int.ofNat_inj.mp (Except.ok.inj hnumber)
  exact ⟨hknown _, htip, hlater, hle, ⟨new', height⟩, htight (by decide), m', hm', hmono hle⟩

end EpochTable

end CellPurse
