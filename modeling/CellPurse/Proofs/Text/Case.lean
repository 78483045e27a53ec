import CellPurse.Text.Case
import Mathlib

/-!
# CellPurse.Proofs.Text.Case — which texts have a given small form

Of all characters outside ASCII the Kelvin sign alone has a small form in ASCII (`ascii_or_kelvin`), and upper-casing
keeps it.  So a small text of ASCII is the small form of itself, of its capitals, and of these with Kelvin signs for
some of the letters `K`; every other text with this small form mixes both cases.

* `lower_eq_iff`: the texts with a given small form in ASCII, character by character;
* **`not_isMixed_and_lower_eq_iff`**: those of them that do not mix cases.
-/

namespace CellPurse.Text.Case

/-- The Kelvin sign. -/
def kelvin : Char := Char.ofNat 0x212A

/-! ## Single characters -/

theorem lowerChar_of_ascii {c : Char} (h : c.toNat < 0x80) : lowerChar c = [c.toLower] := if_pos h

theorem lowerChar_kelvin : lowerChar kelvin = ['k'] := by decide

/-- The images of all runs but that of the Kelvin sign lie outside ASCII. -/
theorem image_of_mem_lowerRuns : ∀ r ∈ lowerRuns, 0x80 ≤ r.2.2.2 ∨ r = (0x212A, 0x212A, 1, 0x6B) := by
  decide +kernel

theorem not_ascii_ofNat {n : Nat} (h : 0x80 ≤ n) : (Char.ofNat n).toNat = 0 ∨ 0x80 ≤ (Char.ofNat n).toNat := by
  unfold Char.ofNat
  split_ifs with hv
  · right
    change 0x80 ≤ n
    exact h
  · left
    rfl

theorem ascii_or_kelvin {c : Char} (h : ∀ d ∈ lowerChar c, d.toNat ≠ 0 ∧ d.toNat < 0x80) :
    c.toNat < 0x80 ∨ c = kelvin := by
  by_contra hc
  rw [not_or] at hc
  obtain ⟨hascii, hkelvin⟩ := hc
  unfold lowerChar at h
  rw [if_neg hascii] at h
  split_ifs at h with hdot
  · have hmark := (h (Char.ofNat 0x307) (by simp)).2
    exact absurd hmark (by decide)
  · have hsmall := h ((small? c).getD c) (by simp)
    cases hs : small? c with
    | none =>
      rw [hs] at hsmall
      exact hascii hsmall.2
    | some d =>
      rw [hs] at hsmall
      obtain ⟨run, hrun, rfl⟩ := Option.map_eq_some_iff.mp hs
      have hin := List.find?_some hrun
      rcases image_of_mem_lowerRuns run (List.mem_of_find?_eq_some hrun) with himage | rfl
      · rcases not_ascii_ofNat (n := run.2.2.2 + (c.toNat - run.1)) (by omega) with h0 | h0
        · exact hsmall.1 h0
        · exact absurd hsmall.2 (Nat.not_lt.mpr h0)
      · simp only [inRun, Bool.and_eq_true, decide_eq_true_eq] at hin
        have hcode : c.toNat = kelvin.toNat := by
          change c.toNat = 0x212A
          omega
        exact hkelvin (Char.toNat_inj.mp hcode)

theorem changesLower_of_ascii {c : Char} (h : c.toNat < 0x80) : changesLower c = c.isUpper := by
  have hsigma : ¬ c.toNat = 0x3A3 := by omega
  simp only [changesLower, lowerChar_of_ascii h, hsigma, decide_false, Bool.false_or]
  cases hu : c.isUpper with
  | false =>
    have hkeep : c.toLower = c := Char.toLower_eq_of_not_isUpper (by simp [hu])
    simp [hkeep]
  | true =>
    have hne : c.toLower ≠ c := by
      intro heq
      have := Char.isUpper_toLower_eq_false c
      rw [heq, hu] at this
      cases this
    simp [hne]

/-- Behind the letters of ASCII, the characters that upper-casing changes lie outside ASCII. -/
theorem upperRuns_eq : ∃ rest, upperRuns = (0x61, 0x7A, 1) :: rest ∧ ∀ r ∈ rest, 0x80 ≤ r.1 :=
  ⟨upperRuns.tail, rfl, by decide +kernel⟩

theorem changesUpper_of_ascii {c : Char} (h : c.toNat < 0x80) : changesUpper c = c.isLower := by
  obtain ⟨rest, hruns, hrest⟩ := upperRuns_eq
  have hout : ∀ r ∈ rest, ¬ inRun r.1 r.2.1 r.2.2 c.toNat = true := by
    intro r hr
    have hfirst := hrest r hr
    simp only [inRun, Bool.and_eq_true, decide_eq_true_eq]
    omega
  unfold changesUpper
  rw [hruns, List.any_cons, List.any_eq_false.mpr fun r hr => hout r hr, Bool.or_false]
  simp [inRun, Char.isLower, UInt32.le_iff_toNat_le, Nat.mod_one]

theorem changesUpper_kelvin : changesUpper kelvin = false := by decide

/-! ## Texts -/

/-- A small character of ASCII. -/
def IsSmall (d : Char) : Prop := d.toNat ≠ 0 ∧ d.toNat < 0x80 ∧ d.isUpper = false

/-- A character with the small form `d` in ASCII. -/
def Folds (c d : Char) : Prop := (c.toNat < 0x80 ∨ c = kelvin) ∧ lowerChar c = [d]

theorem not_sigma_of_folds {c d : Char} (h : Folds c d) : c.toNat ≠ 0x3A3 := by
  rcases h.1 with hc | rfl
  · omega
  · decide

theorem not_isUpper_of_folds {c d : Char} (h : Folds c d) : d.isUpper = false := by
  obtain ⟨hascii | rfl, hd⟩ := h
  · rw [lowerChar_of_ascii hascii] at hd
    rw [← List.singleton_inj.mp hd, Char.isUpper_toLower_eq_false]
  · rw [lowerChar_kelvin] at hd
    rw [← List.singleton_inj.mp hd]
    decide

theorem folds_of_lowerAfter {before cs s : List Char} (h : lowerAfter before cs = s)
    (hs : ∀ d ∈ s, d.toNat ≠ 0 ∧ d.toNat < 0x80) : List.Forall₂ Folds cs s := by
  induction cs generalizing before s with
  | nil =>
    subst h
    exact .nil
  | cons c r ih =>
    rw [lowerAfter] at h
    subst h
    by_cases hsigma : c.toNat = 0x3A3
    · -- Both small forms of sigma are outside ASCII.
      rw [if_pos hsigma] at hs
      have hform := (hs _ (List.mem_append_left _ (List.mem_singleton_self _))).2
      split_ifs at hform
      · exact absurd hform (by decide)
      · exact absurd hform (by decide)
    · rw [if_neg hsigma] at hs ⊢
      have hc := ascii_or_kelvin fun d hd => hs d (List.mem_append_left _ hd)
      obtain ⟨d, hd⟩ : ∃ d, lowerChar c = [d] := by
        rcases hc with hc | rfl
        · exact ⟨_, lowerChar_of_ascii hc⟩
        · exact ⟨_, lowerChar_kelvin⟩
      rw [hd]
      exact .cons ⟨hc, hd⟩ (ih rfl fun e he => hs e (List.mem_append_right _ he))

theorem lowerAfter_of_folds {before cs s : List Char} (h : List.Forall₂ Folds cs s) : lowerAfter before cs = s := by
  induction h generalizing before with
  | nil => rfl
  | cons hc _ ih => rw [lowerAfter, if_neg (not_sigma_of_folds hc), hc.2, ih, List.singleton_append]

/-- The texts with a given small form in ASCII. -/
theorem lower_eq_iff {cs s : List Char} (hs : ∀ d ∈ s, d.toNat ≠ 0 ∧ d.toNat < 0x80) :
    lower cs = s ↔ List.Forall₂ Folds cs s :=
  ⟨fun h => folds_of_lowerAfter h hs, lowerAfter_of_folds⟩

theorem lowerAfter_of_not_changesLower {before cs : List Char} (h : ∀ c ∈ cs, changesLower c = false) :
    lowerAfter before cs = cs := by
  induction cs generalizing before with
  | nil => rfl
  | cons c r ih =>
    have hc := h c List.mem_cons_self
    simp only [changesLower, Bool.or_eq_false_iff, decide_eq_false_iff_not, not_not] at hc
    rw [lowerAfter, if_neg hc.1, hc.2, ih fun d hd => h d (List.mem_cons_of_mem c hd), List.singleton_append]

/-- The capital of `d`, or a Kelvin sign for the letter `k`. -/
def Capital (c d : Char) : Prop := c = d.toUpper ∨ c = kelvin ∧ d = 'k'

theorem toNat_toUpper_lt {d : Char} (h : d.toNat < 0x80) : d.toUpper.toNat < 0x80 := by
  cases hl : d.isLower with
  | false => rwa [Char.toUpper_eq_of_not_isLower (by simp [hl])]
  | true =>
    have hall : ∀ n < 0x80, (Char.ofNat (n - 32)).toNat < 0x80 := by decide
    rw [Char.toUpper_eq_of_isLower hl]
    exact hall _ h

theorem folds_of_capital {c d : Char} (hd : IsSmall d) (h : Capital c d) : Folds c d ∧ changesUpper c = false := by
  rcases h with rfl | ⟨rfl, rfl⟩
  · have hascii := toNat_toUpper_lt hd.2.1
    have hback : d.toUpper.toLower = d := by
      rw [Char.toLower_toUpper_eq_toLower, Char.toLower_eq_of_not_isUpper (by simp [hd.2.2])]
    refine ⟨⟨.inl hascii, ?_⟩, ?_⟩
    · rw [lowerChar_of_ascii hascii, hback]
    · rw [changesUpper_of_ascii hascii, Char.isLower_toUpper_eq_false]
  · exact ⟨⟨.inr rfl, lowerChar_kelvin⟩, changesUpper_kelvin⟩

theorem capital_of_folds {c d : Char} (h : Folds c d) (hc : changesUpper c = false) : Capital c d := by
  obtain ⟨hascii | rfl, hd⟩ := h
  · rw [lowerChar_of_ascii hascii] at hd
    rw [changesUpper_of_ascii hascii] at hc
    left
    rw [← List.singleton_inj.mp hd, Char.toUpper_toLower_eq_toUpper, Char.toUpper_eq_of_not_isLower (by simp [hc])]
  · rw [lowerChar_kelvin] at hd
    exact .inr ⟨rfl, (List.singleton_inj.mp hd).symm⟩

theorem folds_self {d : Char} (hd : IsSmall d) : Folds d d := by
  refine ⟨.inl hd.2.1, ?_⟩
  rw [lowerChar_of_ascii hd.2.1, Char.toLower_eq_of_not_isUpper (by simp [hd.2.2])]

theorem not_changesLower_of_isSmall {d : Char} (hd : IsSmall d) : changesLower d = false := by
  rw [changesLower_of_ascii hd.2.1, hd.2.2]

theorem isMixed_eq_false_iff {cs : List Char} :
    isMixed cs = false ↔ (∀ c ∈ cs, changesLower c = false) ∨ ∀ c ∈ cs, changesUpper c = false := by
  simp only [isMixed, Bool.and_eq_false_iff, List.any_eq_false, Bool.not_eq_true]

theorem not_kelvin_of_ascii {cs : List Char} (h : ∀ c ∈ cs, c.toNat < 0x80) : kelvin ∉ cs := by
  intro hmem
  exact absurd (h _ hmem) (by decide)

theorem eq_map_toUpper {cs s : List Char} (hk : kelvin ∉ cs) (h : List.Forall₂ Capital cs s) :
    cs = s.map Char.toUpper := by
  have hall := (List.forall₂_and_left cs s).mpr ⟨fun c (hc : c ∈ cs) (heq : c = kelvin) => hk (heq ▸ hc), h⟩
  have hupper : List.Forall₂ (fun c d => c = Char.toUpper d) cs s := by
    refine hall.imp ?_
    rintro c d ⟨hne, hc | ⟨hc, -⟩⟩
    · exact hc
    · exact absurd hc hne
  have hmap := List.forall₂_map_right_iff.mpr hupper
  rwa [List.forall₂_eq_eq_eq] at hmap

/-- A text that does not mix cases and has a small letter is its own small form. -/
theorem lower_of_changesUpper {cs : List Char} (hmix : isMixed cs = false) {d : Char} (hd : d ∈ cs)
    (hu : changesUpper d = true) : lower cs = cs := by
  rcases isMixed_eq_false_iff.mp hmix with hkeep | hkeep
  · exact lowerAfter_of_not_changesLower hkeep
  · rw [hkeep d hd] at hu
    cases hu

/-- **The texts that may stand for a small text of ASCII**: the text itself, and its capitals with a Kelvin sign for any
`K`. -/
theorem not_isMixed_and_lower_eq_iff {cs s : List Char} (hs : ∀ d ∈ s, IsSmall d) :
    isMixed cs = false ∧ lower cs = s ↔ cs = s ∨ List.Forall₂ Capital cs s := by
  rw [isMixed_eq_false_iff, lower_eq_iff fun d hd => ⟨(hs d hd).1, (hs d hd).2.1⟩]
  constructor
  · rintro ⟨hkeep | hkeep, hfold⟩
    · left
      have hlower : lower cs = cs := lowerAfter_of_not_changesLower hkeep
      exact hlower.symm.trans (lowerAfter_of_folds hfold)
    · right
      have hboth := (List.forall₂_and_left cs s).mpr ⟨hkeep, hfold⟩
      exact hboth.imp fun c d h => capital_of_folds h.2 h.1
  · rintro (rfl | hcap)
    · have hself : List.Forall₂ Folds cs cs := List.forall₂_same.mpr fun d hd => folds_self (hs d hd)
      exact ⟨.inl fun d hd => not_changesLower_of_isSmall (hs d hd), hself⟩
    · have hsmall := (List.forall₂_and_left s cs).mpr ⟨hs, hcap.flip⟩
      have hboth : List.Forall₂ (fun c d => changesUpper c = false ∧ Folds c d) cs s :=
        hsmall.flip.imp fun c d h => (folds_of_capital h.1 h.2).symm
      obtain ⟨hkeep, hfold⟩ := (List.forall₂_and_left cs s).mp hboth
      exact ⟨.inr hkeep, hfold⟩

end CellPurse.Text.Case
