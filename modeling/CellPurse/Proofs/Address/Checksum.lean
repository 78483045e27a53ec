import CellPurse.Address.Bech32
import CellPurse.Number.Power
import Mathlib.Dynamics.PeriodicPts.Defs

/-!
# CellPurse.Proofs.Address.Checksum — the code of checked texts

The remainder is linear: a sum of states and symbols is shifted in as the sum of what each of them gives (`step_xor`).
So the symbols behind a state add what they give from zero, and the state itself is moved on by `shift`, once for each
of them.  Two consequences carry the rest:

* `polymod_append_eq_iff`: of all six symbols behind a text, the checksum alone gives the constant, so that it is the
  only completion (`completes_iff_checksum`);
* `polymod_ne_of_one_symbol`: if one symbol is replaced, the remainder changes, and by something else than the
  difference of the two constants.  A single symbol, moved on by any number of places, is neither nothing nor that
  difference, since the difference comes back to itself after 1023 shifts and is no single symbol on its way.
-/

namespace CellPurse.Bech32

/-! ## Linearity -/

theorem reduce_xor (a b : BitVec 30) (i : Nat) (gs : List (BitVec 30)) (c d : BitVec 30) :
    reduce (a ^^^ b) i gs (c ^^^ d) = reduce a i gs c ^^^ reduce b i gs d := by
  induction gs generalizing i c d with
  | nil => rfl
  | cons g gs ih =>
    have hhead : (if (a ^^^ b).getLsbD i then c ^^^ d ^^^ g else c ^^^ d) =
        (if a.getLsbD i then c ^^^ g else c) ^^^ (if b.getLsbD i then d ^^^ g else d) := by
      rw [BitVec.getLsbD_xor]
      have hcancel : (c ^^^ g) ^^^ (d ^^^ g) = c ^^^ d := by
        rw [BitVec.xor_comm d g, BitVec.xor_assoc, ← BitVec.xor_assoc g g d, BitVec.xor_self, BitVec.zero_xor]
      have hleft : (c ^^^ g) ^^^ d = c ^^^ d ^^^ g := by
        rw [BitVec.xor_assoc, BitVec.xor_comm g d, ← BitVec.xor_assoc]
      have hright : c ^^^ (d ^^^ g) = c ^^^ d ^^^ g := (BitVec.xor_assoc c d g).symm
      cases a.getLsbD i <;> cases b.getLsbD i <;> simp [hcancel, hleft, hright]
    simp only [reduce]
    rw [hhead, ih]

theorem step_xor (a b v w : BitVec 30) : step (a ^^^ b) (v ^^^ w) = step a v ^^^ step b w := by
  unfold step
  have hlow : ((a ^^^ b) &&& 0x1FFFFFF) <<< 5 ^^^ (v ^^^ w) =
      ((a &&& 0x1FFFFFF) <<< 5 ^^^ v) ^^^ ((b &&& 0x1FFFFFF) <<< 5 ^^^ w) := by
    ext i hi
    simp
    cases v[i] <;> cases w[i] <;> simp <;> grind
  rw [hlow, BitVec.ushiftRight_xor_distrib, reduce_xor]

/-- A zero is shifted in. -/
def shift (r : BitVec 30) : BitVec 30 := step r 0#30

theorem step_zero (v : BitVec 30) : step 0#30 v = v := by simp [step, reduce, generator]

theorem step_eq (r v : BitVec 30) : step r v = shift r ^^^ v := by
  have h := step_xor r 0#30 0#30 v
  rwa [BitVec.xor_zero, BitVec.zero_xor, step_zero] at h

theorem shift_xor (a b : BitVec 30) : shift (a ^^^ b) = shift a ^^^ shift b := step_xor a b 0#30 0#30

theorem shift_zero : shift 0#30 = 0#30 := step_zero 0#30

/-- What symbols give from a sum: one part is moved on, the other one takes the symbols in. -/
theorem foldl_step_xor (a b : BitVec 30) (vs : List (BitVec 30)) :
    vs.foldl step (a ^^^ b) = shift^[vs.length] a ^^^ vs.foldl step b := by
  induction vs generalizing a b with
  | nil => rfl
  | cons v vs ih =>
    have hstep : step (a ^^^ b) v = shift a ^^^ step b v := by
      rw [step_eq, step_eq b, shift_xor, BitVec.xor_assoc]
    simp only [List.foldl_cons, List.length_cons, Function.iterate_succ_apply]
    rw [hstep, ih]

theorem foldl_step (r : BitVec 30) (vs : List (BitVec 30)) :
    vs.foldl step r = shift^[vs.length] r ^^^ vs.foldl step 0#30 := by
  have h := foldl_step_xor r 0#30 vs
  rwa [BitVec.xor_zero] at h

theorem foldl_step_zeros (n : Nat) : (List.replicate n 0#30).foldl step 0#30 = 0#30 := by
  induction n with
  | zero => rfl
  | succ n ih => rw [List.replicate_succ, List.foldl_cons, step_zero, ih]

/-! ## Six symbols -/

/-- Nothing overlaps, so nothing cancels. -/
theorem xor_low {n v k : Nat} (hv : v < 2 ^ k) : 2 ^ k * n ^^^ v = 2 ^ k * n + v := by
  apply Nat.eq_of_testBit_eq
  intro i
  rw [Nat.testBit_xor, Nat.testBit_two_pow_mul, Nat.testBit_two_pow_mul_add n hv]
  by_cases hi : i < k
  · simp [hi, Nat.not_le.mpr hi]
  · have hik : k ≤ i := Nat.le_of_not_lt hi
    have hvi : v < 2 ^ i := lt_of_lt_of_le hv (Nat.pow_le_pow_right (by decide) hik)
    simp [hi, hik, Nat.testBit_lt_two_pow hvi]

theorem reduce_none (x : BitVec 30) : reduce 0#30 0 generator x = x := by simp [reduce, generator]

/-- As long as the high symbol is free, a step only appends. -/
theorem toNat_step {r v : BitVec 30} (hr : r.toNat < 2 ^ 25) (hv : v.toNat < 32) :
    (step r v).toNat = 32 * r.toNat + v.toNat := by
  have htop : r >>> 25 = 0#30 := by
    apply BitVec.eq_of_toNat_eq
    rw [BitVec.toNat_ushiftRight, Nat.shiftRight_eq_div_pow, Nat.div_eq_of_lt hr]
    rfl
  have hlow : r &&& 0x1FFFFFF = r := by
    have hmask : (0x1FFFFFF : BitVec 30).toNat = 2 ^ 25 - 1 := rfl
    apply BitVec.eq_of_toNat_eq
    rw [BitVec.toNat_and, hmask, Nat.and_two_pow_sub_one_eq_mod, Nat.mod_eq_of_lt hr]
  unfold step
  rw [htop, hlow, reduce_none, BitVec.toNat_xor, BitVec.toNat_shiftLeft, Nat.shiftLeft_eq, Nat.mod_eq_of_lt (by omega),
    Nat.mul_comm]
  exact xor_low hv

theorem toNat_ofNat_symbol {v : Nat} (hv : v < 32) : (BitVec.ofNat 30 v).toNat = v := by
  rw [BitVec.toNat_ofNat, Nat.mod_eq_of_lt (by omega)]

/-- Six symbols from zero are the digits of a number. -/
theorem toNat_foldl_step {c₀ c₁ c₂ c₃ c₄ c₅ : Nat} (h₀ : c₀ < 32) (h₁ : c₁ < 32) (h₂ : c₂ < 32) (h₃ : c₃ < 32)
    (h₄ : c₄ < 32) (h₅ : c₅ < 32) :
    (([c₀, c₁, c₂, c₃, c₄, c₅].map (BitVec.ofNat 30)).foldl step 0#30).toNat =
      32 * (32 * (32 * (32 * (32 * c₀ + c₁) + c₂) + c₃) + c₄) + c₅ := by
  have hnext : ∀ {r : BitVec 30} {n c : Nat}, r.toNat = n → n < 2 ^ 25 → c < 32 →
      (step r (BitVec.ofNat 30 c)).toNat = 32 * n + c := by
    intro r n c hr hn hc
    have hsymbol := toNat_ofNat_symbol hc
    rw [toNat_step (by omega) (by omega), hr, hsymbol]
  have e₀ := hnext (r := 0#30) (n := 0) rfl (by decide) h₀
  have e₁ := hnext e₀ (by omega) h₁
  have e₂ := hnext e₁ (by omega) h₂
  have e₃ := hnext e₂ (by omega) h₃
  have e₄ := hnext e₃ (by omega) h₄
  have e₅ := hnext e₄ (by omega) h₅
  simpa using e₅

theorem lt_of_mem_symbols {r : BitVec 30} {v : Nat} (h : v ∈ symbols r) : v < 32 := by
  simp only [symbols, List.mem_map] at h
  obtain ⟨i, -, rfl⟩ := h
  exact Nat.mod_lt _ (by decide)

/-- The symbols of a remainder, shifted in, are the remainder. -/
theorem foldl_step_symbols (r : BitVec 30) : ((symbols r).map (BitVec.ofNat 30)).foldl step 0#30 = r := by
  have hr := r.isLt
  have hlt : ∀ i : Nat, (r >>> i).toNat % 32 < 32 := fun i => Nat.mod_lt _ (by decide)
  apply BitVec.eq_of_toNat_eq
  refine (toNat_foldl_step (hlt 25) (hlt 20) (hlt 15) (hlt 10) (hlt 5) (hlt 0)).trans ?_
  simp only [BitVec.toNat_ushiftRight, Nat.shiftRight_eq_div_pow]
  omega

theorem symbols_foldl_step {c : List Nat} (hlen : c.length = 6) (hc : ∀ v ∈ c, v < 32) :
    symbols ((c.map (BitVec.ofNat 30)).foldl step 0#30) = c := by
  match c, hlen with
  | [c₀, c₁, c₂, c₃, c₄, c₅], _ =>
    simp only [List.mem_cons, List.not_mem_nil, or_false, forall_eq_or_imp, forall_eq] at hc
    obtain ⟨h₀, h₁, h₂, h₃, h₄, h₅⟩ := hc
    have hvalue := toNat_foldl_step h₀ h₁ h₂ h₃ h₄ h₅
    simp only [symbols, List.map_cons, List.map_nil, BitVec.toNat_ushiftRight, Nat.shiftRight_eq_div_pow] at hvalue ⊢
    rw [hvalue]
    simp only [List.cons.injEq, and_true]
    omega

/-! ## The checksum -/

/-- Of all lists of six symbols behind some values, one alone takes the remainder to the constant. -/
theorem polymod_append_eq_iff {values : List (BitVec 30)} {c : List Nat} (hlen : c.length = 6)
    (hc : ∀ v ∈ c, v < 32) (const : BitVec 30) :
    polymod (values ++ c.map (BitVec.ofNat 30)) = const ↔
      c = symbols (polymod (values ++ List.replicate 6 0) ^^^ const) := by
  -- Both texts end in six symbols, so what comes before them gives the same part `a` to both remainders.
  obtain ⟨a, ha⟩ : ∃ a, ∀ vs : List (BitVec 30), vs.length = 6 → polymod (values ++ vs) = a ^^^ vs.foldl step 0#30 := by
    refine ⟨shift^[6] (values.foldl step 1), ?_⟩
    intro vs hvs
    unfold polymod
    rw [List.foldl_append, foldl_step, hvs]
  have hzeros : polymod (values ++ List.replicate 6 0) = a := by
    rw [ha _ List.length_replicate]
    change a ^^^ (List.replicate 6 0#30).foldl step 0#30 = a
    rw [foldl_step_zeros, BitVec.xor_zero]
  rw [ha _ (by simpa using hlen), hzeros]
  constructor
  · intro h
    rw [← h, ← BitVec.xor_assoc, BitVec.xor_self, BitVec.zero_xor, symbols_foldl_step hlen hc]
  · intro h
    rw [h, foldl_step_symbols, ← BitVec.xor_assoc, BitVec.xor_self, BitVec.zero_xor]

theorem length_checksum (hrp : List Char) (data : List (BitVec 30)) (const : BitVec 30) :
    (checksum hrp data const).length = 6 := by
  simp [checksum, symbols]

/-- The remainder of a text with its checksum is the constant. -/
theorem polymod_checksum (hrp : List Char) (data : List (BitVec 30)) (const : BitVec 30) :
    polymod (expand hrp ++ data ++ (checksum hrp data const).map (BitVec.ofNat 30)) = const :=
  (polymod_append_eq_iff (length_checksum hrp data const) (fun _ => lt_of_mem_symbols) const).mpr rfl

/-- **The checksum completes a prefix and its symbols, and nothing else does**: of all lists of six symbols it is the
one behind which the remainder is the constant. -/
theorem completes_iff_checksum (hrp : List Char) (data : List Nat) (const : BitVec 30) (c : List Nat) :
    (c.length = 6 ∧ ∀ v ∈ c, v < 32) ∧
        polymod (expand hrp ++ data.map (BitVec.ofNat 30) ++ c.map (BitVec.ofNat 30)) = const ↔
      c = checksum hrp (data.map (BitVec.ofNat 30)) const := by
  constructor
  · rintro ⟨⟨hlen, hc⟩, hconst⟩
    exact (polymod_append_eq_iff hlen hc const).mp hconst
  · rintro rfl
    exact ⟨⟨length_checksum hrp _ const, fun v => lt_of_mem_symbols⟩, polymod_checksum hrp _ const⟩

/-! ## One wrong symbol -/

/-- Shifting loses nothing: the low bits tell which generators were added, and without them it only moves up. -/
theorem eq_zero_of_shift {r : BitVec 30} (h : shift r = 0#30) : r = 0#30 := by
  have hr := r.isLt
  have hsplit : reduce (r >>> 25) 0 generator 0#30 ^^^ (r &&& 0x1FFFFFF) <<< 5 = 0#30 := by
    have hx := reduce_xor (r >>> 25) 0#30 0 generator 0#30 ((r &&& 0x1FFFFFF) <<< 5)
    rw [BitVec.xor_zero, BitVec.zero_xor, reduce_none] at hx
    rw [← hx, ← h, shift, step, BitVec.xor_zero]
  have htop : (r >>> 25).toNat = 0 := by
    have hlow := congrArg (fun x => x.toNat % 2 ^ 5) hsplit
    simp only [BitVec.toNat_xor, Nat.xor_mod_two_pow] at hlow
    have hmoved : ((r &&& 0x1FFFFFF) <<< 5).toNat % 2 ^ 5 = 0 := by
      rw [BitVec.toNat_shiftLeft, Nat.shiftLeft_eq]
      omega
    rw [hmoved, Nat.xor_zero] at hlow
    have hbound : (r >>> 25).toNat < 32 := by
      rw [BitVec.toNat_ushiftRight, Nat.shiftRight_eq_div_pow]
      omega
    have hall : ∀ b < 32, (reduce (BitVec.ofNat 30 b) 0 generator 0#30).toNat % 2 ^ 5 = 0 → b = 0 := by decide
    have hb := hall _ hbound
    rw [BitVec.ofNat_toNat, BitVec.setWidth_eq] at hb
    exact hb hlow
  have hsmall : r.toNat < 2 ^ 25 := by
    rw [BitVec.toNat_ushiftRight, Nat.shiftRight_eq_div_pow] at htop
    omega
  have hmul : (shift r).toNat = 32 * r.toNat := toNat_step hsmall (by decide)
  apply BitVec.eq_of_toNat_eq
  rw [h, BitVec.toNat_ofNat] at hmul
  rw [BitVec.toNat_ofNat]
  omega

theorem shift_injective : Function.Injective shift := by
  intro a b h
  have hzero : shift (a ^^^ b) = 0#30 := by rw [shift_xor, h, BitVec.xor_self]
  exact BitVec.xor_eq_zero_iff.mp (eq_zero_of_shift hzero)

/-- The difference of the two constants. -/
def difference : BitVec 30 := plainConst ^^^ modifiedConst

/-- Where `k` shifts lead, unless a single symbol is met.  The number is taken apart so that it is evaluated at once. -/
def walk : Nat → Nat → Option Nat
  | 0, n => some n
  | k + 1, n => match (shift (BitVec.ofNat 30 n)).toNat with
    | 0 => none
    | m + 1 => if m < 31 then none else walk k (m + 1)

theorem of_walk {k : Nat} {r : BitVec 30} {n : Nat} (h : walk k r.toNat = some n) :
    (shift^[k] r).toNat = n ∧ ∀ j, 0 < j → j ≤ k → 32 ≤ (shift^[j] r).toNat := by
  induction k generalizing r with
  | zero => exact ⟨Option.some.inj h, fun j h0 hj => absurd h0 (by omega)⟩
  | succ k ih =>
    rw [walk, BitVec.ofNat_toNat, BitVec.setWidth_eq] at h
    cases hs : (shift r).toNat with
    | zero => rw [hs] at h; cases h
    | succ m =>
      rw [hs] at h
      by_cases hm : m < 31
      · simp [hm] at h
      · simp only [hm, if_false] at h
        rw [← hs] at h
        obtain ⟨hend, hway⟩ := ih h
        refine ⟨hend, ?_⟩
        intro j h0 hj
        cases j with
        | zero => exact absurd h0 (by omega)
        | succ j =>
          by_cases hj0 : j = 0
          · subst hj0
            change 32 ≤ (shift r).toNat
            omega
          · exact hway j (by omega) (by omega)

theorem walk_difference : walk 1023 difference.toNat = some difference.toNat := by decide +kernel

/-- However often it is shifted, the difference of the constants is no single symbol. -/
theorem le_iterate_shift_difference (j : Nat) : 32 ≤ (shift^[j] difference).toNat := by
  obtain ⟨hend, hway⟩ := of_walk walk_difference
  have hperiod : Function.IsPeriodicPt shift 1023 difference := BitVec.eq_of_toNat_eq hend
  rw [← hperiod.iterate_mod_apply j]
  have hlt : j % 1023 < 1023 := Nat.mod_lt _ (by decide)
  by_cases h0 : j % 1023 = 0
  · rw [h0]
    decide
  · exact hway _ (by omega) (by omega)

/-- A symbol that is moved on is neither nothing nor the difference of the constants. -/
theorem iterate_shift_symbol {e : BitVec 30} (h0 : e ≠ 0#30) (he : e.toNat < 32) (k : Nat) :
    shift^[k] e ≠ 0#30 ∧ shift^[k] e ≠ difference := by
  have hinj : Function.Injective shift^[k] := shift_injective.iterate k
  constructor
  · intro h
    have hzero : shift^[k] 0#30 = 0#30 := Function.iterate_fixed shift_zero k
    exact h0 (hinj (h.trans hzero.symm))
  · -- Going round the whole circle often enough, the difference comes to where `e` is.
    intro h
    have hperiod : Function.IsPeriodicPt shift 1023 difference := BitVec.eq_of_toNat_eq (of_walk walk_difference).1
    have hround : shift^[k] (shift^[1023 * k - k] difference) = difference := by
      rw [← Function.iterate_add_apply, show k + (1023 * k - k) = 1023 * k by omega]
      exact hperiod.mul_const k
    have heq : e = shift^[1023 * k - k] difference := hinj (h.trans hround.symm)
    have hle := le_iterate_shift_difference (1023 * k - k)
    rw [← heq] at hle
    omega

/-- **One wrong symbol is noticed**, whatever is before it and however much follows: the remainders are neither equal
nor the two constants. -/
theorem polymod_ne_of_one_symbol {v v' : BitVec 30} (hne : v ≠ v') (hv : v.toNat < 32) (hv' : v'.toNat < 32)
    (u w : List (BitVec 30)) :
    polymod (u ++ v :: w) ^^^ polymod (u ++ v' :: w) ≠ 0#30 ∧
      polymod (u ++ v :: w) ^^^ polymod (u ++ v' :: w) ≠ difference := by
  have heq : polymod (u ++ v :: w) ^^^ polymod (u ++ v' :: w) = shift^[w.length] (v ^^^ v') := by
    unfold polymod
    have hsum : step (u.foldl step 1) v = (v ^^^ v') ^^^ step (u.foldl step 1) v' := by
      have h := step_xor 0#30 (u.foldl step 1) (v ^^^ v') v'
      rwa [BitVec.zero_xor, BitVec.xor_assoc, BitVec.xor_self, BitVec.xor_zero, step_zero] at h
    rw [List.foldl_append, List.foldl_append, List.foldl_cons, List.foldl_cons, hsum, foldl_step_xor,
      BitVec.xor_assoc, BitVec.xor_self, BitVec.xor_zero]
  rw [heq]
  apply iterate_shift_symbol
  · intro h
    exact hne (BitVec.xor_eq_zero_iff.mp h)
  · rw [BitVec.toNat_xor]
    exact Nat.xor_lt_two_pow (show v.toNat < 2 ^ 5 from hv) hv'

theorem eq_of_known {v v' : BitVec 30} (hv : v.toNat < 32) (hv' : v'.toNat < 32) {u w : List (BitVec 30)}
    (h : polymod (u ++ v :: w) = plainConst ∨ polymod (u ++ v :: w) = modifiedConst)
    (h' : polymod (u ++ v' :: w) = plainConst ∨ polymod (u ++ v' :: w) = modifiedConst) : v = v' := by
  by_contra hne
  obtain ⟨hsame, hdiff⟩ := polymod_ne_of_one_symbol hne hv hv' u w
  rcases h with h | h <;> rcases h' with h' | h' <;> rw [h, h'] at hsame hdiff
  · exact hsame BitVec.xor_self
  · exact hdiff rfl
  · exact hdiff (BitVec.xor_comm _ _)
  · exact hsame BitVec.xor_self

end CellPurse.Bech32
