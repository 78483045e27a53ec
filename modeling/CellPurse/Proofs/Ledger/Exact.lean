import CellPurse.Proofs.Ledger.Amount
import CellPurse.Proofs.Number.Literal
import CellPurse.Proofs.Number.Numeral

/-!
# CellPurse.Proofs.Ledger.Exact — amounts are read exactly

A text is multiplied with a coin at 28 digits and cut to a whole number.  What is accepted has at most eight decimals
and at most twenty digits, so that nothing is rounded and nothing is cut off; what has more is above the limit before
and after it is rounded.

* `Amount.wholeProduct?_coin`: the shannons of a product are those of the number of coins, up to the limit;
* `Amount.parse_eq_ok_iff`, `Amount.parse_eq_ok_iff_denotes`: the texts that are accepted, by what they denote;
* `Amount.decimals_spec`: the decimals that are written for an amount below one coin;
* `Amount.parse_exact`: no text is read as anything but what it denotes, and every amount is read from its own text.
-/

namespace CellPurse.Amount

open Decimal Numeral Text

/-! ## Products -/

section Products

variable {n c : Nat} {e : Int}

theorem coin_eq : coin = 10 ^ maxDecimals := by decide

theorem limit_lt_of_digitCount (h : 20 < digitCount n) : limit < n := by
  have hn : 0 < n := by
    by_contra hzero
    obtain rfl : n = 0 := by omega
    have hone : digitCount 0 = 1 := rfl
    omega
  have hlow : 10 ^ 20 ≤ n := (lt_digitCount_iff hn).mp h
  have hlimit : limit < 10 ^ 20 := by decide
  omega

/-- The digits before the point are not cut off. -/
theorem lt_digitCount_div (hn : 0 < n) {k : Nat} (h : 20 + k < digitCount n) : 20 < digitCount (n / 10 ^ k) := by
  have hpos : 0 < 10 ^ k := Nat.pow_pos (by decide)
  have hlow : 10 ^ (20 + k) ≤ n := (lt_digitCount_iff hn).mp h
  have hdiv : 10 ^ 20 ≤ n / 10 ^ k := by
    rwa [Nat.le_div_iff_mul_le hpos, ← Nat.pow_add]
  exact (lt_digitCount_iff (lt_of_lt_of_le (by decide) hdiv)).mpr hdiv

/-- More than twenty digits before the point are above the limit. -/
theorem whole?_eq_none (hn : 0 < n) (h : 20 < reach n e) : whole? n e = none := by
  have hdigits := digitCount_pos n
  unfold reach at h
  unfold whole?
  rw [if_neg hn.ne']
  refine if_neg (Nat.not_le.mpr (limit_lt_of_digitCount ?_))
  split_ifs with he
  · rw [digitCount_mul_pow hn]
    omega
  · exact lt_digitCount_div hn (by omega)

/-- Nothing is cut off from a product with a coin. -/
theorem whole?_eq (hn : n = c * 10 ^ maxDecimals) (he : -(maxDecimals : Int) ≤ e)
    (h : c = 0 ∨ digitCount (shannons c e) ≤ 20) :
    whole? n e = if shannons c e ≤ limit then some (shannons c e) else none := by
  have hpart : (if 0 ≤ e then if n = 0 then 0 else n * 10 ^ min e.toNat 20 else n / 10 ^ (-e).toNat) =
      shannons c e := by
    split_ifs with hwhole hzero
    · rw [hzero] at hn
      have hc : c = 0 := (Nat.mul_eq_zero.mp hn.symm).resolve_right (by decide)
      simp [shannons, hc]
    · have hc : 0 < c := by
        rw [Nat.pos_iff_ne_zero]
        rintro rfl
        exact hzero (by simp [hn])
      have hshort : digitCount (shannons c e) ≤ 20 := h.resolve_left hc.ne'
      rw [shannons, digitCount_mul_pow hc] at hshort
      have hmin : min e.toNat 20 = e.toNat := by omega
      have hplaces : (e + maxDecimals).toNat = maxDecimals + e.toNat := by omega
      rw [hmin, hn, shannons, hplaces, Nat.pow_add, Nat.mul_assoc]
    · have hplaces : maxDecimals = (e + maxDecimals).toNat + (-e).toNat := by omega
      have hpos : 0 < 10 ^ (-e).toNat := Nat.pow_pos (by decide)
      have hsplit : n = c * 10 ^ (e + maxDecimals).toNat * 10 ^ (-e).toNat := by
        rw [hn, Nat.mul_assoc, ← Nat.pow_add, ← hplaces]
      rw [hsplit, Nat.mul_div_cancel _ hpos, shannons]
  unfold whole?
  rw [hpart]

/-- What has few digits is neither rounded nor too large. -/
theorem times?_of_short {factor : Nat} (hdigits : digitCount (c * factor) ≤ precision)
    (hreach : reach (c * factor) e ≤ greatestPlace) : times? c e factor = some (c * factor, e) := by
  unfold reach at hreach
  unfold times? Decimal.round
  generalize c * factor = n at *
  dsimp only
  rw [if_pos hdigits]
  dsimp only
  exact if_neg fun h => by omega

/-- The whole part of a rounded product. -/
def wholeProduct? (c : Nat) (e : Int) (factor : Nat) : Option Nat := (times? c e factor).bind fun p => whole? p.1 p.2

/-- What has more than twenty digits before the point is above the limit before and after it is rounded. -/
theorem wholeProduct?_eq_none {factor : Nat} (hpos : 0 < c * factor) (h : 20 < reach (c * factor) e) :
    wholeProduct? c e factor = none := by
  obtain ⟨hne, hround⟩ := reach_round hpos e
  unfold wholeProduct? times?
  generalize Decimal.round (c * factor) e = rounded at hne hround ⊢
  have hfar : 20 < reach rounded.1 rounded.2 := by
    rw [hround]
    split_ifs <;> omega
  dsimp only
  split_ifs
  · rfl
  · rw [Option.bind_some, whole?_eq_none (Nat.pos_of_ne_zero hne) hfar]

/-- **A product with a coin is exact**, up to the limit. -/
theorem wholeProduct?_coin (he : -(maxDecimals : Int) ≤ e) :
    wholeProduct? c e coin = if shannons c e ≤ limit then some (shannons c e) else none := by
  have hcoin : c * coin = c * 10 ^ maxDecimals := by rw [coin_eq]
  rcases Nat.eq_zero_or_pos c with rfl | hc
  · have hzero : times? 0 e coin = some (0 * coin, e) := by
      unfold times?
      rw [Nat.zero_mul]
      rfl
    rw [wholeProduct?, hzero, Option.bind_some]
    exact whole?_eq hcoin he (.inl rfl)
  · have hreach := reach_coin hc he
    by_cases hshort : digitCount (shannons c e) ≤ 20
    · have htimes : times? c e coin = some (c * coin, e) := by
        refine times?_of_short ?_ ?_
        · unfold reach at hreach
          simp only [maxDecimals] at he
          simp only [precision]
          omega
        · simp only [greatestPlace]
          omega
      rw [wholeProduct?, htimes, Option.bind_some]
      exact whole?_eq hcoin he (.inr hshort)
    · have hpos : 0 < c * coin := Nat.mul_pos hc (by decide)
      rw [if_neg (Nat.not_le.mpr (limit_lt_of_digitCount (Nat.not_le.mp hshort))), wholeProduct?_eq_none hpos]
      omega

end Products

/-! ## Texts -/

section Texts

variable {text : String} {n : Nat} {w : Numeral}

/-- A number is accepted if it is not negative, has at most eight decimals and is not above the limit. -/
theorem parse_of_finite {negative : Bool} {c : Nat} {e : Int}
    (h : Decimal.parse? (Blank.trim text) = some (.finite negative c e)) : parse text = .ok n ↔
      (negative = true → c = 0) ∧ -(maxDecimals : Int) ≤ e ∧ wholeProduct? c e coin = some n := by
  unfold parse wholeProduct?
  dsimp only
  rw [h]
  dsimp only
  by_cases hsign : negative = true ∧ c ≠ 0
  · rw [if_pos hsign]
    refine iff_of_false nofun fun hzero => hsign.2 (hzero.1 hsign.1)
  · rw [if_neg hsign]
    by_cases hplaces : e < -(maxDecimals : Int)
    · rw [if_pos hplaces]
      exact iff_of_false nofun fun he => by omega
    · have hzero : negative = true → c = 0 := fun hnegative => by_contra fun hc => hsign ⟨hnegative, hc⟩
      have he : -(maxDecimals : Int) ≤ e := Int.not_lt.mp hplaces
      rw [if_neg hplaces]
      rw [and_iff_right hzero, and_iff_right he]
      cases htimes : times? c e coin with
      | none => simp
      | some p => cases hwhole : whole? p.1 p.2 <;> simp [hwhole]

/-- The texts that are accepted, by the decimal that is read. -/
theorem parse_eq_ok_iff : parse text = .ok n ↔ n ≤ limit ∧ ∃ negative c e,
    Decimal.parse? (Blank.trim text) = some (.finite negative c e) ∧ (negative = true → c = 0) ∧
      -(maxDecimals : Int) ≤ e ∧ n = shannons c e := by
  constructor
  · intro h
    cases hread : Decimal.parse? (Blank.trim text) with
    | none => simp [parse, hread] at h
    | some d =>
      cases d with
      | notNumber _ | infinite _ => simp [parse, hread] at h
      | finite negative c e =>
        obtain ⟨hsign, he, hproduct⟩ := (parse_of_finite hread).mp h
        rw [wholeProduct?_coin he] at hproduct
        split_ifs at hproduct with hle
        obtain rfl := Option.some.inj hproduct
        exact ⟨hle, negative, c, e, rfl, hsign, he, rfl⟩
  · rintro ⟨hle, negative, c, e, hread, hsign, he, rfl⟩
    refine (parse_of_finite hread).mpr ⟨hsign, he, ?_⟩
    rw [wholeProduct?_coin he, if_pos hle]

theorem denotes_trim : Denotes (Blank.trim text) w ↔ Denotes text w := by rw [Denotes, body_trim, Denotes]

/-- The shannons of a numeral are a coin times its value. -/
theorem shannons_eq_value (hlast : -(maxDecimals : Int) ≤ w.last) (hsign : w.negative = true → w.coefficient = 0) :
    (shannons w.coefficient w.last : ℚ) = coin * w.value := by
  have hplaces : ((w.last + maxDecimals).toNat : Int) = w.last + maxDecimals := Int.toNat_of_nonneg (by omega)
  have hpower : (10 : ℚ) ^ (w.last + maxDecimals).toNat = 10 ^ w.last * 10 ^ 8 := by
    rw [← zpow_natCast, hplaces, zpow_add₀ (by norm_num)]
    norm_cast
  have hcoin : (coin : ℚ) = 10 ^ 8 := by norm_num [coin]
  have hunsigned : (if w.negative = true then -1 else 1) * (w.coefficient : ℚ) = w.coefficient := by
    split_ifs with hnegative
    · simp [hsign hnegative]
    · ring
  rw [shannons, value_eq, hunsigned, hcoin]
  push_cast
  rw [hpower]
  ring

/-- The texts that are accepted, by what they denote. -/
theorem parse_eq_ok_iff_denotes : parse text = .ok n ↔ n ≤ limit ∧ ∃ w, Denotes text w ∧
    -(maxDecimals : Int) ≤ w.last ∧ w.last ≤ greatestExponent ∧ (n : ℚ) = coin * w.value := by
  rw [parse_eq_ok_iff, and_congr_right_iff]
  intro hle
  constructor
  · rintro ⟨negative, c, e, hread, hsign, he, rfl⟩
    obtain ⟨w, hw, hrange, rfl, rfl, rfl⟩ := parse?_eq_finite_iff.mp hread
    have hdigits := digitCount_pos w.coefficient
    have hhigh := hrange.2
    exact ⟨w, denotes_trim.mp hw, he, by omega, shannons_eq_value he hsign⟩
  · rintro ⟨w, hw, he, hlast, hvalue⟩
    have hsign : w.negative = true → w.coefficient = 0 := by
      intro hnegative
      by_contra hc
      have hcoefficient : 0 < (w.coefficient : ℚ) := by exact_mod_cast Nat.pos_of_ne_zero hc
      have hpos : 0 < (w.coefficient : ℚ) * 10 ^ w.last := mul_pos hcoefficient (zpow_pos (by norm_num) _)
      have hn : (0 : ℚ) ≤ n := Nat.cast_nonneg n
      have hcoin : (0 : ℚ) < coin := by norm_num [coin]
      rw [hvalue, value_eq, if_pos hnegative] at hn
      nlinarith
    have hn : n = shannons w.coefficient w.last := by
      have := shannons_eq_value he hsign
      rw [← hvalue] at this
      exact_mod_cast this.symm
    refine ⟨w.negative, w.coefficient, w.last, ?_, hsign, he, hn⟩
    refine parse?_eq_finite_iff.mpr ⟨w, denotes_trim.mpr hw, ⟨?_, ?_⟩, rfl, rfl, rfl⟩
    · simp only [maxDecimals] at he
      simp only [leastExponent]
      omega
    · rcases Nat.eq_zero_or_pos w.coefficient with hzero | hc
      · have hone : digitCount 0 = 1 := rfl
        rw [hzero, hone]
        omega
      · have hshort : digitCount (shannons w.coefficient w.last) ≤ 20 := by
          by_contra hlong
          have := limit_lt_of_digitCount (Nat.not_le.mp hlong)
          omega
        have hreach := reach_coin hc he
        rw [shannons, digitCount_mul_pow hc] at hshort
        simp only [greatestExponent]
        omega

end Texts

/-! ## Amounts as texts -/

section Written

variable {r n : Nat}

theorem body_of_plain {cs : List Char}
    (h : ∀ c ∈ cs, Blank.isBlank c = false ∧ c ≠ '_' ∧ Digit.plain c = c) : body (String.ofList cs) = cs := by
  have hblank : Blank.trimList Blank.isBlank cs = cs := by
    have hfront : cs.dropWhile Blank.isBlank = cs := by
      cases cs with
      | nil => rfl
      | cons c r => rw [List.dropWhile_cons_of_neg (by simp [(h c List.mem_cons_self).1])]
    have hback : cs.rdropWhile Blank.isBlank = cs :=
      List.rdropWhile_eq_self_iff.mpr fun hne => by simp [(h _ (List.getLast_mem hne)).1]
    rw [trimList_eq, hfront, hback]
  have hmarks : cs.filter (· ≠ '_') = cs := List.filter_eq_self.mpr fun c hc => by simp [(h c hc).2.1]
  rw [body, String.toList_ofList, hblank, hmarks, List.map_congr_left fun c hc => (h c hc).2.2, List.map_id']

theorem isAscii_eq (c : Char) : Digit.isAscii c = c.isDigit := rfl

theorem plain_of_isAscii {c : Char} (hdigit : Digit.isAscii c = true) :
    Blank.isBlank c = false ∧ c ≠ '_' ∧ Digit.plain c = c := by
  rw [isAscii_eq] at hdigit
  have hall : ∀ n < 10, Blank.isBlank (Digit.char n) = false := by decide
  obtain ⟨hplain, -, hscore, -⟩ := Literal.facts_of_isDigit hdigit
  obtain ⟨n, hn, rfl⟩ := Literal.exists_char_of_isDigit hdigit
  exact ⟨hall n hn, hscore, hplain⟩

theorem digits_toDigits (n : Nat) : Digits (Nat.toDigits 10 n) (values (Nat.toDigits 10 n)) := by
  refine ⟨fun c hc => ?_, rfl⟩
  rw [isAscii_eq]
  exact Nat.isDigit_of_mem_toDigits (by decide) (by decide) hc

theorem wholeValue_toDigits (n : Nat) : wholeValue (values (Nat.toDigits 10 n)) = n := by
  rw [← natOf_eq]
  exact Nat.ofDigitChars_ten_toDigits

/-- Zeros before a number are worth nothing. -/
theorem wholeValue_zeros (k : Nat) (ds : List Nat) : wholeValue (List.replicate k 0 ++ ds) = wholeValue ds := by
  induction k with
  | zero => rfl
  | succ k ih => rw [List.replicate_succ, List.cons_append, wholeValue, ih, Nat.zero_mul, Nat.zero_add]

/-- Zeros after a fraction are worth nothing. -/
theorem fractionValue_append_zeros (ds : List Nat) {zeros : List Nat} (h : ∀ d ∈ zeros, d = 0) :
    fractionValue (ds ++ zeros) = fractionValue ds := by
  induction ds with
  | nil =>
    induction zeros with
    | nil => rfl
    | cons d r ih =>
      have hrest : fractionValue r = 0 := ih fun d hd => h d (List.mem_cons_of_mem _ hd)
      have hzero : d = 0 := h d List.mem_cons_self
      simp [fractionValue, hrest, hzero]
  | cons d r ih => rw [List.cons_append, fractionValue, ih, fractionValue]

/-- An amount below one coin with zeros before it. -/
def padded (r : Nat) : List Char :=
  List.replicate (maxDecimals - (Nat.toDigits 10 r).length) '0' ++ Nat.toDigits 10 r

theorem digits_padded (r : Nat) : Digits (padded r) (values (padded r)) := by
  refine ⟨fun c hc => ?_, rfl⟩
  rcases List.mem_append.mp hc with hc | hc
  · rw [(List.mem_replicate.mp hc).2]
    rfl
  · exact (digits_toDigits r).1 c hc

theorem length_padded (hr : r < coin) : (padded r).length = maxDecimals := by
  have hlength : (Nat.toDigits 10 r).length ≤ maxDecimals := by
    rw [coin_eq] at hr
    exact (Nat.length_toDigits_le_iff (by decide) (by decide)).mpr hr
  rw [padded, List.length_append, List.length_replicate]
  omega

/-- With eight places the digits after the point are worth the amount. -/
theorem fractionValue_padded (hr : r < coin) : fractionValue (values (padded r)) = r / coin := by
  have hvalue : wholeValue (values (padded r)) = r := by
    rw [values, padded, List.map_append, List.map_replicate]
    exact (wholeValue_zeros _ _).trans (wholeValue_toDigits r)
  rw [fractionValue_eq, hvalue, values, List.length_map, length_padded hr, coin_eq]
  norm_cast

/-- Characters are what is left of them without the zeros at the end, and these zeros. -/
theorem exists_zeros_behind (cs : List Char) :
    ∃ zeros, cs = (cs.reverse.dropWhile (· = '0')).reverse ++ zeros ∧ ∀ c ∈ zeros, c = '0' := by
  refine ⟨(cs.reverse.takeWhile (· = '0')).reverse, ?_, fun c hc => ?_⟩
  · rw [← List.reverse_append, List.takeWhile_append_dropWhile, List.reverse_reverse]
  · simpa using List.mem_takeWhile_imp (List.mem_reverse.mp hc)

/-- The decimals that are written: at most eight digits, which are worth the amount. -/
theorem decimals_spec (hr : r < coin) : Digits (decimals r) (values (decimals r)) ∧ (decimals r).length ≤ maxDecimals ∧
    fractionValue (values (decimals r)) = r / coin := by
  have hdecimals : decimals r = if (((padded r).reverse.dropWhile (· = '0')).reverse).isEmpty then ['0']
      else ((padded r).reverse.dropWhile (· = '0')).reverse := rfl
  obtain ⟨zeros, hsplit, hzeros⟩ := exists_zeros_behind (padded r)
  rw [hdecimals]
  generalize ((padded r).reverse.dropWhile (· = '0')).reverse = kept at hsplit ⊢
  have hkept : fractionValue (values kept) = r / coin := by
    rw [← fractionValue_padded hr, hsplit, values, values, List.map_append]
    refine (fractionValue_append_zeros _ fun d hd => ?_).symm
    obtain ⟨c, hc, rfl⟩ := List.mem_map.mp hd
    rw [hzeros c hc, Nat.sub_self]
  split_ifs with hempty
  · refine ⟨digits_of_all rfl rfl, by decide, ?_⟩
    rw [← hkept, List.isEmpty_iff.mp hempty]
    simp [values, fractionValue]
  · refine ⟨⟨fun c hc => (digits_padded r).1 c ?_, rfl⟩, ?_, hkept⟩
    · rw [hsplit]
      exact List.mem_append_left _ hc
    · rw [← length_padded hr, hsplit, List.length_append]
      omega

/-- A number of coins as a numeral. -/
def numeral (n : Nat) : Numeral :=
  ⟨false, values (Nat.toDigits 10 (n / coin)), values (decimals (n % coin)), 0⟩

theorem coins_eq (n : Nat) :
    coins n = String.ofList (Nat.toDigits 10 (n / coin) ++ ('.' :: decimals (n % coin))) := by
  have hquotient : (n : Int) / coin = (n / coin : Nat) := rfl
  have hremainder : ((n : Int) % coin).toNat = n % coin := rfl
  have hpoint : "." = String.ofList ['.'] := rfl
  have hfront : Literal.front (decide (((n / coin : Nat) : Int) < 0)) = [] := by
    rw [decide_eq_false (Int.not_lt.mpr (Int.natCast_nonneg _))]
    rfl
  rw [coins, hquotient, hremainder, Literal.toString_eq, hfront, Int.natAbs_natCast, hpoint, ← String.ofList_append,
    ← String.ofList_append, List.nil_append, List.append_assoc]
  rfl

/-- An amount as a text denotes its number of coins. -/
theorem denotes_coins (n : Nat) : Denotes (coins n) (numeral n) := by
  have hr : n % coin < coin := Nat.mod_lt n (by decide)
  obtain ⟨hdecimals, -, -⟩ := decimals_spec hr
  have hwhole := digits_toDigits (n / coin)
  have hbody : body (coins n) = Nat.toDigits 10 (n / coin) ++ ('.' :: decimals (n % coin)) := by
    rw [coins_eq]
    refine body_of_plain fun c hc => ?_
    rw [List.mem_append, List.mem_cons] at hc
    rcases hc with hc | rfl | hc
    · exact plain_of_isAscii (hwhole.1 c hc)
    · decide
    · exact plain_of_isAscii (hdecimals.1 c hc)
  have hsome : values (Nat.toDigits 10 (n / coin)) ≠ [] := by
    rw [values, ne_eq, List.map_eq_nil_iff]
    exact Nat.toDigits_ne_nil
  have hspells := Spells.parts (w := numeral n) .none (.parts hwhole (.point hdecimals) .none (.inl hsome))
  rwa [List.nil_append, List.append_nil, ← hbody] at hspells

theorem numeral_value (n : Nat) : (n : ℚ) = coin * (numeral n).value := by
  have hr : n % coin < coin := Nat.mod_lt n (by decide)
  obtain ⟨-, -, hfraction⟩ := decimals_spec hr
  have hcoin : (coin : ℚ) ≠ 0 := by norm_num [coin]
  have hdivision : (n : ℚ) = coin * (n / coin : Nat) + (n % coin : Nat) := by
    exact_mod_cast (Nat.div_add_mod n coin).symm
  have hvalue : (numeral n).value = (n / coin : Nat) + (n % coin : Nat) / (coin : ℚ) := by
    rw [value, ← hfraction]
    simp [numeral, wholeValue_toDigits]
  rw [hvalue, mul_add, mul_div_cancel₀ _ hcoin]
  exact hdivision

/-- An amount is read from its text. -/
theorem parse_coins (hn : n ≤ limit) : parse (coins n) = .ok n := by
  obtain ⟨-, hlength, -⟩ := decimals_spec (Nat.mod_lt n (by decide : 0 < coin))
  have hlast : (numeral n).last = -((decimals (n % coin)).length : Int) := by
    simp [last, numeral, values]
  refine parse_eq_ok_iff_denotes.mpr ⟨hn, numeral n, denotes_coins n, ?_, ?_, numeral_value n⟩
  · rw [hlast]
    omega
  · rw [hlast, greatestExponent]
    omega

/-- **Amounts are read exactly.**  What is read from a text is below `2 ^ 64`, and is exactly `10 ^ 8` times the number
that the text denotes, however many digits, zeros or places it has; and every amount is read from its own text, without
the unit. -/
theorem parse_exact :
    (∀ s n, parse s = .ok n →
      n < 2 ^ 64 ∧ (∃ w, Denotes s w) ∧ ∀ w, Denotes s w → (n : ℚ) = 10 ^ 8 * w.value) ∧
    ∀ n < 2 ^ 64, ∃ t, text (n : Nat) = t ++ " (CKB)" ∧ parse t = .ok n := by
  have hlimit : ∀ n, n ≤ limit ↔ n < 2 ^ 64 := fun n => by
    rw [limit]
    omega
  have hcoin : (coin : ℚ) = 10 ^ 8 := by norm_num [coin]
  refine ⟨fun s n h => ?_, fun n hn => ⟨coins n, rfl, parse_coins ((hlimit n).mpr hn)⟩⟩
  obtain ⟨hle, negative, c, e, hread, hsign, he, rfl⟩ := parse_eq_ok_iff.mp h
  obtain ⟨w, hw, -⟩ := parse?_eq_finite_iff.mp hread
  refine ⟨(hlimit _).mp hle, ⟨w, denotes_trim.mp hw⟩, fun w' hw' => ?_⟩
  obtain ⟨-, rfl, rfl, rfl⟩ := eq_of_denotes hread (denotes_trim.mpr hw')
  rw [← hcoin]
  exact shannons_eq_value he hsign

theorem parse_exact_sample :
    parse " +1_20.50E-1 " = .ok 1205000000 ∧ Denotes " +1_20.50E-1 " ⟨false, [1, 2, 0], [5, 0], -1⟩ ∧
    ((1205000000 : Nat) : ℚ) = 10 ^ 8 * value ⟨false, [1, 2, 0], [5, 0], -1⟩ ∧
    ∃ t, text ((2 ^ 64 - 1 : Nat) : Int) = t ++ " (CKB)" ∧ parse t = .ok (2 ^ 64 - 1) := by
  have hread : parse " +1_20.50E-1 " = .ok 1205000000 := by decide +kernel
  have hbody : body " +1_20.50E-1 " = ['+'] ++ (['1', '2', '0'] ++ (['.', '5', '0'] ++ ['E', '-', '1'])) := by
    decide +kernel
  have hdenotes : Denotes " +1_20.50E-1 " ⟨false, [1, 2, 0], [5, 0], -1⟩ := by
    rw [Denotes, hbody]
    exact .parts .plus (.parts (digits_of_all rfl rfl) (.point (digits_of_all rfl rfl))
      (exponent?_eq_some_iff.mp rfl) (.inl (List.cons_ne_nil _ _)))
  exact ⟨hread, hdenotes, (parse_exact.1 _ _ hread).2.2 _ hdenotes, parse_exact.2 (2 ^ 64 - 1) (by decide)⟩

end Written

end CellPurse.Amount
