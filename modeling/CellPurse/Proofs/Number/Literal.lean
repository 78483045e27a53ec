import CellPurse.Number.Literal

/-!
# CellPurse.Proofs.Number.Literal — integers written and read again

* `Literal.parse_of_isDigit`: a sign and ASCII digits are read as the number that they spell, up to the limit;
* `Literal.parse_decimal`: the decimal text of an integer, where it has one, is read as this integer.
-/

namespace CellPurse.Literal

open Text

/-! ## Digits -/

theorem facts_of_char : ∀ n < 10, Digit.plain (Digit.char n) = Digit.char n ∧ isBlank (Digit.char n) = false ∧
    Digit.char n ≠ '_' ∧ Digit.char n ≠ '-' ∧ Digit.char n ≠ '+' ∧
    digit? 10 (Digit.char n) = some ((Digit.char n).toNat - '0'.toNat) := by decide

theorem exists_char_of_isDigit {c : Char} (h : c.isDigit) : ∃ n < 10, c = Digit.char n := by
  have hzero : '0'.toNat = 48 := rfl
  have hnine : '9'.toNat = 57 := rfl
  obtain ⟨hlow, hhigh⟩ := Char.isDigit_iff_toNat.mp h
  have hcode : '0'.toNat + (c.toNat - '0'.toNat) = c.toNat := by omega
  refine ⟨c.toNat - '0'.toNat, by omega, ?_⟩
  unfold Digit.char
  rw [if_pos (by omega), hcode, Char.ofNat_toNat]

theorem facts_of_isDigit {c : Char} (h : c.isDigit) : Digit.plain c = c ∧ isBlank c = false ∧
    c ≠ '_' ∧ c ≠ '-' ∧ c ≠ '+' ∧ digit? 10 c = some (c.toNat - '0'.toNat) := by
  obtain ⟨n, hn, rfl⟩ := exists_char_of_isDigit h
  exact facts_of_char n hn

theorem digits_cons {c : Char} (h : c.isDigit) (afterDigit : Bool) (v n : Nat) (r : List Char) :
    digits 10 afterDigit v n (c :: r) = digits 10 true (10 * v + (c.toNat - '0'.toNat)) (n + 1) r := by
  obtain ⟨-, -, hscore, -, -, hvalue⟩ := facts_of_isDigit h
  rw [digits, if_neg hscore, hvalue]

theorem digits_true {ds : List Char} (hds : ∀ c ∈ ds, c.isDigit) (v n : Nat) :
    digits 10 true v n ds = some (Nat.ofDigitChars 10 ds v, n + ds.length, []) := by
  induction ds generalizing v n with
  | nil => rw [Nat.ofDigitChars_nil]; rfl
  | cons c r ih =>
    rw [digits_cons (hds c List.mem_cons_self), ih fun d hd => hds d (List.mem_cons_of_mem _ hd),
      Nat.ofDigitChars_cons, List.length_cons, Nat.add_right_comm n 1, Nat.add_assoc]

variable {ds : List Char}

theorem digits_false (hds : ∀ c ∈ ds, c.isDigit) (hne : ds ≠ []) :
    digits 10 false 0 0 ds = some (Nat.ofDigitChars 10 ds 0, ds.length, []) := by
  obtain ⟨c, r, rfl⟩ := List.exists_cons_of_ne_nil hne
  rw [← Nat.zero_add (c :: r).length, ← digits_true hds, digits_cons (hds c List.mem_cons_self),
    digits_cons (hds c List.mem_cons_self)]

theorem unmark_ten (cs : List Char) : unmark 10 cs = cs := by
  unfold unmark
  split
  · exact if_neg fun h => absurd h.1 (by decide)
  · rfl

/-! ## A sign and digits -/

/-- The sign in front of digits. -/
def front (negative : Bool) : List Char := if negative then ['-'] else []

theorem plain_front (negative : Bool) (hds : ∀ c ∈ ds, c.isDigit) (hne : ds ≠ []) :
    ((front negative ++ ds).map Digit.plain).dropWhile isBlank = front negative ++ ds := by
  have hplain : (front negative ++ ds).map Digit.plain = front negative ++ ds := by
    rw [List.map_append, List.map_congr_left fun c hc => (facts_of_isDigit (hds c hc)).1, List.map_id']
    cases negative <;> rfl
  rw [hplain]
  cases negative with
  | true => rfl
  | false =>
    obtain ⟨c, r, rfl⟩ := List.exists_cons_of_ne_nil hne
    exact List.dropWhile_cons_of_neg (Bool.not_eq_true _ ▸ (facts_of_isDigit (hds c List.mem_cons_self)).2.1)

theorem sign_front (negative : Bool) (hds : ∀ c ∈ ds, c.isDigit) : sign (front negative ++ ds) = (negative, ds) := by
  cases negative with
  | true => rfl
  | false =>
    show sign ds = (false, ds)
    unfold sign
    split
    · exact absurd rfl (facts_of_isDigit (hds _ List.mem_cons_self)).2.2.2.1
    · exact absurd rfl (facts_of_isDigit (hds _ List.mem_cons_self)).2.2.2.2.1
    · rfl

/-- A sign and digits are read as the number that they spell, up to the limit of digits. -/
theorem parse_of_isDigit (negative : Bool) (hds : ∀ c ∈ ds, c.isDigit) (hne : ds ≠ []) :
    parse 10 (String.ofList (front negative ++ ds)) = if digitLimit < ds.length then .error (.tooLong ds.length)
      else .ok (if negative then -(Nat.ofDigitChars 10 ds 0 : Int) else Nat.ofDigitChars 10 ds 0) := by
  unfold parse
  rw [String.toList_ofList, plain_front negative hds hne, sign_front negative hds]
  simp only [unmark_ten, digits_false hds hne, true_and, List.all_nil, if_true]

/-! ## Integers -/

theorem toString_eq (n : Int) :
    toString n = String.ofList (front (decide (n < 0)) ++ Nat.toDigits 10 n.natAbs) := by
  rw [Int.toString_eq_repr, Int.repr_eq_if]
  by_cases hn : n < 0
  · rw [if_neg (Int.not_le.mpr hn), decide_eq_true hn, String.ofList_append, ← Nat.repr_eq_ofList_toDigits,
      show (-n).toNat = n.natAbs by omega]
    rfl
  · rw [if_pos (Int.not_lt.mp hn), decide_eq_false hn, String.ofList_append, ← Nat.repr_eq_ofList_toDigits,
      show n.toNat = n.natAbs by omega]
    exact (String.empty_append).symm

/-- The digits of a number are written up to the limit. -/
theorem decimal_natCast (n : Nat) :
    decimal n = if n < 10 ^ digitLimit then .ok (toString (n : Int)) else .error .unwritten := by
  unfold decimal isOverlong
  rw [Int.natAbs_natCast]
  by_cases h : n < 10 ^ digitLimit
  · rw [if_pos h, decide_eq_false (Nat.not_le_of_lt h)]
    rfl
  · rw [if_neg h, decide_eq_true (Nat.le_of_not_lt h)]
    rfl

/-- Numbers of up to twenty digits have few enough. -/
theorem lt_limit {n : Nat} (h : n < 10 ^ 20) : n < 10 ^ digitLimit :=
  Nat.lt_of_lt_of_le h (Nat.pow_le_pow_right (by decide) (by decide))

theorem eq_toString_of_decimal {n : Int} {s : String} (h : decimal n = .ok s) : s = toString n := by
  unfold decimal at h
  split at h
  · cases h
  · exact (Except.ok.inj h).symm

/-- The text of an integer is read as this integer, up to the limit of digits. -/
theorem parse_toString (n : Int) :
    parse 10 (toString n) = if digitLimit < (Nat.toDigits 10 n.natAbs).length
      then .error (.tooLong (Nat.toDigits 10 n.natAbs).length) else .ok n := by
  have hvalue : (if decide (n < 0) then -(n.natAbs : Int) else n.natAbs) = n := by
    simp only [decide_eq_true_eq]
    omega
  rw [toString_eq, parse_of_isDigit _ (fun c hc => Nat.isDigit_of_mem_toDigits (by decide) (by decide) hc)
    Nat.toDigits_ne_nil, Nat.ofDigitChars_ten_toDigits, hvalue]

theorem eq_of_parse_toString {n k : Int} (h : parse 10 (toString n) = .ok k) : n = k := by
  rw [parse_toString] at h
  split at h
  · cases h
  · exact Except.ok.inj h

/-- The decimal text of an integer is read as this integer. -/
theorem parse_decimal {n : Int} {s : String} (h : decimal n = .ok s) : parse 10 s = .ok n := by
  obtain rfl := eq_toString_of_decimal h
  have hlimit : (Nat.toDigits 10 n.natAbs).length ≤ digitLimit := by
    refine (Nat.length_toDigits_le_iff (by decide) (by decide)).mpr ?_
    unfold decimal at h
    split at h
    · cases h
    next hwritten => exact Nat.not_le.mp fun hle => hwritten (decide_eq_true hle)
  rw [parse_toString, if_neg (Nat.not_lt.mpr hlimit)]

end CellPurse.Literal
