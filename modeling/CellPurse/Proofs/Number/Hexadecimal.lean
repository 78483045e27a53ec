import CellPurse.Proofs.Number.Literal

/-!
# CellPurse.Proofs.Number.Hexadecimal — quantities written and read again

A quantity is written in base sixteen after a sign and a mark.  There is no limit on its digits.

* `Literal.digits_toDigits`: the digits of a number are read as this number, whatever follows them;
* **`Literal.parse_hexText`**: the text of an integer is read as this integer.
-/

namespace CellPurse.Literal

open Text

/-- A digit of base sixteen is neither a sign, a blank nor an underscore, and has its value. -/
theorem facts_of_digitChar : ∀ d < 16, Digit.plain d.digitChar = d.digitChar ∧ d.digitChar ≠ '_' ∧
    digit? 16 d.digitChar = some d := by decide

theorem exists_digitChar_of_mem {n : Nat} {c : Char} (h : c ∈ Nat.toDigits 16 n) : ∃ d < 16, c = d.digitChar := by
  induction n using Nat.strongRecOn with
  | ind n ih =>
    rw [Nat.toDigits_eq_if (by decide)] at h
    split at h
    next hn => exact ⟨n, hn, List.mem_singleton.mp h⟩
    next hn =>
      rcases List.mem_append.mp h with h | h
      · exact ih (n / 16) (by omega) h
      · exact ⟨n % 16, Nat.mod_lt _ (by decide), List.mem_singleton.mp h⟩

/-- The digits of a number are read as this number; the induction takes off the last of them, so that the rest is
whatever follows. -/
theorem digits_toDigits (n : Nat) (rest : List Char) : digits 16 false 0 0 (Nat.toDigits 16 n ++ rest) =
    digits 16 true n (Nat.toDigits 16 n).length rest := by
  have hcons : ∀ {d : Nat} (_ : d < 16) (afterDigit : Bool) (v k : Nat) (r : List Char),
      digits 16 afterDigit v k (d.digitChar :: r) = digits 16 true (16 * v + d) (k + 1) r := by
    intro d hd afterDigit v k r
    obtain ⟨-, hscore, hvalue⟩ := facts_of_digitChar d hd
    rw [digits, if_neg hscore, hvalue]
  induction n using Nat.strongRecOn generalizing rest with
  | ind n ih =>
    rw [Nat.toDigits_eq_if (by decide)]
    split
    next hn =>
      rw [List.singleton_append, hcons hn, Nat.mul_zero, Nat.zero_add]
      rfl
    next hn =>
      rw [List.append_assoc, ih (n / 16) (by omega), List.singleton_append, hcons (Nat.mod_lt n (by decide)),
        Nat.div_add_mod, List.length_append]
      rfl

theorem unmark_mark (n : Nat) : unmark 16 ('0' :: 'x' :: Nat.toDigits 16 n) = Nat.toDigits 16 n := by
  have hscore : ∀ r, Nat.toDigits 16 n ≠ '_' :: r := by
    intro r h
    obtain ⟨d, hd, hc⟩ := exists_digitChar_of_mem (n := n) (c := '_') (by rw [h]; exact List.mem_cons_self)
    exact (facts_of_digitChar d hd).2.1 hc.symm
  rw [unmark, if_pos (by decide)]
  exact hscore

/-- The signed text of a number is read as this number with its sign. -/
theorem parse_marked (negative : Bool) (n : Nat) :
    parse 16 (String.ofList (front negative ++ '0' :: 'x' :: Nat.toDigits 16 n)) =
      .ok (if negative then -(n : Int) else n) := by
  have hdigits : (Nat.toDigits 16 n).map Digit.plain = Nat.toDigits 16 n := by
    refine (List.map_congr_left fun c hc => ?_).trans (List.map_id _)
    obtain ⟨d, hd, rfl⟩ := exists_digitChar_of_mem hc
    exact (facts_of_digitChar d hd).1
  have hplain : ((front negative ++ '0' :: 'x' :: Nat.toDigits 16 n).map Digit.plain).dropWhile isBlank =
      front negative ++ '0' :: 'x' :: Nat.toDigits 16 n := by
    have hzero : Digit.plain '0' = '0' := by decide
    have hx : Digit.plain 'x' = 'x' := by decide
    rw [List.map_append, List.map_cons, List.map_cons, hdigits, hzero, hx]
    cases negative <;> rfl
  have hsign : sign (front negative ++ '0' :: 'x' :: Nat.toDigits 16 n) =
      (negative, '0' :: 'x' :: Nat.toDigits 16 n) := by
    cases negative <;> rfl
  have hread := digits_toDigits n []
  rw [List.append_nil, digits, if_pos rfl] at hread
  have hbase : ¬ (16 = 10 ∧ digitLimit < (Nat.toDigits 16 n).length) := fun h => absurd h.1 (by decide)
  unfold parse
  rw [String.toList_ofList, hplain, hsign]
  simp only [unmark_mark, hread, if_neg hbase, List.all_nil, if_true]

/-- **A quantity is read back from its text.** -/
theorem parse_hexText (n : Int) : parse 16 (hexText n) = .ok n := by
  have hfront : (if n < 0 then ['-'] else []) = front (decide (n < 0)) := by
    unfold front
    simp only [decide_eq_true_eq]
  rw [hexText, hexDigits, hfront, parse_marked]
  simp only [decide_eq_true_eq]
  congr 1
  omega

end CellPurse.Literal
