import CellPurse.Number.Decimal
import Mathlib.Data.List.DropRight
import Mathlib.Data.List.TakeWhile
import Mathlib.Data.Rat.Defs
import Mathlib.Algebra.Order.Field.Rat
import Mathlib.Tactic.FieldSimp
import Mathlib.Tactic.Ring

/-!
# CellPurse.Proofs.Number.Numeral — what a decimal text denotes

A numeral is what stands in a decimal text: a sign, digits before and after a point, and an exponent.  Its value is that
of its digits, each at its place, so that nothing is said here of coefficients or of rounding.

* `Numeral.value`: the number that a numeral denotes; `Numeral.value_eq`: its digits as one number at the last place;
* `Numeral.Spells cs w`: the grammar of numerals; `Numeral.Denotes text w`: the same of a whole text, in which the blanks
  at the ends and all underscores do not count, and digits of every script do;
* `Decimal.parse?_eq_finite_iff`, `Decimal.eq_of_denotes`: a text is read as what it denotes.
-/

namespace CellPurse

open Text

/-- A number as it is written. -/
structure Numeral where
  negative : Bool
  whole : List Nat
  fraction : List Nat
  exponent : Int
  deriving DecidableEq, Repr

namespace Numeral

/-! ## Values -/

/-- What digits are worth before a point. -/
def wholeValue : List Nat → Nat
  | [] => 0
  | d :: r => d * 10 ^ r.length + wholeValue r

/-- What digits are worth after a point. -/
def fractionValue : List Nat → ℚ
  | [] => 0
  | d :: r => (d + fractionValue r) / 10

/-- The number that a numeral denotes. -/
def value (w : Numeral) : ℚ :=
  (if w.negative then -1 else 1) * (wholeValue w.whole + fractionValue w.fraction) * 10 ^ w.exponent

/-- The place of the last digit. -/
def last (w : Numeral) : Int := w.exponent - w.fraction.length

/-- The digits as one number. -/
def coefficient (w : Numeral) : Nat := wholeValue (w.whole ++ w.fraction)

theorem wholeValue_append (a b : List Nat) :
    wholeValue (a ++ b) = wholeValue a * 10 ^ b.length + wholeValue b := by
  induction a with
  | nil => simp [wholeValue]
  | cons d r ih =>
    rw [List.cons_append, wholeValue, wholeValue, ih, List.length_append, Nat.pow_add]
    ring

/-- Digits after a point are worth what they are worth as one number, at the place of the last of them. -/
theorem fractionValue_eq (ds : List Nat) : fractionValue ds = wholeValue ds / 10 ^ ds.length := by
  induction ds with
  | nil => simp [fractionValue, wholeValue]
  | cons d r ih =>
    have hten : (10 : ℚ) ^ r.length ≠ 0 := pow_ne_zero _ (by norm_num)
    rw [fractionValue, wholeValue, ih, List.length_cons, pow_succ]
    push_cast
    field_simp

theorem value_eq (w : Numeral) : w.value = (if w.negative then -1 else 1) * w.coefficient * 10 ^ w.last := by
  have hten : (10 : ℚ) ≠ 0 := by norm_num
  have hplace : (10 : ℚ) ^ w.fraction.length ≠ 0 := pow_ne_zero _ hten
  rw [value, coefficient, last, wholeValue_append, fractionValue_eq, zpow_sub₀ hten, zpow_natCast]
  push_cast
  field_simp

/-! ## Texts -/

/-- The values of digits. -/
def values (cs : List Char) : List Nat := cs.map fun c => c.toNat - '0'.toNat

/-- Digits with their values. -/
def Digits (cs : List Char) (ds : List Nat) : Prop := (∀ c ∈ cs, Digit.isAscii c = true) ∧ values cs = ds

/-- A sign, which may be missing. -/
inductive SignText : List Char → Bool → Prop where
  | none : SignText [] false
  | plus : SignText ['+'] false
  | minus : SignText ['-'] true

/-- A point and the digits after it, both of which may be missing. -/
inductive FractionText : List Char → List Nat → Prop where
  | none : FractionText [] []
  | point {cs : List Char} {ds : List Nat} (digits : Digits cs ds) : FractionText ('.' :: cs) ds

/-- An exponent behind its mark, which may be missing. -/
inductive ExponentText : List Char → Int → Prop where
  | none : ExponentText [] 0
  | mark {c : Char} {s cs : List Char} {negative : Bool} {ds : List Nat} (mark : c = 'e' ∨ c = 'E')
      (sign : SignText s negative) (digits : Digits cs ds) (some : ds ≠ []) :
      ExponentText (c :: (s ++ cs)) (if negative then -(wholeValue ds : Int) else wholeValue ds)

/-- The characters after the sign. -/
inductive Unsigned : List Char → Numeral → Prop where
  | parts {w : Numeral} {cs f x : List Char} (whole : Digits cs w.whole) (fraction : FractionText f w.fraction)
      (exponent : ExponentText x w.exponent) (some : w.whole ≠ [] ∨ w.fraction ≠ []) : Unsigned (cs ++ (f ++ x)) w

/-- The characters spell a numeral. -/
inductive Spells : List Char → Numeral → Prop where
  | parts {w : Numeral} {s r : List Char} (sign : SignText s w.negative) (rest : Unsigned r w) : Spells (s ++ r) w

/-- The characters of a text that count: no blanks at the ends, no underscores, and ASCII digits for those of any
script. -/
def body (text : String) : List Char :=
  ((Blank.trimList Blank.isBlank text.toList).filter (· ≠ '_')).map Digit.plain

theorem trimList_eq (p : Char → Bool) (cs : List Char) : Blank.trimList p cs = (cs.dropWhile p).rdropWhile p := rfl

/-- What is trimmed is not trimmed any further. -/
theorem trimList_trimList (p : Char → Bool) (cs : List Char) :
    Blank.trimList p (Blank.trimList p cs) = Blank.trimList p cs := by
  have hfront : ((cs.dropWhile p).rdropWhile p).dropWhile p = (cs.dropWhile p).rdropWhile p := by
    obtain ⟨t, ht⟩ := List.rdropWhile_prefix p (l := cs.dropWhile p)
    cases hkept : (cs.dropWhile p).rdropWhile p with
    | nil => rfl
    | cons c r =>
      rw [hkept, List.cons_append] at ht
      have hc : p c = false := by simpa [← ht] using List.head?_dropWhile_not p cs
      rw [List.dropWhile_cons_of_neg (by simp [hc])]
  rw [trimList_eq, trimList_eq, hfront, List.rdropWhile_idempotent]

/-- The blanks at the ends make no difference. -/
theorem body_trim (text : String) : body (Blank.trim text) = body text := by
  rw [body, Blank.trim, String.toList_ofList, trimList_trimList, body]

/-- The text denotes a numeral. -/
def Denotes (text : String) (w : Numeral) : Prop := Spells (body text) w

end Numeral

namespace Decimal

open Numeral

/-! ## Reading -/

variable {cs r : List Char} {ds : List Nat} {w : Numeral} {negative : Bool} {e : Int}

theorem natOf_eq (cs : List Char) : Digit.natOf cs = wholeValue (values cs) := by
  have hfold : ∀ n, cs.foldl (fun n d => 10 * n + (d.toNat - '0'.toNat)) n =
      n * 10 ^ cs.length + wholeValue (values cs) := by
    induction cs with
    | nil => simp [wholeValue, values]
    | cons c r ih =>
      intro n
      have hvalues : wholeValue (values (c :: r)) =
          (c.toNat - '0'.toNat) * 10 ^ r.length + wholeValue (values r) := by
        simp [values, wholeValue]
      rw [List.foldl_cons, ih, hvalues, List.length_cons, Nat.pow_succ]
      ring
  rw [Digit.natOf, hfold, Nat.zero_mul, Nat.zero_add]

theorem digits_of_all (h : cs.all Digit.isAscii = true) (hds : values cs = ds) : Digits cs ds :=
  ⟨List.all_eq_true.mp h, hds⟩

theorem natOf_of_digits (h : Digits cs ds) : Digit.natOf cs = wholeValue ds := by rw [natOf_eq, h.2]

/-- Digits are taken up to the first character that is none. -/
theorem takeWhile_digits (hcs : ∀ c ∈ cs, Digit.isAscii c = true) (hr : ∀ c ∈ r.head?, Digit.isAscii c = false) :
    (cs ++ r).takeWhile Digit.isAscii = cs ∧ (cs ++ r).dropWhile Digit.isAscii = r := by
  rw [List.takeWhile_append_of_pos hcs, List.dropWhile_append_of_pos hcs]
  cases r with
  | nil => simp
  | cons c r =>
    have hc : Digit.isAscii c = false := hr c rfl
    simp [hc]

theorem sign_of_signText {s : List Char} (h : SignText s negative) (hr : ∀ c ∈ r.head?, c ≠ '-' ∧ c ≠ '+') :
    sign (s ++ r) = (negative, r) := by
  cases h with
  | none =>
    cases r with
    | nil => rfl
    | cons c r =>
      obtain ⟨hminus, hplus⟩ := hr c rfl
      rw [List.nil_append, sign]
      · exact fun _ h => hminus (List.cons.inj h).1
      · exact fun _ h => hplus (List.cons.inj h).1
  | plus => rfl
  | minus => rfl

theorem exists_signText (cs : List Char) : ∃ s, cs = s ++ (sign cs).2 ∧ SignText s (sign cs).1 := by
  unfold sign
  split
  · exact ⟨['-'], rfl, .minus⟩
  · exact ⟨['+'], rfl, .plus⟩
  · exact ⟨[], rfl, .none⟩

theorem not_sign_of_isAscii {c : Char} (h : Digit.isAscii c = true) : c ≠ '-' ∧ c ≠ '+' := by
  constructor <;> rintro rfl <;> revert h <;> decide

theorem not_sign_of_digits (h : Digits cs ds) : ∀ c ∈ cs.head?, c ≠ '-' ∧ c ≠ '+' :=
  fun c hc => not_sign_of_isAscii (h.1 c (List.mem_of_mem_head? hc))

theorem exponent?_cons (c : Char) (r : List Char) : exponent? (c :: r) =
    if c = 'e' ∨ c = 'E' then
      if (sign r).2.isEmpty = true ∨ (!(sign r).2.all Digit.isAscii) = true then none
      else some (if (sign r).1 = true then -(Digit.natOf (sign r).2 : Int) else Digit.natOf (sign r).2)
    else none := rfl

/-- An exponent is read as what it says. -/
theorem exponent?_eq_some_iff : exponent? cs = some e ↔ ExponentText cs e := by
  constructor
  · intro h
    cases cs with
    | nil =>
      cases h
      exact .none
    | cons c r =>
      obtain ⟨s, hr, hs⟩ := exists_signText r
      rw [exponent?_cons, Option.ite_none_right_eq_some, Option.ite_none_left_eq_some] at h
      obtain ⟨hmark, hdigits, h⟩ := h
      rw [not_or, Bool.not_eq_true, Bool.not_eq_true, Bool.not_eq_false'] at hdigits
      have hds : Digits (sign r).2 (values (sign r).2) := digits_of_all hdigits.2 rfl
      have hne : values (sign r).2 ≠ [] := by
        rw [ne_eq, values, List.map_eq_nil_iff, ← List.isEmpty_iff, hdigits.1]
        exact nofun
      obtain rfl := Option.some.inj h
      have htext := ExponentText.mark hmark hs hds hne
      rw [← hr, ← natOf_of_digits hds] at htext
      exact htext
  · intro h
    cases h with
    | none => rfl
    | @mark c s cs negative ds mark hs digits some =>
      have hsign := sign_of_signText hs (not_sign_of_digits digits)
      have hne : cs.isEmpty = false := by
        rw [List.isEmpty_eq_false_iff]
        rintro rfl
        exact some digits.2.symm
      have hall : cs.all Digit.isAscii = true := List.all_eq_true.mpr digits.1
      rw [exponent?_cons, if_pos mark, hsign]
      simp [hne, hall, natOf_of_digits digits]

/-- What stands behind the digits is none. -/
theorem not_digit_of_exponentText {x : List Char} (h : ExponentText x e) :
    ∀ c ∈ x.head?, Digit.isAscii c = false ∧ c ≠ '.' := by
  cases h with
  | none => nofun
  | mark mark =>
    intro c hc
    obtain rfl := Option.mem_some.mp hc
    rcases mark with rfl | rfl <;> decide

/-- The last digit lies no deeper, and the first one no higher, than a decimal can have them. -/
def InRange (w : Numeral) : Prop :=
  leastExponent ≤ w.last ∧ w.last + digitCount w.coefficient - 1 ≤ greatestExponent

instance : DecidablePred InRange := fun _ => inferInstanceAs (Decidable (_ ∧ _))

/-- The digits after a point, where there is one, and what stands behind them. -/
def afterPoint : List Char → List Char × List Char
  | '.' :: r => (r.takeWhile Digit.isAscii, r.dropWhile Digit.isAscii)
  | cs => ([], cs)

theorem afterPoint_of_ne {cs : List Char} (h : ∀ r, cs ≠ '.' :: r) : afterPoint cs = ([], cs) := by
  unfold afterPoint
  split
  · exact absurd rfl (h _)
  · rfl

/-- The parts of a text of digits, each behind the one before. -/
theorem finite?_eq (negative : Bool) (cs : List Char) : finite? negative cs =
    if (cs.takeWhile Digit.isAscii).isEmpty ∧ (afterPoint (cs.dropWhile Digit.isAscii)).1.isEmpty then none
    else (exponent? (afterPoint (cs.dropWhile Digit.isAscii)).2).bind fun e =>
      let last := e - (afterPoint (cs.dropWhile Digit.isAscii)).1.length
      let c := Digit.natOf (cs.takeWhile Digit.isAscii ++ (afterPoint (cs.dropWhile Digit.isAscii)).1)
      if last < leastExponent ∨ greatestExponent < last + digitCount c - 1 then none
      else some (.finite negative c last) := by
  unfold finite?
  dsimp only
  generalize cs.dropWhile Digit.isAscii = rest
  split
  · rfl
  next hpoint =>
    rw [afterPoint_of_ne hpoint]
    rfl

/-- A point and the digits after it are taken up to what stands behind them. -/
theorem afterPoint_append {f x : List Char} (hf : FractionText f ds)
    (hx : ∀ c ∈ x.head?, Digit.isAscii c = false ∧ c ≠ '.') :
    ∃ cs, afterPoint (f ++ x) = (cs, x) ∧ Digits cs ds ∧ ∀ c ∈ (f ++ x).head?, Digit.isAscii c = false := by
  cases hf with
  | none =>
    refine ⟨[], afterPoint_of_ne fun r h => ?_, ⟨nofun, rfl⟩, fun c hc => (hx c hc).1⟩
    exact (hx '.' (by rw [← List.nil_append x, h]; rfl)).2 rfl
  | @point cs _ digits =>
    obtain ⟨htake, hdrop⟩ := takeWhile_digits digits.1 fun c hc => (hx c hc).1
    refine ⟨cs, ?_, digits, fun c hc => ?_⟩
    · show ((cs ++ x).takeWhile Digit.isAscii, (cs ++ x).dropWhile Digit.isAscii) = (cs, x)
      rw [htake, hdrop]
    · obtain rfl := Option.mem_some.mp hc
      decide

theorem digits_append {a b : List Char} {ds ds' : List Nat} (ha : Digits a ds) (hb : Digits b ds') :
    Digits (a ++ b) (ds ++ ds') := by
  refine ⟨fun c hc => ?_, by rw [values, List.map_append, ← ha.2, ← hb.2]; rfl⟩
  rcases List.mem_append.mp hc with h | h
  · exact ha.1 c h
  · exact hb.1 c h

theorem isEmpty_of_digits (h : Digits cs ds) : cs.isEmpty = true ↔ ds = [] := by
  rw [List.isEmpty_iff, ← h.2, values, List.map_eq_nil_iff]

/-- The characters after a sign are read as the numeral that they spell, if it is in range. -/
theorem finite?_of_unsigned (h : Unsigned cs w) (negative : Bool) :
    finite? negative cs = if InRange w then some (.finite negative w.coefficient w.last) else none := by
  cases h with
  | @parts _ cs f x whole fraction exponent some =>
    obtain ⟨digits, hpoint, hdigits, hhead⟩ :=
      afterPoint_append fraction (not_digit_of_exponentText exponent)
    obtain ⟨htake, hdrop⟩ := takeWhile_digits whole.1 hhead
    have hlength : digits.length = w.fraction.length := by rw [← hdigits.2, values, List.length_map]
    have hnonempty : ¬ (cs.isEmpty = true ∧ digits.isEmpty = true) := by
      rw [isEmpty_of_digits whole, isEmpty_of_digits hdigits, not_and_or]
      exact some
    rw [finite?_eq, htake, hdrop, hpoint, if_neg hnonempty, exponent?_eq_some_iff.mpr exponent]
    simp only [Option.bind_some, hlength, natOf_of_digits (digits_append whole hdigits)]
    have hrange : InRange w ↔ ¬ (w.last < leastExponent ∨ greatestExponent < w.last + digitCount w.coefficient - 1) := by
      rw [InRange, not_or, Int.not_lt, Int.not_lt]
    rw [if_congr hrange rfl rfl, ite_not]
    rfl

theorem exists_fractionText (cs : List Char) : ∃ f, cs = f ++ (afterPoint cs).2 ∧
    FractionText f (values (afterPoint cs).1) := by
  unfold afterPoint
  split
  next r =>
    refine ⟨'.' :: r.takeWhile Digit.isAscii, ?_, .point ⟨fun c hc => List.mem_takeWhile_imp hc, rfl⟩⟩
    rw [List.cons_append, List.takeWhile_append_dropWhile]
  · exact ⟨[], rfl, .none⟩

/-- What is read after a sign is a numeral. -/
theorem exists_unsigned {d : Decimal} (h : finite? negative cs = some d) :
    ∃ w, Unsigned cs w ∧ w.negative = negative := by
  obtain ⟨f, hrest, hf⟩ := exists_fractionText (cs.dropWhile Digit.isAscii)
  rw [finite?_eq] at h
  generalize afterPoint (cs.dropWhile Digit.isAscii) = point at h hrest hf
  split at h
  · cases h
  next hsome =>
    obtain ⟨e, he, -⟩ := Option.bind_eq_some_iff.mp h
    have hwhole : Digits (cs.takeWhile Digit.isAscii) (values (cs.takeWhile Digit.isAscii)) :=
      ⟨fun c hc => List.mem_takeWhile_imp hc, rfl⟩
    let w : Numeral := ⟨negative, values (cs.takeWhile Digit.isAscii), values point.1, e⟩
    have hparts : Unsigned (cs.takeWhile Digit.isAscii ++ (f ++ point.2)) w := by
      refine .parts hwhole hf (exponent?_eq_some_iff.mp he) ?_
      show values _ ≠ [] ∨ values _ ≠ []
      rwa [← not_and_or, values, values, List.map_eq_nil_iff, List.map_eq_nil_iff, ← List.isEmpty_iff,
        ← List.isEmpty_iff]
    rw [← hrest, List.takeWhile_append_dropWhile] at hparts
    exact ⟨w, hparts, rfl⟩

/-- What stands behind a sign starts with a digit or a point. -/
theorem not_sign_of_unsigned (h : Unsigned cs w) : ∀ c ∈ cs.head?, c ≠ '-' ∧ c ≠ '+' := by
  cases h with
  | @parts _ cs f x whole fraction exponent some =>
    intro c hc
    cases cs with
    | cons d r => exact not_sign_of_digits whole c hc
    | nil =>
      have hwhole : w.whole = [] := whole.2.symm
      generalize w.fraction = ds at fraction some
      cases fraction with
      | none => simp [hwhole] at some
      | point digits =>
        obtain rfl := Option.mem_some.mp hc
        decide

theorem sign_of_spells (h : Spells cs w) : ∃ r, sign cs = (w.negative, r) ∧ Unsigned r w := by
  cases h with
  | parts hs rest => exact ⟨_, sign_of_signText hs (not_sign_of_unsigned rest), rest⟩

/-! ## Texts -/

variable {text : String} {c : Nat}

/-- A word is no number. -/
theorem word?_ne_finite (negative negative' : Bool) (cs : List Char) :
    word? negative cs ≠ some (.finite negative' c e) := by
  unfold word?
  dsimp only
  split_ifs <;> simp

theorem parse?_eq_finite : parse? text = some (.finite negative c e) ↔
    finite? (sign (body text)).1 (sign (body text)).2 = some (.finite negative c e) := by
  have hparse : parse? text = (finite? (sign (body text)).1 (sign (body text)).2).or
      (word? (sign (body text)).1 (sign (body text)).2) := rfl
  rw [hparse, Option.or_eq_some_iff]
  exact or_iff_left fun h => word?_ne_finite _ _ _ h.2

/-- A text that is read denotes nothing else. -/
theorem eq_of_denotes (h : parse? text = some (.finite negative c e)) (hw : Denotes text w) :
    InRange w ∧ negative = w.negative ∧ c = w.coefficient ∧ e = w.last := by
  obtain ⟨r, hsign, hr⟩ := sign_of_spells hw
  rw [parse?_eq_finite, hsign, finite?_of_unsigned hr] at h
  split_ifs at h with hrange
  cases h
  exact ⟨hrange, rfl, rfl, rfl⟩

/-- **A text is read as what it denotes**, if that is in range. -/
theorem parse?_eq_finite_iff : parse? text = some (.finite negative c e) ↔
    ∃ w, Denotes text w ∧ InRange w ∧ negative = w.negative ∧ c = w.coefficient ∧ e = w.last := by
  constructor
  · intro h
    obtain ⟨w, hw, hnegative⟩ := exists_unsigned (parse?_eq_finite.mp h)
    obtain ⟨s, htext, hs⟩ := exists_signText (body text)
    have hdenotes : Denotes text w := by
      rw [Denotes, htext]
      exact .parts (hnegative ▸ hs) hw
    exact ⟨w, hdenotes, eq_of_denotes h hdenotes⟩
  · rintro ⟨w, hw, hrange, rfl, rfl, rfl⟩
    obtain ⟨r, hsign, hr⟩ := sign_of_spells hw
    rw [parse?_eq_finite, hsign, finite?_of_unsigned hr, if_pos hrange]

end Decimal

end CellPurse
