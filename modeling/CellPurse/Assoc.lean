/-!
# CellPurse.Assoc — keyed values in order

A list of keys with values, in the order in which the keys first came.

* `Assoc.get?`: the value of a key;
* `Assoc.set`: gives a key a value; a key that is present keeps its place.

`Assoc.get?_set`: what was set is what is found, and other keys keep their values.
-/

namespace CellPurse

/-- Keys with values, in order of first appearance. -/
abbrev Assoc (κ α : Type) := List (κ × α)

namespace Assoc

variable {κ α : Type} [DecidableEq κ]

/-- The value of a key. -/
def get? (k : κ) : Assoc κ α → Option α
  | [] => none
  | (j, a) :: r => if j = k then some a else get? k r

/-- Gives a key a value. -/
def set (k : κ) (a : α) : Assoc κ α → Assoc κ α
  | [] => [(k, a)]
  | (j, b) :: r => if j = k then (j, a) :: r else (j, b) :: set k a r

/-- The key is present. -/
def has (k : κ) (m : Assoc κ α) : Bool := (get? k m).isSome

/-- The keys in order. -/
def keys (m : Assoc κ α) : List κ := m.map Prod.fst

theorem get?_set (k j : κ) (a : α) (m : Assoc κ α) :
    get? j (set k a m) = if k = j then some a else get? j m := by
  induction m with
  | nil => simp [set, get?]
  | cons e r ih =>
    obtain ⟨i, b⟩ := e
    by_cases hi : i = k
    · subst hi
      by_cases hj : i = j <;> simp [set, get?, hj]
    · by_cases hj : i = j
      · subst hj
        simp [set, get?, hi, Ne.symm hi]
      · simp [set, get?, hi, hj, ih]

end Assoc

end CellPurse
