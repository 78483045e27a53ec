/-!
# CellPurse.Text.Split — texts cut at a character

* `Split.pieces`: the pieces between the separators; there is one more of them than separators.

`Split.pieces_append`: a separator between two texts keeps their pieces apart.
-/

namespace CellPurse.Text.Split

/-- The pieces between the separators. -/
def pieces (sep : Char) : List Char → List (List Char)
  | [] => [[]]
  | c :: r =>
    if c = sep then [] :: pieces sep r
    else match pieces sep r with
      | [] => [[c]]
      | w :: ws => (c :: w) :: ws

theorem pieces_ne_nil (sep : Char) (cs : List Char) : pieces sep cs ≠ [] := by
  cases cs with
  | nil => simp [pieces]
  | cons c r =>
    unfold pieces
    split
    · simp
    · split <;> simp

/-- A separator between two texts keeps their pieces apart. -/
theorem pieces_append (sep : Char) (p q : List Char) :
    pieces sep (p ++ sep :: q) = pieces sep p ++ pieces sep q := by
  induction p with
  | nil => simp [pieces]
  | cons c r ih =>
    by_cases hc : c = sep
    · simp [pieces, hc, ih]
    · obtain ⟨w, ws, hw⟩ := List.exists_cons_of_ne_nil (pieces_ne_nil sep r)
      simp [pieces, hc, ih, hw]

end CellPurse.Text.Split
