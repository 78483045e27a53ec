/-!
# CellPurse.Keys.Range — ranges of children

The integers from a start in equal steps up to, or down to, a bound that is left out.

* `ChildRange.below n`: from zero to below `n`; `ChildRange.between`: from a start to below a bound;
* `ChildRange.size`: how many there are; `ChildRange.toList`: the integers in order;
* `ChildRange.collect`: runs an action that may fail on each of them, up to the first failure.
-/

namespace CellPurse

/-- A range of integers. -/
structure ChildRange where
  start : Int
  stop : Int
  step : Int := 1
  deriving DecidableEq, Repr

namespace ChildRange

/-- From zero to below `n`. -/
def below (n : Int) : ChildRange := ⟨0, n, 1⟩

/-- From a start to below a bound. -/
def between (start stop : Int) : ChildRange := ⟨start, stop, 1⟩

/-- No integers. -/
def none : ChildRange := below 0

/-- How many integers there are. -/
def size (r : ChildRange) : Nat :=
  if 0 < r.step then ((r.stop - r.start + r.step - 1) / r.step).toNat
  else if r.step < 0 then ((r.start - r.stop - r.step - 1) / -r.step).toNat
  else 0

/-- The integers in order. -/
def toList (r : ChildRange) : List Int := (List.range r.size).map fun k : Nat => r.start + r.step * k

/-- Runs an action on `n` integers from `k` on. -/
def collectFrom {ε α : Type} (f : Int → Except ε α) (step : Int) : Nat → Int → Except ε (List α)
  | 0, _ => .ok []
  | n + 1, k =>
    match f k with
    | .error e => .error e
    | .ok a =>
      match collectFrom f step n (k + step) with
      | .error e => .error e
      | .ok r => .ok (a :: r)

/-- Runs an action on each integer. -/
def collect {ε α : Type} (f : Int → Except ε α) (r : ChildRange) : Except ε (List α) :=
  collectFrom f r.step r.size r.start

theorem collectFrom_eq_mapM {ε α : Type} (f : Int → Except ε α) (step : Int) (n : Nat) (k : Int) :
    collectFrom f step n k = ((List.range n).map fun i : Nat => k + step * i).mapM f := by
  induction n generalizing k with
  | zero => rfl
  | succ n ih =>
    have shift : (List.range n).map (fun i : Nat => k + step + step * (i : Int)) =
        (List.range n).map ((fun i : Nat => k + step * (i : Int)) ∘ Nat.succ) := by
      apply List.map_congr_left
      intro i _
      simp only [Function.comp, Nat.succ_eq_add_one, Int.natCast_add, Int.natCast_one, Int.mul_add, Int.mul_one]
      omega
    rw [List.range_succ_eq_map, List.map_cons, List.map_map, List.mapM_cons, collectFrom, ih, shift]
    simp only [Int.mul_zero, Int.add_zero, Int.natCast_zero]
    cases f k with
    | error e => rfl
    | ok a =>
      simp only [bind, Except.bind]
      cases List.mapM f ((List.range n).map ((fun i : Nat => k + step * (i : Int)) ∘ Nat.succ)) <;> rfl

/-- The action runs on the integers in order. -/
theorem collect_eq_mapM {ε α : Type} (f : Int → Except ε α) (r : ChildRange) : r.collect f = r.toList.mapM f :=
  collectFrom_eq_mapM f r.step r.size r.start

end ChildRange

end CellPurse
