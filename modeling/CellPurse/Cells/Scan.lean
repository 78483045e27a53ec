/-!
# CellPurse.Cells.Scan — walking over records with a policy

A policy sees the records in order, each with its ordinal from zero.  Of each it says whether the record is collected
and whether the walk stops behind it; its state goes from one record, and from one walk, to the next.

* `Policy`: from the state, the ordinal and the record to the next state and a `Verdict`;
* `Scan.run`: the walk: the state at its end, the visits up to the first stop, and what was collected.
-/

namespace CellPurse

/-- What a policy says of a record. -/
structure Verdict where
  stop : Bool
  collect : Bool
  deriving DecidableEq, Repr

/-- Neither collect nor stop. -/
def Verdict.pass : Verdict := ⟨false, false⟩

/-- How a walk treats its records. -/
abbrev Policy (σ α : Type) := σ → Nat → α → σ × Verdict

/-- A record that was seen. -/
structure Visit (α : Type) where
  ordinal : Nat
  record : α
  verdict : Verdict
  deriving DecidableEq, Repr

/-- A walk that has ended. -/
structure Scan (σ α : Type) where
  state : σ
  visits : List (Visit α)
  collected : List α
  deriving DecidableEq, Repr

namespace Scan

variable {σ α : Type}

/-- The walk over records, the first of which has ordinal `k`. -/
def run (policy : Policy σ α) (s : σ) (k : Nat) : List α → Scan σ α
  | [] => ⟨s, [], []⟩
  | a :: r =>
    let (t, v) := policy s k a
    let rest := if v.stop then ⟨t, [], []⟩ else run policy t (k + 1) r
    ⟨rest.state, ⟨k, a, v⟩ :: rest.visits, if v.collect then a :: rest.collected else rest.collected⟩

/-- The records taken from the source. -/
def pulled (w : Scan σ α) : List α := w.visits.map Visit.record

@[simp] theorem run_nil (policy : Policy σ α) (s : σ) (k : Nat) : run policy s k [] = ⟨s, [], []⟩ := rfl

/-- What was collected is what was visited with a verdict to collect. -/
theorem collected_run (policy : Policy σ α) (s : σ) (k : Nat) (records : List α) :
    (run policy s k records).collected =
      ((run policy s k records).visits.filter fun v => v.verdict.collect).map Visit.record := by
  induction records generalizing s k with
  | nil => rfl
  | cons a r ih =>
    simp only [run]
    cases hc : (policy s k a).2.collect <;> cases hs : (policy s k a).2.stop <;> simp [hc, ih]

end Scan

end CellPurse
