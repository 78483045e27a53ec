import CellPurse.Cells.Scan

/-!
# CellPurse.Cells.Stream — a walk that goes on when it is asked to

A stream hands over the records that its policy collects, one each time it is asked.  It takes no more from its source
than it needs for that: the records up to the next one that is collected, or up to one at which the policy stops.

* `Stream`: what the source still holds, the state of the policy, and the visits so far; `Stream.ofRecords`: a stream
  that was not asked yet;
* `Stream.next`: asks once;
* `Stream.take`, `Stream.drain`: asks a number of times, or until nothing is handed over any more;
* `Stream.walk`: the walk of a stream that hands over all it has.
-/

namespace CellPurse

/-- A walk that goes on when it is asked to. -/
structure Stream (σ α : Type) where
  /-- The records that were not taken yet. -/
  source : List α
  state : σ
  /-- The ordinal of the next record. -/
  ordinal : Nat
  /-- The policy has stopped the walk. -/
  stopped : Bool
  visits : List (Visit α)
  deriving DecidableEq, Repr

namespace Stream

variable {σ α : Type}

/-- A stream over records that was not asked yet. -/
def ofRecords (s : σ) (records : List α) : Stream σ α := ⟨records, s, 0, false, []⟩

/-- Takes records up to one that is collected, or at which the policy stops. -/
def advance (policy : Policy σ α) (visits : List (Visit α)) (s : σ) (k : Nat) : List α → Option α × Stream σ α
  | [] => (none, ⟨[], s, k, false, visits⟩)
  | a :: r =>
    let (t, v) := policy s k a
    let seen := visits ++ [⟨k, a, v⟩]
    if v.collect then (some a, ⟨r, t, k + 1, v.stop, seen⟩)
    else if v.stop then (none, ⟨r, t, k + 1, true, seen⟩)
    else advance policy seen t (k + 1) r

/-- Asks for one more record. -/
def next (policy : Policy σ α) (w : Stream σ α) : Option α × Stream σ α :=
  if w.stopped then (none, w) else advance policy w.visits w.state w.ordinal w.source

/-- Asks `n` times, as long as something is handed over. -/
def take (policy : Policy σ α) : Nat → Stream σ α → List α × Stream σ α
  | 0, w => ([], w)
  | n + 1, w =>
    match w.next policy with
    | (none, t) => ([], t)
    | (some a, t) =>
      let (r, u) := take policy n t
      (a :: r, u)

/-- Asks until nothing is handed over: there is one record at most for each of the source. -/
def drain (policy : Policy σ α) (w : Stream σ α) : List α × Stream σ α := w.take policy (w.source.length + 1)

/-- The walk of a stream that hands over all it has. -/
def walk (policy : Policy σ α) (w : Stream σ α) : Scan σ α :=
  let (handed, t) := w.drain policy
  ⟨t.state, t.visits, handed⟩

end Stream

end CellPurse
