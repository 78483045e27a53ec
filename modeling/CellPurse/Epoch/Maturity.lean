import CellPurse.Epoch.Basic

/-!
# CellPurse.Epoch.Maturity — when new coins can be spent

The first transaction of a block makes new coins, which can be spent four epochs later.

* `Maturity.cutoff`: the highest block whose new coins can be spent at a tip, judged by the start and length of the
  epoch four before the tip;
* `Maturity.isMature`: a cell can be spent unless it holds new coins of a block above the cutoff.
-/

namespace CellPurse.Maturity

/-- How many epochs new coins wait. -/
def epochs : Int := 4

/-- The highest block whose new coins can be spent, `0` when there is none. -/
def cutoff (tip : Epoch) (epoch : Option (Int × Int)) (wait : Int) : Int :=
  if tip.toRat < wait then 0
  else match epoch with
    | none => 0
    | some (start, length) =>
      let since := tip.toRat - wait
      let fraction := since - since.floor
      let index := (fraction * length).floor
      start + max (index - 1) 0

/-- A cell of transaction `txIndex` of a block can be spent.  The coins of the first block were always there. -/
def isMature (block txIndex cutoff : Int) : Bool := 0 < txIndex || block = 0 || block ≤ cutoff

end CellPurse.Maturity
