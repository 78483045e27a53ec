import CellPurse.Balance.Basic
import CellPurse.Proofs.Cells.Selection
import Mathlib.Data.List.TakeWhile

/-!
# CellPurse.Proofs.Cells.Page — a page is the same whether the walk stops behind it or not

A walk in fast mode stops at the first record behind its page, any other one goes on and could collect again.  It does
not, since a limit that is reached stays reached, and since the blocks of an index ascend.

* `IsPage limit last page cells`: `page` is the longest beginning of `cells` that keeps within both bounds;
* `Window.shown w k cells`: the cells that a window shows; `isPage_shown`;
* `Window.run_fast`, `Window.run_full`: what a walk collects and counts;
* `Balance.page_agrees`: the pages of both modes.
-/

namespace CellPurse

/-- `page` is the longest beginning of `cells` that has at most `limit` cells, none if that is below zero, and all of
them up to block `last`. -/
structure IsPage (limit last : Int) (page cells : List LiveCell) : Prop where
  start : page <+: cells
  room : (page.length : Int) ≤ max limit 0
  bound : ∀ c ∈ page, c.number ≤ last
  longest : ∀ p, p <+: cells → (p.length : Int) ≤ max limit 0 → (∀ c ∈ p, c.number ≤ last) → p <+: page

namespace Window

/-- The cells that a window shows of some cells, the first of which has ordinal `k`. -/
def shown (w : Window) (k : Nat) (cells : List LiveCell) : List LiveCell :=
  (cells.take (w.limit - k).toNat).takeWhile fun c => c.number ≤ w.last

/-- The window after some cells were counted for the page, and some for the walk. -/
def counted (w : Window) (page walk : List LiveCell) : Window :=
  { w with
    totalCount := w.totalCount + walk.length
    totalCapacity := w.totalCapacity + worth walk
    count := w.count + page.length
    capacity := w.capacity + worth page }

variable {w : Window} {k : Nat} {c : LiveCell} {cells r : List LiveCell}

@[simp] theorem shown_nil : w.shown k [] = [] := by simp [shown]

@[simp] theorem counted_nil : w.counted [] [] = w := by simp [counted]

theorem isPast_iff : w.isPast k c = true ↔ w.limit ≤ k ∨ w.last < c.number := by simp [isPast]

theorem shown_of_isPast (h : w.isPast k c = true) : w.shown k (c :: r) = [] := by
  unfold shown
  rcases isPast_iff.mp h with hlimit | hlast
  · have hzero : (w.limit - k).toNat = 0 := by omega
    simp [hzero]
  · cases (w.limit - k).toNat with
    | zero => simp
    | succ n => simp [Int.not_le.mpr hlast]

theorem shown_of_not_isPast (h : ¬ w.isPast k c = true) : w.shown k (c :: r) = c :: w.shown (k + 1) r := by
  rw [isPast_iff, not_or] at h
  have hroom : (w.limit - k).toNat = (w.limit - (k + 1 : Nat)).toNat + 1 := by omega
  have hin : c.number ≤ w.last := by omega
  simp [shown, hroom, hin]

/-- Behind a record past the page there is nothing to show, if no later record is in an earlier block. -/
theorem shown_eq_nil (h : w.isPast k c = true) (hr : ∀ d ∈ r, c.number ≤ d.number) : w.shown (k + 1) r = [] := by
  cases r with
  | nil => simp
  | cons d r =>
    apply shown_of_isPast
    have hd := hr d List.mem_cons_self
    rw [isPast_iff] at h ⊢
    omega

theorem counted_countAll (w : Window) (c : LiveCell) (page walk : List LiveCell) :
    (w.countAll c).counted page walk = w.counted page (c :: walk) := by
  simp [counted, countAll, Nat.add_assoc, Nat.add_comm 1]

theorem counted_countPage (w : Window) (c : LiveCell) (page walk : List LiveCell) :
    (w.countPage c).counted page walk = w.counted (c :: page) walk := by
  simp [counted, countPage, Nat.add_assoc, Nat.add_comm 1]

theorem visit_of_not_isPast (h : ¬ w.isPast k c = true) :
    visit w k c = ((w.countAll c).countPage c, ⟨false, true⟩) := by simp [visit, h]

/-- A walk in fast mode stops behind the page, and counts what it shows. -/
theorem run_fast (hw : w.fast = true) (k : Nat) (cells : List LiveCell) :
    (Scan.run visit w k cells).collected = w.shown k cells ∧
      (Scan.run visit w k cells).state = w.counted (w.shown k cells) (w.shown k cells) := by
  induction cells generalizing w k with
  | nil => simp
  | cons c r ih =>
    by_cases hpast : w.isPast k c = true
    · have hvisit : visit w k c = (w, ⟨true, false⟩) := by simp [visit, hpast, hw]
      rw [shown_of_isPast hpast, Scan.run, hvisit]
      simp
    · obtain ⟨hcollected, hstate⟩ := ih (w := (w.countAll c).countPage c) hw (k + 1)
      rw [counted_countPage, counted_countAll] at hstate
      rw [shown_of_not_isPast hpast, Scan.run, visit_of_not_isPast hpast]
      exact ⟨congrArg (c :: ·) hcollected, hstate⟩

/-- Any other walk counts all cells, and shows the same. -/
theorem run_full (hw : w.fast = false) (k : Nat) (hcells : cells.Pairwise fun c d => c.number ≤ d.number) :
    (Scan.run visit w k cells).collected = w.shown k cells ∧
      (Scan.run visit w k cells).state = w.counted (w.shown k cells) cells := by
  induction cells generalizing w k with
  | nil => simp
  | cons c r ih =>
    obtain ⟨hc, hr⟩ := List.pairwise_cons.mp hcells
    by_cases hpast : w.isPast k c = true
    · have hvisit : visit w k c = (w.countAll c, .pass) := by simp [visit, hpast, hw]
      have hshown : (w.countAll c).shown (k + 1) r = [] := shown_eq_nil hpast hc
      obtain ⟨hcollected, hstate⟩ := ih (w := w.countAll c) hw (k + 1) hr
      rw [hshown] at hcollected hstate
      rw [counted_countAll] at hstate
      rw [shown_of_isPast hpast, Scan.run, hvisit]
      exact ⟨hcollected, hstate⟩
    · obtain ⟨hcollected, hstate⟩ := ih (w := (w.countAll c).countPage c) hw (k + 1) hr
      rw [counted_countPage, counted_countAll] at hstate
      rw [shown_of_not_isPast hpast, Scan.run, visit_of_not_isPast hpast]
      exact ⟨congrArg (c :: ·) hcollected, hstate⟩

theorem isPage_shown (w : Window) (cells : List LiveCell) : IsPage w.limit w.last (w.shown 0 cells) cells where
  start := (List.takeWhile_prefix _).trans (List.take_prefix _ _)
  room := by
    have hwhile := (List.takeWhile_prefix (l := cells.take (w.limit - (0 : Nat)).toNat)
      fun c => c.number ≤ w.last).length_le
    rw [List.length_take] at hwhile
    unfold shown
    omega
  bound c hc := by
    have hin := List.mem_takeWhile_imp hc
    simpa using hin
  longest p hp hroom hbound := by
    have htake : p <+: cells.take (w.limit - (0 : Nat)).toNat :=
      List.prefix_take_iff.mpr ⟨hp, by omega⟩
    obtain ⟨rest, hrest⟩ := htake
    unfold shown
    rw [← hrest, List.takeWhile_append_of_pos fun c hc => decide_eq_true (hbound c hc)]
    exact List.prefix_append _ _

end Window

namespace Index

variable {cells : List LiveCell} {scripts : List Script} {index : Index}

/-- The cells of a key come in ascending place. -/
theorem pairwise_matching (h : ofCells cells scripts = .ok index) (key : SearchKey) (start : Option Int) :
    (index.matching key start).Pairwise fun c d => c.le d = true :=
  (pairwise_of_ofCells h).sublist List.filter_sublist

/-- The blocks of a key ascend. -/
theorem number_le_of_matching (h : ofCells cells scripts = .ok index) (key : SearchKey) (start : Option Int) :
    (index.matching key start).Pairwise fun c d => c.number ≤ d.number := by
  refine (pairwise_matching h key start).imp fun {c d} hle => ?_
  rw [LiveCell.le_iff] at hle
  omega

end Index

namespace Balance

section Modes

variable {m : Type → Type} [Monad m] {cells : List LiveCell} {scripts : List Script} {index : Index}

/-- The page with some cells out of all that a walk goes over. -/
def pageWith (shown all : List LiveCell) (fast : Bool) (cutoff : Int) : Page where
  cells := shown.map fun c => (c, c.isMature cutoff)
  count := shown.length
  capacity := worth shown
  total := if fast then none else some (all.length, worth all)

/-- **Both modes make the same page.**  The walk goes over the records of the key from a block on, in ascending place.
The page shows the longest beginning of them that keeps within the limit and the last block, with the same flags and
counts in either mode; without fast mode the totals are those of all records of the walk, and no less than the counts of
the page; in fast mode the totals that the walk keeps are the counts of the page. -/
theorem page_agrees (h : Index.ofCells cells scripts = .ok index) (node : Node m) (key : SearchKey) (limit : Int)
    (start stop : Option Int) :
    ∃ all shown, all.Perm (cells.filter fun c => start.getD 0 ≤ c.number && key.holds c) ∧
      all.Pairwise (fun c d => c.le d = true) ∧ IsPage limit (stop.getD lastBlock) shown all ∧
      (∀ fast, page node index key limit start stop fast = do
        let cutoff ← ExceptT.adapt BalanceFault.node node.cutoff
        pure (pageWith shown all fast cutoff)) ∧
      shown.length ≤ all.length ∧ worth shown ≤ worth all ∧
      ∃ w, (walk index key limit start stop true).state = w ∧ w.count = shown.length ∧ w.totalCount = w.count ∧
        w.capacity = worth shown ∧ w.totalCapacity = w.capacity := by
  let w (fast : Bool) : Window := { limit, last := stop.getD lastBlock, fast }
  let all := index.matching key start
  let shown := (w true).shown 0 all
  have hpage : IsPage limit (stop.getD lastBlock) shown all := (w true).isPage_shown all
  obtain ⟨rest, hrest⟩ := hpage.start
  have hfast : (walk index key limit start stop true).collected = shown ∧
      (walk index key limit start stop true).state = (w true).counted shown shown := Window.run_fast rfl 0 all
  have hfull : (walk index key limit start stop false).collected = shown ∧
      (walk index key limit start stop false).state = (w false).counted shown all :=
    Window.run_full rfl 0 (Index.number_le_of_matching h key start)
  have hmade : ∀ fast cutoff, pageOf cutoff (walk index key limit start stop fast) =
      pageWith shown all fast cutoff := by
    intro fast cutoff
    cases fast with
    | true => simp [pageOf, pageWith, hfast, Window.counted, w]
    | false => simp [pageOf, pageWith, hfull, Window.counted, w]
  refine ⟨all, shown, (perm_of_ofCells h).filter _, Index.pairwise_matching h key start, hpage, fun fast => ?_,
    hpage.start.length_le, ?_, _, hfast.2, ?_⟩
  · simp only [page, hmade]
  · simp [← hrest]
  · simp [Window.counted, w]

end Modes

namespace Sample

/-- A cell of a lock. -/
def early : LiveCell := ⟨[7], 2, 1, 5, [1], 500, 0, none⟩

/-- New coins of this lock. -/
def coins : LiveCell := ⟨[6], 0, 0, 6, [1], 800, 5, none⟩

/-- A third cell of this lock. -/
def late : LiveCell := ⟨[4], 0, 1, 7, [1], 600, 0, none⟩

/-- A cell of another lock. -/
def other : LiveCell := ⟨[5], 1, 1, 3, [2], 900, 0, none⟩

def index : Index := ⟨[other, early, coins, late], []⟩

theorem index_of_records : Index.ofCells [late, other, coins, early] [] = .ok index := by
  have hsort : [late, other, coins, early].mergeSort LiveCell.le = index.cells := by
    simp [late, other, coins, early, index, List.mergeSort, LiveCell.le]
  show Except.ok (Index.mk ([late, other, coins, early].mergeSort LiveCell.le) []) = _
  rw [hsort]
  rfl

/-- A node of a young chain. -/
def node : Node Id where
  block _ := pure .null
  cell _ _ := pure none
  send _ := throw (.transport "busy")
  tip := pure ⟨1, 0, 1000⟩
  epoch _ := pure none
  network := pure .testnet

end Sample

open CellPurse.Balance.Sample

/-- Of three cells of a lock a page up to block 6 shows two, one of which holds new coins, though there is room for five;
the totals are those of all three. -/
theorem page_agrees_sample : Index.ofCells [late, other, coins, early] [] = .ok index ∧
    (∃ all, IsPage 5 6 [early, coins] all ∧ all.Perm [late, coins, early]) ∧
    (page node index (.lock [1]) 5 none (some 6) true).run = .ok ⟨[(early, true), (coins, false)], 2, 1300, none⟩ ∧
    (page node index (.lock [1]) 5 none (some 6) false).run =
      .ok ⟨[(early, true), (coins, false)], 2, 1300, some (3, 1900)⟩ := by
  obtain ⟨all, shown, hperm, -, hpage, hmade, -⟩ :=
    page_agrees index_of_records node (.lock [1]) 5 none (some 6)
  have hfast : (page node index (.lock [1]) 5 none (some 6) true).run =
      .ok ⟨[(early, true), (coins, false)], 2, 1300, none⟩ := by rfl
  have hwith : (page node index (.lock [1]) 5 none (some 6) true).run = .ok (pageWith shown all true 0) := by
    rw [hmade]
    rfl
  have hcells : shown.map (fun c => (c, c.isMature 0)) = [(early, true), (coins, false)] :=
    congrArg Page.cells (Except.ok.inj (hwith.symm.trans hfast))
  have hshown : shown = [early, coins] := by
    simpa [Function.comp_def] using congrArg (List.map Prod.fst) hcells
  refine ⟨index_of_records, ⟨all, hshown ▸ hpage, hperm⟩, hfast, ?_⟩
  rfl

end Balance

end CellPurse
