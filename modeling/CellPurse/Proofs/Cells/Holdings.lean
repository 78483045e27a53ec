import CellPurse.Proofs.Assoc
import CellPurse.Proofs.Balance.Totals
import Mathlib.Data.Finset.Card

/-!
# CellPurse.Proofs.Cells.Holdings — who owns how much

The ranking adds up the cells in a table, one after the other, and the table is sorted and cut.  The balance of a lock
is summed by a walk over its cells, and the counts go over all cells at once.  All of them add up the same cells.

* `owned cells lockHash`: what a lock owns;
* `Tally cells table`: a table says of each lock what it owns; `tally_credit`: one more cell; `tally_totals`: all cells;
* `Index.isRanking_top`: the ranking is a longest beginning of the locks in descending order of what they own;
* `Index.ranking_agrees`: ranking, balances and counts agree.
-/

namespace CellPurse

open Outcome Told

/-! ## What locks own -/

/-- What a lock owns among some cells. -/
def owned (cells : List LiveCell) (lockHash : Bytes) : Nat := worth (cells.filter fun c => c.lockHash = lockHash)

section Owned

variable {cells : List LiveCell} {lockHash : Bytes}

theorem owned_append (a b : List LiveCell) : owned (a ++ b) lockHash = owned a lockHash + owned b lockHash := by
  simp [owned]

theorem owned_singleton (c : LiveCell) : owned [c] lockHash = if c.lockHash = lockHash then c.capacity else 0 := by
  by_cases h : c.lockHash = lockHash <;> simp [owned, h]

/-- A lock without cells owns nothing. -/
theorem owned_eq_zero (h : lockHash ∉ cells.map LiveCell.lockHash) : owned cells lockHash = 0 := by
  have hnone : cells.filter (fun c => c.lockHash = lockHash) = [] :=
    List.filter_eq_nil_iff.mpr fun c hc heq => h (List.mem_map.mpr ⟨c, hc, of_decide_eq_true heq⟩)
  rw [owned, hnone, worth_nil]

end Owned

/-! ## The table -/

/-- Only a lock that is new comes at the end. -/
theorem eraseDups_concat (locks : List Bytes) (lockHash : Bytes) :
    (locks ++ [lockHash]).eraseDups = if lockHash ∈ locks then locks.eraseDups else locks.eraseDups ++ [lockHash] := by
  rw [List.eraseDups_append, List.removeAll]
  by_cases h : lockHash ∈ locks <;> simp [h, List.eraseDups_cons]

/-- A table has one entry for each lock of some cells, in the order in which the locks first come, with what the lock
owns. -/
structure Tally (cells : List LiveCell) (table : Assoc Bytes Nat) : Prop where
  nodup : table.keys.Nodup
  keys : table.keys = (cells.map LiveCell.lockHash).eraseDups
  owns : ∀ e ∈ table, e.2 = owned cells e.1
  sum : (table.map Prod.snd).sum = worth cells

section Tally

variable {cells : List LiveCell} {table : Assoc Bytes Nat}

theorem tally_nil : Tally [] [] where
  nodup := List.nodup_nil
  keys := rfl
  owns _ h := absurd h List.not_mem_nil
  sum := rfl

theorem Tally.mem_keys (h : Tally cells table) {lockHash : Bytes} :
    lockHash ∈ table.keys ↔ lockHash ∈ cells.map LiveCell.lockHash := by
  rw [h.keys, List.mem_eraseDups]

/-- What is found in the table is what the lock owns, also where nothing is found. -/
theorem Tally.get? (h : Tally cells table) (lockHash : Bytes) :
    (Assoc.get? lockHash table).getD 0 = owned cells lockHash := by
  cases hget : Assoc.get? lockHash table with
  | none => exact (owned_eq_zero fun hmem => Assoc.get?_eq_none_iff.mp hget (h.mem_keys.mpr hmem)).symm
  | some n => exact h.owns _ (Assoc.mem_of_get?_eq_some hget)

/-- One more cell is credited to its lock. -/
theorem tally_credit (h : Tally cells table) (c : LiveCell) : Tally (cells ++ [c]) (Index.credit table c) := by
  have hfound := h.get? c.lockHash
  have hnodup := Assoc.nodup_keys_set h.nodup c.lockHash (owned cells c.lockHash + c.capacity)
  have hsum := Assoc.sum_set c.lockHash (owned cells c.lockHash + c.capacity) table
  rw [Index.credit, hfound]
  rw [hfound, h.sum] at hsum
  refine ⟨hnodup, ?_, fun e he => ?_, ?_⟩
  · rw [Assoc.keys_set, h.keys, List.map_append, List.map_singleton, eraseDups_concat]
    simp only [List.mem_eraseDups]
  · obtain ⟨lockHash, n⟩ := e
    have hget := (Assoc.get?_eq_some_iff hnodup).mpr he
    rw [Assoc.get?_set] at hget
    rw [owned_append, owned_singleton]
    by_cases heq : c.lockHash = lockHash
    · rw [if_pos heq] at hget ⊢
      rw [← Option.some.inj hget, heq]
    · rw [if_neg heq] at hget ⊢
      exact h.owns _ (Assoc.mem_of_get?_eq_some hget)
  · rw [worth_append, worth_cons, worth_nil]
    omega

/-- The table of an index. -/
theorem tally_totals (i : Index) : Tally i.cells i.totals := by
  unfold Index.totals
  induction i.cells using List.reverseRecOn with
  | nil => exact tally_nil
  | append_singleton cells c ih =>
    rw [List.foldl_append]
    exact tally_credit ih c

end Tally

/-! ## The ranking -/

/-- Holdings list the locks that own the most: as many as there are up to `n`, each once and with what it owns, in
descending order, and no lock that is missing owns more than one that is there. -/
structure IsRanking (cells : List LiveCell) (n : Nat) (top : List Holding) : Prop where
  length : top.length = min n (cells.map LiveCell.lockHash).toFinset.card
  nodup : (top.map Holding.lockHash).Nodup
  descending : top.Pairwise fun a b => b.capacity ≤ a.capacity
  owns : ∀ a ∈ top, a.lockHash ∈ cells.map LiveCell.lockHash ∧ a.capacity = owned cells a.lockHash
  most : ∀ a ∈ top, ∀ c ∈ cells, c.lockHash ∉ top.map Holding.lockHash → owned cells c.lockHash ≤ a.capacity

namespace Index

variable (i : Index)

/-- All locks in descending order of what they own. -/
def ranked : Assoc Bytes Nat := i.totals.mergeSort fun a b => b.2 ≤ a.2

/-- An entry of the table with the script of its lock. -/
def holding (e : Bytes × Nat) : Holding := ⟨e.1, i.locks.get? e.1, e.2⟩

theorem top_eq (n : Nat) : i.top n = (i.ranked.take n).map i.holding := by
  rw [top, firsts, if_pos (Int.natCast_nonneg n)]
  rfl

theorem perm_ranked : i.ranked.Perm i.totals := List.mergeSort_perm ..

theorem pairwise_ranked : i.ranked.Pairwise fun a b => b.2 ≤ a.2 := by
  have htrans : ∀ a b c : Bytes × Nat, decide (b.2 ≤ a.2) = true → decide (c.2 ≤ b.2) = true →
      decide (c.2 ≤ a.2) = true := fun _ _ _ h h' =>
    decide_eq_true (Nat.le_trans (of_decide_eq_true h') (of_decide_eq_true h))
  have htotal : ∀ a b : Bytes × Nat, (decide (b.2 ≤ a.2) || decide (a.2 ≤ b.2)) = true := fun a b => by
    simpa using Nat.le_total b.2 a.2
  exact (List.pairwise_mergeSort htrans htotal i.totals).imp of_decide_eq_true

theorem nodup_keys_ranked : i.ranked.keys.Nodup := (i.perm_ranked.map Prod.fst).nodup_iff.mpr (tally_totals i).nodup

theorem mem_keys_ranked {lockHash : Bytes} : lockHash ∈ i.ranked.keys ↔ lockHash ∈ i.cells.map LiveCell.lockHash :=
  (i.perm_ranked.map Prod.fst).mem_iff.trans (tally_totals i).mem_keys

theorem owned_of_mem_ranked {e : Bytes × Nat} (h : e ∈ i.ranked) : e.2 = owned i.cells e.1 :=
  (tally_totals i).owns e (i.perm_ranked.mem_iff.mp h)

/-- There are as many entries as different locks. -/
theorem length_ranked : i.ranked.length = (i.cells.map LiveCell.lockHash).toFinset.card := by
  have hkeys : i.ranked.keys.toFinset = (i.cells.map LiveCell.lockHash).toFinset := by
    ext lockHash
    rw [List.mem_toFinset, List.mem_toFinset, mem_keys_ranked]
  rw [← hkeys, List.toFinset_card_of_nodup i.nodup_keys_ranked, Assoc.keys, List.length_map]

theorem isRanking_top (n : Nat) : IsRanking i.cells n (i.top n) := by
  have hhashes : (i.top n).map Holding.lockHash = (i.ranked.take n).map Prod.fst := by
    rw [top_eq, List.map_map]
    rfl
  have hmem : ∀ {a}, a ∈ i.top n → ∃ e ∈ i.ranked.take n, i.holding e = a := fun h =>
    List.mem_map.mp (i.top_eq n ▸ h)
  have htake : (i.ranked.take n).Sublist i.ranked := List.take_sublist n _
  refine ⟨?_, ?_, ?_, fun a ha => ?_, fun a ha c hc hmissing => ?_⟩
  · rw [top_eq, List.length_map, List.length_take, length_ranked]
  · rw [hhashes]
    exact i.nodup_keys_ranked.sublist (htake.map Prod.fst)
  · rw [top_eq]
    exact List.pairwise_map.mpr (i.pairwise_ranked.sublist htake)
  · obtain ⟨e, he, rfl⟩ := hmem ha
    have hin := htake.subset he
    exact ⟨i.mem_keys_ranked.mp (List.mem_map_of_mem hin), i.owned_of_mem_ranked hin⟩
  · -- the lock that is missing has its entry behind the cut
    obtain ⟨e, he, rfl⟩ := hmem ha
    obtain ⟨d, hd, hlock⟩ := List.mem_map.mp (i.mem_keys_ranked.mpr (List.mem_map_of_mem hc))
    have hsplit := List.take_append_drop n i.ranked
    have hbehind : d ∈ i.ranked.drop n := by
      rw [← hsplit] at hd
      refine (List.mem_append.mp hd).resolve_left fun hfront => hmissing ?_
      rw [hhashes]
      exact List.mem_map.mpr ⟨d, hfront, hlock⟩
    have horder := i.pairwise_ranked
    rw [← hsplit, List.pairwise_append] at horder
    have hle := horder.2.2 e he d hbehind
    rwa [i.owned_of_mem_ranked (List.mem_of_mem_drop hbehind), hlock] at hle

theorem top_prefix {n m : Nat} (h : n ≤ m) : i.top n <+: i.top m := by
  rw [top_eq, top_eq]
  exact (List.take_prefix_take_left h).map _

/-! ## The counts -/

theorem locks_metrics : i.metrics.locks = (i.cells.map LiveCell.lockHash).toFinset.card := by
  have hlocks : i.metrics.locks = i.totals.keys.length := congrArg List.length (tally_totals i).keys.symm
  rw [hlocks, ← length_ranked, i.perm_ranked.length_eq, Assoc.keys, List.length_map]

theorem capacity_metrics : i.metrics.capacity = worth i.cells := by
  rw [metrics, worth, List.sum_eq_foldl]

/-- A ranking that is long enough has all locks, which own everything. -/
theorem sum_top {n : Nat} (h : i.metrics.locks ≤ n) :
    ((i.top n).map Holding.capacity).sum = i.metrics.capacity ∧ (i.top n).length = i.metrics.locks := by
  have hall : i.ranked.take n = i.ranked := by
    rw [locks_metrics, ← length_ranked] at h
    exact List.take_of_length_le h
  have hsum : (i.ranked.map Prod.snd).sum = worth i.cells :=
    (i.perm_ranked.map Prod.snd).sum_nat.trans (tally_totals i).sum
  constructor
  · rw [capacity_metrics, ← hsum, top_eq, hall, List.map_map]
    rfl
  · rw [(i.isRanking_top n).length, ← locks_metrics]
    exact Nat.min_eq_right h

/-! ## Agreement -/

/-- The cells of a lock, if no block comes before the first one. -/
theorem matching_lock (h : ∀ c ∈ i.cells, 0 ≤ c.number) (lockHash : Bytes) :
    i.matching (.lock lockHash) none = i.cells.filter fun c => c.lockHash = lockHash := by
  refine List.filter_congr fun c hc => ?_
  rw [Option.getD_none, decide_eq_true (h c hc), Bool.true_and]
  rfl

theorem total_scanned (h : ∀ c ∈ i.cells, 0 ≤ c.number) (cutoff : Int) (lockHash : Bytes) :
    (Totals.ofCells cutoff (i.scanned [lockHash])).total = owned i.cells lockHash := by
  rw [scanned_cons, i.matching_lock h]
  exact congrArg worth (List.append_nil _)

/-- **Ranking, balances and counts tell the same story.**  The ranking lists the locks that own the most, and a longer
one begins with it.  A question for the balance of a lock that is listed is answered with sums of which the total is the
listed capacity, and only where that has too many digits to be told it fails, with a fault that says so.  The locks that
are counted are the different ones, and a ranking that has room for them lists them all, with capacities that add up to
the capacity that is counted. -/
theorem ranking_agrees (h : ∀ c ∈ i.cells, 0 ≤ c.number) (n : Nat) :
    IsRanking i.cells n (i.top n) ∧
      (∀ m : Nat, n ≤ m → i.top n <+: i.top m) ∧
      (∀ a ∈ i.top n, ∀ r past cutoff first, Ends (Replies.node r).cutoff past (.ok cutoff) first →
        ∃ t new, Ends (Balance.totals r.node i [a.lockHash]) past (Balance.answered t) new ∧ t.total = a.capacity) ∧
      i.metrics.locks = (i.cells.map LiveCell.lockHash).toFinset.card ∧
      (i.metrics.locks ≤ n →
        ((i.top n).map Holding.capacity).sum = i.metrics.capacity ∧ (i.top n).length = i.metrics.locks) := by
  refine ⟨i.isRanking_top n, fun m hm => i.top_prefix hm, fun a ha r past cutoff first hcutoff => ?_, i.locks_metrics,
    i.sum_top⟩
  obtain ⟨new, hnew⟩ := Balance.ends_answered hcutoff i [a.lockHash]
  exact ⟨_, new, hnew, (i.total_scanned h cutoff _).trans ((i.isRanking_top n).owns a ha).2.symm⟩

open CellPurse.Balance.Sample

/-- Of two locks the one with 2600 comes before the one with 900, which is what a balance of it says; they own all
3500. -/
theorem ranking_agrees_sample : (∀ c ∈ chain.cells, 0 ≤ c.number) ∧
    chain.top 1 = [⟨[1], none, 2600⟩] ∧ chain.top 2 = [⟨[1], none, 2600⟩, ⟨[2], none, 900⟩] ∧
    (∃ t new, Ends (Balance.totals replies.node chain [[1]]) [] (Balance.answered t) new ∧ t.total = 2600) ∧
    chain.metrics.locks = 2 ∧ chain.metrics.capacity = 3500 := by
  have hnumbers : ∀ c ∈ chain.cells, 0 ≤ c.number := by decide
  have hranked : chain.ranked = [([1], 2600), ([2], 900)] := by
    simp [chain, other, early, coins, late, deposit, ranked, totals, credit, Assoc.get?, Assoc.set, List.mergeSort]
  have htop : ∀ n : Nat, chain.top n = ([([1], 2600), ([2], 900)].take n).map chain.holding := fun n => by
    rw [top_eq, hranked]
  obtain ⟨-, -, hbalance, -, hall⟩ := chain.ranking_agrees hnumbers 2
  have hfirst : (⟨[1], none, 2600⟩ : Holding) ∈ chain.top (2 : Nat) := by
    rw [htop]
    exact List.mem_cons_self
  have hlocks : chain.metrics.locks = 2 := by decide
  obtain ⟨hsum, -⟩ := hall hlocks.le
  rw [htop] at hsum
  exact ⟨hnumbers, htop 1, htop 2, hbalance _ hfirst replies [] 0 _ (ends_cutoff []), hlocks, hsum.symm⟩

theorem top_pair (n : Nat) : (pair n).top 1 = [⟨[1], none, n + n⟩] := by
  simp [pair, top, firsts, totals, credit, Assoc.get?, Assoc.set]

theorem capacity_pair (n : Nat) : (pair n).metrics.capacity = n + n := capacity_metrics (pair n)

/-- Two cells of one lock, each of which has as many digits as can be told, are listed and counted, but the balance of
the lock is a fault. -/
theorem ranking_untold : (pair most).top 1 = [⟨[1], none, most + most⟩] ∧ (pair most).metrics.capacity = most + most ∧
    ∃ new, Ends (Balance.totals replies.node (pair most) [[1]]) [] (.error (.number .unwritten)) new :=
  ⟨top_pair most, capacity_pair most, ends_pair⟩

end Index

end CellPurse
