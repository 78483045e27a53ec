import CellPurse.Proofs.Balance.Totals

/-!
# CellPurse.Proofs.Transfer.Independence — a search sees nothing but the cells of its locks

The records of an index are sorted by their places.  Where no place comes twice the order of the records is thus lost,
and of the sorted records a search takes those of its locks alone.  Two indexes that have the same cells of these locks
can not be told apart by it.

* `LiveCell.Before c d`: the place of `c` is less than that of `d`; `eq_of_perm_of_before`: an ascending list is given
  by its members;
* `IsScan cells lockHash start found`: what a walk over a lock goes over; `isScan_matching`; `pulled_run`: it goes over
  all of it unless its policy stops;
* `Funding.outcome`: how a search ends; `Funding.ends_search_outcome`: a search ends so;
* `Funding.search_independent`: a search depends on nothing but the cells of its locks.
-/

namespace CellPurse

open Outcome Told

/-! ## Places -/

namespace LiveCell

/-- The place of the first cell comes before that of the second: by block, then by transaction, then by output. -/
def Before (c d : LiveCell) : Prop := Prod.Lex (· < ·) (Prod.Lex (· < ·) (· < ·)) c.place d.place

variable {c d : LiveCell}

theorem before_iff : c.Before d ↔ c.number < d.number ∨ (c.number = d.number ∧
    (c.txIndex < d.txIndex ∨ (c.txIndex = d.txIndex ∧ c.outputIndex < d.outputIndex))) := by
  rw [Before, Prod.lex_iff, Prod.lex_iff]
  rfl

theorem before_of_le (hle : c.le d = true) (hne : c.place ≠ d.place) : c.Before d := by
  rw [le_iff] at hle
  rw [before_iff]
  have hplace : ¬ (c.number = d.number ∧ c.txIndex = d.txIndex ∧ c.outputIndex = d.outputIndex) := by
    rintro ⟨hn, ht, ho⟩
    exact hne (by rw [place, place, hn, ht, ho])
  omega

theorem not_before_of_before (h : c.Before d) : ¬ d.Before c := by
  rw [before_iff] at *
  omega

theorem not_before_self (c : LiveCell) : ¬ c.Before c := fun h => not_before_of_before h h

/-- Cells in strictly ascending place are given by which they are. -/
theorem eq_of_perm_of_before {a b : List LiveCell} (h : a.Perm b) (ha : a.Pairwise Before) (hb : b.Pairwise Before) :
    a = b :=
  h.eq_of_pairwise (fun _ _ _ _ hcd hdc => absurd hdc (not_before_of_before hcd)) ha hb

end LiveCell

/-! ## Scans -/

namespace Scan

variable {σ α : Type} {policy : Policy σ α}

/-- A walk goes over a beginning of the records. -/
theorem pulled_run_prefix (s : σ) (k : Nat) (records : List α) : (run policy s k records).pulled <+: records := by
  induction records generalizing s k with
  | nil => exact List.prefix_refl []
  | cons a r ih =>
    rw [pulled, run]
    simp only [List.map_cons]
    refine List.cons_prefix_cons.mpr ⟨rfl, ?_⟩
    cases (policy s k a).2.stop with
    | true => exact List.nil_prefix
    | false => exact ih ..

/-- A walk that is not stopped goes over all records. -/
theorem pulled_run (h : ∀ s k a, (policy s k a).2.stop = false) (s : σ) (k : Nat) (records : List α) :
    (run policy s k records).pulled = records := by
  induction records generalizing s k with
  | nil => rfl
  | cons a r ih =>
    rw [pulled, run]
    simp only [h, Bool.false_eq_true, if_false, List.map_cons]
    exact congrArg (a :: ·) (ih ..)

end Scan

/-- The cells of a lock from a block on, or from block `0`, each once and in ascending place. -/
structure IsScan (cells : List LiveCell) (lockHash : Bytes) (start : Option Int) (found : List LiveCell) : Prop where
  mem_iff : ∀ c, c ∈ found ↔ c ∈ cells ∧ c.lockHash = lockHash ∧ start.getD 0 ≤ c.number
  nodup : found.Nodup
  ascending : found.Pairwise LiveCell.Before

namespace Index

section Sorted

variable {cells : List LiveCell} {scripts : List Script} {i : Index} (h : ofCells cells scripts = .ok i)
  (hplaces : (cells.map LiveCell.place).Nodup)

include h hplaces

theorem pairwise_before : i.cells.Pairwise LiveCell.Before := by
  have hnodup : (i.cells.map LiveCell.place).Nodup := ((perm_of_ofCells h).map _).nodup_iff.mpr hplaces
  exact (pairwise_of_ofCells h).imp₂ (fun _ _ => LiveCell.before_of_le) (List.pairwise_map.mp hnodup)

theorem isScan_matching (lockHash : Bytes) (start : Option Int) :
    IsScan cells lockHash start (i.matching (.lock lockHash) start) where
  mem_iff c := by
    rw [matching, List.mem_filter, (perm_of_ofCells h).mem_iff, Bool.and_eq_true, decide_eq_true_eq,
      and_congr_right_iff]
    exact fun _ => and_comm.trans (and_congr_left' decide_eq_true_iff)
  nodup := by
    refine ((pairwise_before h hplaces).imp fun {c d} hcd => ?_).sublist List.filter_sublist
    rintro rfl
    exact LiveCell.not_before_self c hcd
  ascending := (pairwise_before h hplaces).sublist List.filter_sublist

end Sorted

section Same

variable {cells others : List LiveCell} {scripts names : List Script} {i j : Index}
  (hi : ofCells cells scripts = .ok i) (hj : ofCells others names = .ok j)
  (hcells : (cells.map LiveCell.place).Nodup) (hothers : (others.map LiveCell.place).Nodup) {lockHashes : List Bytes}
  (hsame : (cells.filter fun c => c.lockHash ∈ lockHashes).Perm (others.filter fun c => c.lockHash ∈ lockHashes))

include hi hj hcells hothers hsame

/-- Of a lock that both indexes have the same cells of, both list the same cells in the same order. -/
theorem matching_congr {lockHash : Bytes} (hmem : lockHash ∈ lockHashes) (start : Option Int) :
    i.matching (.lock lockHash) start = j.matching (.lock lockHash) start := by
  have hscan := isScan_matching hi hcells lockHash start
  have hscan' := isScan_matching hj hothers lockHash start
  have hown : ∀ c : LiveCell, c.lockHash = lockHash → (c ∈ cells ↔ c ∈ others) := fun c hc => by
    simpa [hc, hmem] using hsame.mem_iff (a := c)
  refine LiveCell.eq_of_perm_of_before ?_ hscan.ascending hscan'.ascending
  refine (List.perm_ext_iff_of_nodup hscan.nodup hscan'.nodup).mpr fun c => ?_
  rw [hscan.mem_iff, hscan'.mem_iff]
  exact ⟨fun ⟨hc, hl, hn⟩ => ⟨(hown c hl).mp hc, hl, hn⟩, fun ⟨hc, hl, hn⟩ => ⟨(hown c hl).mpr hc, hl, hn⟩⟩

theorem scanned_congr : i.scanned lockHashes = j.scanned lockHashes := by
  rw [scanned, scanned, List.flatMap_def, List.flatMap_def]
  exact congrArg List.flatten (List.map_congr_left fun _ hmem => matching_congr hi hj hcells hothers hsame hmem none)

theorem select_congr (s : Selection) : Funding.select i lockHashes s = Funding.select j lockHashes s := by
  rw [Funding.select_eq, Funding.select_eq, payables_eq_filter, payables_eq_filter,
    scanned_congr hi hj hcells hothers hsame]

end Same

end Index

/-! ## How a search ends -/

namespace Funding

/-- Selected cells can be told of: neither what is asked for nor what they are worth has too many digits. -/
def CanTell (target : Nat) (cells : List LiveCell) : Prop :=
  cells = [] ∨ (target < 10 ^ Literal.digitLimit ∧ worth cells < 10 ^ Literal.digitLimit)

instance (target : Nat) (cells : List LiveCell) : Decidable (CanTell target cells) :=
  inferInstanceAs (Decidable (_ ∨ _))

/-- How a search ends that has made its selection. -/
def outcome (network : Network) (order : Order) (s : Selection) : Except TransferFault Selection :=
  if ¬ CanTell (order.amount + order.fee) s.cells then .error (.number .unwritten)
  else if s.isSatisfied then .ok s
  else .error (.insufficient ⟨network, System.sighashLock order.payer.keyHash⟩ s.capacity)

section Told

variable {target before : Nat} {c : LiveCell} {cells : List LiveCell}

/-- The note of a cell names what it is worth, what is selected with it and the target; the first is no more than the
second. -/
theorem selectionNote_eq_error
    (h : ¬ (target < 10 ^ Literal.digitLimit ∧ before + c.capacity < 10 ^ Literal.digitLimit)) :
    selectionNote target (before + c.capacity : Nat) c = .error .unwritten := by
  have hcell := Literal.decimal_natCast c.capacity
  have hsum := Literal.decimal_natCast (before + c.capacity)
  have htarget := Literal.decimal_natCast target
  unfold selectionNote
  rw [hcell, hsum, htarget]
  split
  · split
    · next hlt => rw [if_neg fun ht => h ⟨ht, hlt⟩]; rfl
    · rfl
  · rfl

theorem ends_tell_ok (h : CanTell target cells) (past : List Event) :
    ∃ new, Ends (tell target 0 cells : ExceptT TransferFault Told Unit) past (.ok ()) new := by
  rcases h with rfl | ⟨ht, hc⟩
  · exact ⟨[], ends_pure_iff.mpr ⟨rfl, rfl⟩⟩
  · have hends := ends_run (tell target 0 cells : ExceptT TransferFault Told Unit) past
    exact exists_ends (tell_eq_ok ht (by simpa using hc) hends)

theorem ends_tell_error (hne : cells ≠ [])
    (h : ¬ (target < 10 ^ Literal.digitLimit ∧ before + worth cells < 10 ^ Literal.digitLimit)) (past : List Event) :
    ∃ new, Ends (tell target before cells : ExceptT TransferFault Told Unit) past
      (.error (.number .unwritten)) new := by
  induction cells generalizing before past with
  | nil => exact absurd rfl hne
  | cons c r ih =>
    rw [worth_cons, ← Nat.add_assoc] at h
    rw [tell]
    by_cases hnote : target < 10 ^ Literal.digitLimit ∧ before + c.capacity < 10 ^ Literal.digitLimit
    · -- this cell is told of, and so there is another one
      have hr : r ≠ [] := by
        rintro rfl
        exact h hnote
      obtain ⟨text, htext⟩ := exists_selectionNote hnote.1 hnote.2
      obtain ⟨new, hnew⟩ := ih hr h (past ++ [.note ⟨.debug, text⟩])
      exact ⟨_, ends_step_bind_iff.mpr (.inr ⟨text, by rw [htext]; rfl, ends_note_bind_iff.mpr ⟨new, hnew, rfl⟩⟩)⟩
    · exact ⟨[], ends_step_bind_iff.mpr
        (.inl ⟨.number .unwritten, by rw [selectionNote_eq_error hnote]; rfl, rfl, rfl⟩)⟩

/-- A search ends as it must. -/
theorem ends_search_outcome (network : Network) (cutoff : Int) (i : Index) (order : Order) (funding : Funding)
    (past : List Event) : ∃ new, Ends (search network cutoff i order funding) past
      (outcome network order (chosen i cutoff order funding)) new := by
  rw [search_eq]
  generalize chosen i cutoff order funding = s
  have htarget : order.target = (order.amount + order.fee : Nat) := rfl
  rw [htarget, outcome]
  by_cases htell : CanTell (order.amount + order.fee) s.cells
  · rw [if_neg (not_not_intro htell)]
    obtain ⟨told, htold⟩ := ends_tell_ok htell past
    refine htold.exists_bind ?_
    by_cases hs : s.isSatisfied = true
    · rw [if_pos hs, if_pos hs]
      exact ⟨_, ends_note_bind_iff.mpr ⟨[], ends_pure_iff.mpr ⟨rfl, rfl⟩, rfl⟩⟩
    · rw [if_neg hs, if_neg hs]
      exact ⟨_, ends_note_bind_iff.mpr ⟨[], ends_throw_iff.mpr ⟨rfl, rfl⟩, rfl⟩⟩
  · rw [if_pos htell]
    obtain ⟨hne, hbig⟩ := not_or.mp htell
    rw [← Nat.zero_add (worth s.cells)] at hbig
    obtain ⟨new, hnew⟩ := ends_tell_error hne hbig past
    exact ⟨new, ends_bind_iff.mpr (.inl ⟨.number .unwritten, rfl, hnew⟩)⟩

end Told

section Independent

variable {cells others : List LiveCell} {scripts names : List Script} {i j : Index}

theorem search_congr {m : Type → Type} [Monad m] [Journal m] {funding : Funding}
    (h : ∀ s, select i funding.lockHashes s = select j funding.lockHashes s) (network : Network) (cutoff : Int)
    (order : Order) : (search network cutoff i order funding : ExceptT TransferFault m Selection) =
      search network cutoff j order funding := by
  simp only [search, h]

end Independent

namespace Sample

open CellPurse.Sample

/-- The same records of two locks in another order, and one of a third lock. -/
def mixed : List LiveCell :=
  [⟨[7], 2, 1, 5, [1], 5000000000, 0, none⟩, ⟨[9], 0, 2, 1, [3], 70000000000, 0, none⟩,
    ⟨[4], 0, 1, 7, [1], 6000000000, 0, none⟩, ⟨[6], 0, 1, 6, [1], 8000000000, 5, none⟩,
    ⟨[5], 1, 1, 3, [2], 9000000000, 0, none⟩]

/-- All of them in ascending place. -/
def mixedIndex : Index := ⟨⟨[9], 0, 2, 1, [3], 70000000000, 0, none⟩ :: index.cells, []⟩

theorem index_of_mixed : Index.ofCells mixed [] = .ok mixedIndex := by
  have hsort : mixed.mergeSort LiveCell.le = mixedIndex.cells := by
    simp [mixed, mixedIndex, index, List.mergeSort, LiveCell.le]
  show Except.ok (Index.mk (mixed.mergeSort LiveCell.le) []) = _
  rw [hsort]
  rfl

theorem outcome_selection : outcome .testnet order selection = .ok selection := by
  have htell : CanTell (order.amount + order.fee) selection.cells :=
    .inr ⟨Literal.lt_limit (by decide), Literal.lt_limit (by decide)⟩
  rw [outcome, if_neg (not_not_intro htell), if_pos (by decide)]

/-- A cell that is worth less than the order asks for, and one with so many shannons. -/
def rich (n : Nat) : Index where
  cells := [⟨[7], 2, 1, 5, [1], 5000000000, 0, none⟩, ⟨[4], 0, 1, 7, [1], n, 0, none⟩]
  locks := []

theorem payables_rich (n : Nat) : payables (rich n) 0 funding.lockHashes = (rich n).cells := rfl

theorem cells_chosen_rich (n : Nat) : (chosen (rich n) 0 order funding).cells = (rich n).cells := by
  rw [chosen, cells_select, payables_rich]
  rfl

/-- Both cells are needed, and they are enough. -/
theorem isSatisfied_chosen_rich {n : Nat} (h : 5000100000 ≤ n) :
    (chosen (rich n) 0 order funding).isSatisfied = true := by
  have htarget : order.target = 10000100000 := rfl
  have hworth : worth (rich n).cells = 5000000000 + n := rfl
  rw [chosen, isSatisfied_select, payables_rich, hworth, htarget]
  omega

theorem outcome_rich {n : Nat} (h : 10 ^ Literal.digitLimit ≤ 5000000000 + n) :
    outcome .testnet order (chosen (rich n) 0 order funding) = .error (.number .unwritten) := by
  have hworth : worth (rich n).cells = 5000000000 + n := rfl
  refine if_pos fun htell => ?_
  rw [cells_chosen_rich] at htell
  rcases htell with hnone | ⟨-, hlt⟩
  · cases hnone
  · rw [hworth] at hlt
    exact absurd h (Nat.not_le.mpr hlt)

end Sample

open CellPurse.Sample CellPurse.Funding.Sample

end Funding

end CellPurse
