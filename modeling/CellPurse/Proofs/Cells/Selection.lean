import CellPurse.Transfer.Funding
import Mathlib.Algebra.Ring.Nat
import Mathlib.Data.List.Nodup

/-!
# CellPurse.Proofs.Cells.Selection — what a search over several locks selects

A selection goes from the walk over one lock to the walk over the next.  All these walks together are one walk over one
list, that of the cells that can pay, lock after lock.

* `Payable lockHash cutoff c`: the cell `c` of a lock can pay;
* `payables index cutoff lockHashes`: the cells that can pay, in the order of the locks, each lock's in ascending place;
* `upTo target`: the cells of a list up to the one that reaches the target;
* `select_eq`: a search takes `upTo target` of `payables`;
* `IsQueue cells cutoff lockHashes queue`: the same for records that no index has sorted yet; `isQueue_payables`;
* `IsShortest target chosen all`: `chosen` is the shortest beginning of `all` that is worth the target.
-/

namespace CellPurse

/-- What some cells are worth. -/
def worth (cells : List LiveCell) : Nat := (cells.map LiveCell.capacity).sum

@[simp] theorem worth_nil : worth [] = 0 := rfl

@[simp] theorem worth_cons (c : LiveCell) (r : List LiveCell) : worth (c :: r) = c.capacity + worth r := rfl

@[simp] theorem worth_append (a b : List LiveCell) : worth (a ++ b) = worth a + worth b := by simp [worth]

/-- `chosen` is the shortest beginning of `all` that is worth the target. -/
structure IsShortest (target : Int) (chosen all : List LiveCell) : Prop where
  start : chosen <+: all
  enough : target ≤ worth chosen
  least : ∀ p, p <+: all → target ≤ worth p → chosen.length ≤ p.length
  short : chosen ≠ [] → worth chosen.dropLast < target

namespace Selection

/-- The cells of a list up to the one that reaches the target, when the cells before them are worth `before`. -/
def upTo (target : Int) : Nat → List LiveCell → List LiveCell
  | _, [] => []
  | before, c :: r => if target ≤ before then [] else c :: upTo target (before + c.capacity) r

variable {target : Int}

theorem upTo_of_le {before : Nat} (h : target ≤ before) (cells : List LiveCell) : upTo target before cells = [] := by
  cases cells with
  | nil => rfl
  | cons c r => rw [upTo, if_pos h]

theorem upTo_prefix (before : Nat) (cells : List LiveCell) : upTo target before cells <+: cells := by
  induction cells generalizing before with
  | nil => exact List.prefix_refl []
  | cons c r ih =>
    rw [upTo]
    split
    · exact List.nil_prefix
    · exact List.cons_prefix_cons.mpr ⟨rfl, ih _⟩

/-- A second list is only looked at for what the first one leaves open. -/
theorem upTo_append (before : Nat) (a b : List LiveCell) :
    upTo target before (a ++ b) =
      upTo target before a ++ upTo target (before + worth (upTo target before a)) b := by
  induction a generalizing before with
  | nil => simp [upTo]
  | cons c r ih =>
    by_cases h : target ≤ before
    · rw [upTo_of_le h, upTo_of_le h, upTo_of_le (by simpa using h)]
      rfl
    · rw [List.cons_append, upTo, if_neg h, upTo, if_neg h, ih, worth_cons, List.cons_append, Nat.add_assoc]

/-- The target is reached exactly when the whole list reaches it. -/
theorem le_worth_upTo_iff (before : Nat) (cells : List LiveCell) :
    target ≤ (before + worth (upTo target before cells) : Nat) ↔ target ≤ (before + worth cells : Nat) := by
  induction cells generalizing before with
  | nil => rfl
  | cons c r ih =>
    by_cases h : target ≤ before
    · rw [upTo_of_le h]
      constructor <;> intro _ <;> push_cast <;> omega
    · rw [upTo, if_neg h, worth_cons, worth_cons, ← Nat.add_assoc, ← Nat.add_assoc]
      exact ih _

/-- A list that stays below the target is taken whole. -/
theorem upTo_of_lt {before : Nat} {cells : List LiveCell} (h : ((before + worth cells : Nat) : Int) < target) :
    upTo target before cells = cells := by
  induction cells generalizing before with
  | nil => rfl
  | cons c r ih =>
    rw [worth_cons, ← Nat.add_assoc] at h
    rw [upTo, if_neg (by omega), ih h]

/-- A beginning that reaches the target is no shorter than `upTo`. -/
theorem length_upTo_le {before : Nat} {p cells : List LiveCell} (hp : p <+: cells)
    (h : target ≤ (before + worth p : Nat)) : (upTo target before cells).length ≤ p.length := by
  induction cells generalizing before p with
  | nil => exact Nat.zero_le _
  | cons c r ih =>
    rw [upTo]
    split
    · exact Nat.zero_le _
    · next hb =>
      cases p with
      | nil => exact absurd (by simpa using h) hb
      | cons d q =>
        obtain ⟨rfl, hq⟩ := List.cons_prefix_cons.mp hp
        rw [worth_cons, ← Nat.add_assoc] at h
        exact Nat.succ_le_succ (ih hq h)

/-- Without its last cell `upTo` stays below the target. -/
theorem worth_dropLast_upTo {before : Nat} {cells : List LiveCell} (h : upTo target before cells ≠ []) :
    ((before + worth (upTo target before cells).dropLast : Nat) : Int) < target := by
  induction cells generalizing before with
  | nil => exact absurd rfl h
  | cons c r ih =>
    by_cases hb : target ≤ before
    · exact absurd (upTo_of_le hb _) h
    · rw [upTo, if_neg hb]
      by_cases hr : upTo target (before + c.capacity) r = []
      · rw [hr]
        simpa using hb
      · rw [List.dropLast_cons_of_ne_nil hr, worth_cons, ← Nat.add_assoc]
        exact ih hr

theorem isShortest_upTo {cells : List LiveCell} (h : target ≤ worth cells) :
    IsShortest target (upTo target 0 cells) cells where
  start := upTo_prefix 0 cells
  enough := by
    have := (le_worth_upTo_iff 0 cells).mpr (by simpa using h)
    simpa using this
  least p hp hw := length_upTo_le hp (by simpa using hw)
  short hne := by
    have := worth_dropLast_upTo hne
    simpa using this

/-! ## One walk -/

/-- Adds cells. -/
def addAll (s : Selection) (cells : List LiveCell) : Selection :=
  { s with capacity := s.capacity + worth cells, cells := s.cells ++ cells }

@[simp] theorem addAll_nil (s : Selection) : s.addAll [] = s := by simp [addAll]

theorem add_addAll (s : Selection) (c : LiveCell) (r : List LiveCell) : (s.add c).addAll r = s.addAll (c :: r) := by
  simp [add, addAll, Nat.add_assoc]

theorem addAll_addAll (s : Selection) (a b : List LiveCell) : (s.addAll a).addAll b = s.addAll (a ++ b) := by
  simp [addAll, Nat.add_assoc]

theorem isSatisfied_iff {s : Selection} : s.isSatisfied = true ↔ s.target ≤ s.capacity := decide_eq_true_iff

theorem visit_of_isSatisfied {s : Selection} (h : s.isSatisfied = true) (k : Nat) (c : LiveCell) :
    visit s k c = (s, ⟨true, false⟩) := if_pos h

theorem visit_of_canPay {s : Selection} (h : ¬ s.isSatisfied = true) {c : LiveCell} (hc : s.canPay c = true) (k : Nat) :
    visit s k c = (s.add c, ⟨(s.add c).isSatisfied, true⟩) := by
  rw [visit, if_neg h, if_pos hc]

theorem visit_of_not_canPay {s : Selection} (h : ¬ s.isSatisfied = true) {c : LiveCell} (hc : ¬ s.canPay c = true)
    (k : Nat) : visit s k c = (s, .pass) := by
  rw [visit, if_neg h, if_neg hc]

/-- A walk takes the cells that can pay up to the one that reaches the target. -/
theorem state_run_visit (s : Selection) (k : Nat) (cells : List LiveCell) :
    (Scan.run visit s k cells).state = s.addAll (upTo s.target s.capacity (cells.filter s.canPay)) := by
  induction cells generalizing s k with
  | nil => simp [upTo]
  | cons c r ih =>
    by_cases hs : s.isSatisfied = true
    · -- nothing is taken any more
      rw [upTo_of_le (isSatisfied_iff.mp hs), addAll_nil, Scan.run, visit_of_isSatisfied hs]
      rfl
    · have hlt : ¬ s.target ≤ s.capacity := fun h => hs (isSatisfied_iff.mpr h)
      by_cases hc : s.canPay c = true
      · rw [List.filter_cons_of_pos hc, upTo, if_neg hlt, ← add_addAll, Scan.run, visit_of_canPay hs hc]
        by_cases ht : (s.add c).isSatisfied = true
        · have hle : s.target ≤ (s.capacity + c.capacity : Nat) := isSatisfied_iff.mp ht
          rw [upTo_of_le hle, addAll_nil]
          simp only [ht, if_true]
        · simp only [ht, Bool.false_eq_true, if_false]
          exact ih (s.add c) (k + 1)
      · rw [List.filter_cons_of_neg hc, Scan.run, visit_of_not_canPay hs hc]
        exact ih s (k + 1)

end Selection

/-! ## All walks -/

/-- The cell `c` of a lock can pay at a cutoff: its block counts, it holds neither data nor type, and it is no cell of
new coins above the cutoff. -/
def Payable (lockHash : Bytes) (cutoff : Int) (c : LiveCell) : Prop :=
  c.lockHash = lockHash ∧ 0 ≤ c.number ∧ c.dataSize = 0 ∧ c.type = none ∧
    (0 < c.txIndex ∨ c.number = 0 ∨ c.number ≤ cutoff)

instance (lockHash : Bytes) (cutoff : Int) : DecidablePred (Payable lockHash cutoff) := fun _ =>
  inferInstanceAs (Decidable (_ ∧ _))

/-- The cells that can pay, lock after lock. -/
def payables (index : Index) (cutoff : Int) (lockHashes : List Bytes) : List LiveCell :=
  lockHashes.flatMap fun h => index.cells.filter fun c => Payable h cutoff c

/-- Only cells of the index can pay. -/
theorem mem_of_mem_payables {index : Index} {cutoff : Int} {lockHashes : List Bytes} {c : LiveCell}
    (h : c ∈ payables index cutoff lockHashes) : c ∈ index.cells := by
  obtain ⟨lockHash, -, hc⟩ := List.mem_flatMap.mp h
  exact (List.mem_filter.mp hc).1

theorem payables_cons (index : Index) (cutoff : Int) (h : Bytes) (r : List Bytes) :
    payables index cutoff (h :: r) = (index.cells.filter fun c => Payable h cutoff c) ++ payables index cutoff r := rfl

namespace Funding

open Selection

theorem filter_matching (index : Index) (s : Selection) (lockHash : Bytes) :
    (index.matching (.lock lockHash) none).filter s.canPay =
      index.cells.filter fun c => Payable lockHash s.cutoff c := by
  rw [Index.matching, List.filter_filter]
  refine List.filter_congr fun c _ => Bool.eq_iff_iff.mpr ?_
  simp only [Selection.canPay, LiveCell.isPlain, LiveCell.isMature, Maturity.isMature, SearchKey.lock,
    SearchKey.holds, Payable, Option.getD_none, Bool.and_eq_true, Bool.or_eq_true, decide_eq_true_eq,
    Option.isNone_iff_eq_none]
  constructor
  · rintro ⟨⟨⟨hd, ht⟩, (hm | hm) | hm⟩, hn, hl⟩
    · exact decide_eq_true ⟨of_decide_eq_true hl, hn, hd, ht, .inl hm⟩
    · exact decide_eq_true ⟨of_decide_eq_true hl, hn, hd, ht, .inr (.inl hm)⟩
    · exact decide_eq_true ⟨of_decide_eq_true hl, hn, hd, ht, .inr (.inr hm)⟩
  · intro h
    obtain ⟨hl, hn, hd, ht, hm⟩ := of_decide_eq_true h
    exact ⟨⟨⟨hd, ht⟩, or_assoc.mpr hm⟩, hn, decide_eq_true hl⟩

theorem searchLock_eq (index : Index) (s : Selection) (lockHash : Bytes) :
    searchLock index s lockHash =
      s.addAll (upTo s.target s.capacity (index.cells.filter fun c => Payable lockHash s.cutoff c)) := by
  rw [searchLock]
  split
  · next hs => rw [upTo_of_le (by simpa [isSatisfied] using hs), addAll_nil]
  · rw [Index.scan, state_run_visit, filter_matching]

/-- **A search over several locks is one walk** over the cells that can pay. -/
theorem select_eq (index : Index) (lockHashes : List Bytes) (s : Selection) :
    select index lockHashes s = s.addAll (upTo s.target s.capacity (payables index s.cutoff lockHashes)) := by
  induction lockHashes generalizing s with
  | nil => simp [select, payables, upTo]
  | cons h r ih =>
    have hcons : select index (h :: r) s = select index r (searchLock index s h) := rfl
    rw [hcons, ih, searchLock_eq, addAll_addAll, payables_cons, upTo_append]
    rfl

section Fresh

variable (index : Index) (lockHashes : List Bytes) (target cutoff : Int)

theorem cells_select : (select index lockHashes { target, cutoff }).cells =
    upTo target 0 (payables index cutoff lockHashes) := by
  rw [select_eq]
  rfl

/-- Each selected cell is counted once. -/
theorem capacity_select : (select index lockHashes { target, cutoff }).capacity =
    worth (select index lockHashes { target, cutoff }).cells := by
  rw [cells_select, select_eq]
  exact Nat.zero_add _

theorem target_select : (select index lockHashes { target, cutoff }).target = target := by
  rw [select_eq]
  rfl

/-- Enough is selected exactly when all cells that can pay are worth enough. -/
theorem isSatisfied_select : (select index lockHashes { target, cutoff }).isSatisfied = true ↔
    target ≤ worth (payables index cutoff lockHashes) := by
  rw [isSatisfied_iff, target_select, capacity_select, cells_select]
  simpa using le_worth_upTo_iff 0 (payables index cutoff lockHashes)

end Fresh

end Funding

/-! ## The order of the cells -/

namespace LiveCell

theorem le_iff {c d : LiveCell} : c.le d = true ↔ c.number < d.number ∨ (c.number = d.number ∧
    (c.txIndex < d.txIndex ∨ (c.txIndex = d.txIndex ∧ c.outputIndex ≤ d.outputIndex))) := by
  simp [le]

theorem le_trans (a b c : LiveCell) (h : a.le b = true) (h' : b.le c = true) : a.le c = true := by
  rw [le_iff] at *
  omega

theorem le_total (a b : LiveCell) : (a.le b || b.le a) = true := by
  rw [Bool.or_eq_true, le_iff, le_iff]
  omega

end LiveCell

section Order

variable {cells : List LiveCell} {scripts : List Script} {index : Index}

theorem cells_of_ofCells (h : Index.ofCells cells scripts = .ok index) : index.cells = cells.mergeSort LiveCell.le := by
  unfold Index.ofCells at h
  cases hb : Index.byHash scripts with
  | error e => rw [hb] at h; cases h
  | ok locks => rw [hb] at h; cases h; rfl

theorem perm_of_ofCells (h : Index.ofCells cells scripts = .ok index) : index.cells.Perm cells :=
  cells_of_ofCells h ▸ List.mergeSort_perm cells _

theorem pairwise_of_ofCells (h : Index.ofCells cells scripts = .ok index) :
    index.cells.Pairwise fun c d => c.le d = true :=
  cells_of_ofCells h ▸ List.pairwise_mergeSort LiveCell.le_trans LiveCell.le_total cells

/-- The cells that can pay, written down without the index: of each lock in turn, those among `cells` that can pay at
the cutoff, in ascending place. -/
inductive IsQueue (cells : List LiveCell) (cutoff : Int) : List Bytes → List LiveCell → Prop where
  | nil : IsQueue cells cutoff [] []
  | cons {lockHash : Bytes} {lockHashes : List Bytes} {part queue : List LiveCell}
      (same : part.Perm (cells.filter fun c => Payable lockHash cutoff c))
      (ascending : part.Pairwise fun c d => c.le d = true) (rest : IsQueue cells cutoff lockHashes queue) :
      IsQueue cells cutoff (lockHash :: lockHashes) (part ++ queue)

theorem isQueue_payables (h : Index.ofCells cells scripts = .ok index) (cutoff : Int) (lockHashes : List Bytes) :
    IsQueue cells cutoff lockHashes (payables index cutoff lockHashes) := by
  induction lockHashes with
  | nil => exact .nil
  | cons l r ih =>
    rw [payables_cons]
    exact .cons ((perm_of_ofCells h).filter _) ((pairwise_of_ofCells h).sublist List.filter_sublist) ih

/-- No out point comes twice among the cells that can pay, if none does in the index and no lock is named twice. -/
theorem nodup_payables (h : (index.cells.map LiveCell.outPoint).Nodup) {lockHashes : List Bytes}
    (hl : lockHashes.Nodup) (cutoff : Int) : ((payables index cutoff lockHashes).map LiveCell.outPoint).Nodup := by
  rw [payables, List.map_flatMap, List.nodup_flatMap]
  refine ⟨fun l _ => h.sublist (List.filter_sublist.map _), hl.imp fun {l l'} hne => ?_⟩
  intro p hp hp'
  obtain ⟨c, hc, rfl⟩ := List.mem_map.mp hp
  obtain ⟨d, hd, hcd⟩ := List.mem_map.mp hp'
  obtain ⟨hc, hcl⟩ := List.mem_filter.mp hc
  obtain ⟨hd, hdl⟩ := List.mem_filter.mp hd
  have heq : d = c := List.inj_on_of_nodup_map h hd hc hcd
  subst heq
  exact hne ((of_decide_eq_true hcl).1.symm.trans (of_decide_eq_true hdl).1)

end Order

end CellPurse
