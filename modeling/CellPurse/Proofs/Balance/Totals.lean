import CellPurse.Proofs.Cells.Page
import CellPurse.Proofs.Ledger.Exact
import CellPurse.Proofs.Transfer.Search

/-!
# CellPurse.Proofs.Balance.Totals — a balance covers what can be spent

A balance is a sum over the cells of some locks, lock after lock, and so is what a search for funds goes through.  The
cells that can pay are mature and hold no type, so that neither an immature cell nor a deposit is among them.

* `Totals.ofCells cutoff cells`: the three sums of some cells; `Totals.state_run_visit`: a walk adds them;
* `Index.scanned i lockHashes`: the cells of some locks, lock after lock; `Balance.sum_eq`: a balance is theirs;
* `Balance.answered t`, `Balance.ends_totals`: what is answered; a sum with too many digits to be told is a fault;
* `Balance.totals_cover`: a balance is additive and does not depend on the order of the locks, and no search spends more
  than it shows as mature, or as free.
-/

namespace CellPurse

open Outcome Told

/-! ## Sums of cells -/

section Worth

variable {a b cells : List LiveCell} {p q : LiveCell → Bool}

theorem worth_perm (h : a.Perm b) : worth a = worth b := (h.map LiveCell.capacity).sum_nat

theorem worth_sublist (h : a.Sublist b) : worth a ≤ worth b := by
  induction h with
  | slnil => exact Nat.le_refl _
  | cons c _ ih => exact Nat.le_add_left_of_le ih
  | cons_cons c _ ih => exact Nat.add_le_add_left ih _

/-- Two parts that have no cell in common are together worth no more than the whole. -/
theorem worth_filter_add_le (h : ∀ c, p c = true → q c = false) (cells : List LiveCell) :
    worth (cells.filter p) + worth (cells.filter q) ≤ worth cells := by
  induction cells with
  | nil => exact Nat.le_refl _
  | cons c r ih =>
    by_cases hp : p c = true
    · rw [List.filter_cons_of_pos hp, List.filter_cons_of_neg (by simp [h c hp]), worth_cons, worth_cons]
      omega
    · rw [List.filter_cons_of_neg hp, worth_cons]
      by_cases hq : q c = true
      · rw [List.filter_cons_of_pos hq, worth_cons]
        omega
      · rw [List.filter_cons_of_neg hq]
        omega

end Worth

namespace Totals

instance : Add Totals := ⟨fun s t => ⟨s.total + t.total, s.immature + t.immature, s.dao + t.dao⟩⟩

theorem add_def (s t : Totals) : s + t = ⟨s.total + t.total, s.immature + t.immature, s.dao + t.dao⟩ := rfl

/-- What some cells are worth: all of them, those that are not mature, and the deposits. -/
def ofCells (cutoff : Int) (cells : List LiveCell) : Totals where
  total := worth cells
  immature := worth (cells.filter fun c => !c.isMature cutoff)
  dao := worth (cells.filter LiveCell.isDeposit)

variable {cutoff : Int} {a b cells : List LiveCell}

theorem ofCells_append : ofCells cutoff (a ++ b) = ofCells cutoff a + ofCells cutoff b := by
  simp [ofCells, add_def]

theorem ofCells_perm (h : a.Perm b) : ofCells cutoff a = ofCells cutoff b := by
  simp only [ofCells, worth_perm h, worth_perm (h.filter _)]

/-- A part is worth no more than the whole. -/
theorem immature_le (cutoff : Int) (cells : List LiveCell) :
    (ofCells cutoff cells).immature ≤ (ofCells cutoff cells).total := worth_sublist List.filter_sublist

theorem dao_le (cutoff : Int) (cells : List LiveCell) : (ofCells cutoff cells).dao ≤ (ofCells cutoff cells).total :=
  worth_sublist List.filter_sublist

theorem add_eq (cutoff : Int) (t : Totals) (c : LiveCell) : t.add cutoff c = t + ofCells cutoff [c] := by
  simp only [add, add_def, ofCells, worth_cons, worth_nil, List.filter_cons, List.filter_nil]
  cases c.isMature cutoff <;> cases c.isDeposit <;> rfl

/-- A walk adds the sums of its cells. -/
theorem state_run_visit (cutoff : Int) (t : Totals) (k : Nat) (cells : List LiveCell) :
    (Scan.run (visit cutoff) t k cells).state = t + ofCells cutoff cells := by
  induction cells generalizing t k with
  | nil => rfl
  | cons c r ih =>
    have hstep : (Scan.run (visit cutoff) t k (c :: r)).state =
        (Scan.run (visit cutoff) (t.add cutoff c) (k + 1) r).state := rfl
    have hcells : ofCells cutoff (c :: r) = ofCells cutoff [c] + ofCells cutoff r := ofCells_append (a := [c])
    rw [hstep, ih, add_eq, hcells]
    simp only [add_def, Nat.add_assoc]

end Totals

/-! ## Cells of several locks -/

namespace Index

/-- The cells of some locks, lock after lock. -/
def scanned (i : Index) (lockHashes : List Bytes) : List LiveCell :=
  lockHashes.flatMap fun h => i.matching (.lock h) none

variable {i : Index} {a b lockHashes : List Bytes} {lockHash : Bytes}

theorem scanned_cons : i.scanned (lockHash :: lockHashes) = i.matching (.lock lockHash) none ++ i.scanned lockHashes :=
  rfl

theorem scanned_append : i.scanned (a ++ b) = i.scanned a ++ i.scanned b := List.flatMap_append

theorem scanned_perm (h : a.Perm b) : (i.scanned a).Perm (i.scanned b) := h.flatMap_right _

end Index

/-- The cell can be spent at a cutoff: it holds neither data nor type, and is mature. -/
def LiveCell.isSpendable (cutoff : Int) (c : LiveCell) : Bool := c.isPlain && c.isMature cutoff

theorem LiveCell.isDeposit_of_isSpendable {cutoff : Int} {c : LiveCell} (h : c.isSpendable cutoff = true) :
    c.isDeposit = false := by
  obtain ⟨hplain, -⟩ := Bool.and_eq_true_iff.mp h
  obtain ⟨-, htype⟩ := Bool.and_eq_true_iff.mp hplain
  rw [isDeposit, Option.isNone_iff_eq_none.mp htype]

/-- The cells that can pay are those of the walks that can be spent. -/
theorem payables_eq_filter (i : Index) (cutoff : Int) (lockHashes : List Bytes) :
    payables i cutoff lockHashes = (i.scanned lockHashes).filter (LiveCell.isSpendable cutoff) := by
  induction lockHashes with
  | nil => rfl
  | cons h r ih =>
    have hlock := Funding.filter_matching i ⟨0, cutoff, 0, []⟩ h
    rw [payables_cons, Index.scanned_cons, List.filter_append, ih, ← hlock]
    rfl

namespace Balance

variable (i : Index) (cutoff : Int) (lockHashes : List Bytes)

/-- A balance sums the cells of its locks. -/
theorem sum_eq : sum i cutoff lockHashes = Totals.ofCells cutoff (i.scanned lockHashes) := by
  have hfold : ∀ t : Totals, lockHashes.foldl (fun t h => (i.scan (.lock h) (Totals.visit cutoff) t).state) t =
      t + Totals.ofCells cutoff (i.scanned lockHashes) := by
    induction lockHashes with
    | nil => exact fun t => rfl
    | cons h r ih =>
      intro t
      have hwalk : (i.scan (.lock h) (Totals.visit cutoff) t).state =
          t + Totals.ofCells cutoff (i.matching (.lock h) none) := Totals.state_run_visit ..
      rw [List.foldl_cons, hwalk, ih, Index.scanned_cons, Totals.ofCells_append]
      simp only [Totals.add_def, Nat.add_assoc]
  rw [sum, hfold]
  simp [Totals.add_def]

/-- No search spends more than all cells that can pay. -/
theorem capacity_select_le (target : Int) :
    (Funding.select i lockHashes { target, cutoff }).capacity ≤ worth (payables i cutoff lockHashes) := by
  rw [Funding.capacity_select, Funding.cells_select]
  exact worth_sublist (Selection.upTo_prefix 0 _).sublist

/-- What can pay is neither immature nor a deposit. -/
theorem worth_payables_le : let t := Totals.ofCells cutoff (i.scanned lockHashes)
    worth (payables i cutoff lockHashes) + t.immature ≤ t.total ∧
      worth (payables i cutoff lockHashes) + t.dao ≤ t.total := by
  rw [payables_eq_filter]
  refine ⟨worth_filter_add_le (fun c hc => ?_) _, worth_filter_add_le (fun c hc => ?_) _⟩
  · rw [(Bool.and_eq_true_iff.mp hc).2]
    rfl
  · exact LiveCell.isDeposit_of_isSpendable hc

/-! ## Answers -/

/-- What is answered of the sums: a total with too many digits can not be told. -/
def answered (t : Totals) : Except BalanceFault Totals :=
  if t.total < 10 ^ Literal.digitLimit then .ok t else .error (.number .unwritten)

/-- Sums can be told if the greatest of them can. -/
theorem exists_note {t : Totals} (locks : Nat) (himmature : t.immature ≤ t.total) (hdao : t.dao ≤ t.total)
    (h : t.total < 10 ^ Literal.digitLimit) : ∃ text, note locks t = .ok text := by
  unfold note
  rw [Literal.decimal_natCast, if_pos h, Literal.decimal_natCast, if_pos (Nat.lt_of_le_of_lt himmature h),
    Literal.decimal_natCast, if_pos (Nat.lt_of_le_of_lt hdao h)]
  exact ⟨_, rfl⟩

theorem note_eq_error {t : Totals} (locks : Nat) (h : ¬ t.total < 10 ^ Literal.digitLimit) :
    note locks t = .error .unwritten := by
  unfold note
  rw [Literal.decimal_natCast, if_neg h]
  rfl

/-- Sums are told, and answered. -/
theorem ends_told {t : Totals} (locks : Nat) (himmature : t.immature ≤ t.total) (hdao : t.dao ≤ t.total)
    (past : List Event) : ∃ new, Ends (do
      let text ← ExceptT.mk (pure ((note locks t).mapError BalanceFault.number))
      Journal.debug text
      pure t : ExceptT BalanceFault Told Totals) past (answered t) new := by
  by_cases h : t.total < 10 ^ Literal.digitLimit
  · obtain ⟨text, htext⟩ := exists_note locks himmature hdao h
    rw [answered, if_pos h, htext]
    have hnote : Ends (.mk (pure (.ok text)) : ExceptT BalanceFault Told String) past (.ok text) [] :=
      ends_mk_iff.mpr ⟨rfl, rfl⟩
    exact hnote.exists_bind ⟨_, ends_note_bind_iff.mpr ⟨[], ends_pure_iff.mpr ⟨rfl, rfl⟩, rfl⟩⟩
  · rw [answered, if_neg h, note_eq_error locks h]
    have hnote : Ends (.mk (pure (.error (.number .unwritten))) : ExceptT BalanceFault Told String) past
        (.error (.number .unwritten)) [] := ends_mk_iff.mpr ⟨rfl, rfl⟩
    exact ⟨[], ends_bind_iff.mpr (.inl ⟨.number .unwritten, rfl, hnote⟩)⟩

/-- How a question for a balance ends, by how the question for the cutoff does. -/
theorem ends_totals {r : Replies} {past first : List Event} {q : Except NodeFault Int}
    (h : Ends r.node.cutoff past q first) (i : Index) (lockHashes : List Bytes) :
    ∃ new, Ends (totals r.node i lockHashes) past
      (q.mapError .node >>= fun cutoff => answered (Totals.ofCells cutoff (i.scanned lockHashes))) new := by
  cases q with
  | error f =>
    have hcutoff : Ends (ExceptT.adapt BalanceFault.node r.node.cutoff) past (.error (.node f)) first :=
      ends_adapt_iff.mpr ⟨_, h, rfl⟩
    exact ⟨first, ends_bind_iff.mpr (.inl ⟨.node f, rfl, hcutoff⟩)⟩
  | ok cutoff =>
    have hcutoff : Ends (ExceptT.adapt BalanceFault.node r.node.cutoff) past (.ok cutoff) first :=
      ends_adapt_iff.mpr ⟨_, h, rfl⟩
    rw [Except.mapError, ok_bind, ← sum_eq]
    refine hcutoff.exists_bind (ends_told lockHashes.length ?_ ?_ _)
    · rw [sum_eq]
      exact Totals.immature_le ..
    · rw [sum_eq]
      exact Totals.dao_le ..

/-- A balance does not depend on the order of the locks. -/
theorem totals_perm {m : Type → Type} [Monad m] [Journal m] {a b : List Bytes} (h : a.Perm b) (node : Node m)
    (i : Index) : totals node i a = totals node i b := by
  have hsum : ∀ cutoff, sum i cutoff a = sum i cutoff b := fun cutoff => by
    rw [sum_eq, sum_eq, Totals.ofCells_perm (Index.scanned_perm h)]
  simp only [totals, hsum, h.length_eq]

/-! ## What is shown -/

/-- A field of the balance shows an amount. -/
def Shows (t : Totals) (key : JsonText) (n : Nat) : Prop :=
  ∃ amount w, (summary t).toJson.field? key = some (.str (amount ++ " (CKB)" : String)) ∧ Numeral.Denotes amount w ∧
    (n : ℚ) = Amount.coin * w.value

theorem shows_of_field {t : Totals} {key : JsonText} {n : Nat}
    (h : (summary t).toJson.field? key = some (.str (Amount.text n))) : Shows t key n :=
  ⟨Amount.coins n, Amount.numeral n, h, Amount.denotes_coins n, Amount.numeral_value n⟩

theorem shows_total (t : Totals) : Shows t "total" t.total := shows_of_field rfl

/-- What is shown as free is what is not deposited. -/
theorem shows_free {t : Totals} (hle : t.dao ≤ t.total) (hpos : 0 < t.dao) : Shows t "free" (t.total - t.dao) := by
  refine shows_of_field ?_
  have hdao : (0 : Int) < (summary t).dao := Int.natCast_pos.mpr hpos
  have hfree : ((t.total - t.dao : Nat) : Int) = (summary t).total - (summary t).dao := Int.ofNat_sub hle
  rw [Summary.toJson, if_pos hdao, hfree]
  split <;> rfl

/-- The sums cover what is used of their cells: it is neither immature nor deposited, and no more than what is shown. -/
structure Covers (t : Totals) (used : Nat) : Prop where
  mature : used + t.immature ≤ t.total
  free : used + t.dao ≤ t.total
  total_shown : ∃ n, Shows t "total" n ∧ used ≤ n
  free_shown : 0 < t.dao → ∃ n, Shows t "free" n ∧ used ≤ n

theorem covers_of_le {t : Totals} {used : Nat} (hmature : used + t.immature ≤ t.total)
    (hfree : used + t.dao ≤ t.total) : Covers t used where
  mature := hmature
  free := hfree
  total_shown := ⟨t.total, shows_total t, by omega⟩
  free_shown hpos := ⟨t.total - t.dao, shows_free (by omega) hpos, by omega⟩

/-- Nothing that a search selects is more than the sums of its locks cover. -/
theorem covers_select (i : Index) (cutoff : Int) (lockHashes : List Bytes) (target : Int) :
    Covers (Totals.ofCells cutoff (i.scanned lockHashes))
      (Funding.select i lockHashes { target, cutoff }).capacity := by
  obtain ⟨hmature, hfree⟩ := worth_payables_le i cutoff lockHashes
  have hle := capacity_select_le i cutoff lockHashes target
  exact covers_of_le (by omega) (by omega)

/-! ## The whole balance -/

/-- A node that is asked after `past` for the balance of some locks lets it be told. -/
def Reported (r : Replies) (past : List Event) (i : Index) (lockHashes : List Bytes) (t : Totals) : Prop :=
  ∃ new, Ends (totals r.node i lockHashes) past (.ok t) new

section Cover

variable {r : Replies} {past first : List Event} {cutoff : Int} (h : Ends r.node.cutoff past (.ok cutoff) first)
  (i : Index)

include h

/-- Once the cutoff is known, what is answered is decided by the cells. -/
theorem ends_answered (lockHashes : List Bytes) : ∃ new, Ends (totals r.node i lockHashes) past
    (answered (Totals.ofCells cutoff (i.scanned lockHashes))) new := by
  obtain ⟨new, hnew⟩ := ends_totals h i lockHashes
  rw [Except.mapError, ok_bind] at hnew
  exact ⟨new, hnew⟩

/-- Exactly the sums of the cells are reported, and only those that can be told. -/
theorem reported_iff {lockHashes : List Bytes} {t : Totals} : Reported r past i lockHashes t ↔
    t = Totals.ofCells cutoff (i.scanned lockHashes) ∧ t.total < 10 ^ Literal.digitLimit := by
  obtain ⟨new, hnew⟩ := ends_answered h i lockHashes
  constructor
  · rintro ⟨new', ht⟩
    have hanswer : answered (Totals.ofCells cutoff (i.scanned lockHashes)) = .ok t :=
      (Prod.mk.inj (hnew.symm.trans ht)).1
    unfold answered at hanswer
    split at hanswer
    · next hlt =>
      obtain rfl := Except.ok.inj hanswer
      exact ⟨rfl, hlt⟩
    · cases hanswer
  · rintro ⟨rfl, hlt⟩
    rw [answered, if_pos hlt] at hnew
    exact ⟨new, hnew⟩

/-- Of two lists of locks together the sum of both balances is reported. -/
theorem reported_append {a b : List Bytes} {t : Totals} (ht : Reported r past i (a ++ b) t) :
    ∃ s u, Reported r past i a s ∧ Reported r past i b u ∧ t = s + u := by
  obtain ⟨rfl, hlt⟩ := (reported_iff h i).mp ht
  rw [Index.scanned_append, Totals.ofCells_append] at hlt ⊢
  rw [Totals.add_def] at hlt
  exact ⟨_, _, (reported_iff h i).mpr ⟨rfl, Nat.lt_of_le_of_lt (Nat.le_add_right _ _) hlt⟩,
    (reported_iff h i).mpr ⟨rfl, Nat.lt_of_le_of_lt (Nat.le_add_left _ _) hlt⟩, rfl⟩

/-- **A balance covers what can be spent.**  A question for the balance of some locks is answered with the sums over
their cells, lock after lock: of all, of the immature ones and of the deposits.  Only where the first of them has too
many digits to be told it fails, with a fault that says so.  The balance of two lists of locks together is the sum of
theirs, and that of the same locks in another order is the same.  A walk through the locks, for whatever target, never
selects more than is mature, nor more than is not deposited, which is what is shown as free; for a target out of reach
it selects all that can pay.  So what a search for an order hands over is covered. -/
theorem totals_cover (lockHashes : List Bytes) :
    (∃ new, Ends (totals r.node i lockHashes) past (answered (Totals.ofCells cutoff (i.scanned lockHashes))) new) ∧
      (∀ a b t, lockHashes = a ++ b → Reported r past i lockHashes t →
        ∃ s u, Reported r past i a s ∧ Reported r past i b u ∧ t = s + u) ∧
      (∀ others : List Bytes, others.Perm lockHashes → totals r.node i others = totals r.node i lockHashes) ∧
      (∀ target : Int,
        Covers (Totals.ofCells cutoff (i.scanned lockHashes))
          (Funding.select i lockHashes { target, cutoff }).capacity ∧
        (worth (payables i cutoff lockHashes) < target →
          (Funding.select i lockHashes { target, cutoff }).cells = payables i cutoff lockHashes)) ∧
      ∀ network order past' s new (funding : Funding), funding.lockHashes = lockHashes →
        Ends (funding.search network cutoff i order) past' (.ok s) new →
          Covers (Totals.ofCells cutoff (i.scanned lockHashes)) s.capacity := by
  refine ⟨ends_answered h i lockHashes, ?_, fun others hperm => totals_perm hperm _ i,
    fun target => ⟨covers_select .., fun htarget => ?_⟩, ?_⟩
  · rintro a b t rfl ht
    exact reported_append h i ht
  · rw [Funding.cells_select, Selection.upTo_of_lt (by simpa using htarget)]
  · rintro network order past' s new funding rfl hs
    obtain ⟨rfl, -⟩ := Funding.chosen_of_ends_search hs
    exact covers_select ..

end Cover

namespace Sample

/-- A deposit of the first lock. -/
def deposit : LiveCell := ⟨[3], 0, 1, 8, [1], 700, 8, some ⟨System.daoCode, [9]⟩⟩

/-- The cells of the first lock, one of another lock, and a deposit. -/
def chain : Index := ⟨[other, early, coins, late, deposit], []⟩

/-- A node of a young chain. -/
def replies : Replies where
  block _ _ := .ok .null
  cell _ _ _ := .ok none
  send _ _ := .error (.transport "busy")
  tip _ := .ok ⟨1, 0, 1000⟩
  epoch _ _ := .ok none
  network _ := .ok .testnet

theorem ends_cutoff (past : List Event) :
    Ends replies.node.cutoff past (.ok 0) [.tip (.ok ⟨1, 0, 1000⟩)] := rfl

/-- Two cells of one lock, each with so many shannons. -/
def pair (n : Nat) : Index := ⟨[⟨[1], 0, 1, 1, [1], n, 0, none⟩, ⟨[2], 0, 1, 2, [1], n, 0, none⟩], []⟩

theorem ofCells_pair (n : Nat) : Totals.ofCells 0 ((pair n).scanned [[1]]) = ⟨n + n, 0, 0⟩ := rfl

/-- The greatest number that can be told. -/
def most : Nat := 10 ^ Literal.digitLimit - 1

/-- Two of the greatest numbers are too much to be told. -/
theorem ends_pair : ∃ new, Ends (totals replies.node (pair most) [[1]]) [] (.error (.number .unwritten)) new := by
  have hlimit : 10 ≤ 10 ^ Literal.digitLimit := Nat.le_self_pow (by decide) 10
  have hlarge : ¬ most + most < 10 ^ Literal.digitLimit := by
    rw [most]
    omega
  obtain ⟨new, hnew⟩ := ends_answered (ends_cutoff []) (pair most) [[1]]
  rw [ofCells_pair, answered, if_neg hlarge] at hnew
  exact ⟨new, hnew⟩

end Sample

open CellPurse.Balance.Sample

/-- Of cells worth 2600, with 800 that are not mature and a deposit of 700, a search gets hold of 1100, while 1900 are
shown as free. -/
theorem totals_cover_sample : Ends replies.node.cutoff [] (.ok 0) [.tip (.ok ⟨1, 0, 1000⟩)] ∧
    Reported replies [] chain [[1], [2]] ⟨3500, 800, 700⟩ ∧ Reported replies [] chain [[1]] ⟨2600, 800, 700⟩ ∧
    (Funding.select chain [[1]] { target := 5000, cutoff := 0 }).capacity = 1100 ∧
    Covers ⟨2600, 800, 700⟩ 1100 ∧ Shows ⟨2600, 800, 700⟩ "free" 1900 := by
  have hcutoff := ends_cutoff []
  obtain ⟨⟨new, hnew⟩, hsplit, -⟩ := totals_cover hcutoff chain [[1], [2]]
  obtain ⟨-, -, -, hcovers, -⟩ := totals_cover hcutoff chain [[1]]
  have hboth : Totals.ofCells 0 (chain.scanned [[1], [2]]) = ⟨3500, 800, 700⟩ := by decide
  have hone : Totals.ofCells 0 (chain.scanned [[1]]) = ⟨2600, 800, 700⟩ := by decide
  have hused : (Funding.select chain [[1]] { target := 5000, cutoff := 0 }).capacity = 1100 := by decide
  rw [hboth, answered, if_pos (Literal.lt_limit (by decide))] at hnew
  obtain ⟨s, u, hs, -⟩ := hsplit [[1]] [[2]] _ rfl ⟨new, hnew⟩
  obtain ⟨rfl, -⟩ := (reported_iff hcutoff chain).mp hs
  rw [hone] at hs hcovers
  exact ⟨hcutoff, ⟨new, hnew⟩, hs, hused, hused ▸ (hcovers 5000).1, shows_free (by decide) (by decide)⟩

/-- The balance of two cells of one lock, each of which has as many digits as can be told, is a fault. -/
theorem totals_untold : sum (pair most) 0 [[1]] = ⟨most + most, 0, 0⟩ ∧
    ∃ new, Ends (totals replies.node (pair most) [[1]]) [] (.error (.number .unwritten)) new :=
  ⟨(sum_eq ..).trans (ofCells_pair most), ends_pair⟩

end Balance

end CellPurse
