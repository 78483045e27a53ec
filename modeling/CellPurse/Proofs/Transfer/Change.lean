import CellPurse.Proofs.Molecule.Table
import CellPurse.Proofs.Transfer.Balance

/-!
# CellPurse.Proofs.Transfer.Change — the change is less than the last cell

Together the cells that are spent may be worth more than eight bytes can say.  An output never is: without the last
cell there was not enough, so what is left over is less than that cell.

* `Spare cells n`: `n` can be left over of `cells`; `IsShortest.spare`: what is left over of a shortest beginning is;
* `CellOutput.Fits`: the capacity of an output can be written;
* `Balancing`: a search and the balancing of what it found;
* `Transfer.change_fits`: the change is spare, and every output of what is assembled can be written.
-/

namespace CellPurse

open Outcome Told

/-! ## What is left over -/

/-- What can be left over of some cells: less than the last of them, and nothing if there are none. -/
inductive Spare : List LiveCell → Int → Prop where
  | none : Spare [] 0
  | last {before : List LiveCell} {c : LiveCell} {n : Int} (less : n < c.capacity) : Spare (before ++ [c]) n

/-- Without its last cell a shortest beginning is not enough. -/
theorem IsShortest.spare {target : Int} {chosen all : List LiveCell} (h : IsShortest target chosen all)
    (htarget : 0 ≤ target) : Spare chosen (worth chosen - target) := by
  rcases List.eq_nil_or_concat chosen with rfl | ⟨before, c, rfl⟩
  · have henough := h.enough
    have hzero : (worth [] : Int) - target = 0 := by
      rw [worth_nil] at henough ⊢
      omega
    rw [hzero]
    exact .none
  · rw [List.concat_eq_append] at h ⊢
    have hshort := h.short (List.append_ne_nil_of_right_ne_nil _ (List.cons_ne_nil _ _))
    rw [List.dropLast_concat] at hshort
    refine .last ?_
    rw [worth_append, worth_cons, worth_nil]
    omega

/-- What is left over is within any bound of the cells. -/
theorem Spare.lt {cells : List LiveCell} {n : Int} (h : Spare cells n) {bound : Nat} (hbound : 0 < bound)
    (hcells : ∀ c ∈ cells, c.capacity < bound) : n < bound := by
  cases h with
  | none => exact_mod_cast hbound
  | @last before c _ less =>
    have hc := hcells c (List.mem_append_right _ (List.mem_singleton_self c))
    omega

/-! ## Capacities that can be written -/

/-- The capacity is a number of eight bytes, and is written as such. -/
structure CellOutput.Fits (o : CellOutput) : Prop where
  nonneg : 0 ≤ o.capacity
  lt : o.capacity < 2 ^ 64
  packed : Molecule.u64 o.capacity = .ok (Bytes.ofNatLE 8 o.capacity.toNat)

theorem CellOutput.fits_of_lt {o : CellOutput} (hnonneg : 0 ≤ o.capacity) (hlt : o.capacity < 2 ^ 64) : o.Fits :=
  ⟨hnonneg, hlt, Molecule.wordOf_eq_ok_iff.mpr ⟨hnonneg, hlt, rfl⟩⟩

namespace Transfer

section Order

variable {w : Wallet Told} {request : Request} {order : Order} {funding : Funding} {cutoff left : Int}

/-- What is left of a satisfied search is spare. -/
theorem spare_of_rest
    (hsat : (Funding.chosen w.index cutoff order funding).isSatisfied = true)
    (hrest : rest w.limits order (Funding.chosen w.index cutoff order funding).capacity = .ok left) :
    0 ≤ left ∧ Spare (Funding.chosen w.index cutoff order funding).cells left := by
  have htarget : 0 ≤ order.target := by
    unfold Order.target
    omega
  have hshortest := Funding.isShortest_select ((Funding.isSatisfied_select _ _ _ _).mp hsat)
  have henough := hshortest.enough
  have hspare := hshortest.spare htarget
  obtain ⟨-, hleft, -⟩ := rest_eq_ok_iff.mp hrest
  have heq : left = worth (Funding.chosen w.index cutoff order funding).cells - order.target := by
    rw [hleft, Funding.chosen, Funding.capacity_select]
    unfold Order.target
    omega
  rw [heq]
  exact ⟨Int.sub_nonneg_of_le henough, hspare⟩

/-- The payment fits, and so does the change. -/
theorem fits_of_mem_made (hr : Request.Reads w.network w.limits request order)
    (hindex : ∀ c ∈ w.index.cells, c.capacity < 2 ^ 64)
    (hsat : (Funding.chosen w.index cutoff order funding).isSatisfied = true)
    (hrest : rest w.limits order (Funding.chosen w.index cutoff order funding).capacity = .ok left) :
    ∀ o ∈ made w.limits order funding.changeLock left, o.output.Fits := by
  obtain ⟨hnonneg, hspare⟩ := spare_of_rest hsat hrest
  have hcells : ∀ c ∈ (Funding.chosen w.index cutoff order funding).cells, c.capacity < 2 ^ 64 := by
    intro c hc
    rw [Funding.chosen, Funding.cells_select] at hc
    exact hindex c (mem_of_mem_payables ((Selection.upTo_prefix _ _).subset hc))
  have hamount : order.amount ≤ 2 ^ 64 - 1 := Amount.parse_le hr.amount
  have hlt := hspare.lt (Nat.two_pow_pos 64) hcells
  intro o ho
  rcases List.mem_cons.mp ho with rfl | ho
  · refine CellOutput.fits_of_lt (Int.natCast_nonneg _) ?_
    dsimp only
    omega
  · split_ifs at ho
    · rw [List.mem_singleton.mp ho]
      exact CellOutput.fits_of_lt hnonneg (by exact_mod_cast hlt)
    · cases ho

end Order

/-! ## Balancing what was found -/

/-- The output that pays an order. -/
def paymentOf (order : Order) : DraftOutput :=
  ⟨{ capacity := order.amount, lock := order.destination.script }, order.data⟩

/-- The output that gives back what is left. -/
def changeOf (funding : Funding) (left : Int) : DraftOutput := ⟨{ capacity := left, lock := funding.changeLock }, []⟩

/-- A valid order, the cells that a search found for it in an index of writable capacities, and the draft that balancing
made of them. -/
structure Balancing (w : Wallet Told) (request : Request) (order : Order) (funding : Funding) (s : Selection)
    (draft draft' : Draft) : Prop where
  answered : ∃ replies : Replies, w.node = replies.node
  index : ∀ c ∈ w.index.cells, c.capacity < 2 ^ 64
  valid : request.validate w.network w.limits w.keyring.isSome = .ok order
  found : ∃ cutoff past new, Ends (Funding.search w.network cutoff w.index order funding) past (.ok s) new
  balanced : ∃ skipCheck past new, Ends (balance w order funding s skipCheck draft) past (.ok draft') new

section Balancing

variable {w : Wallet Told} {request : Request} {order : Order} {funding : Funding} {s : Selection}
  {draft draft' : Draft}

/-- Balancing adds the payment, and perhaps a change that is spare; all that it adds fits. -/
theorem Balancing.outputs (h : Balancing w request order funding s draft draft') :
    ∃ added, draft'.outputs = draft.outputs ++ added ∧ (∀ o ∈ added, o.output.Fits) ∧
      (added = [paymentOf order] ∨
        ∃ left, added = [paymentOf order, changeOf funding left] ∧ 0 ≤ left ∧ Spare s.cells left) := by
  obtain ⟨replies, hw⟩ := h.answered
  obtain ⟨cutoff, _, _, hsearch⟩ := h.found
  obtain ⟨skipCheck, _, _, hbalance⟩ := h.balanced
  obtain ⟨rfl, hsat⟩ := Funding.chosen_of_ends_search hsearch
  obtain ⟨left, bodies, hrest, -, -, rfl⟩ := ends_balance_ok hw hbalance
  have hreads := (Request.reads_of_validate h.valid).2
  refine ⟨made w.limits order funding.changeLock left, rfl, fits_of_mem_made hreads h.index hsat hrest, ?_⟩
  obtain ⟨hnonneg, hspare⟩ := spare_of_rest hsat hrest
  unfold made
  split_ifs
  · exact .inr ⟨left, rfl, hnonneg, hspare⟩
  · exact .inl rfl

/-- Every transaction that is assembled from a balanced draft has outputs that fit, whoever signs it. -/
theorem Balancing.fits_of_finish (h : Balancing w request order funding s draft draft') (hempty : draft.outputs = [])
    {signatures : Assoc Script (List Bytes)} {tx : Transaction} {finished : Draft}
    (hfinish : Draft.finish { draft' with signatures } = .ok (tx, finished)) : ∀ o ∈ tx.outputs, o.Fits := by
  obtain ⟨added, hadded, hfits, -⟩ := h.outputs
  obtain ⟨witnesses, -, rfl, -⟩ := Draft.finish_eq_ok_iff.mp hfinish
  have hall : draft'.outputs = added := by rw [hadded, hempty, List.nil_append]
  intro o ho
  obtain ⟨output, hmem, rfl⟩ := List.mem_map.mp ho
  rw [hall] at hmem
  exact hfits output hmem

end Balancing

/-- What a run sends fits. -/
theorem fits_of_send {w : Wallet Told} {replies : Replies} (hw : w.node = replies.node)
    (hindex : ∀ c ∈ w.index.cells, c.capacity < 2 ^ 64) {request : Request} {skipCheck : Bool} {past : List Event}
    {tx : Transaction} {answer : Except NodeFault Bytes}
    (hs : .send tx answer ∈ ((run w request skipCheck).talk past).2) : ∀ o ∈ tx.outputs, o.Fits := by
  obtain ⟨h, left, bodies, hready, hrest, -, -, -, houtputs, -⟩ := run_send hw hs
  obtain ⟨cutoff, hchosen, hsat⟩ := hready.found
  rw [hchosen] at hsat hrest
  intro o ho
  rw [houtputs] at ho
  obtain ⟨output, hmem, rfl⟩ := List.mem_map.mp ho
  exact fits_of_mem_made hready.reads hindex hsat hrest output hmem

/-! ## A sample -/

namespace Sample

/-- A request for the greatest amount. -/
def greatRequest : Request := { CellPurse.Sample.request with amount := "184467440737.09551615" }

def greatOrder : Order := { CellPurse.Sample.order with amount := 2 ^ 64 - 1 }

def greatLock : Script := System.sighashLock (List.replicate 20 9)

/-- The record of one of the greatest cells. -/
def greatCell (outputIndex : Int) : LiveCell := { cell with outputIndex, capacity := 2 ^ 64 - 1 }

/-- A node with the greatest cells. -/
def greatReplies : Replies := { replies with cell := fun _ _ _ => .ok (some ⟨⟨2 ^ 64 - 1, greatLock, none⟩, none⟩) }

/-- A wallet with the records of two of them. -/
def greatWallet : Wallet Told where
  node := greatReplies.node
  index := ⟨[greatCell 0, greatCell 1], []⟩
  network := .testnet

def greatFunding : Funding := ⟨[cell.lockHash], greatLock, []⟩

/-- Both cells are needed for the greatest amount and a fee. -/
def greatSelection : Selection where
  target := 2 ^ 64 + 99999
  cutoff := 0
  capacity := 2 ^ 65 - 2
  cells := [greatCell 0, greatCell 1]

def emptyDraft : Draft where
  genesis := { hash := [], sighashDep := ⟨⟨[], 0⟩, .depGroup⟩, multisigDep := ⟨⟨[], 0⟩, .depGroup⟩ }

/-- The greatest amount is paid, and what is left of the second cell is given back. -/
def greatDraft : Draft :=
  { emptyDraft with
    inputs := [⟨⟨(greatCell 0).outPoint, 0⟩, greatLock⟩, ⟨⟨(greatCell 1).outPoint, 0⟩, greatLock⟩]
    outputs := [paymentOf greatOrder, changeOf greatFunding (2 ^ 64 - 100001)] }

theorem balancing_great :
    Balancing greatWallet greatRequest greatOrder greatFunding greatSelection emptyDraft greatDraft where
  answered := ⟨greatReplies, rfl⟩
  index := by decide
  valid := by
    show greatRequest.validate .testnet .usual false = .ok greatOrder
    decide +kernel
  found := by
    have htalk : ((Funding.search .testnet 0 greatWallet.index greatOrder greatFunding :
        ExceptT TransferFault Told Selection).run.talk []).1 = .ok greatSelection := by decide +kernel
    obtain ⟨new, hends⟩ := exists_ends htalk
    exact ⟨0, [], new, hends⟩
  balanced := by
    have htalk : ((balance greatWallet greatOrder greatFunding greatSelection false emptyDraft).run.talk []).1 =
        .ok greatDraft := by decide +kernel
    obtain ⟨new, hends⟩ := exists_ends htalk
    exact ⟨false, [], new, hends⟩

end Sample

/-- **The change fits.** What is left over is less than the last selected cell, or nothing if no cell is selected.  So
whatever is assembled or sent has outputs whose capacities can be written, if those of the index can, although the
selected cells together may be worth more than eight bytes can say. -/
theorem change_fits :
    (∀ (w : Wallet Told) (request : Request) (order : Order) (funding : Funding) (s : Selection) (draft draft' : Draft),
      Balancing w request order funding s draft draft' →
        (∃ added, draft'.outputs = draft.outputs ++ added ∧ (∀ o ∈ added, o.output.Fits) ∧
          (added = [paymentOf order] ∨
            ∃ left, added = [paymentOf order, changeOf funding left] ∧ 0 ≤ left ∧ Spare s.cells left)) ∧
        (draft.outputs = [] → ∀ signatures tx finished,
          Draft.finish { draft' with signatures } = .ok (tx, finished) → ∀ o ∈ tx.outputs, o.Fits)) ∧
      (∀ (w : Wallet Told) (replies : Replies), w.node = replies.node → (∀ c ∈ w.index.cells, c.capacity < 2 ^ 64) →
        ∀ request skipCheck past tx answer, .send tx answer ∈ ((run w request skipCheck).talk past).2 →
          ∀ o ∈ tx.outputs, o.Fits) ∧
      ∃ w request order funding s draft draft', Balancing w request order funding s draft draft' ∧
        2 ^ 64 ≤ worth s.cells ∧ draft'.outputs.length = 2 := by
  refine ⟨fun w request order funding s draft draft' h => ⟨h.outputs, fun hempty _ _ _ => h.fits_of_finish hempty⟩,
    fun w replies hw hindex request skipCheck past tx answer => fits_of_send hw hindex, ?_⟩
  exact ⟨_, _, _, _, _, _, _, Sample.balancing_great, by decide, rfl⟩

theorem change_fits_sample :
    (∃ left, Sample.greatDraft.outputs = [paymentOf Sample.greatOrder, changeOf Sample.greatFunding left] ∧
      Spare [Sample.greatCell 0, Sample.greatCell 1] left) ∧
    (∃ tx finished, Draft.finish { Sample.greatDraft with signatures := [(Sample.greatLock, [Bytes.zeros 65])] } =
      .ok (tx, finished) ∧ ∀ o ∈ tx.outputs, o.Fits) ∧
    ∃ tx answer, .send tx answer ∈ ((run (Sample.wallet Amount.coin) CellPurse.Sample.request).talk []).2 ∧
      ∀ o ∈ tx.outputs, o.Fits := by
  obtain ⟨hbalancing, hsend, -⟩ := change_fits
  obtain ⟨⟨added, hadded, -, hchange⟩, hfinish⟩ := hbalancing _ _ _ _ _ _ _ Sample.balancing_great
  refine ⟨?_, ?_, ?_⟩
  · rcases hchange with rfl | ⟨left, rfl, -, hspare⟩
    · cases congrArg List.length hadded
    · exact ⟨left, hadded, hspare⟩
  · have hfinished : (Draft.finish { Sample.greatDraft with
        signatures := [(Sample.greatLock, [Bytes.zeros 65])] }).toOption.isSome = true := by decide +kernel
    obtain ⟨⟨tx, finished⟩, hok⟩ := Option.isSome_iff_exists.mp hfinished
    have hok := toOption_eq_some_iff.mp hok
    exact ⟨tx, finished, hok, hfinish rfl _ tx finished hok⟩
  · obtain ⟨tx, answer, hs, -⟩ := Sample.exists_send
    exact ⟨tx, answer, hs, hsend (Sample.wallet Amount.coin) Sample.replies rfl (by decide) _ _ _ tx answer hs⟩

end Transfer

end CellPurse
