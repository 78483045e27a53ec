import CellPurse.Proofs.Transfer.Spending
import Mathlib.Algebra.Ring.Int.Defs

/-!
# CellPurse.Proofs.Transfer.Balance — what a transfer sends balances

* `run_send`: the transaction that a run sends, in terms of what it had in hand;
* `Balanced limits h tx`: the outputs of `tx` are the payment, and the change where it makes a cell; what they leave of
  the selected cells is a fee between the one asked for and the ceiling;
* `run_balances`: what is sent is balanced, and only a fee above the ceiling is refused for it.
-/

namespace CellPurse.Transfer

open Outcome Told

section Run

variable {w : Wallet Told} {replies : Replies} {request : Request} {skipCheck : Bool} {past : List Event}

/-- A run says what its stages say, and perhaps that it failed. -/
theorem talk_run (w : Wallet Told) (request : Request) (skipCheck : Bool) (past : List Event) :
    ∃ r trail new last, Passes (stages w request skipCheck) past [] r trail new ∧
      ((run w request skipCheck).talk past).1.result = r ∧
      ((run w request skipCheck).talk past).2 = new ++ last ∧ ∀ v ∈ last, v.IsNote := by
  obtain ⟨r, trail, new, hp⟩ := exists_passes (stages w request skipCheck) past []
  have hrun : (run w request skipCheck).talk past = (⟨r, closed trail r⟩, new ++ closing trail r) := talk_concluded hp
  rw [hrun]
  exact ⟨r, trail, new, closing trail r, hp, rfl, rfl, isNote_of_closing⟩

/-- What a run sends is made of what it had in hand, and of the bodies with which the node first answered. -/
theorem run_send (hw : w.node = replies.node) {tx : Transaction} {answer : Except NodeFault Bytes}
    (hs : .send tx answer ∈ ((run w request skipCheck).talk past).2) :
    ∃ (h : Hand) (left : Int) (bodies : List CellBody), h.Ready w request ∧
      rest w.limits h.order h.selection.capacity = .ok left ∧
      Steady ((run w request skipCheck).talk past).2 ∧
      List.Forall₂ (fun c b => firstBody ((run w request skipCheck).talk past).2 c.outPoint = some b)
        h.selection.cells bodies ∧
      tx.inputs = (List.zipWith inputOf h.selection.cells bodies).map DraftInput.input ∧
      tx.outputs = (made w.limits h.order h.funding.changeLock left).map DraftOutput.output ∧
      tx.outputsData = (made w.limits h.order h.funding.changeLock left).map DraftOutput.data := by
  obtain ⟨r, trail, new, last, hp, -, hnew, hlast⟩ := talk_run w request skipCheck past
  rw [hnew] at hs ⊢
  rw [stages_eq] at hp
  have hs : .send tx answer ∈ new := (List.mem_append.mp hs).resolve_right fun h => (hlast _ h).elim
  rcases passes_bind_iff.mp hp with ⟨e, -, h1⟩ | ⟨h, _, first, spent, h1, h2, rfl⟩
  · exact ((keeps_gather hw request _ _ _ _ _ h1).2 _ hs).elim
  · have hquiet := (keeps_gather hw request _ _ _ _ _ h1).2
    have hs : .send tx answer ∈ spent := (List.mem_append.mp hs).resolve_left fun h => hquiet _ h
    obtain ⟨balanced, all, finished, asked, others, hbal, hfin, hothers, rfl⟩ := (passes_spend hw h2).2 tx answer hs
    obtain ⟨left, bodies, hleft, hsteady, hbodies, rfl⟩ := ends_balance_ok hw hbal
    obtain ⟨witnesses, -, rfl, -⟩ := Draft.finish_eq_ok_iff.mp hfin
    have hready := ready_of_gather h1
    obtain ⟨hinputs, houtputs⟩ := hready.draft_inputs
    -- only balancing has asked for cells
    have hlog : first ++ announced .balancing :: (asked ++ others) ++ last =
        (first ++ [announced .balancing]) ++ (asked ++ (others ++ last)) := by
      simp only [List.append_assoc, List.cons_append, List.nil_append]
    have hbefore : ∀ v ∈ first ++ [announced .balancing], ∀ p, v.body? p = none := fun v hv p => by
      rcases List.mem_append.mp hv with hv | hv
      · exact Event.body?_of_isQuiet (hquiet v hv) p
      · rw [List.mem_singleton.mp hv]
        rfl
    have hafter : ∀ v ∈ others ++ last, ∀ p, v.body? p = none := fun v hv p => by
      rcases List.mem_append.mp hv with hv | hv
      · exact hothers v hv p
      · exact Event.body?_of_isQuiet (hlast v hv).isQuiet p
    rw [hlog]
    refine ⟨h, left, bodies, hready, hleft, hsteady.surround hbefore hafter, hbodies.imp fun c b hb => ?_, ?_, ?_, ?_⟩
    · rw [firstBody_append, firstBody_eq_none fun v hv => hbefore v hv _]
      exact firstBody_append_of_some hb _
    · show List.map _ (h.draft.inputs ++ _) = _
      rw [hinputs, List.nil_append]
    · show List.map _ (h.draft.outputs ++ _) = _
      rw [houtputs, List.nil_append]
    · show List.map _ (h.draft.outputs ++ _) = _
      rw [houtputs, List.nil_append]

/-- A run that ends with a fault of the fee has searched with success, and the rest is at fault. -/
theorem run_fee (hw : w.node = replies.node) {f : TransferFault} (hf : f.IsFee)
    (hr : ((run w request skipCheck).talk past).1.result = .error f) :
    ∃ h : Hand, h.Ready w request ∧ rest w.limits h.order h.selection.capacity = .error f := by
  obtain ⟨r, trail, new, last, hp, hresult, -, -⟩ := talk_run w request skipCheck past
  rw [hr] at hresult
  subst hresult
  rw [stages_eq] at hp
  rcases passes_bind_iff.mp hp with ⟨e, he, h1⟩ | ⟨h, _, first, spent, h1, h2, -⟩
  · cases he
    exact absurd hf ((keeps_gather hw request _ _ _ _ _ h1).1 f rfl)
  · exact ⟨h, ready_of_gather h1, (passes_spend hw h2).1 f rfl hf⟩

end Run

/-! ## The balance -/

/-- What the outputs of a transaction hold. -/
def paid (tx : Transaction) : Int := (tx.outputs.map CellOutput.capacity).sum

/-- What the outputs leave of the selected cells, by the records of the index. -/
def Hand.feeOf (h : Hand) (tx : Transaction) : Int := worth h.selection.cells - paid tx

/-- What is left of the selected cells after the amount and the fee asked for. -/
def Hand.left (h : Hand) : Int := worth h.selection.cells - h.order.amount - h.order.fee

/-- The output that pays. -/
def Hand.payment (h : Hand) : CellOutput where
  capacity := h.order.amount
  lock := h.order.destination.script

/-- A transaction spends what a run had in hand: an input for each selected cell; the payment, and the change exactly if
it makes a cell; and a fee from the one asked for up to the ceiling. -/
structure Balanced (limits : Limits) (h : Hand) (tx : Transaction) : Prop where
  inputs : tx.inputs.map CellInput.previous = h.selection.cells.map LiveCell.outPoint
  fee : h.order.fee ≤ h.feeOf tx ∧ h.feeOf tx ≤ limits.fee
  payment : tx.outputs.head? = some h.payment ∧ tx.outputsData.head? = some h.order.data
  floor : limits.cell ≤ h.order.amount
  change_iff : 1 < tx.outputs.length ↔ limits.cell ≤ h.left
  change : limits.cell ≤ h.left → tx.outputs = [h.payment, { capacity := h.left, lock := h.funding.changeLock }] ∧
    tx.outputsData = [h.order.data, []] ∧ h.feeOf tx = h.order.fee
  single : h.left < limits.cell → tx.outputs = [h.payment] ∧ tx.outputsData = [h.order.data] ∧
    h.feeOf tx = worth h.selection.cells - h.order.amount

/-- The inputs name the cells. -/
theorem map_previous_inputs {R : LiveCell → CellBody → Prop} {cells : List LiveCell} {bodies : List CellBody}
    (h : List.Forall₂ R cells bodies) :
    ((List.zipWith inputOf cells bodies).map DraftInput.input).map CellInput.previous =
      cells.map LiveCell.outPoint := by
  induction h with
  | nil => rfl
  | cons _ _ ih => exact congrArg (_ :: ·) ih

theorem Hand.Ready.capacity_eq {w : Wallet Told} {request : Request} {h : Hand} (hr : h.Ready w request) :
    h.selection.capacity = worth h.selection.cells := by
  obtain ⟨cutoff, hs, -⟩ := hr.found
  rw [hs]
  exact Funding.capacity_select ..

/-- The selected cells are worth the amount and the fee. -/
theorem Hand.Ready.enough {w : Wallet Told} {request : Request} {h : Hand} (hr : h.Ready w request) :
    h.order.amount + h.order.fee ≤ worth h.selection.cells := by
  obtain ⟨cutoff, hs, hsat⟩ := hr.found
  have htarget : h.selection.target = h.order.target := by
    rw [hs]
    exact Funding.target_select ..
  have hle := Selection.isSatisfied_iff.mp hsat
  rw [htarget, hr.capacity_eq] at hle
  unfold Order.target at hle
  omega

/-- Whatever makes the payment and the change is balanced. -/
theorem balanced_of_made {w : Wallet Told} {request : Request} {h : Hand} (hr : h.Ready w request) {left : Int}
    (hleft : rest w.limits h.order h.selection.capacity = .ok left) {tx : Transaction}
    (hi : tx.inputs.map CellInput.previous = h.selection.cells.map LiveCell.outPoint)
    (ho : tx.outputs = (made w.limits h.order h.funding.changeLock left).map DraftOutput.output)
    (hd : tx.outputsData = (made w.limits h.order h.funding.changeLock left).map DraftOutput.data) :
    Balanced w.limits h tx := by
  rw [hr.capacity_eq] at hleft
  obtain ⟨hceiling, heq, hfold⟩ := rest_eq_ok_iff.mp hleft
  have hl : h.left = left := heq.symm
  have henough := hr.enough
  by_cases hcell : (w.limits.cell : Int) ≤ left
  · -- the rest makes a cell
    have hmade : made w.limits h.order h.funding.changeLock left =
        [⟨h.payment, h.order.data⟩, ⟨{ capacity := left, lock := h.funding.changeLock }, []⟩] := by
      unfold made
      rw [if_pos hcell]
      rfl
    rw [hmade] at ho hd
    have hfee : h.feeOf tx = h.order.fee := by
      unfold Hand.feeOf paid
      rw [ho]
      simp only [List.map_cons, List.map_nil, List.sum_cons, List.sum_nil, Hand.payment]
      omega
    refine ⟨hi, ⟨by omega, by omega⟩, ?_, hr.reads.floor, ?_, fun _ => ⟨hl ▸ ho, hd, hfee⟩, fun hlt => ?_⟩
    · rw [ho, hd]
      exact ⟨rfl, rfl⟩
    · rw [ho, hl]
      exact iff_of_true Nat.one_lt_two hcell
    · omega
  · -- the rest goes with the fee
    have hmade : made w.limits h.order h.funding.changeLock left = [⟨h.payment, h.order.data⟩] := by
      unfold made
      rw [if_neg hcell]
      rfl
    rw [hmade] at ho hd
    have hfee : h.feeOf tx = worth h.selection.cells - h.order.amount := by
      unfold Hand.feeOf paid
      rw [ho]
      simp [Hand.payment]
    refine ⟨hi, ⟨by omega, by omega⟩, ?_, hr.reads.floor, ?_, fun hle => ?_, fun _ => ⟨ho, hd, hfee⟩⟩
    · rw [ho, hd]
      exact ⟨rfl, rfl⟩
    · rw [ho, hl]
      exact iff_of_false (Nat.lt_irrefl 1) hcell
    · omega

/-- **What a transfer sends is balanced**, whatever the node answers; and a transfer stops because of the ceiling only
if the fee asked for is above it, or if what is left makes no cell and is above it together with the fee. -/
theorem run_balances (w : Wallet Told) (replies : Replies) (hw : w.node = replies.node) (request : Request)
    (skipCheck : Bool) (past : List Event) :
    (∀ tx answer, .send tx answer ∈ ((run w request skipCheck).talk past).2 →
      ∃ h : Hand, h.Ready w request ∧ Request.Reads w.network w.limits request h.order ∧ Balanced w.limits h tx) ∧
    ∀ f, ((run w request skipCheck).talk past).1.result = .error f → f.kind = .ceiling →
      ∃ h : Hand, h.Ready w request ∧ Request.Reads w.network w.limits request h.order ∧
        (w.limits.fee < h.order.fee ∨ (h.left < w.limits.cell ∧
          (w.limits.fee : Int) < worth h.selection.cells - h.order.amount)) := by
  constructor
  · intro tx answer hs
    obtain ⟨h, left, bodies, hr, hleft, -, hbodies, hi, ho, hd⟩ := run_send hw hs
    have hprevious : tx.inputs.map CellInput.previous = h.selection.cells.map LiveCell.outPoint := by
      rw [hi]
      exact map_previous_inputs hbodies
    exact ⟨h, hr, hr.reads, balanced_of_made hr hleft hprevious ho hd⟩
  · intro f hf hk
    obtain ⟨h, hr, hrest⟩ := run_fee hw (TransferFault.kind_eq_ceiling_iff.mp hk) hf
    rw [hr.capacity_eq] at hrest
    exact ⟨h, hr, hr.reads, rest_eq_error hrest⟩

/-! ## A sample -/

namespace Sample

open CellPurse.Sample (secret request)

/-- The lock of the key that pays. -/
def lock : Script := System.sighashLock secret.keyHash

/-- A first block with two transactions. -/
def genesis : Json :=
  let hash (b : UInt8) : Json := .obj [("hash", .ofBytes (List.replicate 32 b))]
  .obj [("header", hash 0x11), ("transactions", .arr [hash 0x22, hash 0x33])]

/-- A node at the start of its chain that has three hundred coins in every cell and takes every transaction. -/
def replies : Replies where
  block _ _ := .ok genesis
  cell _ _ _ := .ok (some ⟨⟨30000000000, lock, none⟩, none⟩)
  send _ tx := .ok (tx.hash.toOption.getD [])
  tip _ := .ok ⟨0, 0, 0⟩
  epoch _ _ := .ok none
  network _ := .ok .testnet

/-- The record of a cell of the key, with two hundred coins. -/
def cell : LiveCell where
  txHash := List.replicate 32 0x44
  outputIndex := 0
  txIndex := 1
  number := 5
  lockHash := [11, 27, 174, 75, 234, 244, 86, 52, 156, 99, 195, 206, 103, 73, 31, 199, 90, 18, 118, 215, 249, 238, 221,
    126, 168, 77, 106, 119, 249, 243, 245, 247]
  capacity := 20000000000

/-- A wallet with that record alone and a highest fee. -/
def wallet (fee : Nat) : Wallet Told where
  node := replies.node
  index := ⟨[cell], []⟩
  network := .testnet
  limits := { Limits.usual with fee }

/-- The transaction of an event. -/
def sent? : Event → Option Transaction
  | .send tx _ => some tx
  | _ => none

theorem exists_of_sent {β : Type} {f : Transaction → β} {b : β} {log : List Event}
    (h : (log.filterMap sent?).map f = [b]) : ∃ tx answer, .send tx answer ∈ log ∧ f tx = b := by
  obtain ⟨tx, htx, heq⟩ := List.mem_map.mp (h ▸ List.mem_singleton_self b)
  obtain ⟨v, hv, hsent⟩ := List.mem_filterMap.mp htx
  cases v with
  | send tx' answer =>
    cases hsent
    exact ⟨tx, answer, hv, heq⟩
  | _ => cases hsent

/-- With a coin for the highest fee one transaction is sent, after the node has said what its input holds. -/
theorem sent_of_run :
    (((run (wallet Amount.coin) request).talk []).2.filterMap sent?).map
        (fun tx => (tx.inputs.map CellInput.previous, tx.outputs.map CellOutput.capacity)) =
      [([cell.outPoint], [10000000000, 9999900000])] ∧
      (firstBody ((run (wallet Amount.coin) request).talk []).2 cell.outPoint).map (fun b => b.output.capacity) =
        some 30000000000 := by
  decide +kernel

theorem exists_send : ∃ tx answer, .send tx answer ∈ ((run (wallet Amount.coin) request).talk []).2 ∧
    tx.inputs.map CellInput.previous = [cell.outPoint] ∧
      tx.outputs.map CellOutput.capacity = [10000000000, 9999900000] := by
  obtain ⟨tx, answer, hs, heq⟩ := exists_of_sent sent_of_run.1
  obtain ⟨hi, ho⟩ := Prod.mk.inj heq
  exact ⟨tx, answer, hs, hi, ho⟩

/-- With a highest fee below the one asked for nothing is sent. -/
theorem fault_of_low_ceiling : ((run (wallet 99999) request).talk []).1.result = .error (.fee 99999) := by
  decide +kernel

end Sample

theorem run_balances_sample :
    (∃ tx answer, .send tx answer ∈ ((run (Sample.wallet Amount.coin) CellPurse.Sample.request).talk []).2 ∧
      ∃ h : Hand, h.Ready (Sample.wallet Amount.coin) CellPurse.Sample.request ∧ Balanced { fee := Amount.coin } h tx) ∧
    ∃ h : Hand, h.Ready (Sample.wallet 99999) CellPurse.Sample.request ∧
      (99999 < h.order.fee ∨
        (h.left < Limits.usual.cell ∧ 99999 < (worth h.selection.cells : Int) - h.order.amount)) := by
  constructor
  · obtain ⟨tx, answer, hs, -, -⟩ := Sample.exists_send
    obtain ⟨h, hready, -, hbalanced⟩ :=
      (run_balances (Sample.wallet Amount.coin) Sample.replies rfl CellPurse.Sample.request false []).1 tx answer hs
    exact ⟨tx, answer, hs, h, hready, hbalanced⟩
  · obtain ⟨h, hready, -, hfee⟩ :=
      (run_balances (Sample.wallet 99999) Sample.replies rfl CellPurse.Sample.request false []).2 _
        Sample.fault_of_low_ceiling rfl
    exact ⟨h, hready, hfee⟩

end CellPurse.Transfer
