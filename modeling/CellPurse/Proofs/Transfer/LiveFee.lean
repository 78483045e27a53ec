import CellPurse.Proofs.Transfer.Balance

/-!
# CellPurse.Proofs.Transfer.LiveFee — the fee by what the node says of the cells

A transfer counts what the records of the index say, and spends what the node has.  Nothing compares the two.

* `liveWorth log tx`: what the inputs are worth by the bodies with which the node answered;
* `live_fee_above_ceiling`: the fee by these bodies can be above the ceiling;
* `live_fee_of_records`: it differs from the fee by the records, which is between the one asked for and the ceiling, by
  as much as the records are wrong.
-/

namespace CellPurse.Transfer

open Outcome Told

/-- The capacity of the body with which the node first answered for a cell. -/
def liveCapacity (log : List Event) (p : OutPoint) : Int :=
  ((firstBody log p).map fun b => b.output.capacity).getD 0

/-- What the inputs are worth by these bodies. -/
def liveWorth (log : List Event) (tx : Transaction) : Int :=
  ((tx.inputs.map CellInput.previous).map (liveCapacity log)).sum

/-- What the outputs leave of them. -/
def liveFee (log : List Event) (tx : Transaction) : Int := liveWorth log tx - paid tx

/-- Where the index is wrong, what is sent can cost more than the ceiling: a record of two hundred coins for a cell of
three hundred. -/
theorem live_fee_above_ceiling :
    ¬ ∀ (w : Wallet Told) (replies : Replies), w.node = replies.node → ∀ (request : Request) (skipCheck : Bool)
      (past : List Event) (tx : Transaction) (answer : Except NodeFault Bytes),
      .send tx answer ∈ ((run w request skipCheck).talk past).2 → ∀ fee : Nat, Amount.parse request.fee = .ok fee →
        fee ≤ liveFee ((run w request skipCheck).talk past).2 tx ∧
          liveFee ((run w request skipCheck).talk past).2 tx ≤ w.limits.fee := by
  intro hall
  obtain ⟨tx, answer, hs, hi, ho⟩ := Sample.exists_send
  obtain ⟨-, hbody⟩ := Sample.sent_of_run
  have hfee := Request.Reads.fee (Request.reads_of_validate CellPurse.Sample.validate_request).2
  obtain ⟨-, hle⟩ := hall (Sample.wallet Amount.coin) Sample.replies rfl CellPurse.Sample.request false [] tx answer hs
    _ hfee
  have hlive : liveWorth ((run (Sample.wallet Amount.coin) CellPurse.Sample.request).talk []).2 tx = 30000000000 := by
    unfold liveWorth
    rw [hi, List.map_singleton, liveCapacity, hbody]
    rfl
  have hpaid : paid tx = 19999900000 := by
    unfold paid
    rw [ho]
    rfl
  have hlow : liveFee ((run (Sample.wallet Amount.coin) CellPurse.Sample.request).talk []).2 tx ≤ 100000000 := hle
  unfold liveFee at hlow
  omega

/-- **The ceiling holds by the records.**  For every input of what is sent the node gave one body, and the fee by these
bodies is between the one asked for and the ceiling, both shifted by what the bodies are worth more than the records. -/
theorem live_fee_of_records (w : Wallet Told) (replies : Replies) (hw : w.node = replies.node) (request : Request)
    (skipCheck : Bool) (past : List Event) (tx : Transaction) (answer : Except NodeFault Bytes)
    (hs : .send tx answer ∈ ((run w request skipCheck).talk past).2) :
    ∃ h : Hand, h.Ready w request ∧ Amount.parse request.fee = .ok h.order.fee ∧
      (∀ i ∈ tx.inputs, ∃ body, firstBody ((run w request skipCheck).talk past).2 i.previous = some body ∧
        ∀ v ∈ ((run w request skipCheck).talk past).2, ∀ body', v.body? i.previous = some body' → body' = body) ∧
      let shift : Int := liveWorth ((run w request skipCheck).talk past).2 tx - worth h.selection.cells
      h.order.fee + shift ≤ liveFee ((run w request skipCheck).talk past).2 tx ∧
        liveFee ((run w request skipCheck).talk past).2 tx ≤ w.limits.fee + shift := by
  obtain ⟨h, left, bodies, hr, hleft, hsteady, hbodies, hi, ho, hd⟩ := run_send hw hs
  have hprevious : tx.inputs.map CellInput.previous = h.selection.cells.map LiveCell.outPoint := by
    rw [hi]
    exact map_previous_inputs hbodies
  obtain ⟨hlow, hhigh⟩ := (balanced_of_made hr hleft hprevious ho hd).fee
  refine ⟨h, hr, hr.reads.fee, fun i hin => ?_, ?_⟩
  · have hmem : i.previous ∈ h.selection.cells.map LiveCell.outPoint := hprevious ▸ List.mem_map_of_mem hin
    obtain ⟨c, hc, hpoint⟩ := List.mem_map.mp hmem
    obtain ⟨body, hbody⟩ := exists_of_forall₂ hbodies hc
    rw [hpoint] at hbody
    refine ⟨body, hbody, fun v hv body' hbody' => ?_⟩
    exact Option.some.inj ((hsteady v hv _ _ hbody').symm.trans hbody)
  · unfold Hand.feeOf at hlow hhigh
    unfold liveFee
    dsimp only
    omega

theorem live_fee_of_records_sample : ∃ tx answer,
    .send tx answer ∈ ((run (Sample.wallet Amount.coin) CellPurse.Sample.request).talk []).2 ∧
      ∃ h : Hand, h.Ready (Sample.wallet Amount.coin) CellPurse.Sample.request ∧
        let shift : Int :=
          liveWorth ((run (Sample.wallet Amount.coin) CellPurse.Sample.request).talk []).2 tx - worth h.selection.cells
        h.order.fee + shift ≤ liveFee ((run (Sample.wallet Amount.coin) CellPurse.Sample.request).talk []).2 tx ∧
          liveFee ((run (Sample.wallet Amount.coin) CellPurse.Sample.request).talk []).2 tx ≤ Amount.coin + shift := by
  obtain ⟨tx, answer, hs, -, -⟩ := Sample.exists_send
  obtain ⟨h, hready, -, -, hfee⟩ := live_fee_of_records (Sample.wallet Amount.coin) Sample.replies rfl
    CellPurse.Sample.request false [] tx answer hs
  exact ⟨tx, answer, hs, h, hready, hfee⟩

end CellPurse.Transfer
