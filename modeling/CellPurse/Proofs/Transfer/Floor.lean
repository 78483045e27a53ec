import CellPurse.Proofs.Transfer.Balance
import CellPurse.Proofs.Transfer.Identities

/-!
# CellPurse.Proofs.Transfer.Floor — whether what is sent can live

A cell must hold a coin for each byte that it takes: eight for the capacity, 33 for the code of its lock, and the
arguments of the lock and the data.  The floor of a transfer is that of the arguments of one key.

* `CellOutput.Lives o data`: the cell holds enough for its bytes;
* `made_of_sent`: the outputs of what is sent are the payment and the change;
* `payment_below_bytes`: a payment to a time-locked policy may hold too little;
* `outputs_live`: everything else that is sent lives, and such a payment lacks eight coins at most.
-/

namespace CellPurse

open Outcome Told

/-- What the bytes of a cell cost: its capacity, the code of its lock, the arguments of its lock, its data. -/
def CellOutput.occupied (o : CellOutput) (data : Bytes) : Int :=
  (8 + 32 + 1 + o.lock.args.length + data.length) * Amount.coin

/-- The cell holds enough for its bytes. -/
def CellOutput.Lives (o : CellOutput) (data : Bytes) : Prop := o.occupied data ≤ o.capacity

namespace Funding

variable {keyring : Option Keyring} {limits : Limits} {order : Order} {funding : Funding}

/-- Change goes to the lock of one key. -/
theorem Owned.length_changeLock (ho : order.Sound keyring.isSome) (h : Owned keyring limits order funding) :
    funding.changeLock.args.length = System.keyHashSize := by
  cases h with
  | alone => exact ho.payer
  | derived found => exact (ho.changeLock _ (derivedKeys_eq_some found).1).2

end Funding

namespace Transfer

variable {w : Wallet Told} {replies : Replies} {request : Request} {skipCheck : Bool} {past : List Event}

theorem Hand.Ready.length_changeLock {h : Hand} (hr : h.Ready w request) :
    h.funding.changeLock.args.length = System.keyHashSize := by
  obtain ⟨genesis, _, _, hres⟩ := hr.resolved
  rw [Funding.resolve_eq] at hres
  obtain ⟨own, _, _, hown, hsource, -⟩ := ends_bind_ok_iff.mp hres
  have hsize := (Funding.ends_owned_ok hown).length_changeLock hr.sound
  rcases Funding.ends_addSource_ok hsource with ⟨-, hfunding, -⟩ | ⟨_, _, _, -, -, -, -, hfunding⟩
  · rw [hfunding]
    exact hsize
  · rw [hfunding]
    exact hsize

/-- Each output of what is sent, with its data, is the payment or the change. -/
theorem made_of_sent (hw : w.node = replies.node) {tx : Transaction} {answer : Except NodeFault Bytes}
    (hs : .send tx answer ∈ ((run w request skipCheck).talk past).2) {o : CellOutput} {data : Bytes}
    (ho : (o, data) ∈ tx.outputs.zip tx.outputsData) :
    ∃ h : Hand, h.Ready w request ∧
      ((o = h.payment ∧ data = h.order.data) ∨
        (∃ left : Int, w.limits.cell ≤ left ∧ o = { capacity := left, lock := h.funding.changeLock } ∧ data = [])) := by
  obtain ⟨h, left, bodies, hr, -, -, -, -, houtputs, hdata⟩ := run_send hw hs
  rw [houtputs, hdata, List.zip_map'] at ho
  obtain ⟨out, hout, he⟩ := List.mem_map.mp ho
  cases he
  refine ⟨h, hr, ?_⟩
  unfold made at hout
  rcases List.mem_cons.mp hout with rfl | hout
  · exact .inl ⟨rfl, rfl⟩
  · split at hout
    · next hcell =>
      rw [List.mem_singleton.mp hout]
      exact .inr ⟨left, hcell, rfl, rfl⟩
    · cases hout

/-- A payment holds enough for its data and for the arguments of one key. -/
theorem Hand.Ready.le_payment (hl : w.limits = .usual) {h : Hand} (hr : h.Ready w request) :
    (61 + h.order.data.length) * (Amount.coin : Int) ≤ h.order.amount := by
  have hroom := hr.reads.room
  rw [hl, ← hr.reads.data] at hroom
  have hfloor : Limits.usual.cell = 61 * Amount.coin := rfl
  rw [hfloor, ← Nat.add_mul] at hroom
  exact_mod_cast hroom

/-- **What is sent lives**, but for one kind of payment: with the usual bounds every output whose lock has the arguments
of one key, or of a policy alone, holds enough for its bytes.  An output whose lock has a time lock as well is the
payment, and it may lack what the eight bytes of the time lock cost. -/
theorem outputs_live (w : Wallet Told) (replies : Replies) (hw : w.node = replies.node) (hl : w.limits = .usual)
    (request : Request) (skipCheck : Bool) (past : List Event) (tx : Transaction) (answer : Except NodeFault Bytes)
    (hs : .send tx answer ∈ ((run w request skipCheck).talk past).2) :
    tx.outputs.length = tx.outputsData.length ∧
      ∀ o data, (o, data) ∈ tx.outputs.zip tx.outputsData → o.type = none ∧
        ((o.lock.args.length = System.keyHashSize ∧ o.Lives data) ∨
          (o.lock.args.length = System.lockedArgsSize ∧ (∃ h : Hand, h.Ready w request ∧ o = h.payment) ∧
            o.occupied data ≤ o.capacity + 8 * Amount.coin)) := by
  constructor
  · obtain ⟨h, left, bodies, -, -, -, -, -, houtputs, hdata⟩ := run_send hw hs
    rw [houtputs, hdata, List.length_map, List.length_map]
  · intro o data ho
    obtain ⟨h, hr, ⟨rfl, rfl⟩ | ⟨left, hcell, rfl, rfl⟩⟩ := made_of_sent hw hs ho
    · -- the payment
      have hpaid := hr.le_payment hl
      have hsize : h.payment.lock.args.length = System.keyHashSize ∨
          h.payment.lock.args.length = System.lockedArgsSize := Address.size_of_isDestination hr.sound.destination
      have hcapacity : h.payment.capacity = h.order.amount := rfl
      refine ⟨rfl, ?_⟩
      unfold CellOutput.Lives CellOutput.occupied
      rw [hcapacity]
      rcases hsize with hsize | hsize
      · refine .inl ⟨hsize, ?_⟩
        rw [hsize]
        simp only [System.keyHashSize, Amount.coin] at hpaid ⊢
        omega
      · refine .inr ⟨hsize, ⟨h, hr, rfl⟩, ?_⟩
        rw [hsize]
        simp only [System.lockedArgsSize, Amount.coin] at hpaid ⊢
        omega
    · -- the change
      have hsize := hr.length_changeLock
      refine ⟨rfl, .inl ⟨hsize, ?_⟩⟩
      unfold CellOutput.Lives CellOutput.occupied
      rw [hl] at hcell
      simp only [hsize, System.keyHashSize, Limits.usual, Amount.coin, List.length_nil] at hcell ⊢
      omega

namespace Sample

open CellPurse.Sample (secret)

/-- The floor, paid to a policy with a time lock. -/
def toTimeLock : Request where
  toAddress := "ckt1qpw9q60tppt7l3j7r09qcp7lxnp3vcanvgha8pmvsa3jplykxn32sqgpqyqszqgpqyqszqgpqyqszqgpqyqszqgpqyqszqgpqyqs79v9fq"
  amount := "61"
  fee := "0.001"
  secret := some "0000000000000000000000000000000000000000000000000000000000000001"

theorem outputs_of_toTimeLock :
    (((run (wallet Amount.coin) toTimeLock).talk []).2.filterMap sent?).map
        (fun tx => (tx.outputs.zip tx.outputsData).map fun o => (o.1.capacity, o.1.lock.args.length, o.2)) =
      [[(6100000000, 28, []), (13899900000, 20, [])]] := by
  decide +kernel

theorem exists_outputs : ∃ (tx : Transaction) (answer : Except NodeFault Bytes) (payment change : CellOutput),
    .send tx answer ∈ ((run (wallet Amount.coin) toTimeLock).talk []).2 ∧
      tx.outputs.zip tx.outputsData = [(payment, []), (change, [])] ∧ payment.capacity = 61 * (Amount.coin : Int) ∧
        payment.lock.args.length = System.lockedArgsSize ∧ change.lock.args.length = System.keyHashSize := by
  obtain ⟨tx, answer, hs, heq⟩ := exists_of_sent outputs_of_toTimeLock
  obtain ⟨⟨payment, data⟩, rest, hzip, hfirst, hrest⟩ := List.map_eq_cons_iff.mp heq
  obtain ⟨⟨change, data'⟩, others, rfl, hsecond, hnone⟩ := List.map_eq_cons_iff.mp hrest
  obtain ⟨hcapacity, hargs, rfl⟩ : payment.capacity = _ ∧ payment.lock.args.length = _ ∧ data = [] := by
    simpa using hfirst
  obtain ⟨-, hargs', rfl⟩ : change.capacity = _ ∧ change.lock.args.length = _ ∧ data' = [] := by
    simpa using hsecond
  rw [List.map_eq_nil_iff.mp hnone] at hzip
  exact ⟨tx, answer, payment, change, hs, hzip, hcapacity, hargs, hargs'⟩

end Sample

/-- With the usual bounds 61 coins are paid to a policy with a time lock; the cell would have to hold 69. -/
theorem payment_below_bytes : (Sample.wallet Amount.coin).limits = .usual ∧
    ∃ (tx : Transaction) (answer : Except NodeFault Bytes) (o : CellOutput) (data : Bytes),
    .send tx answer ∈ ((run (Sample.wallet Amount.coin) Sample.toTimeLock).talk []).2 ∧
      (o, data) ∈ tx.outputs.zip tx.outputsData ∧ o.capacity = 61 * (Amount.coin : Int) ∧
        o.occupied data = 69 * (Amount.coin : Int) ∧ ¬ o.Lives data := by
  obtain ⟨tx, answer, payment, change, hs, hzip, hcapacity, hargs, -⟩ := Sample.exists_outputs
  have hoccupied : payment.occupied [] = 69 * (Amount.coin : Int) := by
    unfold CellOutput.occupied
    rw [hargs]
    rfl
  refine ⟨rfl, tx, answer, payment, [], hs, hzip ▸ List.mem_cons_self, hcapacity, hoccupied, ?_⟩
  unfold CellOutput.Lives
  rw [hoccupied, hcapacity]
  decide

theorem outputs_live_sample : ∃ (tx : Transaction) (answer : Except NodeFault Bytes) (payment change : CellOutput),
    .send tx answer ∈ ((run (Sample.wallet Amount.coin) Sample.toTimeLock).talk []).2 ∧
      tx.outputs.zip tx.outputsData = [(payment, []), (change, [])] ∧
        payment.occupied [] ≤ payment.capacity + 8 * Amount.coin ∧ change.Lives [] := by
  obtain ⟨tx, answer, payment, change, hs, hzip, -, hargs, hargs'⟩ := Sample.exists_outputs
  obtain ⟨-, hall⟩ := outputs_live (Sample.wallet Amount.coin) Sample.replies rfl rfl Sample.toTimeLock false [] tx
    answer hs
  obtain ⟨-, hpayment⟩ := hall payment [] (hzip ▸ List.mem_cons_self)
  obtain ⟨-, hchange⟩ := hall change [] (hzip ▸ List.mem_cons_of_mem _ List.mem_cons_self)
  have hne : System.keyHashSize ≠ System.lockedArgsSize := by decide
  refine ⟨tx, answer, payment, change, hs, hzip, ?_, ?_⟩
  · rcases hpayment with ⟨hsize, -⟩ | ⟨-, -, hle⟩
    · exact absurd (hsize.symm.trans hargs) hne
    · exact hle
  · rcases hchange with ⟨-, hlives⟩ | ⟨hsize, -⟩
    · exact hlives
    · exact absurd (hargs'.symm.trans hsize) hne

end Transfer

end CellPurse
