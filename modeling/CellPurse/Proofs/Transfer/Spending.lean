import CellPurse.Proofs.Transfer.Stages

/-!
# CellPurse.Proofs.Transfer.Spending — what a run does with its hand

* `firstBody log p`: the body with which the node first answered for the cell `p`; `Steady log`: there is no other;
* `ends_fetch_ok`, `ends_addInputs_ok`: the inputs are the selected cells in their order, each with the lock of the body
  that the node first answered with;
* `ends_balance_ok`: the payment and the change, `fee_of_ends_balance`: a fault with the fee is one of `rest`;
* `passes_spend`: what is sent is the balanced draft, signed and finished; a fault with the fee comes from balancing.
-/

namespace CellPurse

open Outcome Told

/-! ## Answers of the node -/

namespace Event

/-- The body of the cell `p` with which the node answered. -/
def body? (p : OutPoint) : Event → Option CellBody
  | cell q _ (.ok answer) => if q = p then answer else none
  | _ => none

/-- A transaction is sent. -/
def IsSend : Event → Prop
  | send .. => True
  | _ => False

theorem body?_of_isQuiet {v : Event} (h : v.IsQuiet) (p : OutPoint) : v.body? p = none := by
  cases v <;> first | rfl | exact h.elim

end Event

/-- The body with which the node first answered for the cell `p`. -/
def firstBody (log : List Event) (p : OutPoint) : Option CellBody := log.findSome? (Event.body? p)

theorem firstBody_append (a b : List Event) (p : OutPoint) :
    firstBody (a ++ b) p = (firstBody a p).or (firstBody b p) := List.findSome?_append

/-- The first answer stays the first one. -/
theorem firstBody_append_of_some {a : List Event} {p : OutPoint} {body : CellBody} (h : firstBody a p = some body)
    (b : List Event) : firstBody (a ++ b) p = some body := by
  rw [firstBody_append, h]
  rfl

theorem firstBody_eq_none {log : List Event} {p : OutPoint} (h : ∀ v ∈ log, v.body? p = none) :
    firstBody log p = none := List.findSome?_eq_none_iff.mpr h

/-- No cell has two bodies in a log. -/
def Steady (log : List Event) : Prop := ∀ v ∈ log, ∀ p body, v.body? p = some body → firstBody log p = some body

/-- What says nothing of bodies does not matter. -/
theorem Steady.surround {log before after : List Event} (h : Steady log) (hb : ∀ v ∈ before, ∀ p, v.body? p = none)
    (ha : ∀ v ∈ after, ∀ p, v.body? p = none) : Steady (before ++ (log ++ after)) := by
  intro v hv p body hbody
  have hlog : v ∈ log := by
    rcases List.mem_append.mp hv with hv | hv
    · rw [hb v hv p] at hbody
      cases hbody
    · rcases List.mem_append.mp hv with hv | hv
      · exact hv
      · rw [ha v hv p] at hbody
        cases hbody
  rw [firstBody_append, firstBody_eq_none fun v hv => hb v hv p]
  exact firstBody_append_of_some (h v hlog p body hbody) after

namespace Transfer

section Inputs

variable {replies : Replies} {skipCheck : Bool} {past new log : List Event}

/-- What is known of the cells is what the node first answered, and it is asked for no cell again. -/
theorem ends_fetch_ok {known known' : Assoc OutPoint CellBody} {p : OutPoint} {cell : CellBody}
    (hknown : ∀ q, known.get? q = firstBody log q) (hlog : Steady log)
    (h : Ends (fetch replies.node known p) past (.ok (cell, known')) new) :
    (∀ q, known'.get? q = firstBody (log ++ new) q) ∧ Steady (log ++ new) ∧
      firstBody (log ++ new) p = some cell := by
  unfold fetch at h
  cases hp : known.get? p with
  | some body =>
    rw [hp] at h
    obtain ⟨he, rfl⟩ := ends_pure_iff.mp h
    cases he
    rw [List.append_nil]
    exact ⟨hknown, hlog, hknown p ▸ hp⟩
  | none =>
    rw [hp] at h
    obtain ⟨answer, asked, rest, hask, h, rfl⟩ := ends_bind_ok_iff.mp h
    obtain ⟨q, hq, hanswer⟩ := ends_adapt_iff.mp hask
    obtain ⟨rfl, rfl⟩ := ends_ask_iff.mp hq
    rw [mapError_eq_ok_iff.mp hanswer.symm]
    cases answer with
    | none => cases (ends_throw_iff.mp h).1
    | some body =>
      obtain ⟨he, rfl⟩ := ends_pure_iff.mp h
      cases he
      have hall : ∀ q, (known.set p cell).get? q =
          firstBody (log ++ ([.cell p false (.ok (some cell))] ++ [])) q := fun q => by
        rw [Assoc.get?_set, hknown, firstBody_append]
        by_cases hpq : p = q
        · subst hpq
          rw [← hknown, hp]
          simp [firstBody, Event.body?]
        · simp [firstBody, Event.body?, hpq]
      have hthis : firstBody (log ++ ([.cell p false (.ok (some cell))] ++ [])) p = some cell := by
        rw [← hall p, Assoc.get?_set, if_pos rfl]
      refine ⟨hall, fun v hv q body hbody => ?_, hthis⟩
      rcases List.mem_append.mp hv with hv | hv
      · exact firstBody_append_of_some (hlog v hv q body hbody) _
      · rw [List.append_nil] at hv
        rw [List.mem_singleton.mp hv] at hbody
        obtain ⟨rfl, hcell⟩ := Option.ite_none_right_eq_some.mp hbody
        exact hcell ▸ hthis

/-- The input for a cell with a body. -/
def inputOf (c : LiveCell) (body : CellBody) : DraftInput :=
  ⟨⟨c.outPoint, Draft.sinceOf body.output.lock⟩, body.output.lock⟩

/-- The inputs are the cells in their order, with the bodies that the node first answered with. -/
theorem ends_addInputs_ok {known : Assoc OutPoint CellBody} {draft draft' : Draft} {cells : List LiveCell}
    (hknown : ∀ q, known.get? q = firstBody log q) (hlog : Steady log)
    (h : Ends (addInputs replies.node skipCheck known draft cells) past (.ok draft') new) :
    Steady (log ++ new) ∧ ∃ bodies, List.Forall₂ (fun c b => firstBody (log ++ new) c.outPoint = some b) cells bodies ∧
      draft' = { draft with inputs := draft.inputs ++ List.zipWith inputOf cells bodies } := by
  induction cells generalizing known draft past new log with
  | nil =>
    obtain ⟨he, rfl⟩ := ends_pure_iff.mp h
    cases he
    rw [List.append_nil]
    exact ⟨hlog, [], .nil, by simp⟩
  | cons c r ih =>
    rw [addInputs] at h
    obtain ⟨⟨body, known'⟩, first, rest, hfetch, hrest, rfl⟩ := ends_bind_ok_iff.mp h
    obtain ⟨added, quiet, more, hadd, hmore, rfl⟩ := ends_bind_ok_iff.mp hrest
    obtain ⟨hadded, rfl⟩ := ends_step_iff.mp hadd
    obtain ⟨hknown', hlog', hbody⟩ := ends_fetch_ok hknown hlog hfetch
    obtain ⟨hsteady, bodies, hbodies, hd⟩ := ih hknown' hlog' hmore
    obtain ⟨-, -, rfl⟩ := Draft.addInput_eq_ok_iff.mp (mapError_eq_ok_iff.mp hadded.symm)
    rw [List.append_assoc] at hsteady hbodies
    refine ⟨hsteady, body :: bodies, .cons ?_ hbodies, ?_⟩
    · rw [← List.append_assoc]
      exact firstBody_append_of_some hbody _
    · rw [hd]
      simp [inputOf]

end Inputs

/-! ## Balancing -/

section Rest

variable {limits : Limits} {order : Order} {selected : Nat}

/-- What is left is not negative by itself: it makes a cell, or the ceiling allows to give it away with the fee. -/
theorem rest_eq_ok_iff {left : Int} : rest limits order selected = .ok left ↔
    order.fee ≤ limits.fee ∧ left = selected - order.amount - order.fee ∧
      (limits.cell ≤ left ∨ order.fee + left ≤ limits.fee) := by
  unfold rest
  dsimp only
  split_ifs with h h'
  · rw [false_iff]
    omega
  · rw [false_iff]
    omega
  · rw [Except.ok.injEq]
    omega

theorem rest_eq_error {f : TransferFault} (h : rest limits order selected = .error f) :
    limits.fee < order.fee ∨
      ((selected : Int) - order.amount - order.fee < limits.cell ∧ (limits.fee : Int) < selected - order.amount) := by
  unfold rest at h
  dsimp only at h
  split_ifs at h with h' h''
  · exact .inl h'
  · exact .inr ⟨h''.1, by omega⟩

/-- The payment, and the change where it makes a cell. -/
def made (limits : Limits) (order : Order) (changeLock : Script) (left : Int) : List DraftOutput :=
  ⟨{ capacity := order.amount, lock := order.destination.script }, order.data⟩ ::
    if limits.cell ≤ left then [⟨{ capacity := left, lock := changeLock }, []⟩] else []

theorem addOutputs_eq_ok {changeLock : Script} {left : Int} {d d' : Draft}
    (h : addOutputs limits order changeLock left d = .ok d') :
    d' = { d with outputs := d.outputs ++ made limits order changeLock left } := by
  unfold addOutputs at h
  obtain ⟨paid, hp, h⟩ := bind_eq_ok_iff.mp h
  obtain ⟨-, rfl⟩ := Draft.addOutput_eq_ok_iff.mp hp
  unfold made
  split_ifs at h ⊢
  · obtain ⟨-, rfl⟩ := Draft.addOutput_eq_ok_iff.mp h
    simp
  · exact (pure_eq_ok_iff.mp h).symm

end Rest

section Balance

variable {w : Wallet Told} {replies : Replies} {order : Order} {funding : Funding} {s : Selection} {skipCheck : Bool}
  {draft : Draft} {past new : List Event}

theorem within_fetch (known : Assoc OutPoint CellBody) (p : OutPoint) :
    Within (fun e => ¬ e.IsFee) (fun v => ¬ v.IsSend) (fetch replies.node known p) := by
  unfold fetch
  split
  · exact within_pure _
  · have hask : Within (fun _ => True) (fun v => ¬ v.IsSend) (replies.node.cell p false) :=
      within_ask (fun _ => trivial) fun _ => id
    refine (hask.adapt fun _ _ => id).bind fun answer => ?_
    cases answer with
    | none => exact within_throw id
    | some body => exact within_pure _

theorem within_addInputs (known : Assoc OutPoint CellBody) (draft : Draft) (cells : List LiveCell) :
    Within (fun e => ¬ e.IsFee) (fun v => ¬ v.IsSend) (addInputs replies.node skipCheck known draft cells) := by
  induction cells generalizing known draft with
  | nil => exact within_pure draft
  | cons c r ih =>
    refine (within_fetch known c.outPoint).bind fun fetched => ?_
    exact (within_step (faults_mapError (fun _ => id) _)).bind fun added => ih _ _

/-- Balancing sends nothing, and once the rest is known it finds no fault with the fee. -/
theorem within_balance (hw : w.node = replies.node) {P : TransferFault → Prop}
    (hrest : Faults P (rest w.limits order s.capacity)) (hP : ∀ e, ¬ e.IsFee → P e) :
    Within P (fun v => ¬ v.IsSend) (balance w order funding s skipCheck draft) := by
  unfold balance
  rw [hw]
  refine (within_step hrest).bind fun left => ?_
  refine ((within_addInputs _ _ _).mono hP fun _ => id).bind fun filled => ?_
  refine (within_step (faults_mapError (fun _ => hP _ id) _)).bind fun balanced => ?_
  split
  · exact (within_note id).bind fun _ => within_pure _
  · exact within_pure _

theorem not_isSend_of_ends_balance (hw : w.node = replies.node) {r : Except TransferFault Draft}
    (h : Ends (balance w order funding s skipCheck draft) past r new) : ∀ v ∈ new, ¬ v.IsSend :=
  (within_balance hw (P := fun _ => True) (fun _ _ => trivial) (fun _ _ => trivial) _ _ _ h).2

/-- A fault with the fee is one of the rest. -/
theorem fee_of_ends_balance (hw : w.node = replies.node) {f : TransferFault} (hf : f.IsFee)
    (h : Ends (balance w order funding s skipCheck draft) past (.error f) new) :
    rest w.limits order s.capacity = .error f := by
  cases hr : rest w.limits order s.capacity with
  | ok left =>
    have hok : Faults (fun e => ¬ e.IsFee) (rest w.limits order s.capacity) := hr ▸ nofun
    exact absurd hf ((within_balance hw hok (fun _ => id) _ _ _ h).1 f rfl)
  | error e =>
    unfold balance at h
    rcases ends_bind_iff.mp h with ⟨e', he, h1⟩ | ⟨left, _, _, h1, -, -⟩
    · cases he
      rw [hr] at h1
      exact (ends_step_iff.mp h1).1.symm
    · rw [hr] at h1
      cases (ends_step_iff.mp h1).1

/-- What balancing does: it finds the rest, adds the inputs and then the outputs. -/
theorem steps_of_ends_balance {draft' : Draft}
    (h : Ends (balance w order funding s skipCheck draft) past (.ok draft') new) :
    ∃ left filled asked last, rest w.limits order s.capacity = .ok left ∧
      Ends (addInputs w.node skipCheck [] draft s.cells) past (.ok filled) asked ∧
      addOutputs w.limits order funding.changeLock left filled = .ok draft' ∧ new = asked ++ last ∧
      ∀ v ∈ last, v.IsNote := by
  obtain ⟨left, hleft, h⟩ := ends_step_bind_ok_iff.mp h
  obtain ⟨filled, asked, last, hfilled, hrest, rfl⟩ := ends_bind_ok_iff.mp h
  obtain ⟨balanced, hmade, hend⟩ := ends_step_bind_ok_iff.mp hrest
  have hmade := mapError_eq_ok_iff.mp hmade
  split at hend
  · obtain ⟨more, hmore, rfl⟩ := ends_note_bind_iff.mp hend
    obtain ⟨he, rfl⟩ := ends_pure_iff.mp hmore
    cases he
    exact ⟨left, filled, asked, _, hleft, hfilled, hmade, rfl, List.forall_mem_singleton.mpr trivial⟩
  · obtain ⟨he, rfl⟩ := ends_pure_iff.mp hend
    cases he
    exact ⟨left, filled, asked, _, hleft, hfilled, hmade, rfl, List.forall_mem_nil _⟩

/-- **A balanced draft** has an input for each selected cell, and the payment and the change as outputs. -/
theorem ends_balance_ok (hw : w.node = replies.node) {draft' : Draft}
    (h : Ends (balance w order funding s skipCheck draft) past (.ok draft') new) :
    ∃ left bodies, rest w.limits order s.capacity = .ok left ∧ Steady new ∧
      List.Forall₂ (fun c b => firstBody new c.outPoint = some b) s.cells bodies ∧
      draft' = { draft with
        inputs := draft.inputs ++ List.zipWith inputOf s.cells bodies
        outputs := draft.outputs ++ made w.limits order funding.changeLock left } := by
  obtain ⟨left, filled, asked, last, hleft, hfilled, hmade, rfl, hlast⟩ := steps_of_ends_balance h
  rw [hw] at hfilled
  have hnone : ∀ q, Assoc.get? q ([] : Assoc OutPoint CellBody) = firstBody [] q := fun _ => rfl
  obtain ⟨hsteady, bodies, hbodies, rfl⟩ := ends_addInputs_ok hnone (List.forall_mem_nil _) hfilled
  have hquiet : ∀ v ∈ last, ∀ p, v.body? p = none := fun v hv => Event.body?_of_isQuiet (hlast v hv).isQuiet
  refine ⟨left, bodies, hleft, hsteady.surround (List.forall_mem_nil _) hquiet, hbodies.imp fun c b hb => ?_, ?_⟩
  · exact firstBody_append_of_some hb _
  · exact addOutputs_eq_ok hmade

end Balance

/-! ## Signing and sending -/

section Send

variable {w : Wallet Told} {replies : Replies} {order : Order} {funding : Funding} {draft : Draft}

/-- Signatures change nothing else. -/
theorem addSignatures_eq_ok {signatures : List (Script × Bytes)} {d d' : Draft}
    (h : addSignatures d signatures = .ok d') : ∃ all, d' = { d with signatures := all } := by
  induction signatures generalizing d with
  | nil =>
    cases pure_eq_ok_iff.mp h
    exact ⟨_, rfl⟩
  | cons s r ih =>
    unfold addSignatures at h
    rw [List.foldlM_cons] at h
    obtain ⟨signed, hs, h⟩ := bind_eq_ok_iff.mp h
    obtain ⟨-, -, rfl⟩ := Draft.addSignature_eq_ok_iff.mp hs
    obtain ⟨all, rfl⟩ := ih h
    exact ⟨all, rfl⟩

theorem within_signed : Within (fun e => ¬ e.IsFee) Event.IsNote (signed w order funding draft) := by
  refine .bind (within_step ?_) fun signer => ?_
  · unfold signer
    split
    · exact nofun
    · exact nofun
    · exact faults_throw id
  · refine .bind (within_step (faults_mapError (fun _ => id) _)) fun signatures => ?_
    exact .bind (within_note trivial) fun _ => within_step (faults_mapError (fun _ => id) _)

theorem ends_signed_ok {draft' : Draft} {past new : List Event}
    (h : Ends (signed w order funding draft) past (.ok draft') new) :
    ∃ all, draft' = { draft with signatures := all } := by
  obtain ⟨signer, -, h⟩ := ends_step_bind_ok_iff.mp h
  obtain ⟨signatures, -, h⟩ := ends_step_bind_ok_iff.mp h
  obtain ⟨_, h, -⟩ := ends_note_bind_iff.mp h
  exact addSignatures_eq_ok (mapError_eq_ok_iff.mp (ends_step_iff.mp h).1.symm)

/-- What comes after balancing says: notes, and the transaction of a finished draft. -/
def IsLast (signedDraft : Draft) (v : Event) : Prop :=
  v.IsNote ∨ ∃ tx answer finished, signedDraft.finish = .ok (tx, finished) ∧ v = .send tx answer

theorem IsLast.body?_eq_none {signedDraft : Draft} {v : Event} (h : IsLast signedDraft v) (p : OutPoint) :
    v.body? p = none := by
  rcases h with hn | ⟨tx, answer, finished, -, rfl⟩
  · exact Event.body?_of_isQuiet hn.isQuiet p
  · rfl

theorem within_submit (hw : w.node = replies.node) (draft : Draft) :
    Within (fun e => ¬ e.IsFee) (IsLast draft) (submit w draft) := by
  unfold submit
  rw [hw]
  refine .bind_of_ends (within_step (faults_mapError (fun _ => id) _)) fun finished ⟨_, _, hf⟩ => ?_
  have hfinish : draft.finish = .ok finished := mapError_eq_ok_iff.mp (ends_step_iff.mp hf).1.symm
  refine .bind (within_step (faults_mapError (fun _ => id) _)) fun hash => ?_
  refine .bind (within_note (.inl trivial)) fun _ => ?_
  have hsend : Within (fun _ => True) (IsLast draft) (replies.node.send finished.1) :=
    within_ask (fun _ => trivial) fun answer => .inr ⟨finished.1, answer, finished.2, hfinish, rfl⟩
  have hrefused : ∀ f, ¬ (refused f).IsFee := fun f => by
    unfold refused
    split <;> exact id
  refine .bind (hsend.adapt fun f _ => hrefused f) fun sent => ?_
  split
  · exact within_pure _
  · exact within_throw id

/-- The stages after balancing. -/
def deliver (w : Wallet Told) (hand : Hand) (draft : Draft) : Running Told Transaction := do
  enter .signing
  let draft ← work (signed w hand.order hand.funding draft)
  enter .finalizing
  let tx ← work (submit w draft)
  enter .submitted
  pure tx

theorem keeps_deliver (hw : w.node = replies.node) (hand : Hand) (balanced : Draft) :
    Keeps (fun e => ¬ e.IsFee) (fun v => ∃ all, IsLast { balanced with signatures := all } v)
      (deliver w hand balanced) := by
  have hnote : ∀ v : Event, v.IsNote → ∃ all, IsLast { balanced with signatures := all } v :=
    fun v hv => ⟨balanced.signatures, .inl hv⟩
  have hentered : ∀ s, ∃ all, IsLast { balanced with signatures := all } (announced s) := fun s => hnote _ trivial
  refine (keeps_enter (hentered _)).bind fun _ => ?_
  refine (keeps_work (within_signed.mono (fun _ => id) hnote)).bind_of_passes fun d ⟨_, _, _, _, hd⟩ => ?_
  obtain ⟨all, rfl⟩ := ends_signed_ok (passes_work_iff.mp hd).1
  refine (keeps_enter (hentered _)).bind fun _ => ?_
  refine (keeps_work ((within_submit hw _).mono (fun _ => id) fun v hv => ⟨all, hv⟩)).bind fun tx => ?_
  exact (keeps_enter (hentered _)).bind fun _ => keeps_pure tx

/-- How spending ends: a fault with the fee is one of the rest, and what is sent is the balanced draft, signed and
finished. -/
theorem passes_spend (hw : w.node = replies.node) {skipCheck : Bool} {hand : Hand} {past new : List Event}
    {trail trail' : List Stage} {r : Except TransferFault Transaction}
    (h : Passes (spend w skipCheck hand) past trail r trail' new) :
    (∀ f, r = .error f → f.IsFee → rest w.limits hand.order hand.selection.capacity = .error f) ∧
      ∀ tx answer, .send tx answer ∈ new → ∃ balanced all finished asked others,
        Ends (balance w hand.order hand.funding hand.selection skipCheck hand.draft) (past ++ [announced .balancing])
          (.ok balanced) asked ∧
        Draft.finish { balanced with signatures := all } = .ok (tx, finished) ∧
        (∀ v ∈ others, ∀ p, v.body? p = none) ∧ new = announced .balancing :: (asked ++ others) := by
  unfold spend at h
  obtain ⟨rest, hrest, rfl⟩ := passes_enter_bind_iff.mp h
  rcases passes_work_bind_iff.mp hrest with ⟨e, rfl, hbalance, -⟩ | ⟨balanced, asked, others, hbalance, hothers, rfl⟩
  · refine ⟨fun f hf hfee => fee_of_ends_balance hw hfee (Except.error.inj hf ▸ hbalance), fun tx answer hs => ?_⟩
    rcases List.mem_cons.mp hs with hs | hs
    · cases hs
    · exact absurd trivial (not_isSend_of_ends_balance hw hbalance _ hs)
  · obtain ⟨hfault, hlast⟩ := keeps_deliver hw hand balanced _ _ _ _ _ hothers
    have hbodies : ∀ v ∈ others, ∀ p, v.body? p = none := fun v hv p => by
      obtain ⟨all, hl⟩ := hlast v hv
      exact hl.body?_eq_none p
    refine ⟨fun f hf hfee => absurd hfee (hfault f hf), fun tx answer hs => ?_⟩
    rcases List.mem_cons.mp hs with hs | hs
    · cases hs
    rcases List.mem_append.mp hs with hs | hs
    · exact absurd trivial (not_isSend_of_ends_balance hw hbalance _ hs)
    obtain ⟨all, hn | ⟨tx', answer', finished, hfinish, he⟩⟩ := hlast _ hs
    · exact hn.elim
    · cases he
      exact ⟨balanced, all, finished, asked, others, hbalance, hfinish, hbodies, rfl⟩

end Send

end Transfer

end CellPurse
