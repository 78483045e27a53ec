import CellPurse.Proofs.Draft.Commitment
import CellPurse.Proofs.Transfer.Identities
import CellPurse.Proofs.Transfer.Partners
import CellPurse.Proofs.Transfer.Spending

/-!
# CellPurse.Proofs.Transfer.Sending — what is sent, and how often

* `prepared`, `dispatched`: a run up to the signed draft, and from there on;
* `Witnessed log d tx`: `tx` is the finished draft `d`, whose locks are those that the node answered with, and each of
  them has its signatures in the first witness of its group;
* `verdict`: what a run makes of the answer to a transaction; `ends_submit`: how a draft is submitted;
* `Sending log r`: nothing was sent and `r` is a fault, or one transaction was sent and `r` is the verdict;
* `sending_of_passes`: so it is in every run.
-/

namespace CellPurse

open Outcome Told

namespace Event

theorem isQuiet_of_permits {s : Stage} (hb : s ≠ .balancing) (hf : s ≠ .finalizing) {v : Event} (h : s.Permits v) :
    v.IsQuiet := by
  cases s with
  | balancing => exact absurd rfl hb
  | finalizing => exact absurd rfl hf
  | _ => cases v <;> trivial

theorem not_isSend_of_permits {s : Stage} (hf : s ≠ .finalizing) {v : Event} (h : s.Permits v) : ¬ v.IsSend := by
  cases v with
  | send tx answer => exact absurd (Stage.eq_finalizing h) hf
  | _ => exact id

theorem IsNote.not_isSend {v : Event} (h : v.IsNote) : ¬ v.IsSend := by
  cases v <;> first | exact id | exact h.elim

end Event

namespace Transfer

/-! ## Drafts -/

section Drafts

variable {genesis : Genesis} {d d' : Draft} {past new : List Event}

theorem reachable_of_addSource {order : Order} {funding funding' : Funding} (hd : Draft.Reachable genesis d)
    (h : Ends (Funding.addSource order d funding) past (.ok (funding', d')) new) : Draft.Reachable genesis d' := by
  rcases Funding.ends_addSource_ok h with ⟨-, -, rfl⟩ | ⟨source, policy, hash, -, hbind, hadd, -, -⟩
  · exact hd
  · obtain ⟨-, key, -, hmade⟩ := LockedSource.bind_eq_ok hbind
    exact hd.policy hmade hadd

theorem reachable_of_addInputs {node : Node Told} {skipCheck : Bool} {known : Assoc OutPoint CellBody}
    {cells : List LiveCell} (hd : Draft.Reachable genesis d)
    (h : Ends (addInputs node skipCheck known d cells) past (.ok d') new) : Draft.Reachable genesis d' := by
  induction cells generalizing known d past new with
  | nil =>
    cases (ends_pure_iff.mp h).1
    exact hd
  | cons c r ih =>
    obtain ⟨⟨body, known'⟩, _, _, -, h, -⟩ := ends_bind_ok_iff.mp h
    obtain ⟨added, _, _, hadd, h, -⟩ := ends_bind_ok_iff.mp h
    exact ih (hd.input (mapError_eq_ok_iff.mp (ends_step_iff.mp hadd).1.symm)) h

theorem reachable_of_addOutputs {limits : Limits} {order : Order} {changeLock : Script} {left : Int}
    (hd : Draft.Reachable genesis d) (h : addOutputs limits order changeLock left d = .ok d') :
    Draft.Reachable genesis d' := by
  obtain ⟨paid, hpaid, h⟩ := bind_eq_ok_iff.mp h
  split_ifs at h
  · exact (hd.output hpaid).output h
  · cases pure_eq_ok_iff.mp h
    exact hd.output hpaid

theorem reachable_of_balance {w : Wallet Told} {order : Order} {funding : Funding} {s : Selection} {skipCheck : Bool}
    (hd : Draft.Reachable genesis d) (h : Ends (balance w order funding s skipCheck d) past (.ok d') new) :
    Draft.Reachable genesis d' := by
  obtain ⟨left, filled, asked, last, -, hfilled, hmade, -, -⟩ := steps_of_ends_balance h
  exact reachable_of_addOutputs (reachable_of_addInputs hd hfilled) hmade

theorem reachable_of_addSignatures {signatures : List (Script × Bytes)} (hd : Draft.Reachable genesis d)
    (h : addSignatures d signatures = .ok d') : Draft.Reachable genesis d' := by
  induction signatures generalizing d with
  | nil =>
    cases pure_eq_ok_iff.mp h
    exact hd
  | cons s r ih =>
    unfold addSignatures at h
    rw [List.foldlM_cons] at h
    obtain ⟨signed, hs, h⟩ := bind_eq_ok_iff.mp h
    exact ih (hd.signature hs) h

end Drafts

/-! ## Up to the signed draft -/

section Prepared

variable {m : Type → Type} [Monad m] [Journal m]

/-- The stages up to the signed draft. -/
def prepared (w : Wallet m) (p : Partners) (request : Request) (skipCheck : Bool) : Running m Draft := do
  enter .validating
  let order ← work (validated w request)
  enter .resolving
  let (funding, draft) ← work (resolving w p order)
  enter .searching
  let s ← work (searching w p order funding)
  enter .balancing
  let draft ← work (balance w order funding s skipCheck draft)
  enter .signing
  work (signing p order funding draft)

/-- The stages that send a signed draft. -/
def dispatched (w : Wallet m) (draft : Draft) : Running m Transaction := do
  enter .finalizing
  let tx ← work (submit w draft)
  enter .submitted
  pure tx

theorem stagesWith_eq [LawfulMonad m] (w : Wallet m) (p : Partners) (request : Request) (skipCheck : Bool) :
    stagesWith w p request skipCheck = prepared w p request skipCheck >>= dispatched w := by
  simp only [stagesWith, fulfil, prepared, bind_assoc]
  rfl

end Prepared

section Sending

variable {w : Wallet Told} {replies : Replies} {p : Partners} {request : Request} {skipCheck : Bool}
  {past new : List Event} {trail trail' : List Stage}

/-- Nothing is sent before the draft is signed. -/
theorem keeps_prepared (w : Wallet Told) (replies : Replies) (p : Partners) (request : Request) (skipCheck : Bool) :
    Keeps (fun _ => True) (fun v => ¬ v.IsSend) (prepared (withNode w replies) p request skipCheck) := by
  have hpart {α : Type} {s : Stage} {x : Replies → ExceptT TransferFault Told α} (hx : Dialogue s.Permits x)
      (hs : s ≠ .finalizing) : Keeps (fun _ => True) (fun v => ¬ v.IsSend) (work (x replies)) :=
    keeps_work ((hx.within replies).mono (fun _ => id) fun _ => Event.not_isSend_of_permits hs)
  refine .bind (keeps_enter id) fun _ => .bind (hpart (dialogue_validated w request) nofun) fun order => ?_
  refine .bind (keeps_enter id) fun _ => .bind (hpart (dialogue_resolving w p order) nofun) fun resolved => ?_
  refine .bind (keeps_enter id) fun _ => .bind (hpart (dialogue_searching w p order _) nofun) fun s => ?_
  refine .bind (keeps_enter id) fun _ => .bind (hpart (dialogue_balance w order _ s skipCheck _) nofun) fun d => ?_
  exact .bind (keeps_enter id) fun _ => hpart (dialogue_signing p order _ d) nofun

theorem firstBody_append_of_quiet {a : List Event} (h : ∀ v ∈ a, v.IsQuiet) (b : List Event) (p : OutPoint) :
    firstBody (a ++ b) p = firstBody b p := by
  rw [firstBody_append, firstBody_eq_none fun v hv => Event.body?_of_isQuiet (h v hv) p]
  rfl

/-- A stage that is done, and what follows it. -/
theorem passes_stage_ok_iff {α β : Type} {s : Stage} {x : ExceptT TransferFault Told α} {f : α → Running Told β}
    {b : β} : Passes (enter s >>= fun _ => work x >>= f) past trail (.ok b) trail' new ↔
      ∃ a said rest, Ends x (past ++ [announced s]) (.ok a) said ∧
        Passes (f a) (past ++ [announced s] ++ said) (trail ++ [s]) (.ok b) trail' rest ∧
        new = announced s :: (said ++ rest) := by
  rw [passes_enter_bind_iff]
  constructor
  · rintro ⟨_, h, rfl⟩
    rcases passes_work_bind_iff.mp h with ⟨e, he, -⟩ | ⟨a, said, rest, hx, hf, rfl⟩
    · cases he
    · exact ⟨a, said, rest, hx, hf, rfl⟩
  · rintro ⟨a, said, rest, hx, hf, rfl⟩
    exact ⟨_, passes_work_bind_iff.mpr (.inr ⟨a, said, rest, hx, hf, rfl⟩), rfl⟩

theorem ends_resolving_ok {order : Order} {funding : Funding} {draft : Draft}
    (h : Ends (resolving w p order) past (.ok (funding, draft)) new) :
    (∃ genesis, Draft.Reachable genesis draft) ∧ draft.inputs = [] := by
  obtain ⟨genesis, _, _, -, h, -⟩ := ends_bind_ok_iff.mp h
  obtain ⟨primary, -, h⟩ := ends_step_bind_ok_iff.mp h
  obtain ⟨derived, -, h⟩ := ends_step_bind_ok_iff.mp h
  obtain ⟨found, _, _, -, h, -⟩ := ends_bind_ok_iff.mp h
  refine ⟨⟨genesis, reachable_of_addSource .fresh h⟩, ?_⟩
  rcases Funding.ends_addSource_ok h with ⟨-, -, rfl⟩ | ⟨_, _, _, -, -, hadd, -, -⟩
  · rfl
  · obtain ⟨-, _, -, rfl⟩ := Draft.addPolicy_eq_ok_iff.mp hadd
    rfl

theorem ends_signing_ok {order : Order} {funding : Funding} {d d' : Draft}
    (h : Ends (signing p order funding d) past (.ok d') new) :
    ∃ signatures, addSignatures d signatures = .ok d' := by
  obtain ⟨signatures, -, h⟩ := ends_step_bind_ok_iff.mp h
  obtain ⟨_, h, -⟩ := ends_note_bind_iff.mp h
  exact ⟨signatures, mapError_eq_ok_iff.mp (ends_step_iff.mp h).1.symm⟩

/-- The locks of a draft are those that the node first answered with. -/
def Located (log : List Event) (d : Draft) : Prop :=
  ∀ i ∈ d.inputs, ∃ body, firstBody log i.input.previous = some body ∧ body.output.lock = i.lock

/-- **A signed draft** was put together by steps, and its locks are those that the node answered with. -/
theorem prepared_ok {d : Draft}
    (h : Passes (prepared (withNode w replies) p request skipCheck) past trail (.ok d) trail' new) :
    (∃ genesis, Draft.Reachable genesis d) ∧ Located new d := by
  -- what is said before balancing asks for no cell
  have hquiet {α : Type} {s : Stage} {x : Replies → ExceptT TransferFault Told α} (hx : Dialogue s.Permits x)
      (hb : s ≠ .balancing) (hf : s ≠ .finalizing) {past said : List Event} {r : Except TransferFault α}
      (h : Ends (x replies) past r said) : ∀ v ∈ said, v.IsQuiet := fun v hv =>
    Event.isQuiet_of_permits hb hf ((hx.exchange h).said v hv)
  obtain ⟨order, _, _, hvalidated, h₁, rfl⟩ := passes_stage_ok_iff.mp h
  obtain ⟨⟨funding, resolved⟩, _, _, hresolving, h₂, rfl⟩ := passes_stage_ok_iff.mp h₁
  obtain ⟨s, _, _, hsearching, h₃, rfl⟩ := passes_stage_ok_iff.mp h₂
  obtain ⟨balanced, asked, _, hbalance, h₄, rfl⟩ := passes_stage_ok_iff.mp h₃
  obtain ⟨signed, hsigning, rfl⟩ := passes_enter_bind_iff.mp h₄
  have hquiet₁ := hquiet (dialogue_validated w request) nofun nofun hvalidated
  have hquiet₂ := hquiet (dialogue_resolving w p order) nofun nofun hresolving
  have hquiet₃ := hquiet (dialogue_searching w p order funding) nofun nofun hsearching
  obtain ⟨⟨genesis, hreach⟩, hnone⟩ := ends_resolving_ok hresolving
  obtain ⟨signatures, hadded⟩ := ends_signing_ok (passes_work_iff.mp hsigning).1
  refine ⟨⟨genesis, reachable_of_addSignatures (reachable_of_balance hreach hbalance) hadded⟩, fun i hi => ?_⟩
  obtain ⟨left, bodies, -, -, hbodies, rfl⟩ := ends_balance_ok rfl hbalance
  obtain ⟨all, rfl⟩ := addSignatures_eq_ok hadded
  have hi : i ∈ List.zipWith inputOf s.cells bodies := by
    rw [hnone, List.nil_append] at hi
    exact hi
  rw [← List.map_uncurry_zip_eq_zipWith] at hi
  obtain ⟨⟨c, body⟩, hmem, rfl⟩ := List.mem_map.mp hi
  refine ⟨body, ?_, rfl⟩
  show firstBody ([announced .validating] ++ (_ ++ ([announced .resolving] ++ (_ ++ ([announced .searching] ++
    (_ ++ ([announced .balancing] ++ (asked ++ _)))))))) c.outPoint = _
  have hannounced (s : Stage) : ∀ v ∈ [announced s], v.IsQuiet := List.forall_mem_singleton.mpr trivial
  rw [firstBody_append_of_quiet (hannounced _), firstBody_append_of_quiet hquiet₁,
    firstBody_append_of_quiet (hannounced _), firstBody_append_of_quiet hquiet₂,
    firstBody_append_of_quiet (hannounced _), firstBody_append_of_quiet hquiet₃,
    firstBody_append_of_quiet (hannounced _)]
  exact firstBody_append_of_some (List.forall₂_zip hbodies hmem) _

/-! ## From the signed draft on -/

/-- What a run makes of the answer to a transaction. -/
def verdict (tx : Transaction) (hash : Bytes) : Except NodeFault Bytes → Except TransferFault Transaction
  | .ok sent => if sent = hash then .ok tx else .error (.inconsistent sent hash)
  | .error f => .error (refused f)

theorem verdict_eq_ok_iff {tx tx' : Transaction} {hash : Bytes} {answer : Except NodeFault Bytes} :
    verdict tx hash answer = .ok tx' ↔ answer = .ok hash ∧ tx = tx' := by
  cases answer with
  | error f => exact ⟨nofun, fun h => nomatch h.1⟩
  | ok sent =>
    unfold verdict
    dsimp only
    rw [Except.ok.injEq]
    split_ifs with h
    · rw [Except.ok.injEq, and_iff_right h]
    · exact ⟨nofun, fun h' => absurd h'.1 h⟩

/-- A transaction is sent with one question. -/
theorem ends_send {tx : Transaction} {hash : Bytes} {r : Except TransferFault Transaction}
    (h : Ends (do
      let sent ← ExceptT.adapt refused (replies.node.send tx)
      if sent = hash then pure tx else throw (.inconsistent sent hash)) past r new) :
    ∃ answer, new = [.send tx answer] ∧ r = verdict tx hash answer := by
  rcases ends_bind_iff.mp h with ⟨f, rfl, hask⟩ | ⟨sent, said, rest, hask, hend, rfl⟩
  · obtain ⟨answer, hanswer, hf⟩ := ends_adapt_iff.mp hask
    obtain ⟨rfl, rfl⟩ := ends_ask_iff.mp hanswer
    obtain ⟨f', hf', rfl⟩ := mapError_eq_error_iff.mp hf.symm
    exact ⟨_, rfl, by rw [hf', verdict]⟩
  · obtain ⟨answer, hanswer, hsent⟩ := ends_adapt_iff.mp hask
    obtain ⟨rfl, rfl⟩ := ends_ask_iff.mp hanswer
    have hsent := mapError_eq_ok_iff.mp hsent.symm
    have hend : rest = [] ∧ r = verdict tx hash (.ok sent) := by
      unfold verdict
      dsimp only
      split_ifs at hend ⊢
      · exact (ends_pure_iff.mp hend).symm
      · exact (ends_throw_iff.mp hend).symm
    obtain ⟨rfl, rfl⟩ := hend
    exact ⟨_, rfl, by rw [hsent]⟩

/-- How a draft is submitted: without a word if it can not be finished or has no hash, else with one question. -/
theorem ends_submit {draft : Draft} {r : Except TransferFault Transaction}
    (h : Ends (submit (withNode w replies) draft) past r new) :
    (∃ f, r = .error f ∧ new = []) ∨ ∃ tx finished hash n answer, draft.finish = .ok (tx, finished) ∧
      tx.hash = .ok hash ∧ new = [.note n, .send tx answer] ∧ r = verdict tx hash answer := by
  rcases ends_step_bind_iff.mp h with ⟨f, -, hr, hnew⟩ | ⟨⟨tx, finished⟩, hfinish, hhashed⟩
  · exact .inl ⟨f, hr, hnew⟩
  rcases ends_step_bind_iff.mp hhashed with ⟨f, -, hr, hnew⟩ | ⟨hash, hhash, htold⟩
  · exact .inl ⟨f, hr, hnew⟩
  obtain ⟨rest, hsend, rfl⟩ := ends_note_bind_iff.mp htold
  obtain ⟨answer, rfl, hr⟩ := ends_send hsend
  exact .inr ⟨tx, finished, hash, _, answer, mapError_eq_ok_iff.mp hfinish, mapError_eq_ok_iff.mp hhash, rfl, hr⟩

/-! ## What is sent -/

/-- A transaction is a finished draft, whose locks are those that the node answered with; each of them has its
signatures in the first witness of its group. -/
structure Witnessed (log : List Event) (d : Draft) (tx : Transaction) : Prop where
  built : ∃ genesis, Draft.Reachable genesis d
  finished : ∃ d', d.finish = .ok (tx, d')
  located : Located log d
  signed : ∀ lock ∈ d.locks, ∃ w part, tx.witnesses[d.locks.idxOf lock]? = some w ∧
    Witness.deserialize w = .ok { lock := some part } ∧ d.Signed lock part

/-- What a run sent, and how it ended for that: nothing and with a fault, or one transaction and as the answer says. -/
inductive Sending (log : List Event) : Except TransferFault Transaction → Prop where
  | nothing {f : TransferFault} (quiet : ∀ v ∈ log, ¬ v.IsSend) : Sending log (.error f)
  | once {before after : List Event} {tx : Transaction} {answer : Except NodeFault Bytes} {d : Draft} {hash : Bytes}
      (said : log = before ++ .send tx answer :: after) (quiet : ∀ v ∈ before, ¬ v.IsSend)
      (notes : ∀ v ∈ after, v.IsNote) (witnessed : Witnessed before d tx) (hashed : tx.hash = .ok hash) :
      Sending log (verdict tx hash answer)

section Sent

variable {log : List Event} {r : Except TransferFault Transaction}

/-- Notes may follow. -/
theorem Sending.append_notes {last : List Event} (h : Sending log r) (hlast : ∀ v ∈ last, v.IsNote) :
    Sending (log ++ last) r := by
  cases h with
  | nothing quiet =>
    refine .nothing fun v hv => ?_
    rcases List.mem_append.mp hv with hv | hv
    · exact quiet v hv
    · exact (hlast v hv).not_isSend
  | once said quiet notes witnessed hashed =>
    refine .once ?_ quiet (fun v hv => (List.mem_append.mp hv).elim (notes v) (hlast v)) witnessed hashed
    rw [said, List.append_assoc]
    rfl

/-- What was sent has a hash, and the run ended as the answer says. -/
theorem Sending.verdict_of_mem (h : Sending log r) {tx : Transaction} {answer : Except NodeFault Bytes}
    (hs : .send tx answer ∈ log) : ∃ hash, tx.hash = .ok hash ∧ r = verdict tx hash answer := by
  cases h with
  | nothing quiet => exact absurd trivial (quiet _ hs)
  | @once before after sent _ d hash said quiet notes witnessed hashed =>
    rw [said] at hs
    rcases List.mem_append.mp hs with hs | hs
    · exact absurd trivial (quiet _ hs)
    rcases List.mem_cons.mp hs with hs | hs
    · cases hs
      exact ⟨hash, hashed, rfl⟩
    · exact (notes _ hs).elim

/-- A run has a transaction to show exactly if the node has answered with its hash. -/
theorem Sending.eq_ok_iff (h : Sending log r) {tx : Transaction} :
    r = .ok tx ↔ ∃ hash, tx.hash = .ok hash ∧ .send tx (.ok hash) ∈ log := by
  constructor
  · intro hr
    cases h with
    | nothing => cases hr
    | @once before after sent answer d hash said quiet notes witnessed hashed =>
      obtain ⟨rfl, rfl⟩ := verdict_eq_ok_iff.mp hr
      exact ⟨hash, hashed, said ▸ List.mem_append_right before List.mem_cons_self⟩
  · rintro ⟨hash, hhash, hs⟩
    obtain ⟨hash', hhash', rfl⟩ := h.verdict_of_mem hs
    cases hhash.symm.trans hhash'
    exact verdict_eq_ok_iff.mpr ⟨rfl, rfl⟩

end Sent

theorem witnessed_of_finish {log : List Event} {d d' : Draft} {tx : Transaction} {genesis : Genesis}
    (hd : Draft.Reachable genesis d) (hl : Located log d) (h : d.finish = .ok (tx, d')) : Witnessed log d tx := by
  refine ⟨⟨genesis, hd⟩, ⟨d', h⟩, hl, fun lock hlock => ?_⟩
  obtain ⟨-, -, hfirst, -⟩ := Draft.witnesses_of_finish h
  obtain ⟨part, w, hpart, hw, hat⟩ := hfirst lock hlock
  have hread := Witness.deserialize_serialize (mapError_eq_ok_iff.mp hw)
  exact ⟨w, part, hat, hread, Draft.signed_of_signedLock hd.sound hpart⟩

/-- The locks stay those that the node first answered with. -/
theorem Located.append {log : List Event} {d : Draft} (h : Located log d) (b : List Event) : Located (log ++ b) d := by
  intro i hi
  obtain ⟨body, hbody, hlock⟩ := h i hi
  exact ⟨body, firstBody_append_of_some hbody b, hlock⟩

/-- Sending is submitting, and a note where it went well. -/
theorem passes_dispatched {d : Draft} {r : Except TransferFault Transaction}
    (h : Passes (dispatched w d) past trail r trail' new) :
    ∃ said last, Ends (submit w d) (past ++ [announced .finalizing]) r said ∧
      new = announced .finalizing :: (said ++ last) ∧ ∀ v ∈ last, v.IsNote := by
  obtain ⟨rest, hrest, rfl⟩ := passes_enter_bind_iff.mp h
  rcases passes_work_bind_iff.mp hrest with ⟨f, rfl, hsubmit, -⟩ | ⟨tx, said, last, hsubmit, hlast, rfl⟩
  · exact ⟨rest, [], hsubmit, by rw [List.append_nil], List.forall_mem_nil _⟩
  · obtain ⟨more, hmore, rfl⟩ := passes_enter_bind_iff.mp hlast
    obtain ⟨rfl, -, rfl⟩ := passes_pure_iff.mp hmore
    exact ⟨said, _, hsubmit, rfl, List.forall_mem_singleton.mpr trivial⟩

/-- **A run sends one transaction at most**, whose groups all have their signatures, and it ends as the answer says. -/
theorem sending_of_passes {r : Except TransferFault Transaction}
    (h : Passes (stagesWith (withNode w replies) p request skipCheck) past trail r trail' new) : Sending new r := by
  rw [stagesWith_eq] at h
  rcases passes_bind_iff.mp h with ⟨f, rfl, hfirst⟩ | ⟨d, between, first, rest, hfirst, hrest, rfl⟩
  · exact .nothing (keeps_prepared w replies p request skipCheck _ _ _ _ _ hfirst).2
  have hquiet := (keeps_prepared w replies p request skipCheck _ _ _ _ _ hfirst).2
  obtain ⟨⟨genesis, hreach⟩, hlocated⟩ := prepared_ok hfirst
  obtain ⟨said, last, hsubmit, rfl, hlast⟩ := passes_dispatched hrest
  rcases ends_submit hsubmit with ⟨f, rfl, rfl⟩ | ⟨tx, finished, hash, n, answer, hfinish, hhash, rfl, rfl⟩
  · refine .nothing fun v hv => ?_
    rcases List.mem_append.mp hv with hv | hv
    · exact hquiet v hv
    · rcases List.mem_cons.mp hv with rfl | hv
      · exact id
      · exact (hlast v hv).not_isSend
  · have hbefore : first ++ announced .finalizing :: ([.note n, .send tx answer] ++ last) =
        (first ++ [announced .finalizing, .note n]) ++ .send tx answer :: last := by
      rw [List.append_assoc]
      rfl
    refine .once hbefore (fun v hv => ?_) hlast (witnessed_of_finish hreach (hlocated.append _) hfinish) hhash
    rcases List.mem_append.mp hv with hv | hv
    · exact hquiet v hv
    · rcases List.mem_cons.mp hv with rfl | hv
      · exact id
      · exact List.mem_singleton.mp hv ▸ id

end Sending

end Transfer

end CellPurse
