import CellPurse.Proofs.Draft.Sheet
import CellPurse.Proofs.Draft.Signing

/-!
# CellPurse.Proofs.Draft.History — what a history of calls leaves

* `Genesis.sighashDep_ne_multisigDep`: the cells with the code of the two system locks differ;
* `Draft.Change d d'`: what a call can do to a draft; `change_turn`: it does nothing else;
* `Sheet.Consistent`: what holds of the lists after every history; `Sheet.Extends`: lists that only got longer;
* `Draft.finish_again`: a finished draft is finished with the same transaction again;
* `Sheet.grows_until_finished`: the lists of a draft, after any calls in any order.
-/

namespace CellPurse

open Outcome in
/-- The cells of a first block are two. -/
theorem Genesis.sighashDep_ne_multisigDep {block : Json} {genesis : Genesis} (h : ofBlock block = .ok genesis) :
    genesis.sighashDep ≠ genesis.multisigDep := by
  obtain ⟨_, -, h⟩ := bind_eq_ok_iff.mp h
  obtain ⟨_, -, h⟩ := bind_eq_ok_iff.mp h
  split at h
  · cases h
  · obtain ⟨_, -, h⟩ := bind_eq_ok_iff.mp h
    obtain ⟨_, -, h⟩ := bind_eq_ok_iff.mp h
    obtain ⟨_, -, h⟩ := bind_eq_ok_iff.mp h
    obtain ⟨_, -, h⟩ := bind_eq_ok_iff.mp h
    obtain ⟨_, -, h⟩ := bind_eq_ok_iff.mp h
    obtain ⟨_, -, h⟩ := bind_eq_ok_iff.mp h
    cases pure_eq_ok_iff.mp h
    simp

namespace Draft

open Outcome

variable {σ : Type} {d d' : Draft} {q : Draft × σ}

/-- Adds something to a draft. -/
def Call.adds : Call σ → Bool
  | .policy _ | .input .. | .output .. | .signature .. => true
  | .requests | .sign _ | .finish => false

/-! ## One call -/

/-- What a call can do to a draft. -/
inductive Change (d : Draft) : Draft → Prop where
  | none : Change d d
  | policy (opened : d.finalized = false) (hash : Bytes) (policy : Multisig) :
      Change d { d with policies := d.policies.set hash policy }
  | input (opened : d.finalized = false) (point : OutPoint) (lock : Script) :
      Change d { d with inputs := d.inputs ++ [⟨⟨point, sinceOf lock⟩, lock⟩] }
  | output (opened : d.finalized = false) (output : CellOutput) (data : Bytes) :
      Change d { d with outputs := d.outputs ++ [⟨output, data⟩] }
  | signature (opened : d.finalized = false) (lock : Script) {signature : Bytes}
      (size : signature.length = System.signatureSize) :
      Change d { d with signatures := d.signatures.set lock (joined (d.signaturesOf lock) signature) }
  | finish : Change d { d with finalized := true }

/-- A step that succeeds leaves what it made, and one that fails nothing new. -/
theorem change_settle {α β : Type} {found : Except DraftFault β} {reply : β → α × Draft}
    (h : ∀ b, found = .ok b → Change q.1 (reply b).2) : Change q.1 (settle q (reply <$> found)).2.1 := by
  cases found with
  | error f => exact .none
  | ok b => exact h b rfl

theorem change_turn (c : Call σ) (q : Draft × σ) : Change q.1 (turn c q).2.1 := by
  cases c with
  | policy policy =>
    refine change_settle fun d' h => ?_
    obtain ⟨hopen, hash, -, rfl⟩ := addPolicy_eq_ok_iff.mp h
    exact .policy hopen hash policy
  | input point cell skipCheck =>
    refine change_settle fun d' h => ?_
    obtain ⟨hopen, -, rfl⟩ := addInput_eq_ok_iff.mp h
    exact .input hopen point cell.lock
  | output output data =>
    refine change_settle fun d' h => ?_
    obtain ⟨hopen, rfl⟩ := addOutput_eq_ok_iff.mp h
    exact .output hopen output data
  | signature lock signature =>
    refine change_settle fun d' h => ?_
    obtain ⟨hopen, hsize, rfl⟩ := addSignature_eq_ok_iff.mp h
    exact .signature hopen lock hsize
  | requests => exact change_settle fun _ _ => .none
  | sign ask => exact .none
  | finish =>
    refine change_settle fun r h => ?_
    obtain ⟨tx, d'⟩ := r
    obtain ⟨_, -, -, rfl⟩ := finish_eq_ok_iff.mp h
    exact .finish

theorem settle_of_error {α : Type} {found : Except DraftFault (α × Draft)} {f : DraftFault}
    (h : (settle q found).1 = .error f) : (settle q found).2 = q := by
  cases found with
  | error _ => rfl
  | ok r => cases h

/-- A call that fails changes nothing. -/
theorem turn_of_error {c : Call σ} {f : DraftFault} (h : (turn c q).1 = .error f) : (turn c q).2.1 = q.1 := by
  cases c with
  | sign ask => rfl
  | policy | input | output | signature | requests | finish => exact congrArg Prod.fst (settle_of_error h)

/-! ## Finished drafts -/

/-- Nothing is changed once a draft is finished. -/
theorem Change.eq_of_finalized (h : Change d d') (hf : d.finalized = true) : d' = d := by
  cases h with
  | none => rfl
  | policy opened | input opened | output opened | signature opened =>
    rw [hf] at opened
    cases opened
  | finish =>
    obtain ⟨genesis, inputs, outputs, policies, signatures, finalized⟩ := d
    cases hf
    rfl

/-- Nothing is added once a draft is finished. -/
theorem turn_of_adds {c : Call σ} (hc : c.adds = true) (hf : q.1.finalized = true) :
    turn c q = (.error .finalized, q) := by
  have hrefused : ∀ x : Except DraftFault Draft,
      settle q ((Reply.done, ·) <$> (q.1.guard >>= fun _ => x)) = (.error .finalized, q) := by
    intro x
    rw [guard_bind, if_pos hf]
    rfl
  cases c with
  | policy | input | output | signature => exact hrefused _
  | requests | sign | finish => cases hc

/-- A finished draft is finished with the same transaction again. -/
theorem finish_again {tx : Transaction} (h : d.finish = .ok (tx, d')) :
    d'.finalized = true ∧ d'.finish = .ok (tx, d') := by
  obtain ⟨witnesses, hplace, rfl, rfl⟩ := finish_eq_ok_iff.mp h
  exact ⟨rfl, finish_eq_ok_iff.mpr ⟨witnesses, hplace, rfl, rfl⟩⟩

/-! ## Signatures and time locks -/

/-- The inputs claim the time locks of their locks, and the signatures of a lock are distinct and of the right size. -/
structure Regular (d : Draft) : Prop where
  since : ∀ i ∈ d.inputs, i.input.since = sinceOf i.lock
  distinct : ∀ lock, (d.signaturesOf lock).Nodup
  size : ∀ lock, ∀ s ∈ d.signaturesOf lock, s.length = System.signatureSize

theorem Regular.change (hd : d.Regular) (h : Change d d') : d'.Regular := by
  cases h with
  | none | policy | output | finish => exact ⟨hd.since, hd.distinct, hd.size⟩
  | input _ point lock =>
    refine { hd with since := fun i hi => ?_ }
    rcases List.mem_append.mp hi with hi | hi
    · exact hd.since i hi
    · rw [List.mem_singleton.mp hi]
  | @signature _ lock signature size =>
    exact { hd with
      distinct := distinct_set_joined hd.distinct lock signature, size := size_set_joined hd.size lock size }

/-! ## Histories -/

/-- What one call keeps, a history keeps. -/
theorem run_induction {P : Draft → Prop} (hstep : ∀ d d', P d → Change d d' → P d') (calls : List (Call σ))
    (h : P q.1) : P (run calls q).1 := by
  induction calls generalizing q with
  | nil => exact h
  | cons c r ih => exact ih (hstep _ _ h (change_turn c q))

theorem regular_run (calls : List (Call σ)) (genesis : Genesis) (w : σ) : (run calls ({ genesis }, w)).1.Regular :=
  run_induction (fun _ _ hd h => hd.change h) calls ⟨nofun, fun _ => List.nodup_nil, nofun⟩

/-- A finished draft stays as it is. -/
theorem run_of_finalized (calls : List (Call σ)) (hf : q.1.finalized = true) : (run calls q).1 = q.1 := by
  refine run_induction (P := fun d => d = q.1) (fun d d' hd h => ?_) calls rfl
  obtain rfl := hd
  exact h.eq_of_finalized hf

theorem turn_finish_iff {tx : Transaction} {q' : Draft × σ} :
    turn .finish q = (.ok (.transaction tx), q') ↔ q.1.finish = .ok (tx, q'.1) ∧ q'.2 = q.2 := by
  obtain ⟨d', w'⟩ := q'
  unfold turn
  cases q.1.finish with
  | error f => simp
  | ok r => simp [Prod.ext_iff, and_assoc, eq_comm]

/-- Whatever is asked of a finished draft, nothing can be added to it, and its transaction stays. -/
theorem turn_of_finish {tx : Transaction} {q' : Draft × σ} (h : turn .finish q = (.ok (.transaction tx), q'))
    (later : List (Call σ)) :
    (∀ c : Call σ, c.adds = true → turn c (run later q') = (.error .finalized, run later q')) ∧
      turn .finish (run later q') = (.ok (.transaction tx), run later q') := by
  obtain ⟨hclosed, hagain⟩ := finish_again (turn_finish_iff.mp h).1
  have hstays : (run later q').1 = q'.1 := run_of_finalized later hclosed
  refine ⟨fun c hc => turn_of_adds hc (hstays ▸ hclosed), turn_finish_iff.mpr ⟨?_, rfl⟩⟩
  rw [hstays]
  exact hagain

end Draft

namespace Sheet

open Draft

variable {σ : Type} {d d' : Draft} {s s' s'' : Sheet}

/-! ## Lists side by side -/

/-- What holds of the lists of a draft: those that belong together are equally long, the time locks are those of the
locks, the signatures of a lock are distinct and of one size, and the cells of the locks are those that are used. -/
structure Consistent (s : Sheet) : Prop where
  inputs : s.locks.length = s.inputs.length
  outputs : s.data.length = s.outputs.length
  since : ∀ (i : Nat) (input : CellInput) (lock : Script), s.inputs[i]? = some input → s.locks[i]? = some lock →
    input.since = if lock.isMultisig = true ∧ lock.args.length = 28 then (Bytes.toNatLE (lock.args.drop 20) : Int) else 0
  distinct : ∀ lock, (s.signaturesOf lock).Nodup
  size : ∀ lock, ∀ signature ∈ s.signaturesOf lock, signature.length = 65
  deps : ∀ dep, s.cellDeps.count dep =
    (if (∃ lock ∈ s.locks, lock.isSighash = true) ∧ dep = s.genesis.sighashDep then 1 else 0) +
      if (∃ lock ∈ s.locks, lock.isMultisig = true) ∧ dep = s.genesis.multisigDep then 1 else 0
  listed : s.genesis.sighashDep ≠ s.genesis.multisigDep →
    (s.genesis.sighashDep ∈ s.cellDeps ↔ ∃ lock ∈ s.locks, lock.isSighash = true) ∧
      (s.genesis.multisigDep ∈ s.cellDeps ↔ ∃ lock ∈ s.locks, lock.isMultisig = true) ∧ s.cellDeps.Nodup

/-- Every list starts with what it was. -/
structure Extends (s s' : Sheet) : Prop where
  inputs : s.inputs <+: s'.inputs
  locks : s.locks <+: s'.locks
  outputs : s.outputs <+: s'.outputs
  data : s.data <+: s'.data
  policies : s.policies.keys <+: s'.policies.keys
  signers : s.signatures.keys <+: s'.signatures.keys
  signatures : ∀ lock, s.signaturesOf lock <+: s'.signaturesOf lock

theorem count_cellDeps (s : Sheet) (dep : CellDep) : s.cellDeps.count dep =
    (if (∃ lock ∈ s.locks, lock.isSighash = true) ∧ dep = s.genesis.sighashDep then 1 else 0) +
      if (∃ lock ∈ s.locks, lock.isMultisig = true) ∧ dep = s.genesis.multisigDep then 1 else 0 := by
  have hone : ∀ (p : Prop) [Decidable p] (x : CellDep),
      (if p then [x] else []).count dep = if p ∧ dep = x then 1 else 0 := by
    intro p _ x
    by_cases hp : p <;> by_cases hx : dep = x <;> simp [hp, hx, eq_comm]
  unfold cellDeps
  simp only [List.count_append, List.any_eq_true, hone]

theorem mem_cellDeps (hne : s.genesis.sighashDep ≠ s.genesis.multisigDep) :
    (s.genesis.sighashDep ∈ s.cellDeps ↔ ∃ lock ∈ s.locks, lock.isSighash = true) ∧
      (s.genesis.multisigDep ∈ s.cellDeps ↔ ∃ lock ∈ s.locks, lock.isMultisig = true) ∧ s.cellDeps.Nodup := by
  unfold cellDeps
  simp only [List.any_eq_true]
  by_cases hs : ∃ lock ∈ s.locks, lock.isSighash = true <;>
    by_cases hm : ∃ lock ∈ s.locks, lock.isMultisig = true <;> simp [hs, hm, hne, hne.symm]

theorem consistent_sheet (hd : d.Regular) : Consistent d.sheet where
  inputs := by simp [sheet]
  outputs := by simp [sheet]
  since := by
    intro i input lock hinput hlock
    simp only [sheet, List.getElem?_map, Option.map_eq_some_iff] at hinput hlock
    obtain ⟨e, he, rfl⟩ := hinput
    obtain ⟨e', he', rfl⟩ := hlock
    obtain rfl : e = e' := Option.some.inj (he.symm.trans he')
    rw [hd.since e (List.mem_of_getElem? he), sinceOf]
    by_cases hm : e.lock.isMultisig = true <;> by_cases hl : e.lock.args.length = 28 <;>
      simp [hm, hl, System.lockedArgsSize, System.keyHashSize]
  distinct := hd.distinct
  size := hd.size
  deps := count_cellDeps d.sheet
  listed := mem_cellDeps

theorem Extends.refl (s : Sheet) : Extends s s :=
  ⟨List.prefix_rfl, List.prefix_rfl, List.prefix_rfl, List.prefix_rfl, List.prefix_rfl, List.prefix_rfl,
    fun _ => List.prefix_rfl⟩

theorem Extends.trans (h : Extends s s') (h' : Extends s' s'') : Extends s s'' :=
  ⟨h.inputs.trans h'.inputs, h.locks.trans h'.locks, h.outputs.trans h'.outputs, h.data.trans h'.data,
    h.policies.trans h'.policies, h.signers.trans h'.signers, fun lock => (h.signatures lock).trans (h'.signatures lock)⟩

theorem prefix_keys_set {κ α : Type} [DecidableEq κ] (k : κ) (a : α) (m : Assoc κ α) :
    m.keys <+: (m.set k a).keys := by
  rw [Assoc.keys_set]
  split_ifs
  · exact List.prefix_rfl
  · exact List.prefix_append ..

theorem prefix_joined (group : List Bytes) (signature : Bytes) : group <+: joined group signature := by
  unfold joined
  split_ifs
  · exact List.prefix_rfl
  · exact List.prefix_append ..

/-- A call adds to the lists at their ends. -/
theorem extends_of_change (h : Change d d') : Extends d.sheet d'.sheet := by
  cases h with
  | none | finish => exact { Extends.refl d.sheet with }
  | policy _ hash policy => exact { Extends.refl d.sheet with policies := prefix_keys_set hash policy d.policies }
  | input _ point lock =>
    refine { Extends.refl d.sheet with inputs := ?_, locks := ?_ } <;> simp [sheet]
  | output _ output data =>
    refine { Extends.refl d.sheet with outputs := ?_, data := ?_ } <;> simp [sheet]
  | @signature _ lock signature _ =>
    refine { Extends.refl d.sheet with signers := prefix_keys_set .., signatures := fun other => ?_ }
    show d.signaturesOf other <+: Draft.signaturesOf
      { d with signatures := d.signatures.set lock (joined (d.signaturesOf lock) signature) } other
    rw [Draft.signaturesOf_set]
    split_ifs with hlock
    · exact hlock ▸ prefix_joined ..
    · exact List.prefix_rfl

theorem extends_run (calls : List (Call σ)) (q : Draft × σ) : Extends q.1.sheet (Draft.run calls q).1.sheet :=
  run_induction (P := fun d => Extends q.1.sheet d.sheet) (fun _ _ hd h => hd.trans (extends_of_change h)) calls
    (Extends.refl _)

/-- **A draft grows until it is finished.**  After any calls on a fresh draft, whether they failed or not, its lists are
consistent and are those of the draft that its steps lead to; further calls add to their ends alone; a call that fails
leaves them as they were; and once the draft is finished nothing can be added, and it is finished with the same
transaction again. -/
theorem grows_until_finished {genesis : Genesis} {before : List (Call σ)} {w : σ} {p : Sheet × σ}
    (h : run before ({ genesis }, w) = p) :
    p = laid (Draft.run before ({ genesis }, w)) ∧ Consistent p.1 ∧ (∀ later, Extends p.1 (run later p).1) ∧
    (∀ c f p', act c p = (.error f, p') → p'.1 = p.1) ∧
    ∀ tx p', act .finish p = (.ok (.transaction tx), p') → ∀ later,
      (∀ c, c.adds = true → act c (run later p') = (.error .finalized, run later p')) ∧
      act .finish (run later p') = (.ok (.transaction tx), run later p') := by
  obtain rfl : p = laid (Draft.run before ({ genesis }, w)) := h.symm.trans (run_laid before ({ genesis }, w))
  have hregular := regular_run before genesis w
  generalize Draft.run before ({ genesis }, w) = q at hregular ⊢
  refine ⟨rfl, consistent_sheet hregular, fun later => ?_, fun c f p' hact => ?_, fun tx p' hact later => ?_⟩
  · rw [run_laid]
    exact extends_run later q
  · rw [act_laid] at hact
    obtain ⟨herror, rfl⟩ := Prod.mk.inj hact
    exact congrArg sheet (turn_of_error herror)
  · rw [act_laid] at hact
    generalize hturn : turn .finish q = r at hact
    obtain ⟨found, q'⟩ := r
    cases hact
    obtain ⟨hadds, hagain⟩ := turn_of_finish hturn later
    rw [run_laid]
    refine ⟨fun c hc => ?_, ?_⟩
    · rw [act_laid, hadds c hc]
      rfl
    · rw [act_laid, hagain]
      rfl

namespace Sample

/-- A first block. -/
def genesis : Genesis := ⟨[], ⟨⟨[0x22], 0⟩, .depGroup⟩, ⟨⟨[0x22], 1⟩, .depGroup⟩⟩

/-- The lock of one key. -/
def lock : Script := System.sighashLock (List.replicate 20 4)

/-- A signature. -/
def signature : Bytes := List.replicate 65 7

/-- One cell is moved.  An unknown lock, a short signature and an early end are refused, and the second of two equal
signatures is not kept. -/
def calls : List (Call Unit) :=
  [.output ⟨299, lock, none⟩ [1],
   .input ⟨List.replicate 32 2, 0⟩ ⟨100, ⟨[], .type, []⟩, none⟩ false,
   .input ⟨List.replicate 32 1, 0⟩ ⟨300, lock, none⟩ false,
   .signature lock [],
   .finish,
   .signature lock signature,
   .signature lock signature]

/-- What they leave. -/
def sheet : Sheet where
  genesis := genesis
  inputs := [⟨⟨List.replicate 32 1, 0⟩, 0⟩]
  locks := [lock]
  outputs := [⟨299, lock, none⟩]
  data := [[1]]
  signatures := [(lock, [signature])]

/-- The transaction that they lead to. -/
def tx : Transaction where
  cellDeps := [genesis.sighashDep]
  inputs := sheet.inputs
  outputs := sheet.outputs
  outputsData := sheet.data
  witnesses := [[85, 0, 0, 0, 16, 0, 0, 0, 85, 0, 0, 0, 85, 0, 0, 0, 65, 0, 0, 0] ++ signature]

end Sample

theorem grows_until_finished_sample :
    run Sample.calls ({ genesis := Sample.genesis }, ()) = (Sample.sheet, ()) ∧ Consistent Sample.sheet ∧
    act .finish (Sample.sheet, ()) = (.ok (.transaction Sample.tx), ({ Sample.sheet with finalized := true }, ())) ∧
    ∀ later, (act (.signature Sample.lock []) (run later ({ Sample.sheet with finalized := true }, ()))).1 =
        .error .finalized ∧
      (act .finish (run later ({ Sample.sheet with finalized := true }, ()))).1 = .ok (.transaction Sample.tx) := by
  have hrun : run Sample.calls ({ genesis := Sample.genesis }, ()) = (Sample.sheet, ()) := by decide +kernel
  have hfinish : act .finish (Sample.sheet, ()) =
      (.ok (.transaction Sample.tx), ({ Sample.sheet with finalized := true }, ())) := by decide +kernel
  obtain ⟨-, hconsistent, -, -, hfrozen⟩ := grows_until_finished hrun
  refine ⟨hrun, hconsistent, hfinish, fun later => ?_⟩
  obtain ⟨hadds, hagain⟩ := hfrozen _ _ hfinish later
  exact ⟨congrArg Prod.fst (hadds _ rfl), congrArg Prod.fst hagain⟩

end Sheet

end CellPurse
