import CellPurse.Proofs.Draft.Steps
import CellPurse.Proofs.Transfer.Orders

/-!
# CellPurse.Proofs.Transfer.Stages — how far a run gets

A run first gathers what it needs, and then spends it.

* `Passes x past trail r trail' new`: `Ends` for what also keeps the stages that it entered;
* `Keeps P Q x`: `Within` for the same;
* `concluded x`: the report of a run, `talk_concluded`: what it says, `closing` and `closed` among it;
* `Hand`: what a run has in hand when it starts to balance; `gather`, `spend`: the two parts of a run;
* `keeps_gather`: gathering neither asks for a cell nor sends, and finds no fault with the fee;
* `ready_of_gather`: what is gathered comes from the request, the index and the keyring.
-/

namespace CellPurse

open Outcome Told

/-! ## Faults of the fee -/

section Ceiling

theorem MoleculeFault.kind_ne_ceiling (f : MoleculeFault) : f.kind ≠ .ceiling := by cases f <;> nofun

theorem MultisigFault.kind_ne_ceiling (f : MultisigFault) : f.kind ≠ .ceiling := by cases f <;> nofun

theorem KeyringFault.kind_ne_ceiling (f : KeyringFault) : f.kind ≠ .ceiling := by
  unfold kind
  split <;> nofun

theorem SignFault.kind_ne_ceiling (f : SignFault) : f.kind ≠ .ceiling := by
  cases f with
  | keyring f => exact f.kind_ne_ceiling
  | _ => nofun

theorem NodeFault.kind_ne_ceiling (f : NodeFault) : f.kind ≠ .ceiling := by
  cases f with
  | text f => cases f <;> nofun
  | document f => cases f <;> nofun
  | _ => nofun

theorem RequestFault.kind_ne_ceiling (f : RequestFault) : f.kind ≠ .ceiling := by
  cases f with
  | locked f => cases f <;> nofun
  | amount f => cases f <;> nofun
  | _ => nofun

theorem BindFault.kind_ne_ceiling (f : BindFault) : f.kind ≠ .ceiling := by
  cases f with
  | noKey => nofun
  | policy f => exact f.kind_ne_ceiling

theorem DraftFault.kind_ne_ceiling (f : DraftFault) : f.kind ≠ .ceiling := by
  cases f with
  | molecule f => exact f.kind_ne_ceiling
  | policy f => exact f.kind_ne_ceiling
  | signer f => exact f.kind_ne_ceiling
  | _ => nofun

namespace TransferFault

/-- The fee is above the ceiling. -/
def IsFee : TransferFault → Prop
  | fee _ | feeWithRest _ => True
  | _ => False

/-- No other fault is about the ceiling. -/
theorem kind_eq_ceiling_iff {f : TransferFault} : f.kind = .ceiling ↔ f.IsFee := by
  cases f with
  | fee n => exact ⟨fun _ => trivial, fun _ => rfl⟩
  | feeWithRest n => exact ⟨fun _ => trivial, fun _ => rfl⟩
  | request f => exact ⟨fun h => f.kind_ne_ceiling h, nofun⟩
  | node f => exact ⟨fun h => f.kind_ne_ceiling h, nofun⟩
  | keyring f => exact ⟨fun h => f.kind_ne_ceiling h, nofun⟩
  | bind f => exact ⟨fun h => f.kind_ne_ceiling h, nofun⟩
  | draft f => exact ⟨fun h => f.kind_ne_ceiling h, nofun⟩
  | molecule f => exact ⟨fun h => f.kind_ne_ceiling h, nofun⟩
  | _ => exact ⟨nofun, nofun⟩

end TransferFault

end Ceiling

namespace Transfer

/-! ## Runs that keep their stages -/

section Passes

variable {α β : Type}

/-- What is said when a stage is entered. -/
def announced (s : Stage) : Event := .note ⟨.info, "Transfer state: " ++ s.name⟩

/-- After `past`, with `trail` behind it, `x` ends with `r`, says `new`, and has `trail'` behind it. -/
def Passes (x : Running Told α) (past : List Event) (trail : List Stage) (r : Except TransferFault α)
    (trail' : List Stage) (new : List Event) : Prop :=
  (x.run.run trail).talk past = ((r, trail'), new)

theorem exists_passes (x : Running Told α) (past : List Event) (trail : List Stage) :
    ∃ r trail' new, Passes x past trail r trail' new := ⟨_, _, _, rfl⟩

variable {past new : List Event} {trail trail' : List Stage}

theorem passes_pure_iff {a : α} {r : Except TransferFault α} :
    Passes (pure a) past trail r trail' new ↔ r = .ok a ∧ trail' = trail ∧ new = [] := by
  unfold Passes
  show ((Except.ok a, trail), []) = ((r, trail'), new) ↔ _
  rw [Prod.mk.injEq, Prod.mk.injEq, and_assoc, eq_comm, @eq_comm _ trail, @eq_comm _ [] new]

theorem passes_enter_iff {s : Stage} {r : Except TransferFault Unit} :
    Passes (enter s) past trail r trail' new ↔ r = .ok () ∧ trail' = trail ++ [s] ∧ new = [announced s] := by
  unfold Passes
  show ((Except.ok (), trail ++ [s]), [announced s]) = ((r, trail'), new) ↔ _
  rw [Prod.mk.injEq, Prod.mk.injEq, and_assoc, eq_comm, @eq_comm _ (trail ++ [s]), @eq_comm _ [announced s] new]

theorem passes_work_iff {x : ExceptT TransferFault Told α} {r : Except TransferFault α} :
    Passes (work x) past trail r trail' new ↔ Ends x past r new ∧ trail' = trail := by
  unfold Passes Ends
  show (((x.run.talk past).1, trail), (x.run.talk past).2 ++ []) = ((r, trail'), new) ↔ _
  rw [List.append_nil, Prod.mk.injEq, Prod.mk.injEq, Prod.ext_iff]
  constructor
  · rintro ⟨⟨hr, rfl⟩, hn⟩
    exact ⟨⟨hr, hn⟩, rfl⟩
  · rintro ⟨⟨hr, hn⟩, rfl⟩
    exact ⟨⟨hr, rfl⟩, hn⟩

theorem talk_run_run_bind (x : Running Told α) (f : α → Running Told β) (trail : List Stage) (past : List Event) :
    ((x >>= f).run.run trail).talk past = match (x.run.run trail).talk past with
      | ((.ok a, between), first) =>
        ((((f a).run.run between).talk (past ++ first)).1, first ++ (((f a).run.run between).talk (past ++ first)).2)
      | ((.error e, between), first) => ((.error e, between), first ++ []) := by
  rw [ExceptT.run_bind, StateT.run_bind, talk_bind]
  rcases (x.run.run trail).talk past with ⟨⟨_ | _, _⟩, _⟩ <;> rfl

/-- A first part either fails, or hands its result, its stages and all that was said to the second. -/
theorem passes_bind_iff {x : Running Told α} {f : α → Running Told β} {r : Except TransferFault β} :
    Passes (x >>= f) past trail r trail' new ↔
      (∃ e, r = .error e ∧ Passes x past trail (.error e) trail' new) ∨
      ∃ a between first rest, Passes x past trail (.ok a) between first ∧
        Passes (f a) (past ++ first) between r trail' rest ∧ new = first ++ rest := by
  unfold Passes
  rw [talk_run_run_bind]
  obtain ⟨⟨e | a, between⟩, first⟩ := (x.run.run trail).talk past
  · constructor
    · intro h
      cases h
      exact .inl ⟨e, rfl, by rw [List.append_nil]⟩
    · rintro (⟨e', rfl, h⟩ | ⟨a, _, first', rest, h, -, -⟩)
      · cases h
        exact Prod.ext rfl (List.append_nil _)
      · cases h
  · constructor
    · intro h
      obtain ⟨hr, rfl⟩ := Prod.mk.inj h
      exact .inr ⟨a, between, first, _, rfl, Prod.ext hr rfl, rfl⟩
    · rintro (⟨e', rfl, h⟩ | ⟨a', _, first', rest, h, hf, rfl⟩)
      · cases h
      · cases h
        simp only [hf]

theorem passes_bind_ok_iff {x : Running Told α} {f : α → Running Told β} {b : β} :
    Passes (x >>= f) past trail (.ok b) trail' new ↔
      ∃ a between first rest, Passes x past trail (.ok a) between first ∧
        Passes (f a) (past ++ first) between (.ok b) trail' rest ∧ new = first ++ rest := by
  rw [passes_bind_iff]
  constructor
  · rintro (⟨e, h, -⟩ | h)
    · cases h
    · exact h
  · exact .inr

theorem passes_enter_bind_iff {s : Stage} {x : Running Told α} {r : Except TransferFault α} :
    Passes (enter s >>= fun _ => x) past trail r trail' new ↔
      ∃ rest, Passes x (past ++ [announced s]) (trail ++ [s]) r trail' rest ∧ new = announced s :: rest := by
  rw [passes_bind_iff]
  constructor
  · rintro (⟨e, -, h⟩ | ⟨⟨⟩, _, _, rest, h, hx, rfl⟩)
    · cases (passes_enter_iff.mp h).1
    · obtain ⟨-, rfl, rfl⟩ := passes_enter_iff.mp h
      exact ⟨rest, hx, rfl⟩
  · rintro ⟨rest, hx, rfl⟩
    exact .inr ⟨(), _, _, rest, passes_enter_iff.mpr ⟨rfl, rfl, rfl⟩, hx, rfl⟩

theorem passes_work_bind_iff {x : ExceptT TransferFault Told α} {f : α → Running Told β} {r : Except TransferFault β} :
    Passes (work x >>= f) past trail r trail' new ↔
      (∃ e, r = .error e ∧ Ends x past (.error e) new ∧ trail' = trail) ∨
      ∃ a first rest, Ends x past (.ok a) first ∧ Passes (f a) (past ++ first) trail r trail' rest ∧
        new = first ++ rest := by
  rw [passes_bind_iff]
  constructor
  · rintro (⟨e, rfl, h⟩ | ⟨a, _, first, rest, h, hf, rfl⟩)
    · exact .inl ⟨e, rfl, passes_work_iff.mp h⟩
    · obtain ⟨hx, rfl⟩ := passes_work_iff.mp h
      exact .inr ⟨a, first, rest, hx, hf, rfl⟩
  · rintro (⟨e, rfl, h⟩ | ⟨a, first, rest, hx, hf, rfl⟩)
    · exact .inl ⟨e, rfl, passes_work_iff.mpr h⟩
    · exact .inr ⟨a, trail, first, rest, passes_work_iff.mpr ⟨hx, rfl⟩, hf, rfl⟩

/-- Whatever was said before, a fault of `x` satisfies `P`, and all that `x` says satisfies `Q`. -/
def Keeps (P : TransferFault → Prop) (Q : Event → Prop) (x : Running Told α) : Prop :=
  ∀ past trail r trail' new, Passes x past trail r trail' new → (∀ e, r = .error e → P e) ∧ ∀ v ∈ new, Q v

variable {P : TransferFault → Prop} {Q : Event → Prop}

theorem keeps_pure (a : α) : Keeps P Q (pure a : Running Told α) := by
  intro past trail r trail' new h
  obtain ⟨rfl, -, rfl⟩ := passes_pure_iff.mp h
  exact ⟨nofun, List.forall_mem_nil _⟩

theorem keeps_enter {s : Stage} (hs : Q (announced s)) : Keeps P Q (enter s) := by
  intro past trail r trail' new h
  obtain ⟨rfl, -, rfl⟩ := passes_enter_iff.mp h
  exact ⟨nofun, fun v hv => List.mem_singleton.mp hv ▸ hs⟩

theorem keeps_work {x : ExceptT TransferFault Told α} (hx : Within P Q x) : Keeps P Q (work x) :=
  fun past _ r _ new h => hx past r new (passes_work_iff.mp h).1

/-- The second part need only be looked at after what the first one can hand over. -/
theorem Keeps.bind_of_passes {x : Running Told α} {f : α → Running Told β} (hx : Keeps P Q x)
    (hf : ∀ a, (∃ past trail trail' new, Passes x past trail (.ok a) trail' new) → Keeps P Q (f a)) :
    Keeps P Q (x >>= f) := by
  intro past trail r trail' new h
  rcases passes_bind_iff.mp h with ⟨e, rfl, h1⟩ | ⟨a, between, first, rest, h1, h2, rfl⟩
  · obtain ⟨he, hv⟩ := hx _ _ _ _ _ h1
    exact ⟨fun e' he' => Except.error.inj he' ▸ he e rfl, hv⟩
  · obtain ⟨-, hfirst⟩ := hx _ _ _ _ _ h1
    obtain ⟨he, hrest⟩ := hf a ⟨_, _, _, _, h1⟩ _ _ _ _ _ h2
    exact ⟨he, fun v hv => (List.mem_append.mp hv).elim (hfirst v) (hrest v)⟩

theorem Keeps.bind {x : Running Told α} {f : α → Running Told β} (hx : Keeps P Q x) (hf : ∀ a, Keeps P Q (f a)) :
    Keeps P Q (x >>= f) := hx.bind_of_passes fun a _ => hf a

end Passes

/-! ## What a run says of its end -/

section Concluded

/-- The report of a run; where it fails, it says so. -/
def concluded {m : Type → Type} [Monad m] [Journal m] (x : Running m Transaction) : m Report := do
  let (result, trail) ← x.run.run []
  match result with
  | .ok tx => pure ⟨.ok tx, trail⟩
  | .error f => do
    Journal.error ("Transfer failed while " ++ (trail.getLastD .validating).name ++ ": " ++ f.text)
    pure ⟨.error f, trail ++ [.failed]⟩

variable {past new : List Event} {trail : List Stage} {r : Except TransferFault Transaction}

/-- What is said at the end of a run: why it failed. -/
def closing (trail : List Stage) : Except TransferFault Transaction → List Event
  | .ok _ => []
  | .error f => [.note ⟨.error, "Transfer failed while " ++ (trail.getLastD .validating).name ++ ": " ++ f.text⟩]

/-- The stages of a run that is over. -/
def closed (trail : List Stage) : Except TransferFault Transaction → List Stage
  | .ok _ => trail
  | .error _ => trail ++ [.failed]

theorem isNote_of_closing : ∀ v ∈ closing trail r, v.IsNote := by
  intro v hv
  cases r with
  | ok tx => cases hv
  | error f => exact List.mem_singleton.mp hv ▸ trivial

theorem talk_concluded {x : Running Told Transaction} (h : Passes x past [] r trail new) :
    (concluded x).talk past = (⟨r, closed trail r⟩, new ++ closing trail r) := by
  have hx : (x.run.run []).talk past = ((r, trail), new) := h
  unfold concluded
  rw [talk_bind, hx]
  cases r <;> rfl

end Concluded

/-! ## What a run gathers -/

section Gather

variable {m : Type → Type} [Monad m] [Journal m]

/-- What a run has in hand when it starts to balance. -/
structure Hand where
  order : Order
  funding : Funding
  draft : Draft
  selection : Selection

/-- The stages up to the search. -/
def gather (w : Wallet m) (request : Request) : Running m Hand := do
  enter .validating
  let order ← work (validated w request)
  enter .resolving
  let genesis ← work (ExceptT.adapt TransferFault.node w.node.genesis)
  let (funding, draft) ← work (Funding.resolve w.keyring w.limits order { genesis })
  enter .searching
  let cutoff ← work (ExceptT.adapt TransferFault.node w.node.cutoff)
  let selection ← work (Funding.search w.network cutoff w.index order funding)
  pure ⟨order, funding, draft, selection⟩

/-- The stages from balancing on. -/
def spend (w : Wallet m) (skipCheck : Bool) (h : Hand) : Running m Transaction := do
  enter .balancing
  let draft ← work (balance w h.order h.funding h.selection skipCheck h.draft)
  enter .signing
  let draft ← work (signed w h.order h.funding draft)
  enter .finalizing
  let tx ← work (submit w draft)
  enter .submitted
  pure tx

theorem stages_eq [LawfulMonad m] (w : Wallet m) (request : Request) (skipCheck : Bool) :
    stages w request skipCheck = gather w request >>= spend w skipCheck := by
  simp only [stages, gather, spend, bind_assoc, pure_bind]

end Gather

variable {w : Wallet Told} {replies : Replies} {request : Request}

/-- A hand that a run can have: it comes from the request, the keyring and the index, and enough is selected. -/
structure Hand.Ready (w : Wallet Told) (request : Request) (h : Hand) : Prop where
  validated : ∃ past new, Ends (validated w request) past (.ok h.order) new
  resolved : ∃ genesis past new,
    Ends (Funding.resolve w.keyring w.limits h.order { genesis }) past (.ok (h.funding, h.draft)) new
  found : ∃ cutoff, h.selection = Funding.chosen w.index cutoff h.order h.funding ∧ h.selection.isSatisfied = true

/-- What is gathered is a hand that a run can have. -/
theorem ready_of_gather {past new : List Event} {trail trail' : List Stage} {h : Hand}
    (hg : Passes (gather w request) past trail (.ok h) trail' new) : h.Ready w request := by
  obtain ⟨⟨⟩, _, _, _, -, hg, -⟩ := passes_bind_ok_iff.mp hg
  obtain ⟨order, _, _, _, hvalid, hg, -⟩ := passes_bind_ok_iff.mp hg
  obtain ⟨⟨⟩, _, _, _, -, hg, -⟩ := passes_bind_ok_iff.mp hg
  obtain ⟨genesis, _, _, _, -, hg, -⟩ := passes_bind_ok_iff.mp hg
  obtain ⟨⟨funding, draft⟩, _, _, _, hresolve, hg, -⟩ := passes_bind_ok_iff.mp hg
  obtain ⟨⟨⟩, _, _, _, -, hg, -⟩ := passes_bind_ok_iff.mp hg
  obtain ⟨cutoff, _, _, _, -, hg, -⟩ := passes_bind_ok_iff.mp hg
  obtain ⟨selection, _, _, _, hsearch, hg, -⟩ := passes_bind_ok_iff.mp hg
  cases (passes_pure_iff.mp hg).1
  exact ⟨⟨_, _, (passes_work_iff.mp hvalid).1⟩, ⟨genesis, _, _, (passes_work_iff.mp hresolve).1⟩, cutoff,
    Funding.chosen_of_ends_search (passes_work_iff.mp hsearch).1⟩

theorem validate_of_validated {past new : List Event} {order : Order}
    (h : Ends (validated w request) past (.ok order) new) :
    request.validate w.network w.limits w.keyring.isSome = .ok order :=
  mapError_eq_ok_iff.mp (ends_validated h).1.symm

theorem Hand.Ready.reads {h : Hand} (hr : h.Ready w request) : Request.Reads w.network w.limits request h.order := by
  obtain ⟨_, _, hv⟩ := hr.validated
  exact (Request.reads_of_validate (validate_of_validated hv)).2

theorem Hand.Ready.sound {h : Hand} (hr : h.Ready w request) : h.order.Sound w.keyring.isSome := by
  obtain ⟨_, _, hv⟩ := hr.validated
  exact Request.sound_of_validate (validate_of_validated hv)

end Transfer

namespace Funding

section Resolve

variable {m : Type → Type} [Monad m] [Journal m]

/-- The locks of the payer's own keys. -/
def owned (keyring : Option Keyring) (limits : Limits) (order : Order) : ExceptT TransferFault m Funding := do
  let funding ← step (primary order)
  match ← step (derivedKeys keyring limits order) with
  | none => pure funding
  | some (keys, change) => do
    match keys.change.getLast? with
    | some last => Journal.debug ("Found change address at " ++ last.path)
    | none => pure ()
    let funding ← step (funding.addDerived keys change)
    Journal.info ("Searching " ++ toString funding.lockHashes.length ++ " derived lock hashes")
    pure funding

/-- Adds the locked source. -/
def addSource (order : Order) (draft : Draft) (funding : Funding) : ExceptT TransferFault m (Funding × Draft) :=
  match order.locked with
  | none => pure (funding, draft)
  | some source => step (funding.addLocked order source draft)

theorem resolve_eq [LawfulMonad m] (keyring : Option Keyring) (limits : Limits) (order : Order) (draft : Draft) :
    (resolve keyring limits order draft : ExceptT TransferFault m (Funding × Draft)) =
      owned keyring limits order >>= addSource order draft := by
  unfold resolve owned
  rw [bind_assoc]
  refine bind_congr fun funding => ?_
  rw [bind_assoc]
  refine bind_congr fun derived => ?_
  cases derived with
  | none => rfl
  | some derived =>
    obtain ⟨keys, change⟩ := derived
    dsimp only
    cases keys.change.getLast? with
    | none =>
      simp only [bind_assoc, pure_bind]
      rfl
    | some last =>
      simp only [bind_assoc, pure_bind]
      rfl

end Resolve

/-- A locked source comes before all, and its policy is in the draft; without one nothing is added. -/
theorem ends_addSource_ok {order : Order} {draft draft' : Draft} {funding funding' : Funding} {past new : List Event}
    (h : Ends (addSource order draft funding) past (.ok (funding', draft')) new) :
    (order.locked = none ∧ funding' = funding ∧ draft' = draft) ∨
      ∃ source policy hash, order.locked = some source ∧
        source.bind (order.payer.keyHash :: funding.entries.map KeyEntry.keyHash) = .ok policy ∧
        draft.addPolicy policy = .ok draft' ∧ source.address.lockHash = .ok hash ∧
        funding' = { funding with lockHashes := hash :: funding.lockHashes } := by
  unfold addSource at h
  cases hl : order.locked with
  | none =>
    rw [hl] at h
    cases (ends_pure_iff.mp h).1
    exact .inl ⟨rfl, rfl, rfl⟩
  | some source =>
    rw [hl] at h
    have hadd : funding.addLocked order source draft = .ok (funding', draft') := (ends_step_iff.mp h).1.symm
    unfold addLocked at hadd
    obtain ⟨policy, hpolicy, hadd⟩ := bind_eq_ok_iff.mp hadd
    obtain ⟨d, hd, hadd⟩ := bind_eq_ok_iff.mp hadd
    obtain ⟨hash, hhash, hadd⟩ := bind_eq_ok_iff.mp hadd
    cases pure_eq_ok_iff.mp hadd
    exact .inr ⟨source, policy, hash, rfl, mapError_eq_ok_iff.mp hpolicy, mapError_eq_ok_iff.mp hd,
      mapError_eq_ok_iff.mp hhash, rfl⟩

end Funding

namespace Transfer

/-- Resolving puts a policy into the draft, or nothing. -/
theorem draft_of_resolve {keyring : Option Keyring} {limits : Limits} {order : Order} {draft draft' : Draft}
    {funding : Funding} {past new : List Event}
    (h : Ends (Funding.resolve keyring limits order draft) past (.ok (funding, draft')) new) :
    draft' = draft ∨ ∃ policy, draft.addPolicy policy = .ok draft' := by
  rw [Funding.resolve_eq] at h
  obtain ⟨found, _, _, -, h, -⟩ := ends_bind_ok_iff.mp h
  rcases Funding.ends_addSource_ok h with ⟨-, -, rfl⟩ | ⟨_, policy, _, -, -, hd, -, -⟩
  · exact .inl rfl
  · exact .inr ⟨policy, hd⟩

/-- Nothing is spent or made yet. -/
theorem Hand.Ready.draft_inputs {h : Hand} (hr : h.Ready w request) : h.draft.inputs = [] ∧ h.draft.outputs = [] := by
  obtain ⟨genesis, _, _, hres⟩ := hr.resolved
  rcases draft_of_resolve hres with hd | ⟨policy, hp⟩
  · rw [hd]
    exact ⟨rfl, rfl⟩
  · obtain ⟨-, hash, -, hd⟩ := Draft.addPolicy_eq_ok_iff.mp hp
    rw [hd]
    exact ⟨rfl, rfl⟩

/-! ## What gathering can say -/

end Transfer

namespace Event

/-- Neither is a cell asked for, nor a transaction sent. -/
def IsQuiet : Event → Prop
  | cell .. | send .. => False
  | _ => True

theorem IsNote.isQuiet {v : Event} (h : v.IsNote) : v.IsQuiet := by
  cases v <;> trivial

end Event

namespace Transfer

section Quiet

variable {w : Wallet Told} {replies : Replies}

theorem within_validated (request : Request) :
    Within (fun e => ¬ e.IsFee) Event.IsQuiet (validated w request) := by
  intro past r new h
  obtain ⟨hr, hnotes⟩ := ends_validated h
  refine ⟨fun e he => ?_, fun v hv => (hnotes v hv).isQuiet⟩
  rw [hr] at he
  obtain ⟨f, -, rfl⟩ := mapError_eq_error_iff.mp he
  exact id

theorem within_genesis (hw : w.node = replies.node) :
    Within (fun e => ¬ e.IsFee) Event.IsQuiet (ExceptT.adapt TransferFault.node w.node.genesis) := by
  rw [hw]
  exact ((dialogue_genesis fun _ _ => trivial).within replies).adapt fun _ _ => id

theorem within_cutoff (hw : w.node = replies.node) :
    Within (fun e => ¬ e.IsFee) Event.IsQuiet (ExceptT.adapt TransferFault.node w.node.cutoff) := by
  rw [hw]
  exact ((dialogue_cutoff (fun _ => trivial) fun _ _ => trivial).within replies).adapt fun _ _ => id

theorem faults_lockHash (keyHash : Bytes) : Faults (fun e => ¬ e.IsFee) (Funding.lockHash keyHash) :=
  faults_mapError (fun _ => id) _

theorem within_owned (keyring : Option Keyring) (limits : Limits) (order : Order) :
    Within (fun e => ¬ e.IsFee) Event.IsQuiet (Funding.owned keyring limits order) := by
  refine .bind (within_step ((faults_lockHash _).bind fun _ => faults_pure _)) fun primary => ?_
  refine .bind (within_step ?_) fun derived => ?_
  · unfold Funding.derivedKeys
    split
    · exact (faults_mapError (fun _ => id) _).bind fun _ => faults_pure _
    · exact faults_pure none
  · cases derived with
    | none => exact within_pure primary
    | some derived =>
      have hadd : Faults (fun e => ¬ e.IsFee) (primary.addDerived derived.1 derived.2) :=
        (faults_mapM faults_lockHash _).bind fun _ => faults_pure _
      have hrest : Within (fun e => ¬ e.IsFee) Event.IsQuiet (do
          let found ← Funding.step (primary.addDerived derived.1 derived.2)
          Journal.info ("Searching " ++ toString found.lockHashes.length ++ " derived lock hashes")
          pure found) :=
        (within_step hadd).bind fun found => .bind (within_note trivial) fun _ => within_pure found
      dsimp only
      split
      · exact .bind (within_note trivial) fun _ => hrest
      · exact hrest

theorem within_resolve (keyring : Option Keyring) (limits : Limits) (order : Order) (draft : Draft) :
    Within (fun e => ¬ e.IsFee) Event.IsQuiet (Funding.resolve keyring limits order draft) := by
  rw [Funding.resolve_eq]
  refine (within_owned keyring limits order).bind fun funding => ?_
  unfold Funding.addSource
  cases order.locked with
  | none => exact within_pure _
  | some source =>
    refine within_step ((faults_mapError (fun _ => id) _).bind fun policy => ?_)
    refine (faults_mapError (fun _ => id) _).bind fun _ => ?_
    exact (faults_mapError (fun _ => id) _).bind fun _ => faults_pure _

theorem within_search (network : Network) (cutoff : Int) (index : Index) (order : Order) (funding : Funding) :
    Within (fun e => ¬ e.IsFee) Event.IsQuiet (Funding.search network cutoff index order funding) := by
  intro past r new h
  obtain ⟨hnotes, hr⟩ := Funding.ends_search h
  refine ⟨?_, fun v hv => (hnotes v hv).isQuiet⟩
  rintro e rfl
  rcases hr with ⟨f, he, -⟩ | ⟨-, he⟩ | ⟨-, he⟩ <;> cases he <;> exact id

/-- Gathering neither asks for a cell nor sends, and finds no fault with the fee. -/
theorem keeps_gather (hw : w.node = replies.node) (request : Request) :
    Keeps (fun e => ¬ e.IsFee) Event.IsQuiet (gather w request) := by
  refine .bind (keeps_enter trivial) fun _ => .bind (keeps_work (within_validated request)) fun order => ?_
  refine .bind (keeps_enter trivial) fun _ => .bind (keeps_work (within_genesis hw)) fun genesis => ?_
  refine .bind (keeps_work (within_resolve _ _ _ _)) fun resolved => ?_
  refine .bind (keeps_enter trivial) fun _ => .bind (keeps_work (within_cutoff hw)) fun cutoff => ?_
  exact .bind (keeps_work (within_search _ _ _ _ _)) fun _ => keeps_pure _

end Quiet

end Transfer

end CellPurse
