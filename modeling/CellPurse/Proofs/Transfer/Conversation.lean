import CellPurse.Proofs.Outcome
import CellPurse.Transfer.Run

/-!
# CellPurse.Proofs.Transfer.Conversation — what a purse and a node say to each other

A node may answer in any way, and the same question in another way the next time.  A conversation is the list of what
was said: notes, and questions with their answers.

* `Told`: the monad of conversations: from all that was said before to a result and to what is said next, so that what
  was said can only grow;
* `Replies`: a node as a function from what was said so far to its next answer, `Replies.node` as a node in `Told`;
* `Ends x past r new`: after `past`, `x` ends with `r` and says `new`; one equivalence for each way to build `x`;
* `Within P Q x`: whatever was said before, a fault of `x` satisfies `P`, and all that `x` says satisfies `Q`.
-/

namespace CellPurse

/-- Something that is said: a note, or a question to the node with its answer. -/
inductive Event where
  | note (n : Note)
  | block (number : Int) (answer : Except NodeFault Json)
  | cell (point : OutPoint) (withData : Bool) (answer : Except NodeFault (Option CellBody))
  | send (tx : Transaction) (answer : Except NodeFault Bytes)
  | tip (answer : Except NodeFault Epoch)
  | epoch (number : Int) (answer : Except NodeFault (Option EpochSpan))
  | network (answer : Except NodeFault Network)

/-- A part of a conversation: from all that was said before it to a result and to what it adds. -/
@[ext]
structure Told (α : Type) where
  talk : List Event → α × List Event

namespace Told

instance : Monad Told where
  pure a := ⟨fun _ => (a, [])⟩
  bind x f := ⟨fun past =>
    let (a, first) := x.talk past
    let (b, rest) := (f a).talk (past ++ first)
    (b, first ++ rest)⟩

theorem talk_pure {α : Type} (a : α) (past : List Event) : (pure a : Told α).talk past = (a, []) := rfl

theorem talk_bind {α β : Type} (x : Told α) (f : α → Told β) (past : List Event) :
    (x >>= f).talk past = (((f (x.talk past).1).talk (past ++ (x.talk past).2)).1,
      (x.talk past).2 ++ ((f (x.talk past).1).talk (past ++ (x.talk past).2)).2) := rfl

instance : LawfulMonad Told := .mk' Told
  (fun x => Told.ext (funext fun past => Prod.ext rfl (List.append_nil (x.talk past).2)))
  (fun a f => by
    ext1
    funext past
    simp only [talk_bind, talk_pure, List.append_nil, List.nil_append])
  (fun x f g => by
    ext1
    funext past
    simp only [talk_bind, List.append_assoc])

instance : Journal Told := ⟨fun n => ⟨fun _ => ((), [.note n])⟩⟩

end Told

/-- What a node answers to each question, after all that was said. -/
structure Replies where
  block : List Event → Int → Except NodeFault Json
  cell : List Event → OutPoint → Bool → Except NodeFault (Option CellBody)
  send : List Event → Transaction → Except NodeFault Bytes
  tip : List Event → Except NodeFault Epoch
  epoch : List Event → Int → Except NodeFault (Option EpochSpan)
  network : List Event → Except NodeFault Network

/-- A question is written down with its answer. -/
def ask {α : Type} (event : Except NodeFault α → Event) (answer : List Event → Except NodeFault α) :
    ExceptT NodeFault Told α :=
  ⟨fun past => (answer past, [event (answer past)])⟩

/-- The node that answers so. -/
def Replies.node (r : Replies) : Node Told where
  block n := ask (.block n) (r.block · n)
  cell p d := ask (.cell p d) (r.cell · p d)
  send tx := ask (.send tx) (r.send · tx)
  tip := ask .tip r.tip
  epoch n := ask (.epoch n) (r.epoch · n)
  network := ask .network r.network

namespace Told

open Outcome

/-! ## How a part of a conversation ends -/

section Ends

variable {α β ε δ : Type}

/-- After `past`, `x` ends with `r` and says `new`. -/
def Ends (x : ExceptT ε Told α) (past : List Event) (r : Except ε α) (new : List Event) : Prop :=
  x.run.talk past = (r, new)

theorem ends_run (x : ExceptT ε Told α) (past : List Event) : Ends x past (x.run.talk past).1 (x.run.talk past).2 := rfl

theorem exists_ends {x : ExceptT ε Told α} {past : List Event} {r : Except ε α} (h : (x.run.talk past).1 = r) :
    ∃ new, Ends x past r new := ⟨_, h ▸ ends_run x past⟩

theorem ends_pure_iff {a : α} {past : List Event} {r : Except ε α} {new : List Event} :
    Ends (pure a) past r new ↔ r = .ok a ∧ new = [] := by
  unfold Ends
  show (Except.ok a, []) = (r, new) ↔ _
  rw [Prod.mk.injEq, eq_comm, @eq_comm _ [] new]

theorem ends_throw_iff {e : ε} {past : List Event} {r : Except ε α} {new : List Event} :
    Ends (throw e) past r new ↔ r = .error e ∧ new = [] := by
  unfold Ends
  show (Except.error e, []) = (r, new) ↔ _
  rw [Prod.mk.injEq, eq_comm, @eq_comm _ [] new]

theorem talk_run_bind (x : ExceptT ε Told α) (f : α → ExceptT ε Told β) (past : List Event) :
    (x >>= f).run.talk past = match x.run.talk past with
      | (.ok a, first) => (((f a).run.talk (past ++ first)).1, first ++ ((f a).run.talk (past ++ first)).2)
      | (.error e, first) => (.error e, first ++ []) := by
  rw [ExceptT.run_bind, talk_bind]
  rcases x.run.talk past with ⟨_ | _, _⟩ <;> rfl

/-- A first part either fails, or hands its result and all that was said to the second. -/
theorem ends_bind_iff {x : ExceptT ε Told α} {f : α → ExceptT ε Told β} {past : List Event} {r : Except ε β}
    {new : List Event} :
    Ends (x >>= f) past r new ↔
      (∃ e, r = .error e ∧ Ends x past (.error e) new) ∨
      ∃ a first rest, Ends x past (.ok a) first ∧ Ends (f a) (past ++ first) r rest ∧ new = first ++ rest := by
  unfold Ends
  rw [talk_run_bind]
  obtain ⟨e | a, first⟩ := x.run.talk past
  · constructor
    · intro h
      obtain ⟨rfl, rfl⟩ := Prod.mk.inj h
      exact .inl ⟨e, rfl, by rw [List.append_nil]⟩
    · rintro (⟨e', rfl, h⟩ | ⟨a, first', rest, h, -, -⟩)
      · obtain ⟨he, rfl⟩ := Prod.mk.inj h
        cases he
        exact Prod.ext rfl (List.append_nil first)
      · cases (Prod.mk.inj h).1
  · constructor
    · intro h
      obtain ⟨hr, rfl⟩ := Prod.mk.inj h
      exact .inr ⟨a, first, _, rfl, Prod.ext hr rfl, rfl⟩
    · rintro (⟨e', rfl, h⟩ | ⟨a', first', rest, h, hf, rfl⟩)
      · cases (Prod.mk.inj h).1
      · obtain ⟨ha, rfl⟩ := Prod.mk.inj h
        cases ha
        show (((f a).run.talk (past ++ first)).1, first ++ ((f a).run.talk (past ++ first)).2) = _
        rw [hf]

theorem ends_bind_ok_iff {x : ExceptT ε Told α} {f : α → ExceptT ε Told β} {past : List Event} {b : β}
    {new : List Event} :
    Ends (x >>= f) past (.ok b) new ↔
      ∃ a first rest, Ends x past (.ok a) first ∧ Ends (f a) (past ++ first) (.ok b) rest ∧ new = first ++ rest := by
  rw [ends_bind_iff]
  constructor
  · rintro (⟨e, h, -⟩ | h)
    · cases h
    · exact h
  · exact .inr

theorem Ends.exists_bind {x : ExceptT ε Told α} {f : α → ExceptT ε Told β} {past : List Event} {a : α} {r : Except ε β}
    {first : List Event} (hx : Ends x past (.ok a) first) (hf : ∃ rest, Ends (f a) (past ++ first) r rest) :
    ∃ new, Ends (x >>= f) past r new := by
  obtain ⟨rest, hf⟩ := hf
  exact ⟨first ++ rest, ends_bind_iff.mpr (.inr ⟨a, first, rest, hx, hf, rfl⟩)⟩

/-- What fails or not without a word. -/
theorem ends_mk_iff {c : Except ε α} {past : List Event} {r : Except ε α} {new : List Event} :
    Ends (.mk (pure c)) past r new ↔ r = c ∧ new = [] := by
  unfold Ends
  show (c, []) = (r, new) ↔ _
  rw [Prod.mk.injEq, eq_comm, @eq_comm _ [] new]

theorem ends_step_iff {c : Except TransferFault α} {past : List Event} {r : Except TransferFault α} {new : List Event} :
    Ends (Funding.step c) past r new ↔ r = c ∧ new = [] := ends_mk_iff

theorem ends_note_iff {n : Note} {past : List Event} {r : Except ε Unit} {new : List Event} :
    Ends (Journal.write n) past r new ↔ r = .ok () ∧ new = [.note n] := by
  unfold Ends
  show (Except.ok (), [Event.note n]) = (r, new) ↔ _
  rw [Prod.mk.injEq, eq_comm, @eq_comm _ [Event.note n] new]

theorem ends_adapt_iff {g : ε → δ} {x : ExceptT ε Told α} {past : List Event} {r : Except δ α} {new : List Event} :
    Ends (ExceptT.adapt g x) past r new ↔ ∃ q, Ends x past q new ∧ r = q.mapError g := by
  unfold Ends
  have hrun : (ExceptT.adapt g x).run.talk past = ((x.run.talk past).1.mapError g, (x.run.talk past).2 ++ []) := rfl
  rw [hrun, List.append_nil]
  constructor
  · intro h
    obtain ⟨rfl, rfl⟩ := Prod.mk.inj h
    exact ⟨_, rfl, rfl⟩
  · rintro ⟨q, h, rfl⟩
    rw [h]

theorem ends_ask_iff {event : Except NodeFault α → Event} {answer : List Event → Except NodeFault α}
    {past : List Event} {r : Except NodeFault α} {new : List Event} :
    Ends (ask event answer) past r new ↔ r = answer past ∧ new = [event (answer past)] := by
  unfold Ends
  show (answer past, [event (answer past)]) = (r, new) ↔ _
  rw [Prod.mk.injEq, eq_comm, @eq_comm _ _ new]

theorem ends_step_bind_iff {c : Except TransferFault α} {f : α → ExceptT TransferFault Told β} {past : List Event}
    {r : Except TransferFault β} {new : List Event} :
    Ends (Funding.step c >>= f) past r new ↔
      (∃ e, c = .error e ∧ r = .error e ∧ new = []) ∨ ∃ a, c = .ok a ∧ Ends (f a) past r new := by
  rw [ends_bind_iff]
  constructor
  · rintro (⟨e, rfl, h⟩ | ⟨a, _, rest, h, hf, rfl⟩)
    · obtain ⟨hc, rfl⟩ := ends_step_iff.mp h
      exact .inl ⟨e, hc.symm, rfl, rfl⟩
    · obtain ⟨hc, rfl⟩ := ends_step_iff.mp h
      rw [List.append_nil] at hf
      exact .inr ⟨a, hc.symm, hf⟩
  · rintro (⟨e, rfl, rfl, rfl⟩ | ⟨a, rfl, hf⟩)
    · exact .inl ⟨e, rfl, ends_step_iff.mpr ⟨rfl, rfl⟩⟩
    · refine .inr ⟨a, [], new, ends_step_iff.mpr ⟨rfl, rfl⟩, ?_, rfl⟩
      rw [List.append_nil]
      exact hf

theorem ends_step_bind_ok_iff {c : Except TransferFault α} {f : α → ExceptT TransferFault Told β} {past : List Event}
    {b : β} {new : List Event} :
    Ends (Funding.step c >>= f) past (.ok b) new ↔ ∃ a, c = .ok a ∧ Ends (f a) past (.ok b) new := by
  rw [ends_step_bind_iff]
  constructor
  · rintro (⟨e, -, h, -⟩ | h)
    · cases h
    · exact h
  · exact .inr

theorem ends_note_bind_iff {n : Note} {x : ExceptT ε Told β} {past : List Event} {r : Except ε β} {new : List Event} :
    Ends (Journal.write n >>= fun _ => x) past r new ↔
      ∃ rest, Ends x (past ++ [.note n]) r rest ∧ new = .note n :: rest := by
  rw [ends_bind_iff]
  constructor
  · rintro (⟨e, -, h⟩ | ⟨⟨⟩, _, rest, h, hx, rfl⟩)
    · cases (ends_note_iff.mp h).1
    · obtain ⟨-, rfl⟩ := ends_note_iff.mp h
      exact ⟨rest, hx, rfl⟩
  · rintro ⟨rest, hx, rfl⟩
    exact .inr ⟨(), _, rest, ends_note_iff.mpr ⟨rfl, rfl⟩, hx, rfl⟩

end Ends

/-! ## What a part of a conversation can say -/

section Within

variable {α β ε δ : Type}

/-- Whatever was said before, a fault of `x` satisfies `P`, and all that `x` says satisfies `Q`. -/
def Within (P : ε → Prop) (Q : Event → Prop) (x : ExceptT ε Told α) : Prop :=
  ∀ past r new, Ends x past r new → (∀ e, r = .error e → P e) ∧ ∀ v ∈ new, Q v

variable {P : ε → Prop} {Q : Event → Prop}

theorem within_pure (a : α) : Within P Q (pure a) := by
  intro past r new h
  obtain ⟨rfl, rfl⟩ := ends_pure_iff.mp h
  exact ⟨nofun, List.forall_mem_nil _⟩

theorem within_throw {e : ε} (he : P e) : Within P Q (throw e : ExceptT ε Told α) := by
  intro past r new h
  obtain ⟨rfl, rfl⟩ := ends_throw_iff.mp h
  exact ⟨fun e' he' => Except.error.inj he' ▸ he, List.forall_mem_nil _⟩

/-- The second part need only be looked at after what the first one can hand over. -/
theorem Within.bind_of_ends {x : ExceptT ε Told α} {f : α → ExceptT ε Told β} (hx : Within P Q x)
    (hf : ∀ a, (∃ past new, Ends x past (.ok a) new) → Within P Q (f a)) : Within P Q (x >>= f) := by
  intro past r new h
  rcases ends_bind_iff.mp h with ⟨e, rfl, h1⟩ | ⟨a, first, rest, h1, h2, rfl⟩
  · obtain ⟨he, hv⟩ := hx past _ new h1
    exact ⟨fun e' he' => Except.error.inj he' ▸ he e rfl, hv⟩
  · obtain ⟨-, hfirst⟩ := hx past _ first h1
    obtain ⟨he, hrest⟩ := hf a ⟨past, first, h1⟩ _ r rest h2
    exact ⟨he, fun v hv => (List.mem_append.mp hv).elim (hfirst v) (hrest v)⟩

theorem Within.bind {x : ExceptT ε Told α} {f : α → ExceptT ε Told β} (hx : Within P Q x)
    (hf : ∀ a, Within P Q (f a)) : Within P Q (x >>= f) := hx.bind_of_ends fun a _ => hf a

theorem Within.mono {P' : ε → Prop} {Q' : Event → Prop} {x : ExceptT ε Told α} (hx : Within P Q x)
    (hP : ∀ e, P e → P' e) (hQ : ∀ v, Q v → Q' v) : Within P' Q' x := fun past r new h =>
  ⟨fun e he => hP e ((hx past r new h).1 e he), fun v hv => hQ v ((hx past r new h).2 v hv)⟩

theorem within_note {n : Note} (hn : Q (.note n)) : Within P Q (Journal.write n) := by
  intro past r new h
  obtain ⟨rfl, rfl⟩ := ends_note_iff.mp h
  exact ⟨nofun, fun v hv => List.mem_singleton.mp hv ▸ hn⟩

theorem within_mk {c : Except ε α} (hc : Faults P c) : Within P Q (.mk (pure c) : ExceptT ε Told α) := by
  intro past r new h
  obtain ⟨rfl, rfl⟩ := ends_mk_iff.mp h
  exact ⟨hc, List.forall_mem_nil _⟩

theorem within_step {P : TransferFault → Prop} {c : Except TransferFault α} (hc : Faults P c) :
    Within P Q (Funding.step c : ExceptT TransferFault Told α) := within_mk hc

theorem Within.adapt {P' : δ → Prop} {g : ε → δ} {x : ExceptT ε Told α} (hx : Within P Q x)
    (hg : ∀ e, P e → P' (g e)) : Within P' Q (ExceptT.adapt g x) := by
  intro past r new h
  obtain ⟨q, hq, rfl⟩ := ends_adapt_iff.mp h
  obtain ⟨he, hv⟩ := hx past q new hq
  refine ⟨fun e heq => ?_, hv⟩
  cases q with
  | ok a => cases heq
  | error e' => exact Except.error.inj heq ▸ hg e' (he e' rfl)

theorem within_ask {P : NodeFault → Prop} {event : Except NodeFault α → Event}
    {answer : List Event → Except NodeFault α} (hP : ∀ e, P e) (hQ : ∀ q, Q (event q)) :
    Within P Q (ask event answer) := by
  intro past r new h
  obtain ⟨rfl, rfl⟩ := ends_ask_iff.mp h
  exact ⟨fun e _ => hP e, fun v hv => List.mem_singleton.mp hv ▸ hQ _⟩

end Within

end Told

end CellPurse
