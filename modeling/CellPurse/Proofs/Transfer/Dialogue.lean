import CellPurse.Proofs.Transfer.Conversation

/-!
# CellPurse.Proofs.Transfer.Dialogue — what decides how a conversation goes

A part of a conversation is put together from notes and questions.  However it is put together, it goes as the answers
go, and no question follows one that was refused.

* `Answers replies past log`: the node answers so, had it been asked after `past`; `Event.Refused`: the answer is a
  fault;
* `Settled ended log`: what is said after a refusal are notes, and then `ended` holds;
* `Dialogue Q x`: `x` is put together from notes and questions in `Q`;
* `Dialogue.exchange`: a dialogue says what the node answers, it stops when it is refused, and with the same answers, by
  whatever node and after whatever was said before, it goes the same way again.
-/

namespace CellPurse

open Told

namespace Event

/-- Nothing but a note. -/
def IsNote : Event → Prop
  | note _ => True
  | _ => False

/-- The node gives the answer of the event, when it is asked after `past`. -/
def AnsweredBy (replies : Replies) (past : List Event) : Event → Prop
  | note _ => True
  | block n a => replies.block past n = a
  | cell p d a => replies.cell past p d = a
  | send tx a => replies.send past tx = a
  | tip a => replies.tip past = a
  | epoch n a => replies.epoch past n = a
  | network a => replies.network past = a

/-- The answer is a fault. -/
def Refused : Event → Prop
  | note _ => False
  | block _ a => ∃ f, a = .error f
  | cell _ _ a => ∃ f, a = .error f
  | send _ a => ∃ f, a = .error f
  | tip a => ∃ f, a = .error f
  | epoch _ a => ∃ f, a = .error f
  | network a => ∃ f, a = .error f

end Event

/-! ## Answers -/

/-- The node gives the answers of the log, when it is asked after `past`. -/
def Answers (replies : Replies) : List Event → List Event → Prop
  | _, [] => True
  | past, v :: r => v.AnsweredBy replies past ∧ Answers replies (past ++ [v]) r

theorem answers_append {replies : Replies} {past a b : List Event} :
    Answers replies past (a ++ b) ↔ Answers replies past a ∧ Answers replies (past ++ a) b := by
  induction a generalizing past with
  | nil => simp [Answers]
  | cons v a ih => simp [Answers, ih, and_assoc]

/-- What was answered was answered at some time. -/
theorem answeredBy_of_mem {replies : Replies} {past log : List Event} (h : Answers replies past log) {v : Event}
    (hv : v ∈ log) : ∃ past', v.AnsweredBy replies past' := by
  induction log generalizing past with
  | nil => cases hv
  | cons u r ih =>
    rcases List.mem_cons.mp hv with rfl | hv
    · exact ⟨past, h.1⟩
    · exact ih h.2 hv

theorem answers_of_notes {replies : Replies} {past log : List Event} (h : ∀ v ∈ log, v.IsNote) :
    Answers replies past log := by
  induction log generalizing past with
  | nil => trivial
  | cons v r ih =>
    obtain ⟨hv, hr⟩ := List.forall_mem_cons.mp h
    refine ⟨?_, ih hr⟩
    cases v with
    | note => trivial
    | _ => exact hv.elim

/-! ## Refusals -/

/-- After a refusal nothing is said but notes, and it has ended so. -/
def Settled (ended : Prop) : List Event → Prop
  | [] => True
  | v :: r => (v.Refused → ended ∧ ∀ u ∈ r, u.IsNote) ∧ Settled ended r

section Settled

variable {ended : Prop} {a b : List Event}

theorem Settled.mono {ended' : Prop} (h : Settled ended a) (he : ended → ended') : Settled ended' a := by
  induction a with
  | nil => trivial
  | cons v a ih => exact ⟨fun hv => ⟨he (h.1 hv).1, (h.1 hv).2⟩, ih h.2⟩

theorem settled_of_notes (h : ∀ v ∈ a, v.IsNote) : Settled ended a := by
  induction a with
  | nil => trivial
  | cons v a ih =>
    obtain ⟨hv, ha⟩ := List.forall_mem_cons.mp h
    refine ⟨fun hrefused => ?_, ih ha⟩
    cases v with
    | note => exact hrefused.elim
    | _ => exact hv.elim

/-- Where nothing was refused, anything may follow. -/
theorem Settled.append (ha : Settled False a) (hb : Settled ended b) : Settled ended (a ++ b) := by
  induction a with
  | nil => exact hb
  | cons v a ih => exact ⟨fun hv => (ha.1 hv).1.elim, ih ha.2⟩

/-- Notes may always follow. -/
theorem Settled.append_notes (ha : Settled ended a) (hb : ∀ v ∈ b, v.IsNote) : Settled ended (a ++ b) := by
  induction a with
  | nil => exact settled_of_notes hb
  | cons v a ih =>
    refine ⟨fun hv => ⟨(ha.1 hv).1, fun u hu => ?_⟩, ih ha.2⟩
    rcases List.mem_append.mp hu with hu | hu
    · exact (ha.1 hv).2 u hu
    · exact hb u hu

/-- A refusal ends it, and whatever comes after it is a note. -/
theorem Settled.of_refused {v : Event} (h : Settled ended (a ++ v :: b)) (hv : v.Refused) :
    ended ∧ ∀ u ∈ b, u.IsNote := by
  induction a with
  | nil => exact h.1 hv
  | cons w a ih => exact ih h.2

end Settled

/-! ## Dialogues -/

/-- A question of a node: what it says, and who answers. -/
structure IsQuestion {α : Type} (event : Except NodeFault α → Event)
    (answer : Replies → List Event → Except NodeFault α) : Prop where
  answered : ∀ replies past a, (event a).AnsweredBy replies past ↔ answer replies past = a
  refused : ∀ a, (event a).Refused → ∃ f, a = .error f

theorem isQuestion_block (n : Int) : IsQuestion (.block n) fun r past => r.block past n :=
  ⟨fun _ _ _ => .rfl, fun _ => id⟩

theorem isQuestion_cell (p : OutPoint) (d : Bool) : IsQuestion (.cell p d) fun r past => r.cell past p d :=
  ⟨fun _ _ _ => .rfl, fun _ => id⟩

theorem isQuestion_send (tx : Transaction) : IsQuestion (.send tx) fun r past => r.send past tx :=
  ⟨fun _ _ _ => .rfl, fun _ => id⟩

theorem isQuestion_tip : IsQuestion .tip Replies.tip := ⟨fun _ _ _ => .rfl, fun _ => id⟩

theorem isQuestion_epoch (n : Int) : IsQuestion (.epoch n) fun r past => r.epoch past n :=
  ⟨fun _ _ _ => .rfl, fun _ => id⟩

/-- A part of a conversation, with whatever node, that is put together from notes and questions in `Q`. -/
inductive Dialogue (Q : Event → Prop) : {ε α : Type} → (Replies → ExceptT ε Told α) → Prop where
  | silent {ε α : Type} (c : Except ε α) : Dialogue Q fun _ => .mk (pure c)
  | note {ε : Type} {n : Note} (said : Q (.note n)) : Dialogue Q fun _ => (Journal.write n : ExceptT ε Told Unit)
  | ask {α : Type} {event : Except NodeFault α → Event} {answer : Replies → List Event → Except NodeFault α}
      (question : IsQuestion event answer) (said : ∀ a, Q (event a)) : Dialogue Q fun r => ask event (answer r)
  | adapt {ε δ α : Type} {x : Replies → ExceptT ε Told α} (g : ε → δ) (part : Dialogue Q x) :
      Dialogue Q fun r => ExceptT.adapt g (x r)
  | bind {ε α β : Type} {x : Replies → ExceptT ε Told α} {f : α → Replies → ExceptT ε Told β} (first : Dialogue Q x)
      (second : ∀ a, Dialogue Q (f a)) : Dialogue Q fun r => x r >>= fun a => f a r

section Exchange

variable {ε α : Type} {Q : Event → Prop}

/-- What is known of a part of a conversation that ended with `res` and said `new`. -/
structure Exchange (Q : Event → Prop) (x : Replies → ExceptT ε Told α) (replies : Replies) (past : List Event)
    (res : Except ε α) (new : List Event) : Prop where
  said : ∀ v ∈ new, Q v
  answers : Answers replies past new
  settled : Settled (∃ e, res = .error e) new
  /-- The same answers lead to the same end. -/
  again : ∀ replies' past', Answers replies' past' new → Ends (x replies') past' res new

/-- Nothing is refused where all goes well. -/
theorem settled_of_ok {a : α} {log : List Event} (h : Settled (∃ e, (.ok a : Except ε α) = .error e) log) :
    Settled False log := h.mono (by rintro ⟨_, h⟩; cases h)

/-- **The answers decide how a dialogue goes.** -/
theorem Dialogue.exchange {x : Replies → ExceptT ε Told α} (hx : Dialogue Q x) {replies : Replies} {past : List Event}
    {res : Except ε α} {new : List Event} (h : Ends (x replies) past res new) : Exchange Q x replies past res new := by
  induction hx generalizing past new with
  | silent c =>
    obtain ⟨rfl, rfl⟩ := ends_mk_iff.mp h
    exact ⟨List.forall_mem_nil _, trivial, trivial, fun _ _ _ => ends_mk_iff.mpr ⟨rfl, rfl⟩⟩
  | note said =>
    obtain ⟨rfl, rfl⟩ := ends_note_iff.mp h
    refine ⟨List.forall_mem_singleton.mpr said, ⟨trivial, trivial⟩, ⟨False.elim, trivial⟩, fun _ _ _ => ?_⟩
    exact ends_note_iff.mpr ⟨rfl, rfl⟩
  | @ask α event answer question said =>
    obtain ⟨rfl, rfl⟩ := ends_ask_iff.mp h
    refine ⟨List.forall_mem_singleton.mpr (said _), ⟨(question.answered _ _ _).mpr rfl, trivial⟩,
      ⟨fun hrefused => ⟨question.refused _ hrefused, List.forall_mem_nil _⟩, trivial⟩, ?_⟩
    intro replies' past' hanswers
    have hsame := (question.answered _ _ _).mp hanswers.1
    exact ends_ask_iff.mpr ⟨hsame.symm, by rw [hsame]⟩
  | @adapt ε δ α x g part ih =>
    obtain ⟨q, hq, rfl⟩ := ends_adapt_iff.mp h
    obtain ⟨hsaid, hanswers, hsettled, hagain⟩ := ih hq
    refine ⟨hsaid, hanswers, hsettled.mono ?_, fun replies' past' hanswers' => ?_⟩
    · rintro ⟨e, rfl⟩
      exact ⟨g e, rfl⟩
    · exact ends_adapt_iff.mpr ⟨q, hagain replies' past' hanswers', rfl⟩
  | @bind ε α β x f first second ihx ihf =>
    rcases ends_bind_iff.mp h with ⟨e, rfl, h1⟩ | ⟨a, said, rest, h1, h2, rfl⟩
    · obtain ⟨hsaid, hanswers, hsettled, hagain⟩ := ihx h1
      exact ⟨hsaid, hanswers, hsettled.mono fun ⟨e, he⟩ => ⟨e, by cases he; rfl⟩, fun replies' past' hanswers' =>
        ends_bind_iff.mpr (.inl ⟨e, rfl, hagain replies' past' hanswers'⟩)⟩
    · obtain ⟨hsaid, hanswers, hsettled, hagain⟩ := ihx h1
      obtain ⟨hsaid', hanswers', hsettled', hagain'⟩ := ihf a h2
      refine ⟨fun v hv => (List.mem_append.mp hv).elim (hsaid v) (hsaid' v), answers_append.mpr ⟨hanswers, hanswers'⟩,
        (settled_of_ok hsettled).append hsettled', fun replies' past' h' => ?_⟩
      obtain ⟨hfirst, hrest⟩ := answers_append.mp h'
      exact ends_bind_iff.mpr (.inr ⟨a, said, rest, hagain replies' past' hfirst, hagain' replies' _ hrest, rfl⟩)

theorem Dialogue.within {x : Replies → ExceptT ε Told α} (hx : Dialogue Q x) (replies : Replies) :
    Within (fun _ => True) Q (x replies) := fun _ _ _ h => ⟨fun _ _ => trivial, (hx.exchange h).said⟩

theorem Dialogue.pure (a : α) : Dialogue Q fun _ => (pure a : ExceptT ε Told α) := .silent (.ok a)

theorem Dialogue.throw (e : ε) : Dialogue Q fun _ => (throw e : ExceptT ε Told α) := .silent (.error e)

theorem Dialogue.step (c : Except TransferFault α) : Dialogue Q fun _ => (Funding.step c : ExceptT _ Told α) :=
  .silent c

theorem dialogue_genesis (hblock : ∀ n a, Q (.block n a)) : Dialogue Q fun r => r.node.genesis :=
  .bind (.ask (isQuestion_block 0) (hblock 0)) fun _ => .silent _

theorem dialogue_cutoff (htip : ∀ a, Q (.tip a)) (hepoch : ∀ n a, Q (.epoch n a)) :
    Dialogue Q fun r => r.node.cutoff := by
  refine .bind (.ask isQuestion_tip htip) fun tip => ?_
  split
  · exact .pure 0
  · refine .bind (.ask (isQuestion_epoch _) (hepoch _)) fun span => ?_
    cases span with
    | none => exact .throw _
    | some span => exact .pure _

end Exchange

end CellPurse
