import CellPurse.Proofs.Transfer.Dialogue
import CellPurse.Proofs.Transfer.Stages

/-!
# CellPurse.Proofs.Transfer.Course — the course of a run

* `Stage.path`: the stages in their order; `Stage.Permits s v`: what may be said in a stage;
* `Leg`: a stage and what was said in it; `Travelled path legs res`: the legs go the path to its end, or fail before it;
* `Course path x`: `x` enters the stages of the path, one after another, and talks in each of them as it permits;
* `Course.journey`: where a course leads, as the answers go.
-/

namespace CellPurse

open Told

namespace Stage

/-- The stages in the order in which they are entered. -/
def path : List Stage := [validating, resolving, searching, balancing, signing, finalizing, submitted]

/-- What may be said in a stage: notes, and the questions of the stage. -/
def Permits : Stage → Event → Prop
  | _, .note _ => True
  | resolving, .block .. => True
  | searching, .tip _ => True
  | searching, .epoch .. => True
  | balancing, .cell .. => True
  | finalizing, .send .. => True
  | _, _ => False

/-- Only notes are permitted while a request is validated. -/
theorem isNote_of_validating {v : Event} (h : validating.Permits v) : v.IsNote := by
  cases v with
  | note => trivial
  | _ => exact h.elim

/-- A transaction is sent in one stage. -/
theorem eq_finalizing {s : Stage} {tx : Transaction} {answer : Except NodeFault Bytes}
    (h : s.Permits (.send tx answer)) : s = finalizing := by
  cases s with
  | finalizing => rfl
  | _ => exact h.elim

end Stage

namespace Transfer

/-! ## Legs -/

/-- A stage, and what was said in it. -/
structure Leg where
  stage : Stage
  said : List Event

/-- All that was said from the entry of the stage on. -/
def Leg.log (l : Leg) : List Event := announced l.stage :: l.said

/-- The legs go the path to its end, or they fail in a stage before the last one. -/
structure Travelled {α : Type} (path : List Stage) (legs : List Leg) (res : Except TransferFault α) : Prop where
  permitted : ∀ l ∈ legs, ∀ v ∈ l.said, l.stage.Permits v
  course : ((∃ a, res = .ok a) ∧ legs.map Leg.stage = path) ∨
    ((∃ e, res = .error e) ∧ legs ≠ [] ∧ legs.map Leg.stage <+: path.dropLast)

/-! ## Courses -/

/-- A computation, with whatever node, that enters the stages of a path and talks in each of them as it permits. -/
inductive Course {α : Type} : List Stage → (Replies → Running Told α) → Prop where
  | arrive (s : Stage) (a : α) : Course [s] fun _ => do
      enter s
      pure a
  | leg {β : Type} {s next : Stage} {path : List Stage} {x : Replies → ExceptT TransferFault Told β}
      {f : β → Replies → Running Told α} (part : Dialogue s.Permits x) (onward : ∀ b, Course (next :: path) (f b)) :
      Course (s :: next :: path) fun r => do
        enter s
        let b ← work (x r)
        f b r

section Journey

variable {α : Type} {path : List Stage} {x : Replies → Running Told α} {replies : Replies} {past new : List Event}
  {trail trail' : List Stage} {res : Except TransferFault α}

/-- Where a course led: its legs, what was said, and that the answers alone decided it. -/
structure Journey (path : List Stage) (x : Replies → Running Told α) (replies : Replies) (past : List Event)
    (trail : List Stage) (res : Except TransferFault α) (trail' : List Stage) (new : List Event) : Prop where
  legs : ∃ legs : List Leg, Travelled path legs res ∧ new = legs.flatMap Leg.log ∧ trail' = trail ++ legs.map Leg.stage
  answers : Answers replies past new
  settled : Settled (∃ e, res = .error e) new
  again : ∀ replies' past', Answers replies' past' new → Passes (x replies') past' trail res trail' new

theorem answers_announced {s : Stage} {r : List Event} :
    Answers replies past (announced s :: r) ↔ Answers replies (past ++ [announced s]) r :=
  ⟨And.right, fun h => ⟨trivial, h⟩⟩

theorem settled_announced {ended : Prop} {s : Stage} {r : List Event} (h : Settled ended r) :
    Settled ended (announced s :: r) := ⟨False.elim, h⟩

/-- **Where a course leads.** -/
theorem Course.journey (hx : Course path x) (h : Passes (x replies) past trail res trail' new) :
    Journey path x replies past trail res trail' new := by
  induction hx generalizing past trail new with
  | arrive s a =>
    obtain ⟨rest, hpure, rfl⟩ := passes_enter_bind_iff.mp h
    obtain ⟨rfl, rfl, rfl⟩ := passes_pure_iff.mp hpure
    refine ⟨⟨[⟨s, []⟩], ⟨?_, .inl ⟨⟨a, rfl⟩, rfl⟩⟩, rfl, rfl⟩, ⟨trivial, trivial⟩, ⟨False.elim, trivial⟩, ?_⟩
    · exact List.forall_mem_singleton.mpr (List.forall_mem_nil _)
    · exact fun _ _ _ => passes_enter_bind_iff.mpr ⟨[], passes_pure_iff.mpr ⟨rfl, rfl, rfl⟩, rfl⟩
  | @leg β s next path x f part onward ih =>
    obtain ⟨said, hwork, rfl⟩ := passes_enter_bind_iff.mp h
    rcases passes_work_bind_iff.mp hwork with ⟨e, rfl, hends, rfl⟩ | ⟨b, first, rest, hends, hrest, rfl⟩
    · -- the stage fails
      obtain ⟨hsaid, hanswers, hsettled, hagain⟩ := part.exchange hends
      refine ⟨⟨[⟨s, said⟩], ⟨List.forall_mem_singleton.mpr hsaid, .inr ⟨⟨e, rfl⟩, List.cons_ne_nil _ _, ?_⟩⟩, ?_, rfl⟩,
        answers_announced.mpr hanswers, settled_announced ?_, fun replies' past' h' => ?_⟩
      · exact List.prefix_append [s] _
      · exact (List.append_nil _).symm
      · exact hsettled.mono fun ⟨e', he⟩ => ⟨e', by cases he; rfl⟩
      · have hends' := hagain replies' _ (answers_announced.mp h')
        exact passes_enter_bind_iff.mpr ⟨said, passes_work_bind_iff.mpr (.inl ⟨e, rfl, hends', rfl⟩), rfl⟩
    · -- it hands over to the next one
      obtain ⟨hsaid, hanswers, hsettled, hagain⟩ := part.exchange hends
      obtain ⟨⟨legs, ⟨hpermitted, hcourse⟩, rfl, rfl⟩, hanswers', hsettled', hagain'⟩ := ih b hrest
      refine ⟨⟨⟨s, first⟩ :: legs, ⟨List.forall_mem_cons.mpr ⟨hsaid, hpermitted⟩, ?_⟩, rfl, ?_⟩,
        answers_announced.mpr (answers_append.mpr ⟨hanswers, hanswers'⟩),
        settled_announced ((settled_of_ok hsettled).append hsettled'), fun replies' past' h' => ?_⟩
      · rcases hcourse with ⟨hok, hall⟩ | ⟨herror, -, hsome⟩
        · exact .inl ⟨hok, congrArg (s :: ·) hall⟩
        · exact .inr ⟨herror, List.cons_ne_nil _ _, List.cons_prefix_cons.mpr ⟨rfl, hsome⟩⟩
      · rw [List.map_cons, List.append_assoc]
        rfl
      · obtain ⟨hfirst, hlater⟩ := answers_append.mp (answers_announced.mp h')
        refine passes_enter_bind_iff.mpr ⟨_, passes_work_bind_iff.mpr (.inr ⟨b, first, _, ?_, ?_, rfl⟩), rfl⟩
        · exact hagain replies' _ hfirst
        · exact hagain' replies' _ hlater

/-- What entered one stage failed in it. -/
theorem ends_of_first_leg {β : Type} {s next : Stage} {x : Replies → ExceptT TransferFault Told β}
    {f : β → Replies → Running Told α} (onward : ∀ b, Course (next :: path) (f b))
    (h : Passes (do
      enter s
      let b ← work (x replies)
      f b replies) past trail res (trail ++ [s]) new) :
    ∃ e said, res = .error e ∧ Ends (x replies) (past ++ [announced s]) (.error e) said ∧
      new = announced s :: said := by
  obtain ⟨said, hwork, rfl⟩ := passes_enter_bind_iff.mp h
  rcases passes_work_bind_iff.mp hwork with ⟨e, rfl, hends, -⟩ | ⟨b, first, rest, -, hrest, rfl⟩
  · exact ⟨e, said, rfl, hends, rfl⟩
  · obtain ⟨legs, ⟨-, hcourse⟩, -, htrail⟩ := ((onward b).journey hrest).legs
    have hnone : legs = [] := by simpa using htrail
    subst hnone
    rcases hcourse with ⟨-, hall⟩ | ⟨-, hsome, -⟩
    · cases hall
    · exact absurd rfl hsome

end Journey

end Transfer

end CellPurse
