import CellPurse.Proofs.Keys.Authority

/-!
# CellPurse.Proofs.Keys.Calls — what a signer asks of what signs

What signs may do anything: it keeps a state (`σ`), refuses to sign, or breaks off with what it raises (`ε`).  To see
which keys are used, each of its calls is written down beside its state.

* `Bytes.ble_iff`, `Authority.least?_eq_some_iff`: the least of some byte strings, in dictionary order;
* `Authority.resolve_eq_primary_iff`, `resolve_eq_derived_iff`, `resolve_eq_unavailable_iff`: who signs among
  candidates; `resolve_congr`: their order and number do not matter;
* `Signer.recorded`, `Signer.attempt`: a signer whose calls are written down, and what a request to it comes to;
* `Signer.Knows`, `Signer.Route`: the keys of a signer, and the path that it asks for;
* `Signer.calls_for_candidates`: a signer asks once, for the key of a candidate, or not at all.
-/

namespace CellPurse

/-! ## The least candidate -/

/-- The dictionary order is the order of lists. -/
theorem Bytes.ble_iff {a b : Bytes} : Bytes.ble a b = true ↔ a ≤ b := by
  induction a generalizing b with
  | nil => exact iff_of_true rfl (List.nil_le b)
  | cons x r ih =>
    cases b with
    | nil => exact iff_of_false Bool.false_ne_true fun h => by simp at h
    | cons y s =>
      rw [Bytes.ble, List.cons_le_cons_iff]
      split_ifs with h
      · simp [h, ih]
      · simp [h]

namespace Authority

/-- Going through a list, the smaller of two is below all that was seen. -/
theorem foldl_smaller_le (b : Bytes) (r : List Bytes) :
    ∀ c ∈ b :: r, r.foldl (fun x y => if Bytes.ble x y then x else y) b ≤ c := by
  induction r generalizing b with
  | nil =>
    intro c hc
    rw [List.mem_singleton.mp hc]
    exact List.le_refl b
  | cons d r ih =>
    intro c hc
    rw [List.foldl_cons]
    have hrest := ih (if Bytes.ble b d then b else d)
    have hhead := hrest _ List.mem_cons_self
    -- the smaller of the first two is below both
    have hsmaller : (if Bytes.ble b d then b else d) ≤ b ∧ (if Bytes.ble b d then b else d) ≤ d := by
      split_ifs with h
      · exact ⟨List.le_refl b, Bytes.ble_iff.mp h⟩
      · have hdb : d ≤ b := (List.le_total b d).resolve_left fun hbd => h (Bytes.ble_iff.mpr hbd)
        exact ⟨hdb, List.le_refl d⟩
    rcases List.mem_cons.mp hc with rfl | hc
    · exact List.le_trans hhead hsmaller.1
    rcases List.mem_cons.mp hc with rfl | hc
    · exact List.le_trans hhead hsmaller.2
    · exact hrest c (List.mem_cons_of_mem _ hc)

theorem least?_eq_some_iff {l : List Bytes} {b : Bytes} : least? l = some b ↔ b ∈ l ∧ ∀ c ∈ l, b ≤ c := by
  have hleast : ∀ {l : List Bytes} {b : Bytes}, least? l = some b → ∀ c ∈ l, b ≤ c := by
    intro l b h
    cases l with
    | nil => cases h
    | cons c r =>
      rw [← Option.some.inj h]
      exact foldl_smaller_le c r
  constructor
  · exact fun h => ⟨mem_of_least? h, hleast h⟩
  · rintro ⟨hb, hbelow⟩
    obtain ⟨c, hc⟩ := exists_least? hb
    have heq : c = b := List.le_antisymm (hleast hc b hb) (hbelow c (mem_of_least? hc))
    rw [hc, heq]

/-! ## Who signs -/

section Resolve

variable {candidates : List Bytes} {primary : Bytes} {entries : List KeyEntry}

theorem isSome_pathOf?_iff {c : Bytes} :
    (KeyEntry.pathOf? entries c).isSome = true ↔ ∃ e ∈ entries, e.keyHash = c := by
  rw [Option.isSome_iff_exists, KeyEntry.exists_pathOf?_iff]

/-- Without the primary key the least candidate that has an entry decides. -/
theorem resolve_of_notMem (h : primary ∉ candidates) : resolve candidates primary entries =
    match (least? (candidates.filter fun c => (KeyEntry.pathOf? entries c).isSome)).bind
      (KeyEntry.pathOf? entries) with
    | some path => derived path
    | none => unavailable := if_neg fun hc => h (List.contains_iff_mem.mp hc)

theorem resolve_of_mem (h : primary ∈ candidates) : resolve candidates primary entries = .primary :=
  if_pos (List.contains_iff_mem.mpr h)

theorem resolve_eq_derived_iff {path : String} : resolve candidates primary entries = .derived path ↔
    primary ∉ candidates ∧ ∃ c ∈ candidates, KeyEntry.pathOf? entries c = some path ∧
      ∀ d ∈ candidates, (∃ e ∈ entries, e.keyHash = d) → c ≤ d := by
  by_cases hp : primary ∈ candidates
  · rw [resolve_of_mem hp]
    exact iff_of_false nofun fun h => h.1 hp
  have hleast : ∀ c, least? (candidates.filter fun c => (KeyEntry.pathOf? entries c).isSome) = some c ↔
      (c ∈ candidates ∧ ∃ e ∈ entries, e.keyHash = c) ∧
        ∀ d ∈ candidates, (∃ e ∈ entries, e.keyHash = d) → c ≤ d := fun c => by
    simp only [least?_eq_some_iff, List.mem_filter, isSome_pathOf?_iff, and_imp]
  rw [resolve_of_notMem hp]
  constructor
  · intro h
    split at h
    · next found hfound =>
      cases h
      obtain ⟨c, hc, hpath⟩ := Option.bind_eq_some_iff.mp hfound
      obtain ⟨⟨hmem, -⟩, hbelow⟩ := (hleast c).mp hc
      exact ⟨hp, c, hmem, hpath, hbelow⟩
    · cases h
  · rintro ⟨-, c, hmem, hpath, hbelow⟩
    have hc := (hleast c).mpr ⟨⟨hmem, KeyEntry.exists_pathOf?_iff.mp ⟨path, hpath⟩⟩, hbelow⟩
    rw [Option.bind_eq_some_iff.mpr ⟨c, hc, hpath⟩]

theorem resolve_eq_primary_iff : resolve candidates primary entries = .primary ↔ primary ∈ candidates := by
  constructor
  · intro h
    by_contra hp
    rw [resolve_of_notMem hp] at h
    split at h <;> cases h
  · exact resolve_of_mem

theorem resolve_eq_unavailable_iff : resolve candidates primary entries = .unavailable ↔
    ∀ c ∈ candidates, c ≠ primary ∧ ¬ ∃ e ∈ entries, e.keyHash = c := by
  constructor
  · intro h c hc
    have hp : primary ∉ candidates := fun hp => by
      rw [resolve_of_mem hp] at h
      cases h
    refine ⟨fun heq => hp (heq ▸ hc), fun hlisted => ?_⟩
    -- a candidate that has an entry would make one of them the least
    have hmem : c ∈ candidates.filter fun c => (KeyEntry.pathOf? entries c).isSome :=
      List.mem_filter.mpr ⟨hc, isSome_pathOf?_iff.mpr hlisted⟩
    obtain ⟨least, hleast⟩ := exists_least? hmem
    obtain ⟨path, hpath⟩ := Option.isSome_iff_exists.mp (List.mem_filter.mp (mem_of_least? hleast)).2
    rw [resolve_of_notMem hp, Option.bind_eq_some_iff.mpr ⟨least, hleast, hpath⟩] at h
    cases h
  · intro h
    cases hr : resolve candidates primary entries with
    | unavailable => rfl
    | primary => exact absurd rfl (h _ (resolve_eq_primary_iff.mp hr)).1
    | derived path =>
      obtain ⟨-, c, hc, hpath, -⟩ := resolve_eq_derived_iff.mp hr
      exact absurd (KeyEntry.exists_pathOf?_iff.mp ⟨path, hpath⟩) (h c hc).2

/-- The order and the number of the candidates do not matter. -/
theorem resolve_congr {candidates' : List Bytes} (h : ∀ c, c ∈ candidates' ↔ c ∈ candidates) :
    resolve candidates' primary entries = resolve candidates primary entries := by
  cases hr : resolve candidates primary entries with
  | primary => exact resolve_eq_primary_iff.mpr ((h _).mpr (resolve_eq_primary_iff.mp hr))
  | unavailable => exact resolve_eq_unavailable_iff.mpr fun c hc => resolve_eq_unavailable_iff.mp hr c ((h c).mp hc)
  | derived path =>
    obtain ⟨hp, c, hc, hpath, hbelow⟩ := resolve_eq_derived_iff.mp hr
    exact resolve_eq_derived_iff.mpr
      ⟨fun hp' => hp ((h _).mp hp'), c, (h c).mpr hc, hpath, fun d hd => hbelow d ((h d).mp hd)⟩

end Resolve

end Authority

/-! ## Calls -/

/-- A call of what signs. -/
structure SignCall where
  path : String
  digest : Bytes
  deriving DecidableEq, Repr

section Calls

variable {ε σ : Type}

/-- What signs, with its calls written down behind its state. -/
def Capability.recorded (c : Capability (ExceptT ε (StateM σ))) :
    Capability (ExceptT ε (StateM (σ × List SignCall))) := fun path digest =>
  ExceptT.mk (ExceptT.mk fun world =>
    let answer := (c path digest).run.run.run world.1
    (answer.1, answer.2, world.2 ++ [⟨path, digest⟩]))

namespace Signer

/-- The signer whose calls are written down. -/
def recorded (s : Signer (ExceptT ε (StateM σ))) : Signer (ExceptT ε (StateM (σ × List SignCall))) where
  capability := s.capability.recorded
  primary := s.primary
  entries := s.entries

/-- What a request for a signature comes to: what is raised or answered, the state after it, and the calls. -/
def attempt (s : Signer (ExceptT ε (StateM σ))) (candidates : List Bytes) (digest : Bytes) (state : σ) :
    Except ε (Except SignFault (Option Bytes)) × σ × List SignCall :=
  (s.recorded.sign candidates digest).run.run.run (state, [])

/-! ## One call -/

/-- The signature that is answered, if it has the size of one. -/
def sized (answer : Except SignFault Bytes) : Except SignFault (Option Bytes) :=
  answer.bind fun signature =>
    if signature.length = System.signatureSize then .ok (some signature) else .error (.length signature.length)

variable {s : Signer (ExceptT ε (StateM σ))} {candidates : List Bytes} {digest : Bytes} {state : σ} {path : String}

theorem sized_ne_none (answer : Except SignFault Bytes) : sized answer ≠ .ok none := by
  unfold sized
  cases answer with
  | error e => nofun
  | ok signature =>
    rw [Except.bind]
    split_ifs
    · nofun
    · nofun

theorem length_of_sized {answer : Except SignFault Bytes} {signature : Bytes}
    (h : sized answer = .ok (some signature)) : signature.length = System.signatureSize := by
  unfold sized at h
  cases answer with
  | error e => cases h
  | ok b =>
    rw [Except.bind] at h
    split_ifs at h with hlength
    cases h
    exact hlength

/-- A request at a path is one call of what signs, whose answer must have the size of a signature. -/
theorem run_signAt {m : Type → Type} [Monad m] [LawfulMonad m] (s : Signer m) (path : String) (digest : Bytes) :
    (s.signAt path digest).run = sized <$> (s.capability path digest).run := by
  unfold signAt
  rw [ExceptT.run_bind, map_eq_pure_bind]
  refine congrArg _ (funext fun answer => ?_)
  cases answer with
  | error e => rfl
  | ok signature =>
    simp only [sized, Except.bind]
    split_ifs
    · rfl
    · rfl

/-- One call of what signs: what is raised or answered, the state after it, and the call. -/
def ask (s : Signer (ExceptT ε (StateM σ))) (path : String) (digest : Bytes) (state : σ) :
    Except ε (Except SignFault (Option Bytes)) × σ × List SignCall :=
  let answer := (s.capability path digest).run.run.run state
  (answer.1.map sized, answer.2, [⟨path, digest⟩])

theorem signAt_recorded :
    (s.recorded.signAt path digest).run.run.run (state, []) = s.ask path digest state := by
  rw [run_signAt, ExceptT.run_map, StateT.run_map]
  rfl

theorem signAt_unrecorded :
    (s.signAt path digest).run.run.run state = ((s.ask path digest state).1, (s.ask path digest state).2.1) := by
  rw [run_signAt, ExceptT.run_map, StateT.run_map]
  rfl

/-! ## One request -/

/-- A signer knows its primary key and those of its entries. -/
def Knows (s : Signer (ExceptT ε (StateM σ))) (c : Bytes) : Prop := c = s.primary ∨ ∃ e ∈ s.entries, e.keyHash = c

/-- The path that a signer asks for: no path for the primary key if it is a candidate, and else the path of the least
candidate that has an entry. -/
inductive Route (s : Signer (ExceptT ε (StateM σ))) (candidates : List Bytes) : String → Prop where
  | primary (mem : s.primary ∈ candidates) : Route s candidates ""
  | derived {c : Bytes} {path : String} (other : s.primary ∉ candidates) (mem : c ∈ candidates)
      (listed : KeyEntry.pathOf? s.entries c = some path) (least : ∀ d ∈ candidates, s.Knows d → c ≤ d) :
      Route s candidates path

theorem attempt_of_zeros (h : digest = Bytes.zeros System.hashSize) :
    s.attempt candidates digest state = (.ok (.ok (some (Bytes.zeros System.signatureSize))), state, []) := by
  unfold attempt sign
  rw [if_pos h]
  rfl

theorem attempt_eq (h : digest ≠ Bytes.zeros System.hashSize) : s.attempt candidates digest state =
    match Authority.resolve candidates s.primary s.entries with
    | .unavailable => (.ok (.ok none), state, [])
    | .primary => s.ask "" digest state
    | .derived path => s.ask path digest state := by
  unfold attempt sign
  rw [if_neg h]
  change (ExceptT.run (match Authority.resolve candidates s.primary s.entries with
    | .unavailable => pure none
    | .primary => s.recorded.signAt "" digest
    | .derived path => s.recorded.signAt path digest)).run.run _ = _
  cases Authority.resolve candidates s.primary s.entries with
  | unavailable => rfl
  | primary => exact signAt_recorded
  | derived path => exact signAt_recorded

/-- Writing the calls down changes nothing else. -/
theorem sign_eq_attempt : (s.sign candidates digest).run.run.run state =
    ((s.attempt candidates digest state).1, (s.attempt candidates digest state).2.1) := by
  by_cases h : digest = Bytes.zeros System.hashSize
  · rw [attempt_of_zeros h]
    unfold sign
    rw [if_pos h]
    rfl
  · rw [attempt_eq h]
    unfold sign Signer.resolve
    rw [if_neg h]
    cases Authority.resolve candidates s.primary s.entries with
    | unavailable => rfl
    | primary => exact signAt_unrecorded
    | derived path => exact signAt_unrecorded

theorem resolve_eq_unavailable_iff_not_knows :
    Authority.resolve candidates s.primary s.entries = .unavailable ↔ ∀ c ∈ candidates, ¬ s.Knows c := by
  simp only [Authority.resolve_eq_unavailable_iff, Knows, not_or, ne_eq]

/-- A signer that knows no candidate says so without a call. -/
theorem attempt_of_unknown (h : digest ≠ Bytes.zeros System.hashSize) (hunknown : ∀ c ∈ candidates, ¬ s.Knows c) :
    s.attempt candidates digest state = (.ok (.ok none), state, []) := by
  rw [attempt_eq h, resolve_eq_unavailable_iff_not_knows.mpr hunknown]

/-- A signer that knows a candidate asks once. -/
theorem attempt_of_known (state : σ) (h : digest ≠ Bytes.zeros System.hashSize)
    (hknown : ∃ c ∈ candidates, s.Knows c) :
    ∃ path, s.Route candidates path ∧ s.attempt candidates digest state = s.ask path digest state := by
  rw [attempt_eq h]
  cases hr : Authority.resolve candidates s.primary s.entries with
  | unavailable =>
    obtain ⟨c, hc, hknows⟩ := hknown
    exact absurd hknows (resolve_eq_unavailable_iff_not_knows.mp hr c hc)
  | primary => exact ⟨"", .primary (Authority.resolve_eq_primary_iff.mp hr), rfl⟩
  | derived path =>
    obtain ⟨hother, c, hc, hpath, hleast⟩ := Authority.resolve_eq_derived_iff.mp hr
    refine ⟨path, .derived hother hc hpath fun d hd hknows => ?_, rfl⟩
    -- the primary key is no candidate, so what is known is listed
    exact hleast d hd (hknows.resolve_left fun heq => hother (heq ▸ hd))

theorem ask_ne_none : (s.ask path digest state).1 ≠ .ok (.ok none) := by
  unfold ask
  rcases (s.capability path digest).run.run.run state with ⟨raised | answer, after⟩
  · nofun
  · intro h
    exact sized_ne_none answer (Except.ok.inj h)

theorem length_of_ask {signature : Bytes} (h : (s.ask path digest state).1 = .ok (.ok (some signature))) :
    signature.length = System.signatureSize := by
  unfold ask at h
  rcases hcall : (s.capability path digest).run.run.run state with ⟨raised | answer, after⟩
  · rw [hcall] at h
    cases h
  · rw [hcall] at h
    exact length_of_sized (Except.ok.inj h)

theorem length_of_attempt {signature : Bytes}
    (hsigned : (s.attempt candidates digest state).1 = .ok (.ok (some signature))) :
    signature.length = System.signatureSize := by
  by_cases h : digest = Bytes.zeros System.hashSize
  · rw [attempt_of_zeros h] at hsigned
    cases hsigned
    exact List.length_replicate
  by_cases hknown : ∃ c ∈ candidates, s.Knows c
  · obtain ⟨path, -, hask⟩ := attempt_of_known state h hknown
    rw [hask] at hsigned
    exact length_of_ask hsigned
  · rw [attempt_of_unknown h fun c hc hknows => hknown ⟨c, hc, hknows⟩] at hsigned
    cases hsigned

/-- Nothing is what a signer answers exactly if it does not call, which is exactly if it knows no candidate. -/
theorem attempt_none_iff (h : digest ≠ Bytes.zeros System.hashSize) :
    ((s.attempt candidates digest state).1 = .ok (.ok none) ↔ ∀ c ∈ candidates, ¬ s.Knows c) ∧
      ((s.attempt candidates digest state).2.2 = [] ↔ ∀ c ∈ candidates, ¬ s.Knows c) := by
  by_cases hknown : ∃ c ∈ candidates, s.Knows c
  · obtain ⟨path, -, hask⟩ := attempt_of_known state h hknown
    have hnot : ¬ ∀ c ∈ candidates, ¬ s.Knows c := fun hall => hknown.elim fun c hc => hall c hc.1 hc.2
    rw [hask]
    exact ⟨iff_of_false ask_ne_none hnot, iff_of_false (List.cons_ne_nil _ _) hnot⟩
  · have hall : ∀ c ∈ candidates, ¬ s.Knows c := fun c hc hknows => hknown ⟨c, hc, hknows⟩
    rw [attempt_of_unknown h hall]
    exact ⟨iff_of_true rfl hall, iff_of_true rfl hall⟩

/-- **A signer uses the key of a candidate or none.** For a digest that is not all zeros, it answers nothing and does
not call exactly if it knows no candidate, and else calls once, for the key of a candidate: the primary key, or the
least candidate that has an entry.  A digest of zeros gets a signature of zeros without a call.  A signature has the
size of one, and neither the order nor the number of the candidates matters. -/
theorem calls_for_candidates (s : Signer (ExceptT ε (StateM σ))) (candidates : List Bytes) (digest : Bytes)
    (state : σ) :
    (s.sign candidates digest).run.run.run state =
        ((s.attempt candidates digest state).1, (s.attempt candidates digest state).2.1) ∧
      (digest = Bytes.zeros System.hashSize → s.attempt candidates digest state =
        (.ok (.ok (some (Bytes.zeros System.signatureSize))), state, [])) ∧
      (digest ≠ Bytes.zeros System.hashSize →
        ((s.attempt candidates digest state).1 = .ok (.ok none) ↔ ∀ c ∈ candidates, ¬ s.Knows c) ∧
        ((s.attempt candidates digest state).2.2 = [] ↔ ∀ c ∈ candidates, ¬ s.Knows c) ∧
        ((∀ c ∈ candidates, ¬ s.Knows c) → (s.attempt candidates digest state).2.1 = state) ∧
        ((∃ c ∈ candidates, s.Knows c) → ∃ path, s.Route candidates path ∧
          s.attempt candidates digest state = s.ask path digest state)) ∧
      (∀ signature, (s.attempt candidates digest state).1 = .ok (.ok (some signature)) →
        signature.length = System.signatureSize) ∧
      ∀ candidates' : List Bytes, (∀ c, c ∈ candidates' ↔ c ∈ candidates) →
        s.attempt candidates' digest state = s.attempt candidates digest state := by
  refine ⟨sign_eq_attempt, attempt_of_zeros, fun h => ⟨(attempt_none_iff h).1, (attempt_none_iff h).2,
    fun hunknown => ?_, attempt_of_known state h⟩, fun _ => length_of_attempt, fun candidates' hsame => ?_⟩
  · rw [attempt_of_unknown h hunknown]
  · by_cases h : digest = Bytes.zeros System.hashSize
    · rw [attempt_of_zeros h, attempt_of_zeros h]
    · rw [attempt_eq h, attempt_eq h, Authority.resolve_congr hsame]

/-- Two of the candidates have an entry, and the order in which they are named does not matter. -/
theorem calls_for_candidates_sample :
    let signer : Signer (ExceptT Empty (StateM Nat)) :=
      { capability := fun _ _ => ExceptT.mk (ExceptT.mk fun asked => (.ok (.ok (List.replicate 65 2)), asked + 1))
        primary := [1]
        entries := [⟨"m/4", [10]⟩, ⟨"m/2", [11]⟩] }
    (∃ path, signer.Route [[11], [10], [11]] path ∧ signer.attempt [[11], [10], [11]] [7] 3 = signer.ask path [7] 3) ∧
      signer.attempt [[11], [10], [11]] [7] 3 = (.ok (.ok (some (List.replicate 65 2))), 4, [⟨"m/4", [7]⟩]) ∧
      signer.attempt [[10], [11]] [7] 3 = signer.attempt [[11], [10], [11]] [7] 3 ∧
      (signer.attempt [[9]] [7] 3).1 = .ok (.ok none) ∧ (signer.attempt [[9]] [7] 3).2.1 = 3 ∧
      signer.attempt [] (Bytes.zeros 32) 3 = (.ok (.ok (some (Bytes.zeros 65))), 3, []) := by
  intro signer
  obtain ⟨-, -, hcalls, -, hsame⟩ := signer.calls_for_candidates [[11], [10], [11]] [7] 3
  obtain ⟨-, -, hother, -⟩ := signer.calls_for_candidates [[9]] [7] 3
  obtain ⟨-, hzeros, -⟩ := signer.calls_for_candidates [] (Bytes.zeros 32) 3
  have hunknown : ∀ c ∈ [[9]], ¬ signer.Knows c := by
    intro c hc
    rw [List.mem_singleton.mp hc]
    rintro (h | ⟨e, he, h⟩)
    · cases h
    · revert e
      decide
  obtain ⟨hnone, -, hstate, -⟩ := hother (by decide)
  refine ⟨(hcalls (by decide)).2.2.2 ⟨[11], by decide, .inr ⟨⟨"m/2", [11]⟩, ?_, rfl⟩⟩, ?_, hsame _ ?_,
    hnone.mpr hunknown, hstate hunknown, hzeros rfl⟩
  · exact List.mem_cons_of_mem _ List.mem_cons_self
  · rfl
  · intro c
    simp only [List.mem_cons, List.not_mem_nil, or_false]
    exact ⟨Or.inr, fun h => h.elim Or.inr id⟩

end Signer

end Calls

end CellPurse
