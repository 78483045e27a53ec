import Mathlib.Data.List.Forall2

/-!
# CellPurse.Proofs.Outcome — what it means that a step did not fail

Steps that may fail are put together by binding, by naming their faults and by doing one for each item of a list.  Each
equivalence takes the success of such a composition apart; `Faults P x` says which faults it may have.
-/

namespace CellPurse.Outcome

variable {α β ε δ : Type}

theorem ok_bind (a : α) (f : α → Except ε β) : ((.ok a : Except ε α) >>= f) = f a := rfl

theorem bind_eq_ok_iff {x : Except ε α} {f : α → Except ε β} {b : β} :
    (x >>= f) = .ok b ↔ ∃ a, x = .ok a ∧ f a = .ok b := by
  cases x with
  | error e => exact ⟨nofun, fun ⟨_, h, _⟩ => nomatch h⟩
  | ok a => exact ⟨fun h => ⟨a, rfl, h⟩, fun ⟨_, h, hf⟩ => Except.ok.inj h ▸ hf⟩

/-- What was found is read, and the rest goes on with what it was read as. -/
theorem bind_bind_eq_ok {γ : Type} {x : Except ε α} {read : α → Except ε β} {rest : β → Except ε γ} {a : α} {b : β}
    {c : γ} (hx : x = .ok a) (hread : read a = .ok b) (hrest : rest b = .ok c) :
    (x >>= fun a => read a >>= rest) = .ok c :=
  bind_eq_ok_iff.mpr ⟨a, hx, bind_eq_ok_iff.mpr ⟨b, hread, hrest⟩⟩

/-- A composition fails in its first part, or in its second. -/
theorem bind_eq_error_iff {x : Except ε α} {f : α → Except ε β} {e : ε} :
    (x >>= f) = .error e ↔ x = .error e ∨ ∃ a, x = .ok a ∧ f a = .error e := by
  cases x with
  | error e' =>
    refine ⟨fun h => .inl (congrArg Except.error (Except.error.inj h)), ?_⟩
    rintro (h | ⟨_, h, -⟩)
    · exact congrArg Except.error (Except.error.inj h)
    · cases h
  | ok a =>
    refine ⟨fun h => .inr ⟨a, rfl, h⟩, ?_⟩
    rintro (h | ⟨_, h, hf⟩)
    · cases h
    · cases h
      exact hf

/-- A composition succeeds if both parts do. -/
theorem exists_bind_eq_ok_iff {x : Except ε α} {f : α → Except ε β} {p : Prop} (hf : ∀ a, (∃ b, f a = .ok b) ↔ p) :
    (∃ b, (x >>= f) = .ok b) ↔ (∃ a, x = .ok a) ∧ p := by
  constructor
  · rintro ⟨b, h⟩
    obtain ⟨a, ha, hb⟩ := bind_eq_ok_iff.mp h
    exact ⟨⟨a, ha⟩, (hf a).mp ⟨b, hb⟩⟩
  · rintro ⟨⟨a, ha⟩, hp⟩
    obtain ⟨b, hb⟩ := (hf a).mpr hp
    exact ⟨b, bind_eq_ok_iff.mpr ⟨a, ha, hb⟩⟩

theorem exists_pure_eq_ok_iff {a : α} : (∃ b, (pure a : Except ε α) = .ok b) ↔ True :=
  ⟨fun _ => trivial, fun _ => ⟨a, rfl⟩⟩

theorem pure_eq_ok_iff {a b : α} : (pure a : Except ε α) = .ok b ↔ a = b := by
  exact ⟨Except.ok.inj, congrArg Except.ok⟩

theorem map_eq_ok_iff {f : α → β} {x : Except ε α} {b : β} : f <$> x = .ok b ↔ ∃ a, x = .ok a ∧ f a = b := by
  cases x with
  | error e => exact ⟨nofun, fun ⟨_, h, _⟩ => nomatch h⟩
  | ok a => exact ⟨fun h => ⟨a, rfl, Except.ok.inj h⟩, fun ⟨_, h, hf⟩ => by cases h; exact congrArg _ hf⟩

theorem mapError_eq_ok_iff {g : ε → δ} {x : Except ε α} {a : α} : x.mapError g = .ok a ↔ x = .ok a := by
  cases x with
  | error e => exact ⟨nofun, nofun⟩
  | ok b => exact ⟨fun h => congrArg Except.ok (Except.ok.inj h), fun h => congrArg Except.ok (Except.ok.inj h)⟩

theorem mapError_eq_error_iff {g : ε → δ} {x : Except ε α} {e : δ} :
    x.mapError g = .error e ↔ ∃ e', x = .error e' ∧ g e' = e := by
  cases x with
  | error e' => exact ⟨fun h => ⟨e', rfl, Except.error.inj h⟩, fun ⟨_, h, hg⟩ => by cases h; exact congrArg _ hg⟩
  | ok b => exact ⟨nofun, fun ⟨_, h, _⟩ => nomatch h⟩

theorem toOption_eq_some_iff {x : Except ε α} {a : α} : x.toOption = some a ↔ x = .ok a := by
  cases x with
  | error e => exact ⟨nofun, nofun⟩
  | ok b => exact ⟨fun h => congrArg Except.ok (Option.some.inj h), fun h => congrArg some (Except.ok.inj h)⟩

/-- One step for each item: each of them gives its item of the result. -/
theorem mapM_eq_ok_iff {f : α → Except ε β} {l : List α} {r : List β} :
    l.mapM f = .ok r ↔ List.Forall₂ (fun a b => f a = .ok b) l r := by
  induction l generalizing r with
  | nil =>
    rw [List.mapM_nil, pure_eq_ok_iff]
    constructor
    · rintro rfl
      exact .nil
    · rintro ⟨⟩
      rfl
  | cons a l ih =>
    rw [List.mapM_cons, bind_eq_ok_iff]
    constructor
    · rintro ⟨b, hb, h⟩
      obtain ⟨s, hs, h⟩ := bind_eq_ok_iff.mp h
      rw [← pure_eq_ok_iff.mp h]
      exact .cons hb (ih.mp hs)
    · rintro ⟨⟩
      next b s hb hs => exact ⟨b, hb, bind_eq_ok_iff.mpr ⟨s, ih.mpr hs, rfl⟩⟩

/-- Items that were written are read again. -/
theorem mapM_map_eq_ok {write : α → β} {read : β → Except ε α} (h : ∀ a, read (write a) = .ok a) (l : List α) :
    (l.map write).mapM read = .ok l :=
  mapM_eq_ok_iff.mpr (List.forall₂_map_left_iff.mpr (List.forall₂_same.mpr fun a _ => h a))

theorem exists_of_forall₂ {α β : Type} {R : α → β → Prop} {l : List α} {r : List β} (h : List.Forall₂ R l r) {a : α}
    (ha : a ∈ l) : ∃ b, R a b := by
  induction h with
  | nil => cases ha
  | cons hr _ ih =>
    rcases List.mem_cons.mp ha with rfl | ha
    · exact ⟨_, hr⟩
    · exact ih ha

/-- One step for each item succeeds if each of them does. -/
theorem exists_mapM_eq_ok {f : α → Except ε β} {l : List α} (h : ∀ a ∈ l, ∃ b, f a = .ok b) :
    ∃ r, l.mapM f = .ok r := by
  induction l with
  | nil => exact ⟨[], rfl⟩
  | cons a l ih =>
    obtain ⟨b, hb⟩ := h a List.mem_cons_self
    obtain ⟨r, hr⟩ := ih fun c hc => h c (List.mem_cons_of_mem _ hc)
    exact ⟨b :: r, by rw [List.mapM_cons, hb, hr]; rfl⟩

/-- One step for each item fails as the first of them that fails. -/
theorem mapM_eq_error_iff {f : α → Except ε β} {l : List α} {e : ε} : l.mapM f = .error e ↔
    ∃ before a after, l = before ++ a :: after ∧ (∀ b ∈ before, ∃ c, f b = .ok c) ∧ f a = .error e := by
  induction l with
  | nil =>
    rw [List.mapM_nil]
    constructor
    · nofun
    · rintro ⟨before, a, after, h, -⟩
      exact absurd h.symm (List.append_ne_nil_of_right_ne_nil _ (List.cons_ne_nil _ _))
  | cons a l ih =>
    have hrest : ∀ b : β, ((l.mapM f >>= fun s => pure (b :: s)) : Except ε (List β)) = .error e ↔
        l.mapM f = .error e := by
      intro b
      rw [bind_eq_error_iff]
      exact or_iff_left fun ⟨_, _, h⟩ => nomatch h
    rw [List.mapM_cons, bind_eq_error_iff]
    constructor
    · rintro (h | ⟨b, hb, h⟩)
      · exact ⟨[], a, l, rfl, nofun, h⟩
      · obtain ⟨before, c, after, rfl, hbefore, hc⟩ := ih.mp ((hrest b).mp h)
        exact ⟨a :: before, c, after, rfl, List.forall_mem_cons.mpr ⟨⟨b, hb⟩, hbefore⟩, hc⟩
    · rintro ⟨before, c, after, h, hbefore, hc⟩
      cases before with
      | nil =>
        obtain ⟨rfl, -⟩ := List.cons.inj h
        exact .inl hc
      | cons b before =>
        obtain ⟨rfl, rfl⟩ := List.cons.inj h
        obtain ⟨⟨d, hd⟩, hbefore⟩ := List.forall_mem_cons.mp hbefore
        exact .inr ⟨d, hd, (hrest d).mpr (ih.mpr ⟨before, c, after, rfl, hbefore, hc⟩)⟩

/-- A fold fails at the first item whose step fails. -/
theorem foldlM_eq_error_iff {f : β → α → Except ε β} {l : List α} {b : β} {e : ε} : l.foldlM f b = .error e ↔
    ∃ before a after c, l = before ++ a :: after ∧ before.foldlM f b = .ok c ∧ f c a = .error e := by
  constructor
  · intro h
    induction l generalizing b with
    | nil => cases h
    | cons a l ih =>
      rw [List.foldlM_cons, bind_eq_error_iff] at h
      rcases h with h | ⟨c, hc, h⟩
      · exact ⟨[], a, l, b, rfl, rfl, h⟩
      · obtain ⟨before, a', after, d, rfl, hbefore, hd⟩ := ih h
        exact ⟨a :: before, a', after, d, rfl, bind_eq_ok_iff.mpr ⟨c, hc, hbefore⟩, hd⟩
  · rintro ⟨before, a, after, c, rfl, hbefore, h⟩
    rw [List.foldlM_append, hbefore, ok_bind, List.foldlM_cons, h]
    rfl

/-! ## Faults -/

/-- If `x` fails, its fault satisfies `P`. -/
def Faults (P : ε → Prop) (x : Except ε α) : Prop := ∀ e, x = .error e → P e

variable {P : ε → Prop}

theorem faults_pure (a : α) : Faults P (pure a) := nofun

theorem faults_throw {e : ε} (he : P e) : Faults P (throw e : Except ε α) := fun _ h => Except.error.inj h ▸ he

theorem Faults.bind {x : Except ε α} {f : α → Except ε β} (hx : Faults P x) (hf : ∀ a, Faults P (f a)) :
    Faults P (x >>= f) := by
  intro e h
  cases x with
  | error e' => exact Except.error.inj h ▸ hx e' rfl
  | ok a => exact hf a e h

theorem Faults.map {x : Except ε α} (hx : Faults P x) (f : α → β) : Faults P (f <$> x) := by
  intro e h
  cases x with
  | error e' => exact Except.error.inj h ▸ hx e' rfl
  | ok a => cases h

theorem faults_mapError {P : δ → Prop} {g : ε → δ} (hg : ∀ e, P (g e)) (x : Except ε α) : Faults P (x.mapError g) := by
  intro e h
  obtain ⟨e', -, rfl⟩ := mapError_eq_error_iff.mp h
  exact hg e'

theorem faults_mapM {f : α → Except ε β} (hf : ∀ a, Faults P (f a)) (l : List α) : Faults P (l.mapM f) := by
  induction l with
  | nil => exact faults_pure []
  | cons a l ih =>
    rw [List.mapM_cons]
    exact (hf a).bind fun b => ih.bind fun s => faults_pure _

end CellPurse.Outcome
