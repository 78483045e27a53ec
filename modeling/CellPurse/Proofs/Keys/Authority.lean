import CellPurse.Keys.Signer
import Mathlib.Data.List.Basic

/-!
# CellPurse.Proofs.Keys.Authority — who can sign, among candidates

* `pathOf?_eq_some`, `exists_pathOf?_iff`: the keys of the entries are those that have a path;
* `Authority.Covers candidates primary entries a`: `a` stands for a candidate, the primary key or whatever key the
  entries list at its path;
* `resolve_covers`: if a candidate is the primary key or one of the entries, the authority stands for a candidate.
-/

namespace CellPurse

namespace KeyEntry

variable {entries : List KeyEntry} {keyHash : Bytes}

theorem pathOf?_eq_some {path : String} (h : pathOf? entries keyHash = some path) :
    ∃ e ∈ entries, e.keyHash = keyHash ∧ e.path = path := by
  obtain ⟨e, hfind, hpath⟩ := Option.map_eq_some_iff.mp h
  have hmem : e ∈ entries := List.mem_reverse.mp (List.mem_of_find?_eq_some hfind)
  have hhash := List.find?_some hfind
  exact ⟨e, hmem, by simpa using hhash, hpath⟩

/-- The keys of the entries are those that have a path. -/
theorem exists_pathOf?_iff : (∃ path, pathOf? entries keyHash = some path) ↔ ∃ e ∈ entries, e.keyHash = keyHash := by
  constructor
  · rintro ⟨path, h⟩
    obtain ⟨e, he, hhash, -⟩ := pathOf?_eq_some h
    exact ⟨e, he, hhash⟩
  · rintro ⟨e, he, hhash⟩
    have hsome : (entries.reverse.find? fun e => e.keyHash = keyHash).isSome = true := by
      rw [List.find?_isSome]
      exact ⟨e, List.mem_reverse.mpr he, by simpa using hhash⟩
    obtain ⟨last, hlast⟩ := Option.isSome_iff_exists.mp hsome
    exact ⟨last.path, Option.map_eq_some_iff.mpr ⟨last, hlast, rfl⟩⟩

end KeyEntry

namespace Authority

/-- Choosing between two byte strings chooses one of them. -/
theorem mem_foldl_choose (choose : Bytes → Bytes → Prop) [∀ x y, Decidable (choose x y)] (b : Bytes) (r : List Bytes) :
    r.foldl (fun x y => if choose x y then x else y) b ∈ b :: r := by
  induction r generalizing b with
  | nil => exact List.mem_singleton.mpr rfl
  | cons c r ih =>
    rw [List.foldl_cons]
    have hmem := ih (if choose b c then b else c)
    rcases List.mem_cons.mp hmem with h | h
    · rw [h]
      split
      · exact List.mem_cons_self
      · exact List.mem_cons_of_mem _ List.mem_cons_self
    · exact List.mem_cons_of_mem _ (List.mem_cons_of_mem _ h)

theorem mem_of_least? {l : List Bytes} {b : Bytes} (h : least? l = some b) : b ∈ l := by
  cases l with
  | nil => cases h
  | cons c r =>
    have hmem := mem_foldl_choose (fun x y => Bytes.ble x y = true) c r
    rw [← Option.some.inj h]
    exact hmem

theorem exists_least? {l : List Bytes} {b : Bytes} (h : b ∈ l) : ∃ c, least? l = some c := by
  cases l with
  | nil => cases h
  | cons c r => exact ⟨_, rfl⟩

/-- The key that an authority stands for is a candidate: the primary key, or whatever key the entries list at its
path. -/
def Covers (candidates : List Bytes) (primaryKey : Bytes) (entries : List KeyEntry) : Authority → Prop
  | primary => primaryKey ∈ candidates
  | derived path => (∃ e ∈ entries, e.path = path) ∧ ∀ e ∈ entries, e.path = path → e.keyHash ∈ candidates
  | unavailable => False

/-- Where a path has one key, somebody who is among the candidates is found. -/
theorem resolve_covers {candidates : List Bytes} {primary : Bytes} {entries : List KeyEntry}
    (hpaths : ∀ e ∈ entries, ∀ f ∈ entries, e.path = f.path → e.keyHash = f.keyHash) {c : Bytes}
    (hc : c ∈ candidates) (hknown : c = primary ∨ ∃ e ∈ entries, e.keyHash = c) :
    (resolve candidates primary entries).Covers candidates primary entries := by
  unfold resolve
  by_cases hp : candidates.contains primary = true
  · rw [if_pos hp]
    exact List.contains_iff_mem.mp hp
  · rw [if_neg hp]
    have hlisted : ∃ e ∈ entries, e.keyHash = c := by
      rcases hknown with rfl | h
      · exact absurd (List.contains_iff_mem.mpr hc) hp
      · exact h
    have hsome : (KeyEntry.pathOf? entries c).isSome = true :=
      Option.isSome_iff_exists.mpr (KeyEntry.exists_pathOf?_iff.mpr hlisted)
    have hmem : c ∈ candidates.filter fun c => (KeyEntry.pathOf? entries c).isSome := List.mem_filter.mpr ⟨hc, hsome⟩
    obtain ⟨least, hleast⟩ := exists_least? hmem
    obtain ⟨hcandidate, hpath⟩ := List.mem_filter.mp (mem_of_least? hleast)
    obtain ⟨path, hpath⟩ := Option.isSome_iff_exists.mp hpath
    obtain ⟨e, he, hhash, hat⟩ := KeyEntry.pathOf?_eq_some hpath
    have hbind : (least? (candidates.filter fun c => (KeyEntry.pathOf? entries c).isSome)).bind
        (KeyEntry.pathOf? entries) = some path := by
      rw [hleast]
      exact hpath
    rw [hbind]
    refine ⟨⟨e, he, hat⟩, fun f hf hsame => ?_⟩
    rw [hpaths f hf e he (hsame.trans hat.symm), hhash]
    exact hcandidate

end Authority

end CellPurse
