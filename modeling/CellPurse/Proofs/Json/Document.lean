import CellPurse.Json.Document
import CellPurse.Proofs.Outcome

/-!
# CellPurse.Proofs.Json.Document — what readings of a document need

* `Json.field_eq_ok_iff` and so on: each reading in terms of the value that it reads;
* `DocumentFault.IsPlain`: neither a place outside a list nor an infinite number; `Json.faults_field` and so on: the
  readings that fail in a plain way alone;
* `Json.item_one_eq_outOfRange_iff`, `Json.integer_eq_infinite_iff`: where the other two come from.
-/

namespace CellPurse

open Outcome

/-- Neither a place outside a list nor an infinite number. -/
def DocumentFault.IsPlain (f : DocumentFault) : Prop := f ≠ .outOfRange ∧ f ≠ .infinite

namespace Json

variable {v w : Json} {key : String}

/-! ## Success -/

theorem field_eq_ok_iff : v.field key = .ok w ↔ ∃ fields, v = .obj fields ∧ lookup key fields = some w := by
  cases v with
  | obj fields =>
    cases h : lookup key fields with
    | none => simp [field, h]
    | some u => simp [field, h]
  | _ => exact ⟨nofun, fun ⟨_, h, _⟩ => nomatch h⟩

theorem optional_eq_ok_iff {r : Option Json} :
    v.optional key = .ok r ↔ ∃ fields, v = .obj fields ∧ lookup key fields = r := by
  cases v with
  | obj fields => exact ⟨fun h => ⟨fields, rfl, Except.ok.inj h⟩, fun ⟨_, h, hr⟩ => by cases h; exact congrArg _ hr⟩
  | _ => exact ⟨nofun, fun ⟨_, h, _⟩ => nomatch h⟩

theorem bytes_eq_ok_iff {b : Bytes} : v.bytes = .ok b ↔ ∃ s, v = .str s ∧ Hex.decode s.chars = .ok b := by
  cases v with
  | str s =>
    refine mapError_eq_ok_iff.trans ⟨fun h => ⟨s, rfl, h⟩, ?_⟩
    rintro ⟨_, h, hb⟩
    cases h
    exact hb
  | _ => exact ⟨nofun, fun ⟨_, h, _⟩ => nomatch h⟩

/-! ## Faults -/

theorem faults_field (v : Json) (key : String) : Faults DocumentFault.IsPlain (v.field key) := by
  cases v with
  | obj fields =>
    unfold field
    dsimp only
    split
    · exact faults_pure _
    · exact faults_throw ⟨nofun, nofun⟩
  | _ => exact faults_throw ⟨nofun, nofun⟩

theorem faults_optional (v : Json) (key : String) : Faults DocumentFault.IsPlain (v.optional key) := by
  cases v with
  | obj fields => exact faults_pure _
  | _ => exact faults_throw ⟨nofun, nofun⟩

theorem faults_elements (v : Json) : Faults DocumentFault.IsPlain v.elements := by
  cases v with
  | arr | str | obj => exact faults_pure _
  | _ => exact faults_throw ⟨nofun, nofun⟩

theorem faults_bytes (v : Json) : Faults DocumentFault.IsPlain v.bytes := by
  cases v with
  | str s => exact faults_mapError (fun _ => ⟨nofun, nofun⟩) _
  | _ => exact faults_throw ⟨nofun, nofun⟩

theorem faults_literal (base : Nat) (t : JsonText) : Faults DocumentFault.IsPlain (literal base t) := by
  unfold literal
  split
  · exact faults_pure _
  · exact faults_throw ⟨nofun, nofun⟩
  · exact faults_throw ⟨nofun, nofun⟩

/-- An integer is infinite where the number is. -/
theorem integer_eq_infinite_iff :
    v.integer = .error .infinite ↔ ∃ x negative, v = .float x ∧ Binary64.view x = .infinite negative := by
  cases v with
  | float x =>
    unfold integer
    dsimp only
    split
    next h => exact ⟨nofun, fun ⟨_, _, hx, hinf⟩ => by cases hx; rw [h] at hinf; cases hinf⟩
    next negative h => exact ⟨fun _ => ⟨x, negative, rfl, h⟩, fun _ => rfl⟩
    next h => exact ⟨nofun, fun ⟨_, _, hx, hinf⟩ => by cases hx; rw [h] at hinf; cases hinf⟩
  | str s =>
    refine ⟨fun h => absurd rfl (faults_literal 10 s _ h).2, ?_⟩
    rintro ⟨_, _, h, -⟩
    cases h
  | _ => exact ⟨nofun, fun ⟨_, _, h, _⟩ => nomatch h⟩

theorem integer_ne_outOfRange (v : Json) : v.integer ≠ .error .outOfRange := by
  cases v with
  | float x =>
    unfold integer
    dsimp only
    split <;> nofun
  | str s => exact fun h => (faults_literal 10 s _ h).1 rfl
  | _ => nofun

theorem item_ne_infinite (v : Json) (place : Nat) : v.item place ≠ .error .infinite := by
  cases v with
  | arr items | str s =>
    unfold item
    dsimp only
    split <;> nofun
  | _ => nofun

/-- A list of one item, or a text of one character, with what it holds. -/
def HoldsOne (v w : Json) : Prop :=
  v = .arr [w] ∨ ∃ s c, v = .str s ∧ s.chars.toList = [c] ∧ w = .str (String.ofList [c])

/-- A value has a first part and no second one. -/
theorem holdsOne_iff : v.item 0 = .ok w ∧ v.item 1 = .error .outOfRange ↔ HoldsOne v w := by
  cases v with
  | arr items =>
    match items with
    | [] => simp [item, HoldsOne]
    | [u] => simp [item, HoldsOne]
    | u :: u' :: r => simp [item, HoldsOne]
  | str s =>
    match hs : s.chars.toList with
    | [] => simp [item, HoldsOne, hs]
    | [c] => simp [item, HoldsOne, hs, eq_comm]
    | c :: c' :: r => simp [item, HoldsOne, hs]
  | obj fields => simp [item, HoldsOne]
  | _ => simp [item, HoldsOne]

theorem HoldsOne.truthy (h : HoldsOne v w) : v.truthy = true := by
  rcases h with rfl | ⟨s, c, rfl, hs, -⟩
  · rfl
  · refine decide_eq_true fun hempty => ?_
    rw [hempty, JsonText.chars_coe] at hs
    cases hs

theorem eq_empty_of_chars {s : JsonText} (h : s.chars.toList = []) : s = ("" : String) := by
  obtain ⟨first, rest⟩ := s
  unfold JsonText.chars at h
  rw [String.toList_ofList, List.append_eq_nil_iff] at h
  obtain ⟨hfirst, hrest⟩ := h
  cases rest with
  | nil =>
    obtain rfl : first = "" := String.toList_eq_nil_iff.mp hfirst
    rfl
  | cons half rest => cases hrest

/-- What is neither false nor empty has a first part, if it has parts. -/
theorem item_zero_ne_outOfRange (h : v.truthy = true) : v.item 0 ≠ .error .outOfRange := by
  cases v with
  | arr items =>
    cases items with
    | nil => cases h
    | cons u r => nofun
  | str s =>
    cases hs : s.chars.toList with
    | nil => exact absurd (eq_empty_of_chars hs) (of_decide_eq_true h)
    | cons c r => simp [item, hs]
  | _ => nofun

end Json

end CellPurse
