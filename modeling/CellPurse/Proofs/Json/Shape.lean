import CellPurse.Ledger.Genesis
import CellPurse.Proofs.Json.Document

/-!
# CellPurse.Proofs.Json.Shape — the shapes of documents

A reading succeeds on the documents of some shape.  A shape says which fields there are and of what shape they are.

* `Json.Has key P v`: `v` is an object with the field, which is of shape `P`; `Json.IsObject`, `Json.IsHex`,
  `Json.IsQuantity`: objects, texts of byte strings, and quantities;
* `HashType.IsName`, `Script.Shape`, `CellOutput.Shape`, `Genesis.Shape`: the shapes of what is read;
* `Script.exists_ofJson_iff` and so on: what is read has this shape.
-/

namespace CellPurse

open Outcome

namespace Json

/-- An object with a field of some shape. -/
def Has (key : String) (P : Json → Prop) (v : Json) : Prop := ∃ w, v.field? key = some w ∧ P w

def IsObject (v : Json) : Prop := ∃ fields, v = .obj fields

/-- The text of a byte string. -/
def IsHex (v : Json) : Prop := ∃ s b, v = .str s ∧ Hex.decode s.chars = .ok b

/-- An integer, a truth value or the hexadecimal text of an integer. -/
def IsQuantity (v : Json) : Prop :=
  (∃ n, v = .int n) ∨ (∃ b, v = .bool b) ∨ ∃ s n, v = .str s ∧ Literal.parse 16 s.chars = .ok n

variable {α β : Type} {v w : Json} {key : String} {P : Json → Prop}

theorem Has.isObject (h : Has key P v) : v.IsObject := by
  obtain ⟨w, hw, -⟩ := h
  cases v with
  | obj fields => exact ⟨fields, rfl⟩
  | _ => cases hw

theorem field_eq_ok_iff_field? : v.field key = .ok w ↔ v.field? key = some w := by
  rw [field_eq_ok_iff]
  constructor
  · rintro ⟨fields, rfl, h⟩
    exact h
  · intro h
    cases v with
    | obj fields => exact ⟨fields, rfl, h⟩
    | _ => cases h

theorem optional_eq_ok_iff_field? {r : Option Json} : v.optional key = .ok r ↔ v.IsObject ∧ v.field? key = r := by
  rw [optional_eq_ok_iff]
  constructor
  · rintro ⟨fields, rfl, h⟩
    exact ⟨⟨fields, rfl⟩, h⟩
  · rintro ⟨⟨fields, rfl⟩, h⟩
    exact ⟨fields, rfl, h⟩

theorem exists_bytes_iff : (∃ b, v.bytes = .ok b) ↔ v.IsHex := by
  constructor
  · rintro ⟨b, h⟩
    obtain ⟨s, hs, hb⟩ := bytes_eq_ok_iff.mp h
    exact ⟨s, b, hs, hb⟩
  · rintro ⟨s, b, hs, hb⟩
    exact ⟨b, bytes_eq_ok_iff.mpr ⟨s, hs, hb⟩⟩

theorem exists_literal_iff {base : Nat} {s : JsonText} :
    (∃ n, literal base s = .ok n) ↔ ∃ n, Literal.parse base s.chars = .ok n := by
  unfold literal
  cases Literal.parse base s.chars with
  | ok n => exact ⟨fun _ => ⟨n, rfl⟩, fun _ => ⟨n, rfl⟩⟩
  | error f => cases f <;> exact ⟨nofun, nofun⟩

theorem exists_quantity_iff : (∃ n, v.quantity = .ok n) ↔ v.IsQuantity := by
  cases v with
  | int n => exact ⟨fun _ => .inl ⟨n, rfl⟩, fun _ => ⟨n, rfl⟩⟩
  | bool b => exact ⟨fun _ => .inr (.inl ⟨b, rfl⟩), fun _ => ⟨_, rfl⟩⟩
  | str s =>
    have hread : (∃ n, quantity (.str s) = .ok n) ↔ ∃ n, Literal.parse 16 s.chars = .ok n := by
      unfold quantity
      exact exists_literal_iff
    rw [hread]
    refine ⟨fun ⟨n, h⟩ => .inr (.inr ⟨s, n, rfl, h⟩), ?_⟩
    rintro (⟨_, h⟩ | ⟨_, h⟩ | ⟨_, n, h, hn⟩)
    · cases h
    · cases h
    · cases h
      exact ⟨n, hn⟩
  | _ =>
    refine ⟨nofun, ?_⟩
    rintro (⟨_, h⟩ | ⟨_, h⟩ | ⟨_, _, h, _⟩) <;> cases h

/-- A field is read, then what it holds, then the rest. -/
theorem exists_read_iff {read : Json → Except DocumentFault α} {rest : α → Except DocumentFault β} {p : Prop}
    (hread : ∀ w, (∃ a, read w = .ok a) ↔ P w) (hrest : ∀ a, (∃ b, rest a = .ok b) ↔ p) :
    (∃ b, (v.field key >>= fun w => read w >>= rest) = .ok b) ↔ Has key P v ∧ p := by
  constructor
  · rintro ⟨b, h⟩
    obtain ⟨w, hw, h⟩ := bind_eq_ok_iff.mp h
    obtain ⟨a, ha, h⟩ := bind_eq_ok_iff.mp h
    exact ⟨⟨w, field_eq_ok_iff_field?.mp hw, (hread w).mp ⟨a, ha⟩⟩, (hrest a).mp ⟨b, h⟩⟩
  · rintro ⟨⟨w, hw, hP⟩, hp⟩
    obtain ⟨a, ha⟩ := (hread w).mpr hP
    obtain ⟨b, hb⟩ := (hrest a).mpr hp
    exact ⟨b, bind_eq_ok_iff.mpr ⟨w, field_eq_ok_iff_field?.mpr hw, bind_eq_ok_iff.mpr ⟨a, ha, hb⟩⟩⟩

/-- A field is read, and then what it holds; after that nothing can fail. -/
theorem exists_last_iff {read : Json → Except DocumentFault α} {make : α → β}
    (hread : ∀ w, (∃ a, read w = .ok a) ↔ P w) :
    (∃ b, (v.field key >>= fun w => read w >>= fun a => (pure (make a) : Except DocumentFault β)) = .ok b) ↔
      Has key P v :=
  (exists_read_iff hread fun _ => exists_pure_eq_ok_iff).trans (and_iff_left trivial)

/-- A field is read, and then what it holds. -/
theorem exists_field_iff {read : Json → Except DocumentFault α} (hread : ∀ w, (∃ a, read w = .ok a) ↔ P w) :
    (∃ a, (v.field key >>= read) = .ok a) ↔ Has key P v := by
  constructor
  · rintro ⟨a, h⟩
    obtain ⟨w, hw, ha⟩ := bind_eq_ok_iff.mp h
    exact ⟨w, field_eq_ok_iff_field?.mp hw, (hread w).mp ⟨a, ha⟩⟩
  · rintro ⟨w, hw, hP⟩
    obtain ⟨a, ha⟩ := (hread w).mpr hP
    exact ⟨a, bind_eq_ok_iff.mpr ⟨w, field_eq_ok_iff_field?.mpr hw, ha⟩⟩

/-- An optional field is looked up, and then the rest is read. -/
theorem exists_optional_iff {rest : Option Json → Except DocumentFault β} {p : Option Json → Prop}
    (hrest : ∀ t, (∃ b, rest t = .ok b) ↔ p t) :
    (∃ b, (v.optional key >>= rest) = .ok b) ↔ v.IsObject ∧ p (v.field? key) := by
  constructor
  · rintro ⟨b, h⟩
    obtain ⟨t, ht, h⟩ := bind_eq_ok_iff.mp h
    obtain ⟨hobject, rfl⟩ := optional_eq_ok_iff_field?.mp ht
    exact ⟨hobject, (hrest _).mp ⟨b, h⟩⟩
  · rintro ⟨hobject, hp⟩
    obtain ⟨b, hb⟩ := (hrest _).mpr hp
    exact ⟨b, bind_eq_ok_iff.mpr ⟨_, optional_eq_ok_iff_field?.mpr ⟨hobject, rfl⟩, hb⟩⟩

end Json

open Json

/-! ## Scripts and cells -/

/-- The word of a kind of script hash, in letters of either case. -/
def HashType.IsName (v : Json) : Prop :=
  ∃ s : JsonText, v = .str s ∧ Text.Case.upperAscii s.chars ∈ ["DATA", "TYPE", "DATA1"]

theorem HashType.exists_ofJson_iff {v : Json} : (∃ t, HashType.ofJson v = .ok t) ↔ HashType.IsName v := by
  cases v with
  | str s =>
    have hname : (∃ t, HashType.ofName s.chars = .ok t) ↔ Text.Case.upperAscii s.chars ∈ ["DATA", "TYPE", "DATA1"] := by
      unfold HashType.ofName
      generalize Text.Case.upperAscii s.chars = upper
      dsimp only
      split
      next h => exact ⟨fun _ => by simp [h], fun _ => ⟨_, rfl⟩⟩
      split
      next h => exact ⟨fun _ => by simp [h], fun _ => ⟨_, rfl⟩⟩
      split
      next h => exact ⟨fun _ => by simp [h], fun _ => ⟨_, rfl⟩⟩
      next h₁ h₂ h₃ => exact ⟨nofun, fun h => by simp [h₁, h₂, h₃] at h⟩
    refine hname.trans ⟨fun h => ⟨s, rfl, h⟩, ?_⟩
    rintro ⟨_, h, hmem⟩
    cases h
    exact hmem
  | _ => exact ⟨nofun, fun ⟨_, h, _⟩ => nomatch h⟩

namespace Script

/-- The fields of a script. -/
def Shape (v : Json) : Prop := Has "code_hash" IsHex v ∧ Has "hash_type" HashType.IsName v ∧ Has "args" IsHex v

theorem exists_ofJson_iff {v : Json} : (∃ s, Script.ofJson v = .ok s) ↔ Shape v := by
  unfold Script.ofJson
  refine exists_read_iff (fun _ => exists_bytes_iff) fun codeHash => ?_
  refine exists_read_iff (fun _ => HashType.exists_ofJson_iff) fun hashType => ?_
  exact exists_last_iff fun _ => exists_bytes_iff

end Script

namespace CellOutput

/-- The fields of an output; a type that is false or empty is none. -/
def Shape (v : Json) : Prop := Has "capacity" IsQuantity v ∧ Has "lock" Script.Shape v ∧
  ∀ t, v.field? "type" = some t → t.truthy = true → Script.Shape t

theorem exists_ofJson_iff {v : Json} : (∃ o, CellOutput.ofJson v = .ok o) ↔ Shape v := by
  have htype : ∀ (t : Option Json) (capacity : Int) (lock : Script), (∃ o, (if (t.getD .null).truthy
      then some <$> Script.ofJson (t.getD .null) >>= fun type => pure ⟨capacity, lock, type⟩
      else pure none >>= fun type => pure ⟨capacity, lock, type⟩ : Except DocumentFault CellOutput) = .ok o) ↔
      ∀ w, t = some w → w.truthy = true → Script.Shape w := by
    intro t capacity lock
    cases t with
    | none => exact ⟨fun _ => nofun, fun _ => ⟨_, rfl⟩⟩
    | some w =>
      rw [Option.getD_some]
      split
      next htruthy =>
        have hscript : Script.Shape w ↔ ∀ u, some w = some u → u.truthy = true → Script.Shape u :=
          ⟨fun h u hu _ => Option.some.inj hu ▸ h, fun h => h w rfl htruthy⟩
        rw [← hscript, ← Script.exists_ofJson_iff]
        cases Script.ofJson w with
        | error f => exact ⟨nofun, nofun⟩
        | ok s => exact ⟨fun _ => ⟨s, rfl⟩, fun _ => ⟨_, rfl⟩⟩
      next hfalse => exact ⟨fun _ u hu htruthy => absurd (Option.some.inj hu ▸ htruthy) hfalse, fun _ => ⟨_, rfl⟩⟩
  have hread : (∃ o, CellOutput.ofJson v = .ok o) ↔ v.IsObject ∧ Shape v := by
    unfold CellOutput.ofJson
    refine exists_optional_iff (p := fun t => Has "capacity" IsQuantity v ∧ Has "lock" Script.Shape v ∧
      ∀ w, t = some w → w.truthy = true → Script.Shape w) fun t => ?_
    refine exists_read_iff (fun _ => exists_quantity_iff) fun capacity => ?_
    exact exists_read_iff (fun _ => Script.exists_ofJson_iff) fun lock => htype t capacity lock
  exact hread.trans (and_iff_right_of_imp fun h => h.1.isObject)

end CellOutput

namespace Genesis

/-- The fields of the first block: two transactions at least, the second with a hash, and a header with a hash. -/
def Shape (v : Json) : Prop :=
  Has "transactions" (fun t => ∃ first second rest, t = .arr (first :: second :: rest) ∧ Has "hash" IsHex second) v ∧
  Has "header" (Has "hash" IsHex) v

/-- Only a list has an object at a place. -/
theorem exists_second_of_item {t second : Json} (h : t.item 1 = .ok second) (hobject : second.IsObject)
    {P : Json → Prop} (hP : P second) : ∃ first second rest, t = .arr (first :: second :: rest) ∧ P second := by
  obtain ⟨fields, rfl⟩ := hobject
  cases t with
  | arr items =>
    match items with
    | [] => cases h
    | [_] => cases h
    | first :: second :: rest =>
      cases h
      exact ⟨first, _, rest, rfl, hP⟩
  | str s =>
    unfold item at h
    dsimp only at h
    split at h
    · cases h
    · cases h
  | _ => cases h

theorem exists_ofBlock_iff {v : Json} : (∃ g, Genesis.ofBlock v = .ok g) ↔ Shape v := by
  have hhash : ∀ w : Json, (∃ b, (w.field "hash" >>= Json.bytes) = .ok b) ↔ Has "hash" IsHex w := fun w =>
    exists_field_iff fun _ => exists_bytes_iff
  constructor
  · rintro ⟨g, h⟩
    obtain ⟨t, ht, h⟩ := bind_eq_ok_iff.mp h
    obtain ⟨n, hn, h⟩ := bind_eq_ok_iff.mp h
    split at h
    · cases h
    next hsize =>
      obtain ⟨second, hitem, h⟩ := bind_eq_ok_iff.mp h
      obtain ⟨w, hw, h⟩ := bind_eq_ok_iff.mp h
      obtain ⟨b, hb, h⟩ := bind_eq_ok_iff.mp h
      obtain ⟨header, hheader, h⟩ := bind_eq_ok_iff.mp h
      obtain ⟨u, hu, h⟩ := bind_eq_ok_iff.mp h
      obtain ⟨c, hc, -⟩ := bind_eq_ok_iff.mp h
      have hsecond : Has "hash" IsHex second := (hhash second).mp ⟨b, bind_eq_ok_iff.mpr ⟨w, hw, hb⟩⟩
      have hhead : Has "hash" IsHex header := (hhash header).mp ⟨c, bind_eq_ok_iff.mpr ⟨u, hu, hc⟩⟩
      refine ⟨?_, header, field_eq_ok_iff_field?.mp hheader, hhead⟩
      obtain ⟨-, rfl⟩ := optional_eq_ok_iff_field?.mp ht
      cases hfound : v.field? "transactions" with
      | none =>
        rw [hfound] at hn
        cases hn
        exact absurd (by decide) hsize
      | some list =>
        rw [hfound, Option.getD_some] at hn hitem
        exact ⟨list, hfound, exists_second_of_item hitem hsecond.isObject hsecond⟩
  · rintro ⟨⟨t, ht, first, second, rest, rfl, hsecond⟩, header, hheader, hhead⟩
    obtain ⟨b, hb⟩ := (hhash second).mpr hsecond
    obtain ⟨w, hw, hb⟩ := bind_eq_ok_iff.mp hb
    obtain ⟨c, hc⟩ := (hhash header).mpr hhead
    obtain ⟨u, hu, hc⟩ := bind_eq_ok_iff.mp hc
    obtain ⟨fields, rfl⟩ := Has.isObject ⟨header, hheader, hhead⟩
    have hlist : (Json.obj fields).optional "transactions" = .ok (some (.arr (first :: second :: rest))) :=
      optional_eq_ok_iff_field?.mpr ⟨⟨fields, rfl⟩, ht⟩
    have hsize : ¬ (first :: second :: rest).length < 2 := by simp
    refine ⟨⟨c, ⟨⟨b, 0⟩, .depGroup⟩, ⟨⟨b, 1⟩, .depGroup⟩⟩, bind_eq_ok_iff.mpr ⟨_, hlist, ?_⟩⟩
    refine bind_eq_ok_iff.mpr ⟨_, rfl, ?_⟩
    rw [if_neg hsize]
    refine bind_eq_ok_iff.mpr ⟨second, rfl, bind_eq_ok_iff.mpr ⟨w, hw, bind_eq_ok_iff.mpr ⟨b, hb, ?_⟩⟩⟩
    exact bind_eq_ok_iff.mpr ⟨header, field_eq_ok_iff_field?.mpr hheader, bind_eq_ok_iff.mpr ⟨u, hu,
      bind_eq_ok_iff.mpr ⟨c, hc, rfl⟩⟩⟩

end Genesis

end CellPurse
