import CellPurse.Ledger.Cell
import CellPurse.Proofs.Json.Document
import CellPurse.Proofs.Number.Hexadecimal

/-!
# CellPurse.Proofs.Ledger.Document — scripts, out points and outputs as documents

A document that was written from a value is read as this value.

* `Json.bytes_ofBytes`, `Json.quantity_ofQuantity`, `Json.integer_int`: byte strings, and integers of any size and sign;
* `Script.ofJson_toJson`, `OutPoint.ofJson_toJson`, `CellOutput.ofJson_toJson`: the records of the ledger.
-/

namespace CellPurse

open Outcome

namespace Json

theorem bytes_ofBytes (b : Bytes) : (ofBytes b).bytes = .ok b :=
  bytes_eq_ok_iff.mpr ⟨_, rfl, by rw [JsonText.chars_coe, Hex.decode_hexText]⟩

/-- Also below zero a quantity has a text, with the sign in front of the mark. -/
theorem quantity_ofQuantity (n : Int) : (ofQuantity n).quantity = .ok n := by
  show literal 16 (Literal.hexText n) = .ok n
  unfold literal
  rw [JsonText.chars_coe, Literal.parse_hexText]

theorem integer_int (n : Int) : (int n).integer = .ok n := rfl

end Json

/-- The word of a hash type, which is in small letters, names it. -/
theorem HashType.ofJson_name (t : HashType) : ofJson (.str t.name) = .ok t := by
  cases t <;> decide +kernel

theorem Script.ofJson_toJson (s : Script) : ofJson s.toJson = .ok s := by
  refine bind_bind_eq_ok rfl (Json.bytes_ofBytes s.codeHash) ?_
  refine bind_bind_eq_ok rfl (HashType.ofJson_name s.hashType) ?_
  exact bind_bind_eq_ok rfl (Json.bytes_ofBytes s.args) rfl

theorem OutPoint.ofJson_toJson (p : OutPoint) : ofJson p.toJson = .ok p := by
  refine bind_bind_eq_ok rfl (Json.bytes_ofBytes p.txHash) ?_
  exact bind_bind_eq_ok rfl (Json.quantity_ofQuantity p.index) rfl

/-- The document of a script has fields, and so a type is not taken for none. -/
theorem CellOutput.ofJson_toJson (o : CellOutput) : ofJson o.toJson = .ok o := by
  obtain ⟨capacity, lock, type⟩ := o
  refine bind_eq_ok_iff.mpr ⟨_, rfl, ?_⟩
  refine bind_bind_eq_ok rfl (Json.quantity_ofQuantity capacity) ?_
  refine bind_bind_eq_ok rfl (Script.ofJson_toJson lock) ?_
  cases type with
  | none => rfl
  | some t =>
    have htype : (some <$> Script.ofJson t.toJson) = .ok (some t) := map_eq_ok_iff.mpr ⟨t, Script.ofJson_toJson t, rfl⟩
    exact bind_eq_ok_iff.mpr ⟨_, htype, rfl⟩

end CellPurse
