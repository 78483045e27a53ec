import CellPurse.Proofs.Molecule.Table

/-!
# CellPurse.Proofs.Molecule.RoundTrip — what can be written, and reading it

The size of a table stands in a word at its front, and nothing else limits what can be written.

* `Molecule.tableSize`, `Witness.size`: how many bytes a table and a witness have;
* `Witness.exists_serialize_iff`, `Witness.faults_serialize`: a witness can be written when its size fits a word, and
  else is too wide;
* `Molecule.read_written`: what is written as a table or as a witness is read as what was meant.
-/

namespace CellPurse

open Outcome

namespace Molecule

/-- How many bytes a table of some items has. -/
def tableSize (items : List Bytes) : Nat := 4 + 4 * items.length + items.flatten.length

end Molecule

namespace Witness

open Molecule

/-- How many bytes a part has. -/
def partSize : Option Bytes → Nat
  | none => 0
  | some content => 4 + content.length

/-- How many bytes a witness has: those of a table of three items, and those of its parts. -/
def size (w : Witness) : Nat := 16 + (partSize w.lock + partSize w.inputType + partSize w.outputType)

theorem writePart_none : writePart none = .ok [] := rfl

theorem writePart_some (content : Bytes) : writePart (some content) = Molecule.bytes content := by
  unfold writePart
  rw [Option.mapM_some]
  cases Molecule.bytes content <;> rfl

/-- What is written of a part has the size of the part. -/
theorem length_of_writePart {part : Option Bytes} {raw : Bytes} (h : writePart part = .ok raw) :
    raw.length = partSize part := by
  cases part with
  | none =>
    cases h
    rfl
  | some content =>
    rw [writePart_some] at h
    obtain ⟨size, hsize, h⟩ := bind_eq_ok_iff.mp h
    rw [← pure_eq_ok_iff.mp h, List.length_append, length_of_u32 hsize]
    rfl

/-- A part can be written as long as its length fits a word. -/
theorem exists_writePart (part : Option Bytes) (h : partSize part < 2 ^ 32) : ∃ raw, writePart part = .ok raw := by
  cases part with
  | none => exact ⟨[], writePart_none⟩
  | some content =>
    have hlength : content.length < 2 ^ 32 := Nat.lt_of_le_of_lt (Nat.le_add_left _ 4) h
    rw [writePart_some]
    exact ⟨_, bind_eq_ok_iff.mpr ⟨_, u32_natCast_eq_ok_iff.mpr ⟨hlength, rfl⟩, rfl⟩⟩

theorem faults_writePart (part : Option Bytes) : Faults (· = .tooWide) (writePart part) := by
  cases part with
  | none => exact faults_pure []
  | some content =>
    rw [writePart_some]
    exact (faults_u32 _).bind fun _ => faults_pure _

/-- A witness is written as the table of its parts. -/
theorem serialize_eq_ok_iff {w : Witness} {data : Bytes} : w.serialize = .ok data ↔
    ∃ lock inputType outputType, writePart w.lock = .ok lock ∧ writePart w.inputType = .ok inputType ∧
      writePart w.outputType = .ok outputType ∧ table [lock, inputType, outputType] = .ok data := by
  unfold serialize
  simp only [bind_eq_ok_iff]
  constructor
  · rintro ⟨lock, hlock, inputType, hinput, outputType, houtput, h⟩
    exact ⟨lock, inputType, outputType, hlock, hinput, houtput, h⟩
  · rintro ⟨lock, inputType, outputType, hlock, hinput, houtput, h⟩
    exact ⟨lock, hlock, inputType, hinput, outputType, houtput, h⟩

/-- The table of the parts has the size of the witness. -/
theorem tableSize_parts {w : Witness} {lock inputType outputType : Bytes} (hlock : writePart w.lock = .ok lock)
    (hinput : writePart w.inputType = .ok inputType) (houtput : writePart w.outputType = .ok outputType) :
    tableSize [lock, inputType, outputType] = w.size := by
  have h₁ := length_of_writePart hlock
  have h₂ := length_of_writePart hinput
  have h₃ := length_of_writePart houtput
  unfold tableSize size
  simp only [List.length_cons, List.length_nil, List.flatten_cons, List.flatten_nil, List.length_append]
  omega

/-- A witness can be written when its size fits a word. -/
theorem exists_serialize_iff {w : Witness} : (∃ data, w.serialize = .ok data) ↔ w.size < 2 ^ 32 := by
  constructor
  · rintro ⟨data, h⟩
    obtain ⟨lock, inputType, outputType, hlock, hinput, houtput, h⟩ := serialize_eq_ok_iff.mp h
    rw [← tableSize_parts hlock hinput houtput]
    exact exists_table_iff.mp ⟨data, h⟩
  · intro h
    have hsize := h
    unfold size at hsize
    obtain ⟨lock, hlock⟩ := exists_writePart w.lock (by omega)
    obtain ⟨inputType, hinput⟩ := exists_writePart w.inputType (by omega)
    obtain ⟨outputType, houtput⟩ := exists_writePart w.outputType (by omega)
    rw [← tableSize_parts hlock hinput houtput] at h
    obtain ⟨data, hdata⟩ := exists_table_iff.mpr h
    exact ⟨data, serialize_eq_ok_iff.mpr ⟨lock, inputType, outputType, hlock, hinput, houtput, hdata⟩⟩

/-- A witness that can not be written is too wide. -/
theorem faults_serialize (w : Witness) : Faults (· = .tooWide) w.serialize :=
  (faults_writePart _).bind fun _ => (faults_writePart _).bind fun _ => (faults_writePart _).bind fun _ =>
    faults_table _

/-- Writing and then reading a witness gives it back, unless it is too wide. -/
theorem serialize_bind_deserialize (w : Witness) :
    (w.serialize >>= deserialize) = if w.size < 2 ^ 32 then .ok w else .error .tooWide := by
  split_ifs with h
  · obtain ⟨data, hdata⟩ := exists_serialize_iff.mpr h
    exact bind_eq_ok_iff.mpr ⟨data, hdata, deserialize_serialize hdata⟩
  · cases hw : w.serialize with
    | ok data => exact absurd (exists_serialize_iff.mp ⟨data, hw⟩) h
    | error e =>
      have he : e = .tooWide := faults_serialize w e hw
      rw [he]
      rfl

end Witness

namespace Molecule

/-- **What is written is read.** A table that can be written is read as its items, whatever they are and also if there
are none; it can be written exactly when its size fits a word.  Reading what was written of a witness gives the witness
back, unless it is too wide: an absent part is absent again and an empty part empty, so that no two witnesses are
written alike. -/
theorem read_written (items : List Bytes) (w : Witness) :
    (∀ data, table items = .ok data → fields data = .ok items) ∧
      ((∃ data, table items = .ok data) ↔ tableSize items < 2 ^ 32) ∧
      ((w.serialize >>= Witness.deserialize) = if w.size < 2 ^ 32 then .ok w else .error .tooWide) ∧
      ∀ w' data, w.serialize = .ok data → w'.serialize = .ok data → w' = w := by
  refine ⟨fun data h => fields_table h, exists_table_iff, w.serialize_bind_deserialize, fun w' data h h' => ?_⟩
  have hread : (.ok w' : Except MoleculeFault Witness) = .ok w :=
    (Witness.deserialize_serialize h').symm.trans (Witness.deserialize_serialize h)
  exact Except.ok.inj hread

/-- Empty items, and a witness with an empty part and an absent one. -/
theorem read_written_sample :
    fields [20, 0, 0, 0, 16, 0, 0, 0, 16, 0, 0, 0, 18, 0, 0, 0, 1, 2, 3, 4] = .ok [[], [1, 2], [3, 4]] ∧
      (Witness.serialize ⟨some [], none, some [7]⟩ >>= Witness.deserialize) = .ok ⟨some [], none, some [7]⟩ ∧
      ∀ w' : Witness, w'.serialize = Witness.serialize ⟨some [], none, some [7]⟩ →
        w' = ⟨some [], none, some [7]⟩ := by
  obtain ⟨hread, -, hwitness, hunique⟩ := read_written [[], [1, 2], [3, 4]] ⟨some [], none, some [7]⟩
  have hwritten : Witness.serialize ⟨some [], none, some [7]⟩ =
      .ok [25, 0, 0, 0, 16, 0, 0, 0, 20, 0, 0, 0, 20, 0, 0, 0, 0, 0, 0, 0, 1, 0, 0, 0, 7] := by decide
  exact ⟨hread _ (by decide), hwitness, fun w' h => hunique w' _ hwritten (h.trans hwritten)⟩

end Molecule

end CellPurse
