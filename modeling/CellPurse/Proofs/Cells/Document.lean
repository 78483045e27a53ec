import CellPurse.Proofs.Cells.Ranking
import CellPurse.Proofs.Ledger.Document

/-!
# CellPurse.Proofs.Cells.Document — records of cells and snapshots as documents

* `LiveCell.ofJson_toJson`: a record is read from its document;
* `Snapshot.Lists v cells scripts`: the document lists these records and scripts; `Snapshot.form` is such a document;
* `Snapshot.load_of_lists`: a file that holds it gives the index of the records and scripts;
* `Index.Agree`: two indexes answer all questions alike;
* **`Snapshot.forms_lose_nothing`**: what is written as a document is read again, and so an index from documents agrees
  with the index of what they were written from.
-/

namespace CellPurse

open Outcome

namespace LiveCell

/-- Both hashes are read, of any size: a list of two items is not empty. -/
theorem readType_typeJson (type : Option TypeHashes) : readType (typeJson type) = .ok type := by
  cases type with
  | none => rfl
  | some t =>
    refine bind_bind_eq_ok rfl (Json.bytes_ofBytes t.code) ?_
    exact bind_bind_eq_ok rfl (Json.bytes_ofBytes t.script) rfl

/-- No capacity of a record is refused. -/
theorem make_natCast (c : LiveCell) :
    make c.txHash c.outputIndex c.txIndex c.number c.lockHash c.capacity c.dataSize c.type = .ok c := by
  rw [make, if_neg (by omega), Int.toNat_natCast]

theorem ofJson_toJson (c : LiveCell) : ofJson c.toJson = .ok c := by
  refine bind_eq_ok_iff.mpr ⟨_, rfl, ?_⟩
  refine bind_bind_eq_ok rfl (Json.bytes_ofBytes c.txHash) ?_
  refine bind_bind_eq_ok rfl (Json.integer_int c.outputIndex) ?_
  refine bind_bind_eq_ok rfl (Json.integer_int c.txIndex) ?_
  refine bind_bind_eq_ok rfl (Json.integer_int c.number) ?_
  refine bind_bind_eq_ok rfl (Json.bytes_ofBytes c.lockHash) ?_
  refine bind_bind_eq_ok rfl (Json.integer_int c.capacity) ?_
  refine bind_bind_eq_ok rfl (Json.integer_int c.dataSize) ?_
  exact bind_eq_ok_iff.mpr ⟨c.type, readType_typeJson c.type, make_natCast c⟩

end LiveCell

/-- Two indexes answer alike: each scan of each key, each ranking and the counts. -/
structure Index.Agree (i j : Index) : Prop where
  scan : ∀ {σ : Type} (key : SearchKey) (policy : Policy σ LiveCell) (s : σ) (start : Option Int),
    i.scan key policy s start = j.scan key policy s start
  top : ∀ n, i.top n = j.top n
  metrics : i.metrics = j.metrics

namespace Snapshot

variable {content : Bytes} {v : Json} {cells : List LiveCell} {scripts : List Script}

/-- The document of records and scripts. -/
def form (cells : List LiveCell) (scripts : List Script) : Json :=
  .obj [("cells", .arr (cells.map LiveCell.toJson)), ("lock_scripts", .arr (scripts.map Script.toJson))]

/-- The document lists the documents of the records and of the scripts, whatever else it holds; a list that is absent is
empty. -/
def Lists (v : Json) (cells : List LiveCell) (scripts : List Script) : Prop :=
  items v "cells" = .ok (cells.map LiveCell.toJson) ∧ items v "lock_scripts" = .ok (scripts.map Script.toJson)

theorem lists_form (cells : List LiveCell) (scripts : List Script) : Lists (form cells scripts) cells scripts :=
  ⟨rfl, rfl⟩

theorem ofJson_of_lists (h : Lists v cells scripts) : ofJson v = .ok (cells, scripts) := by
  have hcells : parts LiveCell.ofJson v "cells" = .ok cells := by
    rw [parts_eq, h.1]
    exact mapM_map_eq_ok LiveCell.ofJson_toJson cells
  have hscripts : parts Script.ofJson v "lock_scripts" = .ok scripts := by
    rw [parts_eq, h.2]
    exact mapM_map_eq_ok Script.ofJson_toJson scripts
  exact bind_eq_ok_iff.mpr ⟨_, hcells, bind_eq_ok_iff.mpr ⟨_, hscripts, rfl⟩⟩

/-- A file with the documents of records and scripts gives their index, or fails as they do. -/
theorem load_of_lists (hv : document content = .ok v) (h : Lists v cells scripts) :
    load content = index (cells, scripts) := by
  have hrecords : recordsOf content = .ok (cells, scripts) :=
    bind_eq_ok_iff.mpr ⟨v, hv, mapError_eq_ok_iff.mpr (ofJson_of_lists h)⟩
  rw [load, hrecords, ok_bind]

/-- **Documents lose nothing.**  A script, an out point, an output and a record of a cell are read from the documents
that they are written as, whatever their bytes are, of any size and sign where they are integers, and with or without a
type.  So a file with the documents of records and scripts gives the index of these records and scripts: it fails as
they do, and otherwise answers as their index does. -/
theorem forms_lose_nothing :
    (∀ s : Script, Script.ofJson s.toJson = .ok s) ∧ (∀ p : OutPoint, OutPoint.ofJson p.toJson = .ok p) ∧
    (∀ o : CellOutput, CellOutput.ofJson o.toJson = .ok o) ∧ (∀ c : LiveCell, LiveCell.ofJson c.toJson = .ok c) ∧
    (∀ cells scripts, Lists (form cells scripts) cells scripts) ∧
    ∀ content v cells scripts, document content = .ok v → Lists v cells scripts →
      load content = index (cells, scripts) ∧
      ∀ i, Index.ofCells cells scripts = .ok i → ∃ j, load content = .ok j ∧ j.Agree i := by
  refine ⟨Script.ofJson_toJson, OutPoint.ofJson_toJson, CellOutput.ofJson_toJson, LiveCell.ofJson_toJson, lists_form,
    fun content v cells scripts hv h => ?_⟩
  have hload : load content = index (cells, scripts) := load_of_lists hv h
  refine ⟨hload, fun i hi => ⟨i, ?_, fun _ _ _ _ => rfl, fun _ => rfl, rfl⟩⟩
  rw [hload]
  exact mapError_eq_ok_iff.mpr hi

namespace Sample

/-- A cell with empty type hashes, made at a place below zero. -/
def cell : LiveCell where
  txHash := [0xab]
  outputIndex := -5
  txIndex := 1
  number := 7
  lockHash := [0x11]
  capacity := 100
  dataSize := 3
  type := some ⟨[], []⟩

/-- A script with a code hash of one byte. -/
def script : Script := ⟨[1], .data1, []⟩

/-- The text of their document. -/
def text : List Char :=
  "\x7b\"cells\": [\x7b\"tx_hash\": \"0xab\", \"output_index\": -5, \"tx_index\": 1, \"number\": 7, ".toList ++
  "\"lock_hash\": \"0x11\", \"capacity\": 100, \"data_bytes\": 3, \"type_hashes\": [\"0x\", \"0x\"]\x7d], ".toList ++
  "\"lock_scripts\": [\x7b\"code_hash\": \"0x01\", \"hash_type\": \"data1\", \"args\": \"0x\"\x7d]\x7d".toList

end Sample

set_option maxRecDepth 20000 in
theorem forms_lose_nothing_sample :
    Json.compact (form [Sample.cell] [Sample.script]) = String.ofList Sample.text ∧
    document (Seed.utf8 (String.ofList Sample.text)) = .ok (form [Sample.cell] [Sample.script]) ∧
    Lists (form [Sample.cell] [Sample.script]) [Sample.cell] [Sample.script] ∧
    ∃ i j, Index.ofCells [Sample.cell] [Sample.script] = .ok i ∧
      load (Seed.utf8 (String.ofList Sample.text)) = .ok j ∧ j.Agree i := by
  have hcompact : Json.compact (form [Sample.cell] [Sample.script]) = String.ofList Sample.text := by decide +kernel
  have hchars : Json.ofChars (Text.Lines.plain Sample.text) = .ok (form [Sample.cell] [Sample.script]) := rfl
  have hdocument : document (Seed.utf8 (String.ofList Sample.text)) = .ok (form [Sample.cell] [Sample.script]) := by
    rw [document_ofList, hchars]
    rfl
  obtain ⟨locks, hlocks⟩ : ∃ locks, Index.byHash [Sample.script] = .ok locks :=
    Index.exists_byHash_iff.mpr (by decide)
  have hindex : Index.ofCells [Sample.cell] [Sample.script] = .ok ⟨[Sample.cell].mergeSort LiveCell.le, locks⟩ :=
    bind_eq_ok_iff.mpr ⟨locks, hlocks, rfl⟩
  obtain ⟨-, -, -, -, hlists, hload⟩ := forms_lose_nothing
  have hform := hlists [Sample.cell] [Sample.script]
  obtain ⟨j, hj, hagree⟩ := (hload _ _ _ _ hdocument hform).2 _ hindex
  exact ⟨hcompact, hdocument, hform, _, j, hindex, hj, hagree⟩

end Snapshot

end CellPurse
