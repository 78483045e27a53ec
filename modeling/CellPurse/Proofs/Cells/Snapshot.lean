import CellPurse.Command.Run
import CellPurse.Proofs.Cells.Record
import CellPurse.Proofs.Cells.Selection
import CellPurse.Proofs.Ledger.Script

/-!
# CellPurse.Proofs.Cells.Snapshot — what an index file can do

* `Snapshot.load`: the index in the content of a file; `Command.readRecords_eq`: this is how a command reads it;
* `Snapshot.Escape content f`: the content fails with `f`, which does not count as bad input, and why: it is nested too
  deeply, a record has one type hash in place of two, a record has an infinite number, or a script is too long;
* `Snapshot.load_fails_as_input`: whatever the content is, it gives an index of the cells that it lists, or bad input,
  or it is one of these four;
* `Snapshot.load_of_one_hash`: the second of them.
-/

namespace CellPurse

open Outcome

namespace Snapshot

/-- The document in the content of a file. -/
def document (content : Bytes) : Except SnapshotFault Json :=
  match Entry.text? content with
  | some text => (Json.parse text).mapError .text
  | none => .error (.text .malformed)

/-- The records and the scripts in the content of a file. -/
def recordsOf (content : Bytes) : Except SnapshotFault (List LiveCell × List Script) := do
  let v ← document content
  (ofJson v).mapError .document

/-- The index in the content of a file. -/
def load (content : Bytes) : Except SnapshotFault Index := recordsOf content >>= index

/-- The items of a list that may be absent. -/
def items (v : Json) (key : String) : Except DocumentFault (List Json) := do
  ((← v.optional key).getD (.arr [])).elements

end Snapshot

/-- A command reads the content of the file. -/
theorem Command.readRecords_eq {m : Type → Type} [Monad m] [LawfulMonad m] [Journal m] (h : Host m) (place : String) :
    readRecords h place =
      readFile h place >>= fun content => step (.snapshot place) (Snapshot.recordsOf content) := by
  unfold readRecords
  refine bind_congr fun content => ?_
  unfold Snapshot.recordsOf Snapshot.document
  cases Entry.text? content with
  | none => rfl
  | some text => rfl

namespace Snapshot

/-! ## Faults of a document -/

theorem faults_script (v : Json) : Faults DocumentFault.IsPlain (Script.ofJson v) := by
  have hname : ∀ w, Faults DocumentFault.IsPlain (HashType.ofJson w) := by
    intro w
    cases w with
    | str s =>
      unfold HashType.ofJson HashType.ofName
      dsimp only
      split
      · exact faults_pure _
      split
      · exact faults_pure _
      split
      · exact faults_pure _
      · exact faults_throw ⟨nofun, nofun⟩
    | _ => exact faults_throw ⟨nofun, nofun⟩
  exact (Json.faults_field _ _).bind fun _ => (Json.faults_bytes _).bind fun _ => (Json.faults_field _ _).bind fun _ =>
    (hname _).bind fun _ => (Json.faults_field _ _).bind fun _ => (Json.faults_bytes _).bind fun _ => faults_pure _

theorem faults_items (v : Json) (key : String) : Faults DocumentFault.IsPlain (items v key) :=
  (Json.faults_optional _ _).bind fun _ => Json.faults_elements _

theorem parts_eq {α : Type} (read : Json → Except DocumentFault α) (v : Json) (key : String) :
    parts read v key = items v key >>= fun l => l.mapM read := by
  unfold parts items
  rw [bind_assoc]

/-- What does not count as bad input comes from the first record that is not read. -/
theorem ofJson_eq_error_iff {v : Json} {f : DocumentFault} (hf : ¬ f.IsPlain) : ofJson v = .error f ↔
    ∃ before record after, items v "cells" = .ok (before ++ record :: after) ∧
      (∀ r ∈ before, ∃ c, LiveCell.ofJson r = .ok c) ∧ LiveCell.ofJson record = .error f := by
  have hscripts : Faults DocumentFault.IsPlain (parts Script.ofJson v "lock_scripts") := by
    rw [parts_eq]
    exact (faults_items v _).bind fun l => faults_mapM faults_script l
  have hcells : ofJson v = .error f ↔ parts LiveCell.ofJson v "cells" = .error f := by
    unfold ofJson
    rw [bind_eq_error_iff]
    refine or_iff_left fun ⟨_, _, h⟩ => ?_
    rcases bind_eq_error_iff.mp h with h | ⟨_, _, h⟩
    · exact hf (hscripts f h)
    · cases h
  rw [hcells, parts_eq, bind_eq_error_iff, or_iff_right fun h => hf (faults_items v _ f h)]
  constructor
  · rintro ⟨l, hl, h⟩
    obtain ⟨before, record, after, rfl, hbefore, hrecord⟩ := mapM_eq_error_iff.mp h
    exact ⟨before, record, after, hl, hbefore, hrecord⟩
  · rintro ⟨before, record, after, hl, hbefore, hrecord⟩
    exact ⟨_, hl, mapM_eq_error_iff.mpr ⟨before, record, after, rfl, hbefore, hrecord⟩⟩

/-! ## Contents of a file -/

variable {content : Bytes}

theorem load_eq_ok {i : Index} (h : load content = .ok i) : ∃ v l cells, document content = .ok v ∧
    items v "cells" = .ok l ∧ List.Forall₂ (fun record c => LiveCell.ofJson record = .ok c) l cells ∧
    i.cells.Perm cells := by
  obtain ⟨⟨cells, scripts⟩, hrecords, hindex⟩ := bind_eq_ok_iff.mp h
  obtain ⟨v, hv, hjson⟩ := bind_eq_ok_iff.mp hrecords
  obtain ⟨cells', hcells, hrest⟩ := bind_eq_ok_iff.mp (mapError_eq_ok_iff.mp hjson)
  obtain ⟨scripts', -, hpair⟩ := bind_eq_ok_iff.mp hrest
  cases pure_eq_ok_iff.mp hpair
  rw [parts_eq] at hcells
  obtain ⟨l, hl, hread⟩ := bind_eq_ok_iff.mp hcells
  exact ⟨v, l, cells, hv, hl, mapM_eq_ok_iff.mp hread, perm_of_ofCells (mapError_eq_ok_iff.mp hindex)⟩

/-- The content fails, and not as bad input. -/
inductive Escape (content : Bytes) : SnapshotFault → Prop where
  | depth {text : String} {object : Bool} (htext : Entry.text? content = some text)
      (hdeep : Json.parse text = .error (.tooDeep object)) : Escape content (.text (.tooDeep object))
  | place {v : Json} {before after : List Json} {record : Json} (hv : document content = .ok v)
      (hcells : items v "cells" = .ok (before ++ record :: after))
      (hbefore : ∀ r ∈ before, ∃ c, LiveCell.ofJson r = .ok c)
      (hrecord : LiveCell.HasOneHash record) : Escape content (.document .outOfRange)
  | infinite {v : Json} {before after : List Json} {record : Json} (hv : document content = .ok v)
      (hcells : items v "cells" = .ok (before ++ record :: after))
      (hbefore : ∀ r ∈ before, ∃ c, LiveCell.ofJson r = .ok c)
      (hrecord : LiveCell.HasInfinite record) : Escape content (.document .infinite)
  | width {cells : List LiveCell} {scripts : List Script} (h : recordsOf content = .ok (cells, scripts)) {s : Script}
      (hs : s ∈ scripts) (hsize : 2 ^ 32 ≤ s.size) : Escape content (.script .tooWide)

theorem kind_document_iff {f : DocumentFault} : (SnapshotFault.document f).kind = .input ↔ f.IsPlain := by
  cases f with
  | outOfRange => exact ⟨nofun, fun h => absurd rfl h.1⟩
  | infinite => exact ⟨nofun, fun h => absurd rfl h.2⟩
  | _ => exact ⟨fun _ => ⟨nofun, nofun⟩, fun _ => rfl⟩

theorem escape_of_document {v : Json} {f : DocumentFault} (hv : document content = .ok v) (h : ofJson v = .error f)
    (hf : ¬ f.IsPlain) : Escape content (.document f) := by
  obtain ⟨before, record, after, hcells, hbefore, hrecord⟩ := (ofJson_eq_error_iff hf).mp h
  have hcases : f = .outOfRange ∨ f = .infinite := by
    by_contra hne
    exact hf (not_or.mp hne)
  rcases hcases with rfl | rfl
  · exact .place hv hcells hbefore (LiveCell.ofJson_eq_outOfRange_iff.mp hrecord)
  · exact .infinite hv hcells hbefore (LiveCell.ofJson_eq_infinite_iff.mp hrecord)

theorem document_eq_error {f : SnapshotFault} (h : document content = .error f) :
    f.kind = .input ∨ Escape content f := by
  unfold document at h
  split at h
  next text htext =>
    obtain ⟨g, hg, rfl⟩ := mapError_eq_error_iff.mp h
    cases g with
    | tooDeep object => exact .inr (.depth htext hg)
    | malformed | number => exact .inl rfl
  next =>
    cases h
    exact .inl rfl

theorem index_eq_error_iff {cells : List LiveCell} {scripts : List Script} {f : SnapshotFault} :
    index (cells, scripts) = .error f ↔ f = .script .tooWide ∧ ∃ s ∈ scripts, 2 ^ 32 ≤ s.size := by
  have hlong : (∃ s ∈ scripts, 2 ^ 32 ≤ s.size) ↔ ¬ ∃ locks, Index.byHash scripts = .ok locks := by
    rw [Index.exists_byHash_iff]
    simp only [not_forall, Nat.not_lt, exists_prop]
  have hofCells : ∀ g, Index.ofCells cells scripts = .error g ↔ Index.byHash scripts = .error g := fun g => by
    unfold Index.ofCells
    rw [bind_eq_error_iff]
    exact or_iff_left fun ⟨_, _, h⟩ => nomatch h
  unfold index
  rw [mapError_eq_error_iff, hlong]
  constructor
  · rintro ⟨g, hg, rfl⟩
    rw [hofCells] at hg
    exact ⟨congrArg _ (Index.faults_byHash scripts g hg), fun ⟨locks, h⟩ => by rw [h] at hg; cases hg⟩
  · rintro ⟨rfl, hnone⟩
    cases hlocks : Index.byHash scripts with
    | ok locks => exact absurd ⟨locks, hlocks⟩ hnone
    | error g =>
      obtain rfl := Index.faults_byHash scripts g hlocks
      exact ⟨_, (hofCells _).mpr hlocks, rfl⟩

theorem escape_of_error {f : SnapshotFault} (h : load content = .error f) : f.kind = .input ∨ Escape content f := by
  rcases bind_eq_error_iff.mp h with h | ⟨⟨cells, scripts⟩, hrecords, h⟩
  · rcases bind_eq_error_iff.mp h with h | ⟨v, hv, h⟩
    · exact document_eq_error h
    · obtain ⟨g, hg, rfl⟩ := mapError_eq_error_iff.mp h
      by_cases hplain : g.IsPlain
      · exact .inl (kind_document_iff.mpr hplain)
      · exact .inr (escape_of_document hv hg hplain)
  · obtain ⟨rfl, s, hs, hsize⟩ := index_eq_error_iff.mp h
    exact .inr (.width hrecords hs hsize)

theorem load_of_escape {f : SnapshotFault} (h : Escape content f) : load content = .error f ∧ f.kind ≠ .input := by
  have hrecords : ∀ {g}, recordsOf content = .error g → load content = .error g := fun h =>
    bind_eq_error_iff.mpr (.inl h)
  have hjson : ∀ {v before record after g}, document content = .ok v → ¬ g.IsPlain →
      items v "cells" = .ok (before ++ record :: after) → (∀ r ∈ before, ∃ c, LiveCell.ofJson r = .ok c) →
      LiveCell.ofJson record = .error g → recordsOf content = .error (.document g) :=
    fun hv hg hcells hbefore hrecord => bind_eq_error_iff.mpr (.inr ⟨_, hv, mapError_eq_error_iff.mpr
      ⟨_, (ofJson_eq_error_iff hg).mpr ⟨_, _, _, hcells, hbefore, hrecord⟩, rfl⟩⟩)
  cases h with
  | depth htext hdeep =>
    refine ⟨hrecords (bind_eq_error_iff.mpr (.inl ?_)), nofun⟩
    unfold document
    rw [htext]
    exact mapError_eq_error_iff.mpr ⟨_, hdeep, rfl⟩
  | place hv hcells hbefore hrecord =>
    exact ⟨hrecords (hjson hv (fun h => h.1 rfl) hcells hbefore (LiveCell.ofJson_eq_outOfRange_iff.mpr hrecord)), nofun⟩
  | infinite hv hcells hbefore hrecord =>
    exact ⟨hrecords (hjson hv (fun h => h.2 rfl) hcells hbefore (LiveCell.ofJson_eq_infinite_iff.mpr hrecord)), nofun⟩
  | width h hs hsize =>
    exact ⟨bind_eq_error_iff.mpr (.inr ⟨_, h, index_eq_error_iff.mpr ⟨rfl, _, hs, hsize⟩⟩), nofun⟩

/-- **A bad snapshot is bad input, but for four escapes.**  Whatever the content of an index file is, it gives an index
whose cells are those of its records, each with the capacity that its record spells, not below zero; or it fails as bad
input; or it is nested too deeply, has one type hash where two belong, has an infinite number, or has a script that is
too long, and these fail in another way. -/
theorem load_fails_as_input (content : Bytes) :
    (∀ i, load content = .ok i → ∃ v l cells, document content = .ok v ∧ items v "cells" = .ok l ∧
      List.Forall₂ (fun record c => LiveCell.ofJson record = .ok c ∧
        ∃ n : Int, (record.field "capacity" >>= Json.integer) = .ok n ∧ 0 ≤ n ∧ n = c.capacity) l cells ∧
      i.cells.Perm cells) ∧
    (∀ f, load content = .error f → f.kind = .input ∨ Escape content f) ∧
    ∀ f, Escape content f → load content = .error f ∧ f.kind ≠ .input := by
  refine ⟨fun i h => ?_, fun f => escape_of_error, fun f => load_of_escape⟩
  obtain ⟨v, l, cells, hv, hl, hread, hperm⟩ := load_eq_ok h
  exact ⟨v, l, cells, hv, hl, hread.imp fun record c hc => ⟨hc, LiveCell.capacity_of_ofJson hc⟩, hperm⟩

/-- A file with one record, whose type has one hash. -/
def oneHash : String := "\x7b\"cells\": [\x7b\"tx_hash\": \"0x00\", \"output_index\": 0, \"tx_index\": 1, " ++
  "\"number\": 5, \"lock_hash\": \"0x11\", \"capacity\": 100, \"type_hashes\": [\"0x22\"]\x7d]\x7d"

/-- **One hash where two belong is no bad input.** -/
theorem load_of_one_hash : load (Seed.utf8 oneHash) = .error (.document .outOfRange) ∧
    (SnapshotFault.document .outOfRange).kind ≠ .input := by
  have hrecords : recordsOf (Seed.utf8 oneHash) = .error (.document .outOfRange) := by decide +kernel
  exact ⟨bind_eq_error_iff.mpr (.inl hrecords), by decide⟩

end Snapshot

end CellPurse
