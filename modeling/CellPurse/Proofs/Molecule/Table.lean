import CellPurse.Ledger.Witness
import CellPurse.Proofs.Outcome

/-!
# CellPurse.Proofs.Molecule.Table — reading what was written

A table is its size, the offsets of its items, and the items.  A reader goes through the words in front; what lies
behind it is a list that grows, so that every lemma is about a word or a part after some bytes.

* `wordAt_append`: a word is read where it was written;
* `starts start items`: where the items start; `wordsAt_offsets`: they are what the offsets say;
* `cut_starts`: between them lie the items;
* `fields_table`: the fields of a table are its items;
* `exists_table_iff`, `faults_table`: a table can be written when its size fits a word, and else is too wide;
* `Witness.deserialize_serialize`: the same for witnesses.
-/

namespace CellPurse

open Outcome

namespace Molecule

/-! ## Words -/

theorem wordOf_eq_ok_iff {w : Nat} {n : Int} {b : Bytes} :
    wordOf w n = .ok b ↔ 0 ≤ n ∧ n < 256 ^ w ∧ b = Bytes.ofNatLE w n.toNat := by
  unfold wordOf
  split_ifs with h
  · rw [Except.ok.injEq]
    exact ⟨fun hb => ⟨h.1, h.2, hb.symm⟩, fun hb => hb.2.2.symm⟩
  · simp only [false_iff]
    exact fun hb => h ⟨hb.1, hb.2.1⟩

theorem u32_natCast_eq_ok_iff {n : Nat} {b : Bytes} :
    u32 n = .ok b ↔ n < 2 ^ 32 ∧ b = Bytes.ofNatLE 4 n := by
  unfold u32
  rw [wordOf_eq_ok_iff]
  constructor
  · rintro ⟨-, hlt, rfl⟩
    exact ⟨by omega, rfl⟩
  · rintro ⟨hlt, rfl⟩
    exact ⟨by omega, by omega, rfl⟩

theorem length_of_u32 {n : Nat} {b : Bytes} (h : u32 n = .ok b) : b.length = 4 := by
  obtain ⟨-, rfl⟩ := u32_natCast_eq_ok_iff.mp h
  exact Bytes.length_ofNatLE 4 n

/-- A word is read where it was written. -/
theorem wordAt_append {n : Nat} {word : Bytes} (h : u32 n = .ok word) (front back : Bytes) :
    wordAt (front ++ (word ++ back)) front.length = .ok n := by
  have hlength := length_of_u32 h
  obtain ⟨hlt, hword⟩ := u32_natCast_eq_ok_iff.mp h
  have hpart : ((front ++ (word ++ back)).drop front.length).take 4 = word := by
    rw [List.drop_left, ← hlength, List.take_left]
  unfold wordAt
  rw [if_pos (by simp only [List.length_append]; omega), hpart, hword, Bytes.toNatLE_ofNatLE,
    Nat.mod_eq_of_lt (by omega)]

/-! ## Offsets -/

/-- Where items start, the first of them at `start`. -/
def starts : Nat → List Bytes → List Nat
  | _, [] => []
  | start, item :: r => start :: starts (start + item.length) r

theorem length_of_offsets {start : Nat} {items : List Bytes} {places : Bytes} (h : offsets start items = .ok places) :
    places.length = 4 * items.length := by
  induction items generalizing start places with
  | nil => cases h; rfl
  | cons item r ih =>
    rw [offsets] at h
    obtain ⟨here, hhere, h⟩ := bind_eq_ok_iff.mp h
    obtain ⟨next, hnext, h⟩ := bind_eq_ok_iff.mp h
    rw [← pure_eq_ok_iff.mp h, List.length_append, length_of_u32 hhere, ih hnext, List.length_cons]
    omega

/-- The offsets say where the items start. -/
theorem wordsAt_offsets {start : Nat} {items : List Bytes} {places : Bytes} (h : offsets start items = .ok places)
    (front back : Bytes) :
    wordsAt (front ++ (places ++ back)) items.length front.length = .ok (starts start items) := by
  induction items generalizing start places front with
  | nil => rfl
  | cons item r ih =>
    rw [offsets] at h
    obtain ⟨here, hhere, h⟩ := bind_eq_ok_iff.mp h
    obtain ⟨next, hnext, h⟩ := bind_eq_ok_iff.mp h
    rw [← pure_eq_ok_iff.mp h, List.append_assoc, List.length_cons, wordsAt]
    refine bind_eq_ok_iff.mpr ⟨start, wordAt_append hhere front _, bind_eq_ok_iff.mpr ⟨_, ?_, rfl⟩⟩
    have hfront : (front ++ here).length = front.length + 4 := by rw [List.length_append, length_of_u32 hhere]
    rw [← List.append_assoc, ← hfront]
    exact ih hnext (front ++ here)

theorem starts_append_end (start : Nat) (items : List Bytes) :
    ∃ r, starts start items ++ [start + items.flatten.length] = start :: r := by
  cases items with
  | nil => exact ⟨[], rfl⟩
  | cons item r => exact ⟨_, rfl⟩

theorem slice_append (front part back : Bytes) :
    slice (front ++ (part ++ back)) front.length (front.length + part.length) = part := by
  unfold slice
  rw [List.take_length_add_append, List.take_left, List.drop_left]

/-- Between their starts lie the items. -/
theorem cut_starts (front : Bytes) (items : List Bytes) :
    cut (front ++ items.flatten) (starts front.length items ++ [front.length + items.flatten.length]) = items := by
  induction items generalizing front with
  | nil => rfl
  | cons item r ih =>
    obtain ⟨places, hplaces⟩ := starts_append_end (front.length + item.length) r
    have hrest := ih (front ++ item)
    rw [List.length_append, hplaces, List.append_assoc] at hrest
    rw [List.flatten_cons, List.length_append, ← Nat.add_assoc, starts, List.cons_append, hplaces, cut, hrest,
      slice_append]

/-! ## Tables -/

/-- What was written as a table is read as its items. -/
theorem fields_table {items : List Bytes} {data : Bytes} (h : table items = .ok data) : fields data = .ok items := by
  unfold table at h
  obtain ⟨size, hsize, h⟩ := bind_eq_ok_iff.mp h
  obtain ⟨places, hplaces, h⟩ := bind_eq_ok_iff.mp h
  have hs := length_of_u32 hsize
  have hp := length_of_offsets hplaces
  have hdata : data = size ++ (places ++ items.flatten) := by
    rw [← pure_eq_ok_iff.mp h, List.append_assoc]
  have hlength : data.length = 4 + 4 * items.length + items.flatten.length := by
    rw [hdata, List.length_append, List.length_append, hs, hp, Nat.add_assoc]
  have hword : wordAt data 0 = .ok (4 + 4 * items.length + items.flatten.length) := by
    rw [hdata]
    exact wordAt_append hsize [] _
  unfold fields
  refine bind_eq_ok_iff.mpr ⟨_, hword, ?_⟩
  rw [if_neg (by omega)]
  cases items with
  | nil => rfl
  | cons item r =>
    have hfirst : wordAt data 4 = .ok (4 + 4 * (item :: r).length) := by
      rw [offsets] at hplaces
      obtain ⟨here, hhere, hplaces⟩ := bind_eq_ok_iff.mp hplaces
      obtain ⟨next, -, hplaces⟩ := bind_eq_ok_iff.mp hplaces
      have hread := wordAt_append hhere size (next ++ (item :: r).flatten)
      rw [hs] at hread
      rw [hdata, ← pure_eq_ok_iff.mp hplaces, List.append_assoc]
      exact hread
    have hwords : wordsAt data (item :: r).length 4 = .ok (starts (4 + 4 * (item :: r).length) (item :: r)) := by
      have hread := wordsAt_offsets hplaces size (item :: r).flatten
      rw [hs] at hread
      rw [hdata]
      exact hread
    have hcount : (4 + 4 * (item :: r).length) / 4 - 1 = (item :: r).length := by omega
    rw [if_neg (by rw [List.length_cons]; omega)]
    refine bind_eq_ok_iff.mpr ⟨_, hfirst, ?_⟩
    rw [hcount]
    refine bind_eq_ok_iff.mpr ⟨_, hwords, ?_⟩
    have hfront : (size ++ places).length = 4 + 4 * (item :: r).length := by rw [List.length_append, hs, hp]
    rw [pure_eq_ok_iff, hdata, ← List.append_assoc, ← hfront]
    exact cut_starts (size ++ places) (item :: r)

/-! ## What can be written -/

/-- The offsets only depend on how long the items are. -/
theorem offsets_congr {items items' : List Bytes} (h : items.map List.length = items'.map List.length) (start : Nat) :
    offsets start items = offsets start items' := by
  induction items generalizing items' start with
  | nil =>
    cases items' with
    | nil => rfl
    | cons _ _ => cases h
  | cons item r ih =>
    cases items' with
    | nil => cases h
    | cons item' r' =>
      obtain ⟨hitem, hr⟩ := List.cons.inj h
      rw [offsets, offsets, hitem, ih hr]

/-- Whether a table can be written only depends on how long the items are. -/
theorem exists_table {items items' : List Bytes} (h : items.map List.length = items'.map List.length) {data : Bytes}
    (ht : table items = .ok data) : ∃ data', table items' = .ok data' := by
  unfold table at ht ⊢
  obtain ⟨size, hsize, ht⟩ := bind_eq_ok_iff.mp ht
  obtain ⟨places, hplaces, -⟩ := bind_eq_ok_iff.mp ht
  have hcount : items.length = items'.length := by simpa using congrArg List.length h
  have hflat : items.flatten.length = items'.flatten.length := by rw [List.length_flatten, h, ← List.length_flatten]
  rw [hcount, hflat] at hsize
  rw [hcount, offsets_congr h] at hplaces
  exact ⟨_, bind_eq_ok_iff.mpr ⟨size, hsize, bind_eq_ok_iff.mpr ⟨places, hplaces, rfl⟩⟩⟩

/-- Offsets can be written up to the greatest word. -/
theorem exists_offsets {start : Nat} {items : List Bytes} (h : start + items.flatten.length < 2 ^ 32) :
    ∃ places, offsets start items = .ok places := by
  induction items generalizing start with
  | nil => exact ⟨[], rfl⟩
  | cons item r ih =>
    rw [List.flatten_cons, List.length_append] at h
    have hrest : start + item.length + r.flatten.length < 2 ^ 32 := by omega
    obtain ⟨places, hplaces⟩ := ih hrest
    have hstart : u32 start = .ok (Bytes.ofNatLE 4 start) := u32_natCast_eq_ok_iff.mpr ⟨by omega, rfl⟩
    exact ⟨_, bind_eq_ok_iff.mpr ⟨_, hstart, bind_eq_ok_iff.mpr ⟨places, hplaces, rfl⟩⟩⟩

/-- A table can be written when its size fits a word. -/
theorem exists_table_iff {items : List Bytes} :
    (∃ data, table items = .ok data) ↔ 4 + 4 * items.length + items.flatten.length < 2 ^ 32 := by
  constructor
  · rintro ⟨data, h⟩
    obtain ⟨size, hsize, -⟩ := bind_eq_ok_iff.mp h
    exact (u32_natCast_eq_ok_iff.mp hsize).1
  · intro h
    obtain ⟨places, hplaces⟩ := exists_offsets h
    exact ⟨_, bind_eq_ok_iff.mpr ⟨_, u32_natCast_eq_ok_iff.mpr ⟨h, rfl⟩, bind_eq_ok_iff.mpr ⟨places, hplaces, rfl⟩⟩⟩

/-- What can not be written is too wide. -/
theorem faults_u32 (n : Int) : Faults (· = .tooWide) (u32 n) := by
  unfold u32 wordOf
  split
  · exact faults_pure _
  · exact faults_throw rfl

theorem faults_offsets (start : Nat) (items : List Bytes) : Faults (· = .tooWide) (offsets start items) := by
  induction items generalizing start with
  | nil => exact faults_pure _
  | cons item r ih => exact (faults_u32 _).bind fun _ => (ih _).bind fun _ => faults_pure _

theorem faults_table (items : List Bytes) : Faults (· = .tooWide) (table items) :=
  (faults_u32 _).bind fun _ => (faults_offsets _ _).bind fun _ => faults_pure _

end Molecule

/-! ## Witnesses -/

namespace Witness

open Molecule

theorem readPart_writePart {part : Option Bytes} {raw : Bytes} (h : writePart part = .ok raw) :
    readPart raw = .ok part := by
  unfold writePart at h
  obtain ⟨b, hb, h⟩ := bind_eq_ok_iff.mp h
  cases part with
  | none =>
    cases hb
    cases pure_eq_ok_iff.mp h
    rfl
  | some content =>
    rw [Option.mapM_some] at hb
    obtain ⟨written, hw, rfl⟩ := map_eq_ok_iff.mp hb
    unfold Molecule.bytes at hw
    obtain ⟨size, hsize, hw⟩ := bind_eq_ok_iff.mp hw
    cases pure_eq_ok_iff.mp h
    cases pure_eq_ok_iff.mp hw
    have hs := length_of_u32 hsize
    have hread : wordAt (size ++ content) 0 = .ok content.length := wordAt_append hsize [] content
    have hne : (option (some (size ++ content))).isEmpty = false := by
      cases size with
      | nil => cases hs
      | cons a r => rfl
    unfold readPart
    rw [hne, if_neg Bool.false_ne_true]
    refine bind_eq_ok_iff.mpr ⟨content.length, hread, ?_⟩
    have hslice := slice_append size content []
    rw [List.append_nil, hs] at hslice
    rw [pure_eq_ok_iff]
    exact congrArg some hslice

/-- What was written as a witness is read as the witness. -/
theorem deserialize_serialize {w : Witness} {data : Bytes} (h : w.serialize = .ok data) : deserialize data = .ok w := by
  unfold serialize at h
  obtain ⟨lock, hlock, h⟩ := bind_eq_ok_iff.mp h
  obtain ⟨inputType, hinput, h⟩ := bind_eq_ok_iff.mp h
  obtain ⟨outputType, houtput, h⟩ := bind_eq_ok_iff.mp h
  unfold deserialize
  refine bind_eq_ok_iff.mpr ⟨_, fields_table h, ?_⟩
  refine bind_eq_ok_iff.mpr ⟨_, readPart_writePart hlock, bind_eq_ok_iff.mpr ⟨_, readPart_writePart hinput, ?_⟩⟩
  exact bind_eq_ok_iff.mpr ⟨_, readPart_writePart houtput, rfl⟩

/-- Whether a witness with a lock part can be written only depends on how long the part is. -/
theorem exists_serialize_lock {a b : Bytes} (h : a.length = b.length) {data : Bytes}
    (ha : serialize { lock := some a } = .ok data) : ∃ data', serialize { lock := some b } = .ok data' := by
  unfold serialize at ha ⊢
  obtain ⟨raw, hraw, ha⟩ := bind_eq_ok_iff.mp ha
  obtain ⟨none₁, hnone₁, ha⟩ := bind_eq_ok_iff.mp ha
  obtain ⟨none₂, hnone₂, ha⟩ := bind_eq_ok_iff.mp ha
  obtain ⟨c, hc, hraw⟩ := bind_eq_ok_iff.mp hraw
  rw [Option.mapM_some] at hc
  obtain ⟨written, hw, rfl⟩ := map_eq_ok_iff.mp hc
  unfold Molecule.bytes at hw
  obtain ⟨size, hsize, hw⟩ := bind_eq_ok_iff.mp hw
  cases pure_eq_ok_iff.mp hraw
  cases pure_eq_ok_iff.mp hw
  have hpart : writePart (some b) = .ok (size ++ b) := by
    unfold writePart Molecule.bytes
    rw [Option.mapM_some, ← h, hsize]
    rfl
  obtain ⟨data', hdata'⟩ := @exists_table _ [size ++ b, none₁, none₂] (by simp [Molecule.option, h]) _ ha
  exact ⟨data', bind_eq_ok_iff.mpr ⟨_, hpart, bind_eq_ok_iff.mpr ⟨_, hnone₁, bind_eq_ok_iff.mpr ⟨_, hnone₂, hdata'⟩⟩⟩⟩

end Witness

end CellPurse
