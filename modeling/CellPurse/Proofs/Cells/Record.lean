import CellPurse.Cells.LiveCell
import CellPurse.Proofs.Json.Document

/-!
# CellPurse.Proofs.Cells.Record — how a record of a cell is read

* `LiveCell.checks v`: what is asked of a record, in order;
* `LiveCell.ofJson_eq_error_iff`: a record fails as the first of these that fails;
* `LiveCell.HasOneHash`, `LiveCell.HasInfinite`: the records with one type hash in place of two, and those with an
  infinite number, where nothing else is wrong before; `ofJson_eq_outOfRange_iff`, `ofJson_eq_infinite_iff`: these are
  the records that fail with a place outside a list, and with a number beyond all integers;
* `LiveCell.capacity_of_ofJson`: a record that is read has a capacity that is not below zero.
-/

namespace CellPurse.LiveCell

open Outcome Json

/-! ## Checks -/

/-- The fields that every record is asked for, in order. -/
def keys : List String :=
  ["tx_hash", "output_index", "tx_index", "number", "lock_hash", "capacity", "data_bytes"]

/-- The value of a field; the size of the data may be absent. -/
def value (v : Json) (key : String) : Except DocumentFault Json :=
  if key = "data_bytes" then (fun w => w.getD (.int 0)) <$> v.optional key else v.field key

/-- The field holds a hash, and no integer. -/
def isHash (key : String) : Bool := key = "tx_hash" || key = "lock_hash"

/-- What is asked of a field. -/
def check (v : Json) (key : String) : Except DocumentFault Unit :=
  if isHash key then discard (value v key >>= Json.bytes) else discard (value v key >>= Json.integer)

/-- What is asked of the type. -/
def typeCheck (v : Json) : Except DocumentFault Unit := do
  let type ← v.optional "type_hashes"
  discard (readType (type.getD .null))

/-- What is asked of the capacity once it is known. -/
def signCheck (v : Json) : Except DocumentFault Unit := do
  let n ← v.field "capacity" >>= Json.integer
  if n < 0 then .error (.negativeCapacity n) else pure ()

/-- What is asked of a record, in order. -/
def checks (v : Json) : List (Except DocumentFault Unit) :=
  discard (v.optional "type_hashes") :: (keys.map (check v) ++ [typeCheck v, signCheck v])

variable {v : Json} {f : DocumentFault}

section Step

variable {α β γ : Type} {x : Except DocumentFault α} {y : α → Except DocumentFault β} {r : Except DocumentFault Unit}
  {rs : List (Except DocumentFault Unit)}

theorem discard_eq_error_iff : (discard x : Except DocumentFault Unit) = .error f ↔ x = .error f := by
  cases x with
  | error e => exact ⟨fun h => congrArg _ (Except.error.inj h), fun h => congrArg _ (Except.error.inj h)⟩
  | ok a => exact ⟨nofun, nofun⟩

theorem discard_eq_ok_iff : (discard x : Except DocumentFault Unit) = .ok () ↔ ∃ a, x = .ok a := by
  cases x with
  | error e => exact ⟨nofun, nofun⟩
  | ok a => exact ⟨fun _ => ⟨a, rfl⟩, fun _ => rfl⟩

/-- Checks fail as the first of them that fails. -/
theorem checks_cons : (r :: rs).mapM id = .error f ↔ r = .error f ∨ r = .ok () ∧ rs.mapM id = .error f := by
  rw [List.mapM_cons, bind_eq_error_iff, id]
  refine or_congr_right ⟨fun ⟨u, hu, h⟩ => ⟨hu, ?_⟩, fun ⟨hu, h⟩ => ⟨(), hu, bind_eq_error_iff.mpr (.inl h)⟩⟩
  exact (bind_eq_error_iff.mp h).resolve_right fun ⟨_, _, h⟩ => nomatch h

theorem checks_append {l : List (Except DocumentFault Unit)} :
    (l ++ rs).mapM id = .error f ↔ l.mapM id = .error f ∨ (∀ r ∈ l, r = .ok ()) ∧ rs.mapM id = .error f := by
  induction l with
  | nil => exact ⟨fun h => .inr ⟨nofun, h⟩, fun h => (h.resolve_left nofun).2⟩
  | cons r l ih =>
    rw [List.cons_append, checks_cons, checks_cons, ih, List.forall_mem_cons]
    tauto

/-- The first part of a reading is the first check, and the rest of it the other checks. -/
theorem bind_eq_error_iff_checks (hr : ∀ e, r = .error e ↔ x = .error e)
    (hrest : ∀ a, x = .ok a → (y a = .error f ↔ rs.mapM id = .error f)) :
    (x >>= y) = .error f ↔ (r :: rs).mapM id = .error f := by
  rw [checks_cons, bind_eq_error_iff, hr]
  refine or_congr_right ?_
  cases hx : x with
  | error e => exact ⟨fun ⟨_, h, _⟩ => (nomatch h), fun ⟨h, _⟩ => by rw [(hr e).mpr hx] at h; cases h⟩
  | ok a =>
    have hok : r = .ok () := by
      cases hu : r with
      | error e => exact absurd ((hr e).mp hu) (by rw [hx]; nofun)
      | ok u => rfl
    rw [← hrest a hx]
    constructor
    · rintro ⟨_, ha, h⟩
      cases ha
      exact ⟨hok, h⟩
    · exact fun ⟨_, h⟩ => ⟨a, rfl, h⟩

theorem bind_bind_eq_error_iff_checks {z : β → Except DocumentFault γ}
    (hr : ∀ e, r = .error e ↔ (x >>= y) = .error e)
    (hrest : ∀ b, (x >>= y) = .ok b → (z b = .error f ↔ rs.mapM id = .error f)) :
    (x >>= fun a => y a >>= z) = .error f ↔ (r :: rs).mapM id = .error f := by
  rw [← bind_assoc]
  exact bind_eq_error_iff_checks hr hrest

end Step

theorem check_hash_iff {key : String} (hkey : isHash key = true) (hsize : key ≠ "data_bytes") (e : DocumentFault) :
    check v key = .error e ↔ (v.field key >>= Json.bytes) = .error e := by
  unfold check value
  rw [if_pos hkey, if_neg hsize]
  exact discard_eq_error_iff

theorem check_integer_iff {key : String} (hkey : isHash key = false) (hsize : key ≠ "data_bytes") (e : DocumentFault) :
    check v key = .error e ↔ (v.field key >>= Json.integer) = .error e := by
  unfold check value
  rw [if_neg (by rw [hkey]; exact Bool.false_ne_true), if_neg hsize]
  exact discard_eq_error_iff

theorem check_size_iff (e : DocumentFault) : check v "data_bytes" = .error e ↔
    (v.optional "data_bytes" >>= fun w => (w.getD (.int 0)).integer) = .error e := by
  unfold check value
  rw [if_neg (by decide), if_pos rfl, bind_map_left]
  exact discard_eq_error_iff

/-- **A record fails as the first of its checks that fails.** -/
theorem ofJson_eq_error_iff : ofJson v = .error f ↔ (checks v).mapM id = .error f := by
  unfold ofJson checks keys
  refine bind_eq_error_iff_checks (fun e => discard_eq_error_iff) fun type htype => ?_
  refine bind_bind_eq_error_iff_checks (check_hash_iff (by decide) (by decide)) fun txHash _ => ?_
  refine bind_bind_eq_error_iff_checks (check_integer_iff (by decide) (by decide)) fun outputIndex _ => ?_
  refine bind_bind_eq_error_iff_checks (check_integer_iff (by decide) (by decide)) fun txIndex _ => ?_
  refine bind_bind_eq_error_iff_checks (check_integer_iff (by decide) (by decide)) fun number _ => ?_
  refine bind_bind_eq_error_iff_checks (check_hash_iff (by decide) (by decide)) fun lockHash _ => ?_
  refine bind_bind_eq_error_iff_checks (check_integer_iff (by decide) (by decide)) fun capacity hcapacity => ?_
  refine bind_bind_eq_error_iff_checks check_size_iff fun dataSize _ => ?_
  have htypeCheck : typeCheck v = discard (readType (type.getD .null)) := by
    unfold typeCheck
    rw [htype]
    rfl
  have hsignCheck : signCheck v = if capacity < 0 then .error (.negativeCapacity capacity) else pure () := by
    unfold signCheck
    rw [hcapacity]
    rfl
  refine bind_eq_error_iff_checks (fun e => htypeCheck ▸ discard_eq_error_iff) fun hashes _ => ?_
  unfold make
  rw [hsignCheck]
  split
  · exact ⟨fun h => congrArg _ (Except.error.inj h), fun h => congrArg _ (Except.error.inj h)⟩
  · exact ⟨nofun, nofun⟩

/-- What is wrong first is the value itself, a field, the type or the capacity. -/
theorem ofJson_eq_error_cases : ofJson v = .error f ↔ v.optional "type_hashes" = .error f ∨
    (∃ t, v.optional "type_hashes" = .ok t) ∧ (keys.mapM (check v) = .error f ∨
      (∀ key ∈ keys, check v key = .ok ()) ∧
        (typeCheck v = .error f ∨ typeCheck v = .ok () ∧ signCheck v = .error f)) := by
  have hlast : [signCheck v].mapM id = .error f ↔ signCheck v = .error f := by
    rw [checks_cons]
    exact or_iff_left fun h => nomatch h.2
  rw [ofJson_eq_error_iff, checks, checks_cons, checks_append, checks_cons, hlast, List.mapM_map, List.forall_mem_map,
    discard_eq_error_iff, discard_eq_ok_iff]
  rfl

/-! ## Causes -/

theorem exists_optional_of_value {key : String} {w : Json} (h : value v key = .ok w) (other : String) :
    ∃ t, v.optional other = .ok t := by
  have hobject : ∃ fields, v = .obj fields := by
    unfold value at h
    split at h
    · obtain ⟨t, ht, -⟩ := map_eq_ok_iff.mp h
      obtain ⟨fields, hv, -⟩ := optional_eq_ok_iff.mp ht
      exact ⟨fields, hv⟩
    · obtain ⟨fields, hv, -⟩ := field_eq_ok_iff.mp h
      exact ⟨fields, hv⟩
  obtain ⟨fields, rfl⟩ := hobject
  exact ⟨_, rfl⟩

theorem check_eq_infinite_iff {key : String} : check v key = .error .infinite ↔
    isHash key = false ∧ ∃ x negative, value v key = .ok (.float x) ∧ Binary64.view x = .infinite negative := by
  have hvalue : value v key ≠ .error .infinite := by
    unfold value
    split
    · exact fun h => ((faults_optional v key).map _ _ h).2 rfl
    · exact fun h => (faults_field v key _ h).2 rfl
  unfold check
  split
  next hhash =>
    refine ⟨fun h => ?_, fun ⟨h, _⟩ => absurd hhash (by rw [h]; exact Bool.false_ne_true)⟩
    rcases bind_eq_error_iff.mp (discard_eq_error_iff.mp h) with h | ⟨w, -, h⟩
    · exact absurd h hvalue
    · exact absurd rfl (faults_bytes w _ h).2
  next hhash =>
    rw [discard_eq_error_iff, bind_eq_error_iff, or_iff_right hvalue]
    constructor
    · rintro ⟨w, hw, h⟩
      obtain ⟨x, negative, rfl, hx⟩ := integer_eq_infinite_iff.mp h
      exact ⟨Bool.not_eq_true _ ▸ hhash, x, negative, hw, hx⟩
    · rintro ⟨-, x, negative, hw, hx⟩
      exact ⟨_, hw, integer_eq_infinite_iff.mpr ⟨x, negative, rfl, hx⟩⟩

theorem check_ne_outOfRange {key : String} : check v key ≠ .error .outOfRange := by
  have hvalue : value v key ≠ .error .outOfRange := by
    unfold value
    split
    · exact fun h => ((faults_optional v key).map _ _ h).1 rfl
    · exact fun h => (faults_field v key _ h).1 rfl
  unfold check
  split
  · rw [Ne, discard_eq_error_iff, bind_eq_error_iff, or_iff_right hvalue]
    exact fun ⟨w, _, h⟩ => (faults_bytes w _ h).1 rfl
  · rw [Ne, discard_eq_error_iff, bind_eq_error_iff, or_iff_right hvalue]
    exact fun ⟨w, _, h⟩ => integer_ne_outOfRange w h

/-- A type has one hash in place of two. -/
theorem readType_eq_outOfRange_iff {t : Json} :
    readType t = .error .outOfRange ↔ ∃ w b, HoldsOne t w ∧ w.bytes = .ok b := by
  unfold readType
  constructor
  · intro h
    split at h
    next htruthy =>
      rcases bind_eq_error_iff.mp h with h | ⟨w, hw, h⟩
      · exact absurd h (item_zero_ne_outOfRange htruthy)
      rcases bind_eq_error_iff.mp h with h | ⟨b, hb, h⟩
      · exact absurd rfl (faults_bytes w _ h).1
      rcases bind_eq_error_iff.mp h with h | ⟨w', -, h⟩
      · exact ⟨w, b, holdsOne_iff.mp ⟨hw, h⟩, hb⟩
      rcases bind_eq_error_iff.mp h with h | ⟨_, _, h⟩
      · exact absurd rfl (faults_bytes w' _ h).1
      · cases h
    · cases h
  · rintro ⟨w, b, hone, hb⟩
    obtain ⟨hw, hnone⟩ := holdsOne_iff.mpr hone
    rw [if_pos hone.truthy, hw]
    show (w.bytes >>= _) = _
    rw [hb]
    show (t.item 1 >>= _) = _
    rw [hnone]
    rfl

theorem typeCheck_eq_outOfRange_iff : typeCheck v = .error .outOfRange ↔
    ∃ t w b, v.optional "type_hashes" = .ok (some t) ∧ HoldsOne t w ∧ w.bytes = .ok b := by
  unfold typeCheck
  rw [bind_eq_error_iff, or_iff_right fun h => (faults_optional v _ _ h).1 rfl]
  constructor
  · rintro ⟨type, htype, h⟩
    obtain ⟨w, b, hone, hb⟩ := readType_eq_outOfRange_iff.mp (discard_eq_error_iff.mp h)
    cases type with
    | none =>
      rcases hone with h | ⟨_, _, h, -⟩
      · cases h
      · cases h
    | some t => exact ⟨t, w, b, htype, hone, hb⟩
  · rintro ⟨t, w, b, htype, hone, hb⟩
    exact ⟨some t, htype, discard_eq_error_iff.mpr (readType_eq_outOfRange_iff.mpr ⟨w, b, hone, hb⟩)⟩

theorem readType_ne_infinite (t : Json) : readType t ≠ .error .infinite := by
  unfold readType
  split
  · intro h
    rcases bind_eq_error_iff.mp h with h | ⟨w, -, h⟩
    · exact item_ne_infinite t 0 h
    rcases bind_eq_error_iff.mp h with h | ⟨_, -, h⟩
    · exact (faults_bytes w _ h).2 rfl
    rcases bind_eq_error_iff.mp h with h | ⟨w', -, h⟩
    · exact item_ne_infinite t 1 h
    rcases bind_eq_error_iff.mp h with h | ⟨_, -, h⟩
    · exact (faults_bytes w' _ h).2 rfl
    · cases h
  · nofun

theorem typeCheck_ne_infinite : typeCheck v ≠ .error .infinite := by
  intro h
  rcases bind_eq_error_iff.mp h with h | ⟨type, -, h⟩
  · exact (faults_optional v _ _ h).2 rfl
  · exact readType_ne_infinite _ (discard_eq_error_iff.mp h)

/-- Where the capacity is an integer, it can only be below zero. -/
theorem signCheck_eq_error (h : check v "capacity" = .ok ()) (hf : signCheck v = .error f) :
    ∃ n, f = .negativeCapacity n := by
  rcases bind_eq_error_iff.mp hf with hf | ⟨n, -, hf⟩
  · rw [(check_integer_iff (by decide) (by decide) f).mpr hf] at h
    cases h
  · split at hf
    · exact ⟨n, (Except.error.inj hf).symm⟩
    · cases hf

/-- One hash in place of two: all fields are in order, and the type has one part, which is a hash. -/
def HasOneHash (v : Json) : Prop := (∀ key ∈ keys, check v key = .ok ()) ∧
  ∃ t w b, v.optional "type_hashes" = .ok (some t) ∧ HoldsOne t w ∧ w.bytes = .ok b

/-- An infinite number: of the fields that are not in order, the first is to be an integer and holds it. -/
def HasInfinite (v : Json) : Prop := ∃ before key after, keys = before ++ key :: after ∧
  (∀ k ∈ before, check v k = .ok ()) ∧ isHash key = false ∧
  ∃ x negative, value v key = .ok (.float x) ∧ Binary64.view x = .infinite negative

theorem ofJson_eq_outOfRange_iff : ofJson v = .error .outOfRange ↔ HasOneHash v := by
  rw [ofJson_eq_error_cases, typeCheck_eq_outOfRange_iff]
  constructor
  · rintro (h | ⟨-, h | ⟨hkeys, h | ⟨-, h⟩⟩⟩)
    · exact absurd rfl (faults_optional v _ _ h).1
    · obtain ⟨_, key, _, -, -, h⟩ := mapM_eq_error_iff.mp h
      exact absurd h check_ne_outOfRange
    · exact ⟨hkeys, h⟩
    · obtain ⟨n, hn⟩ := signCheck_eq_error (hkeys "capacity" (by decide)) h
      cases hn
  · rintro ⟨hkeys, t, w, b, htype, hone, hb⟩
    exact .inr ⟨⟨_, htype⟩, .inr ⟨hkeys, .inl ⟨t, w, b, htype, hone, hb⟩⟩⟩

theorem ofJson_eq_infinite_iff : ofJson v = .error .infinite ↔ HasInfinite v := by
  rw [ofJson_eq_error_cases]
  constructor
  · rintro (h | ⟨-, h | ⟨hkeys, h | ⟨-, h⟩⟩⟩)
    · exact absurd rfl (faults_optional v _ _ h).2
    · obtain ⟨before, key, after, hsplit, hbefore, h⟩ := mapM_eq_error_iff.mp h
      exact ⟨before, key, after, hsplit, fun k hk => (hbefore k hk).choose_spec, check_eq_infinite_iff.mp h⟩
    · exact absurd h typeCheck_ne_infinite
    · obtain ⟨n, hn⟩ := signCheck_eq_error (hkeys "capacity" (by decide)) h
      cases hn
  · rintro ⟨before, key, after, hsplit, hbefore, hhash, x, negative, hx, hinfinite⟩
    refine .inr ⟨exists_optional_of_value hx _, .inl (mapM_eq_error_iff.mpr ?_)⟩
    exact ⟨before, key, after, hsplit, fun k hk => ⟨(), hbefore k hk⟩,
      check_eq_infinite_iff.mpr ⟨hhash, x, negative, hx, hinfinite⟩⟩

/-- A record that is read has the capacity that it spells, which is not below zero. -/
theorem capacity_of_ofJson {c : LiveCell} (h : ofJson v = .ok c) :
    ∃ n : Int, (v.field "capacity" >>= Json.integer) = .ok n ∧ 0 ≤ n ∧ n = c.capacity := by
  unfold ofJson at h
  obtain ⟨_, -, h⟩ := bind_eq_ok_iff.mp h
  obtain ⟨_, -, h⟩ := bind_eq_ok_iff.mp h
  obtain ⟨txHash, -, h⟩ := bind_eq_ok_iff.mp h
  obtain ⟨_, -, h⟩ := bind_eq_ok_iff.mp h
  obtain ⟨outputIndex, -, h⟩ := bind_eq_ok_iff.mp h
  obtain ⟨_, -, h⟩ := bind_eq_ok_iff.mp h
  obtain ⟨txIndex, -, h⟩ := bind_eq_ok_iff.mp h
  obtain ⟨_, -, h⟩ := bind_eq_ok_iff.mp h
  obtain ⟨number, -, h⟩ := bind_eq_ok_iff.mp h
  obtain ⟨_, -, h⟩ := bind_eq_ok_iff.mp h
  obtain ⟨lockHash, -, h⟩ := bind_eq_ok_iff.mp h
  obtain ⟨w, hw, h⟩ := bind_eq_ok_iff.mp h
  obtain ⟨n, hn, h⟩ := bind_eq_ok_iff.mp h
  obtain ⟨_, -, h⟩ := bind_eq_ok_iff.mp h
  obtain ⟨dataSize, -, h⟩ := bind_eq_ok_iff.mp h
  obtain ⟨type, -, h⟩ := bind_eq_ok_iff.mp h
  unfold make at h
  split at h
  · cases h
  next hsign =>
    cases h
    exact ⟨n, bind_eq_ok_iff.mpr ⟨w, hw, hn⟩, Int.not_lt.mp hsign, (Int.toNat_of_nonneg (Int.not_lt.mp hsign)).symm⟩

end CellPurse.LiveCell
